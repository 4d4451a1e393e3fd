/-
This file compares the rejections of different recipients in different orders. As long as no log
refuses single appends, their order shows only in the order of what the stores hold.
-/

import Nondelivery.Proofs.Convergence
import Nondelivery.Proofs.Independence
import Nondelivery.Proofs.SingleRejection

namespace Nondelivery

namespace Stores

theorem records_keepAll_eq (outcome other : Outcome) (records : List Record) (stores : Stores) :
    (stores.keepAll outcome records).records other = stores.records other ++
      if other = outcome then stores.accepted outcome records else [] := by
  by_cases same : other = outcome
  · rw [same, if_pos rfl, records_keepAll]
  · rw [if_neg same, List.append_nil, records_keepAll_other same]

/-- Two stores are in the same condition, have counted the same appends, and hold the same, each of
them in its own order. -/
structure Reordered (left right : Stores) : Prop where
  vacant : left.vacant = right.vacant
  appends : ∀ outcome, left.appends outcome = right.appends outcome
  records : ∀ outcome, (left.records outcome).Perm (right.records outcome)
  delivered : left.delivered.Perm right.delivered

namespace Reordered

variable {first second third : Stores}

theorem refl (stores : Stores) : stores.Reordered stores :=
  ⟨rfl, fun _ => rfl, fun _ => .refl _, .refl _⟩

theorem trans (earlier : first.Reordered second) (later : second.Reordered third) :
    first.Reordered third where
  vacant := earlier.vacant.trans later.vacant
  appends outcome := (earlier.appends outcome).trans (later.appends outcome)
  records outcome := (earlier.records outcome).trans (later.records outcome)
  delivered := earlier.delivered.trans later.delivered

/-- The same records may be added to both. -/
theorem keepAll {left right : Stores} (same : left.Reordered right)
    (unrefused : left.Unrefusing) (outcome : Outcome) (records : List Record) :
    (left.keepAll outcome records).Reordered (right.keepAll outcome records) where
  vacant := by rw [vacant_keepAll, vacant_keepAll, same.vacant]
  appends other := by
    rw [appends_keepAll, appends_keepAll, same.appends, outage_congr same.vacant]
  records other := by
    rw [records_keepAll_eq, records_keepAll_eq, accepted_congr same.vacant unrefused]
    exact (same.records other).append_right _
  delivered := by
    rw [delivered_keepAll, delivered_keepAll, accepted_congr same.vacant unrefused,
      queueWorks_congr same.vacant]
    exact same.delivered.append_right _

end Reordered

/-- It does not matter which records are kept first, as long as single appends are not refused. -/
theorem keepAll_comm (stores : Stores) (unrefused : stores.Unrefusing) (one two : Outcome)
    (first second : List Record) :
    ((stores.keepAll one first).keepAll two second).Reordered
      ((stores.keepAll two second).keepAll one first) := by
  have later (outcome : Outcome) (kept records : List Record) (other : Outcome) :
      (stores.keepAll outcome kept).accepted other records = stores.accepted other records :=
    (accepted_congr (stores.vacant_keepAll outcome kept).symm unrefused other records).symm
  refine ⟨by simp only [vacant_keepAll], fun outcome => ?_, fun outcome => ?_, ?_⟩
  · simp only [appends_keepAll, outage_congr (vacant_keepAll _ _ _), Nat.add_right_comm]
  · simp only [records_keepAll_eq, later, List.append_assoc]
    exact List.perm_append_comm.append_left _
  · simp only [delivered_keepAll, queueWorks_keepAll, later, List.append_assoc]
    exact List.perm_append_comm.append_left _

end Stores

theorem Ledger.completeAll_comm (first second : List Nat) (ledger : Ledger) :
    (ledger.completeAll first).completeAll second =
      (ledger.completeAll second).completeAll first := by
  rw [← completeAll_append, ← completeAll_append]
  apply completeAll_congr
  intro index
  rw [List.mem_append, List.mem_append, or_comm]

theorem AttemptState.add_right_comm (state : AttemptState) (first second : Shortfall) :
    (state.add first).add second = (state.add second).add first := by
  simp only [add, state.shortfall.union_right_comm first second]

/-- Without hop statuses it does not matter in which order two things are remembered. -/
theorem Aftermath.union_comm (first second : Aftermath) (unset : first.hopStatus = .none)
    (alsoUnset : second.hopStatus = .none) : first.union second = second.union first := by
  simp only [union, unset, alsoUnset, Bool.or_comm]

namespace Scene

/-- Two scenes show the same attempt, and their stores hold the same, each in its own order. -/
structure Reordered (left right : Scene) : Prop where
  attempt : left.attempt = right.attempt
  stores : left.stores.Reordered right.stores

namespace Reordered

variable {first second third left right : Scene}

theorem refl (scene : Scene) : scene.Reordered scene :=
  ⟨rfl, .refl scene.stores⟩

theorem trans (earlier : first.Reordered second) (later : second.Reordered third) :
    first.Reordered third :=
  ⟨earlier.attempt.trans later.attempt, earlier.stores.trans later.stores⟩

theorem remember (same : left.Reordered right) (aftermath : Aftermath) :
    (left.remember aftermath).Reordered (right.remember aftermath) :=
  ⟨congrArg (Attempt.remember aftermath) same.attempt, same.stores⟩

end Reordered

/-- It does not matter which of two filings comes first, as long as single appends are not
refused. -/
theorem file_comm (first second : Filing) (scene : Scene) (unrefused : scene.stores.Unrefusing) :
    ((scene.file first).file second).Reordered ((scene.file second).file first) where
  attempt := by
    -- What is kept for one filing changes nothing about what becomes of the attempt in the other.
    have late (one two : Filing) : ((scene.file one).file two).attempt =
        (Scene.file two ⟨(scene.file one).attempt, scene.stores⟩).attempt := by
      have same := scene.stores.vacant_keepAll one.outcome
        (one.entries.map (one.record scene.attempt.request))
      exact (two.file_congr same (unrefused.congr same.symm)).1
    rw [late first second, late second first]
    simp only [file, Ledger.completeAll_comm, AttemptState.add_right_comm]
  stores := scene.stores.keepAll_comm unrefused _ _ _ _

theorem fileAny_comm (first? second? : Option Filing) (scene : Scene)
    (unrefused : scene.stores.Unrefusing) :
    ((scene.fileAny first?).fileAny second?).Reordered
      ((scene.fileAny second?).fileAny first?) := by
  cases first? with
  | none => exact .refl _
  | some first =>
      cases second? with
      | none => exact .refl _
      | some second => exact file_comm first second scene unrefused

end Scene

/-- The rejection of one recipient, given by its index. -/
structure Rejection where
  code : Nat
  index : Nat
  reason : String

def Rejection.trouble (rejection : Rejection) : Trouble :=
  .recipient rejection.code rejection.index rejection.reason

def Rejection.move (rejection : Rejection) : Move :=
  .trouble rejection.trouble

namespace Policy

variable (policy : Policy)

/-- In scenes that differ in the order of what the stores hold, trouble is answered alike and leads
to such scenes again. -/
theorem handle_reordered (trouble : Trouble) {left right : Scene} (same : left.Reordered right)
    (unrefused : left.stores.Unrefusing) :
    policy.answer ⟨trouble, left⟩ = policy.answer ⟨trouble, right⟩ ∧
      (policy.after left (.trouble trouble)).Reordered
        (policy.after right (.trouble trouble)) := by
  rcases left with ⟨attempt, leftStores⟩
  rcases right with ⟨_, rightStores⟩
  obtain ⟨rfl, stores⟩ := same
  obtain ⟨answers, attempts, _⟩ := policy.handle_vacant attempt stores.vacant unrefused trouble
  refine ⟨answers, attempts, ?_⟩
  simp only [after, play, (policy.handle_sameBooks trouble _).stores,
    policy.filingFor_stores attempt leftStores rightStores]
  cases policy.filingFor ⟨attempt, rightStores⟩ trouble with
  | none => exact stores
  | some filing => exact stores.keepAll unrefused _ _

theorem unrefusing_after (rejection : Rejection) {scene : Scene}
    (unrefused : scene.stores.Unrefusing) :
    (policy.after scene rejection.move).stores.Unrefusing :=
  unrefused.congr (policy.vacant_after rejection.move rfl scene).symm

theorem run_reordered (rejections : List Rejection) {left right : Scene}
    (same : left.Reordered right) (unrefused : left.stores.Unrefusing) :
    (policy.run (rejections.map Rejection.move) left).Reordered
      (policy.run (rejections.map Rejection.move) right) := by
  induction rejections generalizing left right with
  | nil => exact same
  | cons rejection rest ih =>
      exact ih (policy.handle_reordered rejection.trouble same unrefused).2
        (policy.unrefusing_after rejection unrefused)

/-- A rejection gets the same answer after the rejection of another recipient. -/
theorem answer_after_rejection (first second : Rejection) (apart : second.index ≠ first.index)
    (scene : Scene) : policy.answer ⟨second.trouble, policy.after scene first.move⟩ =
      policy.answer ⟨second.trouble, scene⟩ := by
  have agree := policy.agreesAt_handle_rejection first.code first.index first.reason scene
    second.index apart
  rw [answer, answer, handle_eq, handle_eq]
  exact agree.rejectionAnswer second.code

/-- A rejection puts its outcome on record, and the attempt remembers the rest. -/
theorem after_rejection (rejection : Rejection) (scene : Scene) :
    policy.after scene rejection.move =
      (scene.fileAny (policy.filingFor scene rejection.trouble)).remember
        (scene.attempt.rejectionAftermath rejection.code rejection.index) :=
  congrArg Ruling.scene
    (policy.handle_recipient_eq rejection.code rejection.index rejection.reason scene)

/-- Two rejections of different recipients put on record what each of them does alone, and the
attempt then remembers what it remembers of each of them alone. -/
theorem after_two_rejections (first second : Rejection) (apart : second.index ≠ first.index)
    (scene : Scene) : policy.after (policy.after scene first.move) second.move =
      ((scene.fileAny (policy.filingFor scene first.trouble)).fileAny
        (policy.filingFor scene second.trouble)).remember
          ((scene.attempt.rejectionAftermath first.code first.index).union
            (scene.attempt.rejectionAftermath second.code second.index)) := by
  let middle := policy.after scene first.move
  have agree : middle.attempt.AgreesAt second.index scene.attempt :=
    policy.agreesAt_handle_rejection first.code first.index first.reason scene second.index apart
  have filings : policy.filingFor middle second.trouble = policy.filingFor scene second.trouble :=
    agree.filingFor policy second.code second.reason middle.stores scene.stores
  calc policy.after middle second.move
    _ = (middle.fileAny (policy.filingFor scene second.trouble)).remember
          (scene.attempt.rejectionAftermath second.code second.index) := by
        rw [after_rejection, filings, agree.rejectionAftermath]
    _ = _ := by
        rw [show middle = _ from policy.after_rejection first scene, Scene.fileAny_remember,
          Scene.remember_remember]

/-- Two rejections of different recipients may be exchanged. -/
theorem after_two_rejections_comm (first second : Rejection) (apart : first.index ≠ second.index)
    (scene : Scene) (unrefused : scene.stores.Unrefusing) :
    (policy.after (policy.after scene first.move) second.move).Reordered
      (policy.after (policy.after scene second.move) first.move) := by
  have noReason (rejection : Rejection) :=
    (scene.attempt.rejectionAftermath_latches rejection.code rejection.index).2
  rw [policy.after_two_rejections first second apart.symm,
    policy.after_two_rejections second first apart,
    Aftermath.union_comm _ _ (noReason first) (noReason second)]
  exact (scene.fileAny_comm _ _ unrefused).remember _

/-- Rejections of different recipients get the answers that each of them would get at once. -/
theorem answers_rejections (rejections : List Rejection)
    (apart : (rejections.map Rejection.index).Nodup) (scene : Scene) :
    policy.answers (rejections.map Rejection.move) scene =
      rejections.map fun rejection => policy.answer ⟨rejection.trouble, scene⟩ := by
  induction rejections generalizing scene with
  | nil => rfl
  | cons first rest ih =>
      obtain ⟨new, others⟩ := List.nodup_cons.mp apart
      have later := ih others (policy.after scene first.move)
      have early : (rest.map fun rejection =>
          policy.answer ⟨rejection.trouble, policy.after scene first.move⟩) =
            rest.map fun rejection => policy.answer ⟨rejection.trouble, scene⟩ := by
        apply List.map_congr_left
        intro second member
        apply policy.answer_after_rejection
        intro same
        exact new (same ▸ List.mem_map_of_mem member)
      exact congrArg (List.cons _) (later.trans early)

/-- Any order of the rejections comes to the same. The induction goes over the exchanges of
neighbours of which a permutation consists, and `run_reordered` carries on what follows them. -/
theorem run_rejections_perm {rejections others : List Rejection}
    (permuted : rejections.Perm others) (scene : Scene) (unrefused : scene.stores.Unrefusing) :
    (rejections.map Rejection.index).Nodup →
      (policy.run (rejections.map Rejection.move) scene).Reordered
        (policy.run (others.map Rejection.move) scene) := by
  induction permuted generalizing scene with
  | nil => exact fun _ => .refl scene
  | cons first _ ih =>
      intro apart
      exact ih (policy.after scene first.move) (policy.unrefusing_after first unrefused)
        (List.nodup_cons.mp apart).2
  | swap first second rest =>
      intro apart
      have different : second.index ≠ first.index := by
        simp only [List.map_cons, List.nodup_cons, List.mem_cons, not_or] at apart
        exact apart.1.1
      have exchanged := policy.after_two_rejections_comm second first different scene unrefused
      exact policy.run_reordered rest exchanged
        (policy.unrefusing_after first (policy.unrefusing_after second unrefused))
  | trans earlier _ ihEarlier ihLater =>
      intro apart
      have middleApart := (earlier.map Rejection.index).nodup_iff.mp apart
      exact (ihEarlier scene unrefused apart).trans (ihLater scene unrefused middleApart)

end Policy

/-- Rejections of different recipients may be made in any order, as long as no log refuses single
appends. Of two of them, each gets the same answer before and after the other, and both orders lead
to the same attempt and to stores that hold the same, each in its own order. The same goes for any
permutation of rejections whose indices are different. -/
theorem rejections_commute (policy : Policy) (scene : Scene)
    (unrefused : ∀ outcome, (scene.stores.log outcome).backend.refused = []) :
    (∀ first second : Rejection, first.index ≠ second.index →
      let firstThen := policy.after scene first.move
      let secondThen := policy.after scene second.move
      policy.answer ⟨first.trouble, secondThen⟩ = policy.answer ⟨first.trouble, scene⟩ ∧
        policy.answer ⟨second.trouble, firstThen⟩ = policy.answer ⟨second.trouble, scene⟩ ∧
        (policy.after firstThen second.move).Reordered
          (policy.after secondThen first.move)) ∧
    ∀ rejections others : List Rejection, rejections.Perm others →
      (rejections.map Rejection.index).Nodup →
        policy.answers (rejections.map Rejection.move) scene =
            rejections.map (fun rejection => policy.answer ⟨rejection.trouble, scene⟩) ∧
          policy.answers (others.map Rejection.move) scene =
            others.map (fun rejection => policy.answer ⟨rejection.trouble, scene⟩) ∧
          (policy.run (rejections.map Rejection.move) scene).Reordered
            (policy.run (others.map Rejection.move) scene) := by
  refine ⟨fun first second apart => ?_, fun rejections others permuted apart => ?_⟩
  · exact ⟨policy.answer_after_rejection second first apart scene,
      policy.answer_after_rejection first second apart.symm scene,
      policy.after_two_rejections_comm first second apart scene unrefused⟩
  · have othersApart := (permuted.map Rejection.index).nodup_iff.mp apart
    exact ⟨policy.answers_rejections rejections apart scene,
      policy.answers_rejections others othersApart scene,
      policy.run_rejections_perm permuted scene unrefused apart⟩

/-- A deferral, a bounce that the failing log loses, and another deferral, in two orders. The log of
deferrals then holds the same records, each time in the order of the rejections. -/
theorem rejections_commute_failing_bounceLog :
    let recipients : List Recipient :=
      [⟨"a", "a@x", 10, .pending⟩, ⟨"b", "b@x", 20, .pending⟩, ⟨"c", "c@x", 30, .pending⟩]
    let request : Request :=
      ⟨⟨"4F"⟩, ⟨0, 0, by decide, by decide, by decide⟩, ⟨0⟩, ⟨recipients⟩, none⟩
    let scene : Scene := ⟨⟨request, some ⟨"mx", "192.0.2.1"⟩, AttemptState.fresh.markFinal⟩,
      Stores.empty.apply (.failing (.log .bounced) true)⟩
    let rejections : List Rejection := [⟨450, 0, "busy"⟩, ⟨550, 1, "who"⟩, ⟨451, 2, "late"⟩]
    let forth := Policy.standard.run (rejections.map Rejection.move) scene
    let back := Policy.standard.run (rejections.reverse.map Rejection.move) scene
    forth.Reordered back ∧ forth.attempt.request.ledger.pendingIndices = [1] ∧
      forth.attempt.state.shortfall = .logFailedOnly ∧
      (forth.stores.records .deferred).map (fun record => record.reason) = ["busy", "late"] ∧
      (back.stores.records .deferred).map (fun record => record.reason) = ["late", "busy"] := by
  intro recipients request scene rejections forth back
  obtain ⟨_, permutations⟩ := rejections_commute .standard scene
    (fun outcome => by cases outcome <;> rfl)
  obtain ⟨_, _, reordered⟩ := permutations rejections rejections.reverse
    (List.reverse_perm rejections).symm (by decide)
  exact ⟨reordered, by decide +kernel, by decide +kernel, by decide +kernel, by decide +kernel⟩

end Nondelivery
