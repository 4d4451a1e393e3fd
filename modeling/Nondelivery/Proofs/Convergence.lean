/-
This file shows that insisting pays. A failure of the exchanger or of the message that is reported
again and again, while the stores fail in whatever way, comes to the same in the end as one report to
a log in good order.
-/

import Mathlib.Data.List.Nodup
import Mathlib.Data.List.Perm.Basic
import Nondelivery.Proofs.DisposingCall
import Nondelivery.Proofs.Run

namespace Nondelivery

namespace Ledger

/-- The order in which recipients are completed does not matter, nor how often each of them is. -/
theorem completeAll_congr (ledger : Ledger) (first second : List Nat)
    (same : ∀ index, index ∈ first ↔ index ∈ second) :
    ledger.completeAll first = ledger.completeAll second := by
  have recipients : (ledger.completeAll first).recipients =
      (ledger.completeAll second).recipients := by
    apply List.ext_getElem?
    intro index
    have left := ledger.get?_completeAll first index
    have right := ledger.get?_completeAll second index
    simp only [same index] at left
    exact left.trans right.symm
  exact congrArg Ledger.mk recipients

theorem pending_nodup (ledger : Ledger) : ledger.pending.Nodup :=
  List.Nodup.of_map Prod.fst ledger.pendingIndices_nodup

/-- Of the recipients that wait, those that are not completed wait on. -/
theorem pending_completeAll (ledger : Ledger) (completed : List (Nat × Recipient))
    (waiting : completed.Sublist ledger.pending) :
    (completed ++ (ledger.completeAll (completed.map Prod.fst)).pending).Perm ledger.pending := by
  have mem_after (index : Nat) (recipient : Recipient) :
      (index, recipient) ∈ (ledger.completeAll (completed.map Prod.fst)).pending ↔
        index ∉ completed.map Prod.fst ∧ (index, recipient) ∈ ledger.pending := by
    rw [mem_pending, pending?_completeAll, mem_pending]
    split <;> simp [*]
  have apart : completed.Disjoint (ledger.completeAll (completed.map Prod.fst)).pending := by
    rintro ⟨index, recipient⟩ early late
    exact ((mem_after index recipient).mp late).1 (List.mem_map_of_mem early)
  have once := List.Nodup.append (ledger.pending_nodup.sublist waiting) (pending_nodup _) apart
  rw [List.perm_ext_iff_of_nodup once ledger.pending_nodup]
  rintro ⟨index, recipient⟩
  rw [List.mem_append, mem_after]
  constructor
  · rintro (early | ⟨_, late⟩)
    · exact waiting.subset early
    · exact late
  · intro member
    by_cases done : index ∈ completed.map Prod.fst
    · obtain ⟨⟨_, other⟩, among, rfl⟩ := List.mem_map.mp done
      have sameRecipient : other = recipient := by
        have found := (mem_pending _ _ _).mp (waiting.subset among)
        exact Option.some.inj (found.symm.trans ((mem_pending _ _ _).mp member))
      exact .inl (sameRecipient ▸ among)
    · exact .inr ⟨done, member⟩

/-- When nobody waits, everybody is completed. -/
theorem progress_of_pending_eq_nil (ledger : Ledger) (nobody : ledger.pending = [])
    (recipient : Recipient) (member : recipient ∈ ledger.recipients) :
    recipient.progress = .completed := by
  have waiting : ledger.recipients.filter Recipient.isPending = [] := by
    have same := ledger.select_map_snd Recipient.isPending
    change ledger.pending.map Prod.snd = _ at same
    rw [← same, nobody, List.map_nil]
  have done := List.filter_eq_nil_iff.mp waiting recipient member
  cases progress : recipient.progress with
  | pending => exact absurd (by rw [Recipient.isPending, progress]; rfl) done
  | completed => rfl

end Ledger

/-- The log for an outcome is within reach, and refuses none of the next appends up to a number. -/
structure Stores.Admits (stores : Stores) (outcome : Outcome) (count : Nat) : Prop where
  reachable : (stores.log outcome).outage = none
  working : (stores.log outcome).backend.failing = false
  unrefused : ∀ number, (stores.log outcome).backend.appends < number →
    number ≤ (stores.log outcome).backend.appends + count →
      number ∉ (stores.log outcome).backend.refused

/-- Refusals of appends that have been made already are over. -/
theorem Stores.admits_of_past (stores : Stores) (outcome : Outcome) (count : Nat)
    (reachable : (stores.log outcome).outage = none)
    (working : (stores.log outcome).backend.failing = false)
    (past : ∀ number ∈ (stores.log outcome).backend.refused,
      number ≤ (stores.log outcome).backend.appends) : stores.Admits outcome count where
  reachable := reachable
  working := working
  unrefused number above _ refused := Nat.not_le_of_gt above (past number refused)

theorem Stores.accepted_of_admits {α : Type} (stores : Stores) (outcome : Outcome) (items : List α)
    (admits : stores.Admits outcome items.length) : stores.accepted outcome items = items := by
  rw [accepted, admits.reachable, Option.isSome_none, if_neg Bool.false_ne_true]
  apply Logbook.accepted_of_takes
  intro number above within
  simp [Logbook.takes, admits.working, admits.unrefused number above within]

/-- An attempt apart from its recipients and from what the stores have refused. -/
def Attempt.outline (attempt : Attempt) : Attempt where
  request := { attempt.request with ledger := .empty }
  session := attempt.session
  state := { attempt.state with shortfall := { incomplete := attempt.state.shortfall.incomplete } }

theorem Attempt.outline_remember (aftermath : Aftermath) (attempt : Attempt) :
    (attempt.remember aftermath).outline = attempt.outline.remember aftermath := by
  simp [outline, remember, Shortfall.union]

/-- Two attempts with the same outline differ in their recipients at most, and in what the stores have
refused. -/
theorem Attempt.of_outline_eq (first second : Attempt) (same : first.outline = second.outline) :
    first.session = second.session ∧
      first.state.finalServer = second.state.finalServer ∧
      first.state.concerns = second.state.concerns ∧
      first.state.shortfall.incomplete = second.state.shortfall.incomplete ∧
      (first.request.ledger = second.request.ledger → first.request = second.request) := by
  simp only [outline, Attempt.mk.injEq, Request.mk.injEq, AttemptState.mk.injEq,
    Shortfall.mk.injEq] at same
  obtain ⟨⟨queueId, arrival, purposes, _, hopStatus⟩, session, ⟨incomplete, _, _⟩, final,
    concerns⟩ := same
  refine ⟨session, final, concerns, incomplete, fun ledger => ?_⟩
  exact Request.mk.injEq .. ▸ ⟨queueId, arrival, purposes, ledger, hopStatus⟩

theorem Scene.outline_file (filing : Filing) (scene : Scene) :
    (scene.file filing).attempt.outline = scene.attempt.outline := by
  simp [Attempt.outline, file, AttemptState.add, Shortfall.union, Filing.shortfall]

/-- A failure has been recorded for some of the recipients that waited at first, in the log for an
outcome, and for nobody else. The other recipients still wait. Whatever the attempt has remembered of
the failure meanwhile, it comes to the same as remembering it at first. -/
structure Scene.Recorded (outcome : Outcome) (reason : String) (aftermath : Aftermath)
    (start now : Scene) (done : List (Nat × Recipient)) : Prop where
  records : now.stores.records outcome = start.stores.records outcome ++
    done.map fun entry => start.attempt.request.record entry.2 start.attempt.peerLabel reason
  others : ∀ other, other ≠ outcome → now.stores.records other = start.stores.records other
  waiting : (done ++ now.attempt.request.ledger.pending).Perm start.attempt.request.ledger.pending
  ledger : now.attempt.request.ledger =
    start.attempt.request.ledger.completeAll (done.map Prod.fst)
  outline : now.attempt.outline.remember aftermath = start.attempt.outline.remember aftermath
  final : start.attempt.state.finalServer = true → now.attempt.state.finalServer = true

namespace Scene.Recorded

variable {outcome : Outcome} {reason : String} {aftermath : Aftermath} {start now : Scene}
  {done : List (Nat × Recipient)}

/-- Nothing has happened yet. -/
theorem refl (outcome : Outcome) (reason : String) (aftermath : Aftermath) (start : Scene) :
    start.Recorded outcome reason aftermath start [] where
  records := (List.append_nil _).symm
  others _ _ := rfl
  waiting := .refl _
  ledger := rfl
  outline := rfl
  final := id

theorem session (recorded : start.Recorded outcome reason aftermath now done) :
    now.attempt.session = start.attempt.session := by
  have same := congrArg Attempt.session recorded.outline
  exact same

theorem peerLabel (recorded : start.Recorded outcome reason aftermath now done) :
    now.attempt.peerLabel = start.attempt.peerLabel := by
  rw [Attempt.peerLabel, recorded.session, Attempt.peerLabel]

theorem record_eq (recorded : start.Recorded outcome reason aftermath now done)
    (recipient : Recipient) (peer : String) :
    now.attempt.request.record recipient peer reason =
      start.attempt.request.record recipient peer reason :=
  congrArg (fun attempt => attempt.request.record recipient peer reason) recorded.outline

/-- A change in the condition of the stores changes nothing about what is on record. -/
theorem apply (condition : Condition)
    (recorded : start.Recorded outcome reason aftermath now done) :
    start.Recorded outcome reason aftermath
      { now with stores := now.stores.apply condition } done :=
  { recorded with
    records := (Stores.records_apply _ _ _).trans recorded.records
    others := fun other different =>
      (Stores.records_apply _ _ _).trans (recorded.others other different) }

/-- Filing the failure once more, for those who still wait, records it for those whose append is
accepted. -/
theorem file (recorded : start.Recorded outcome reason aftermath now done) :
    let filing : Filing :=
      ⟨outcome, now.attempt.peerLabel, reason, now.attempt.request.ledger.pending⟩
    start.Recorded outcome reason aftermath ((now.file filing).remember aftermath)
      (done ++ filing.accepted now.stores) := by
  intro filing
  have part : (filing.accepted now.stores).Sublist now.attempt.request.ledger.pending :=
    now.stores.accepted_sublist outcome _
  exact {
    records := by
      change (now.stores.keepAll outcome _).records outcome = _
      rw [Stores.records_keepAll, recorded.records, Stores.accepted_map, List.map_append,
        List.append_assoc]
      congr 2
      apply List.map_congr_left
      intro entry _
      rw [← recorded.peerLabel]
      exact recorded.record_eq entry.2 _
    others := fun other different =>
      (Stores.records_keepAll_other different _ now.stores).trans
        (recorded.others other different)
    waiting := by
      have rest := Ledger.pending_completeAll _ _ part
      rw [List.append_assoc]
      exact (rest.append_left done).trans recorded.waiting
    ledger := by
      change now.attempt.request.ledger.completeAll _ = _
      rw [recorded.ledger, List.map_append, Ledger.completeAll_append]
    outline := by
      rw [remember, Attempt.outline_remember, outline_file, Attempt.remember_remember,
        Aftermath.union_self]
      exact recorded.outline
    final := fun first => by
      change (now.attempt.state.finalServer || aftermath.final) = true
      rw [recorded.final first, Bool.true_or] }

end Scene.Recorded

/-- The same trouble again and again, with changes in the condition of the stores before each call. -/
def insisting (trouble : Trouble) (rounds : List (List Condition)) : List Move :=
  rounds.flatMap fun conditions => conditions.map Move.condition ++ [.trouble trouble]

theorem insisting_cons (trouble : Trouble) (conditions : List Condition)
    (rest : List (List Condition)) :
    insisting trouble (conditions :: rest) =
      conditions.map Move.condition ++ .trouble trouble :: insisting trouble rest := by
  rw [insisting, List.flatMap_cons, List.append_assoc]
  rfl

theorem insisting_concat (trouble : Trouble) (rounds : List (List Condition))
    (last : List Condition) :
    insisting trouble (rounds ++ [last]) =
      insisting trouble rounds ++ last.map Move.condition ++ [.trouble trouble] := by
  rw [insisting, List.flatMap_append, List.flatMap_singleton, ← List.append_assoc]
  rfl

namespace Policy

variable (policy : Policy) (scope : Scope) (code : Nat) (reason : String) (start : Scene)
  {now : Scene} {done : List (Nat × Recipient)}

/-- What is on record and what is remembered after a failure was reported any number of times. -/
def Reported (now : Scene) (done : List (Nat × Recipient)) : Prop :=
  start.Recorded ((Severity.ofCode code).outcome.soften policy.softBounce) reason
    (disposingAftermath scope code reason) now done

theorem run_conditions (conditions : List Condition)
    (reported : policy.Reported scope code reason start now done) :
    policy.Reported scope code reason start (policy.run (conditions.map Move.condition) now)
      done := by
  induction conditions generalizing now with
  | nil => exact reported
  | cons condition rest ih => exact ih (reported.apply condition)

variable (connected : scope = .message → start.attempt.session.isSome = true)
  (disposing : code / 100 ≠ 4 ∨ start.attempt.state.finalServer = true)

include connected disposing

/-- Each of the calls is answered, records the failure for those whose append is accepted, and
leaves it remembered. -/
theorem handle_again (reported : policy.Reported scope code reason start now done) :
    let later := policy.after now (.trouble (scope.trouble code reason))
    policy.answer ⟨scope.trouble code reason, now⟩ = .ok .attemptOver ∧
      policy.Reported scope code reason start later
        (done ++ now.stores.accepted ((Severity.ofCode code).outcome.soften policy.softBounce)
          now.attempt.request.ledger.pending) ∧
      later.attempt.outline.remember (disposingAftermath scope code reason) =
        later.attempt.outline := by
  intro later
  have called := policy.handle_disposing scope code reason now
    (fun message => reported.session ▸ connected message) (disposing.imp_right reported.final)
  have moved : later = _ := congrArg Ruling.scene called
  refine ⟨congrArg Ruling.result called, ?_⟩
  rw [moved]
  refine ⟨reported.file, ?_⟩
  rw [Scene.remember, Attempt.outline_remember, Attempt.remember_remember, Aftermath.union_self]

/-- When the log refuses nothing, the call leaves nobody waiting and nothing to be remembered. -/
theorem handle_admitted (reported : policy.Reported scope code reason start now done)
    (admits : now.stores.Admits ((Severity.ofCode code).outcome.soften policy.softBounce)
      now.attempt.request.ledger.pendingCount) :
    let later := policy.after now (.trouble (scope.trouble code reason))
    policy.answer ⟨scope.trouble code reason, now⟩ = .ok .attemptOver ∧
      policy.Reported scope code reason start later
        (done ++ now.attempt.request.ledger.pending) ∧
      later.attempt.request.ledger.pending = [] ∧
      later.attempt.outline =
        start.attempt.outline.remember (disposingAftermath scope code reason) := by
  intro later
  obtain ⟨answered, again, remembered⟩ :=
    policy.handle_again scope code reason start connected disposing reported
  rw [Stores.accepted_of_admits _ _ _ admits] at again
  refine ⟨answered, again, ?_, remembered.symm.trans again.outline⟩
  have total := again.waiting.length_eq.trans reported.waiting.length_eq.symm
  rw [List.length_append] at total
  exact List.eq_nil_of_length_eq_zero (Nat.add_eq_left.mp total)

/-- However the stores fail, each call is answered, and leaves some recipients on record and the
others waiting. -/
theorem run_insisting (rounds : List (List Condition))
    (reported : policy.Reported scope code reason start now done) :
    policy.answers (insisting (scope.trouble code reason) rounds) now =
        List.replicate rounds.length (.ok .attemptOver) ∧
      ∃ later, policy.Reported scope code reason start
        (policy.run (insisting (scope.trouble code reason) rounds) now) later := by
  -- What is on record and who still waits make up those who waited at first, round after round.
  induction rounds generalizing now done with
  | nil => exact ⟨rfl, done, reported⟩
  | cons conditions rest ih =>
      have changed := policy.run_conditions scope code reason start conditions reported
      obtain ⟨answered, again, _⟩ :=
        policy.handle_again scope code reason start connected disposing changed
      obtain ⟨answers, later, final⟩ := ih again
      rw [insisting_cons, run_append, answers_append, answers_conditions, List.nil_append]
      refine ⟨?_, later, final⟩
      rw [answers_trouble, answered, answers, List.length_cons, List.replicate_succ]

end Policy

/-- Insisting pays. A failure of the exchanger or of the message that is not passed over is reported
again and again, while the condition of the stores changes in any way, and once more when its log
refuses nothing. In the end everybody is completed, and the records of all calls together are those
that a single report to a log in good order makes. All of them are in the one log, the request and
the session are as after the single report, and so is what the attempt remembers, apart from what the
stores have refused. -/
theorem repeated_failure_converges (policy : Policy) (scope : Scope) (code : Nat) (reason : String)
    (start : Scene) (rounds : List (List Condition)) (last : List Condition) (healthy : Stores)
    (connected : scope = .message → start.attempt.session.isSome = true)
    (disposing : code / 100 ≠ 4 ∨ start.attempt.state.finalServer = true) :
    let trouble := scope.trouble code reason
    let outcome := if code / 100 = 4 ∨ policy.softBounce = true then .deferred else .bounced
    let request := start.attempt.request
    let eve := policy.run (insisting trouble rounds ++ last.map Move.condition) start
    let final := policy.run (insisting trouble (rounds ++ [last])) start
    let single := (policy.handle trouble ⟨start.attempt, healthy⟩).value.scene
    let once := request.ledger.pending.map fun entry =>
      request.record entry.2 start.attempt.peerLabel reason
    eve.stores.Admits outcome eve.attempt.request.ledger.pendingCount →
    healthy.Admits outcome request.ledger.pendingCount →
      policy.answers (insisting trouble (rounds ++ [last])) start =
          List.replicate (rounds.length + 1) (.ok .attemptOver) ∧
        (∀ recipient ∈ final.attempt.request.ledger.recipients,
          recipient.progress = .completed) ∧
        -- The records.
        single.stores.records outcome = healthy.records outcome ++ once ∧
        (∃ appended, final.stores.records outcome = start.stores.records outcome ++ appended ∧
          appended.Perm once) ∧
        (∀ other, other ≠ outcome →
          final.stores.records other = start.stores.records other ∧
            single.stores.records other = healthy.records other) ∧
        -- The attempt.
        final.attempt.request = single.attempt.request ∧
        final.attempt.session = single.attempt.session ∧
        final.attempt.state.finalServer = single.attempt.state.finalServer ∧
        final.attempt.state.concerns = single.attempt.state.concerns ∧
        final.attempt.state.shortfall.incomplete = single.attempt.state.shortfall.incomplete := by
  intro trouble outcome request eve final single once recovered sound
  have selected : outcome = (Severity.ofCode code).outcome.soften policy.softBounce :=
    (Severity.soften_outcome_ofCode code policy.softBounce).symm
  rw [selected] at recovered sound ⊢
  -- Both courses are measured against the same attempt: the repeated report from the scene at first,
  -- the single one from the same attempt with a log in good order.
  obtain ⟨answers, done, insisted⟩ := policy.run_insisting scope code reason start connected
    disposing rounds (.refl _ reason _ start)
  have waited := policy.run_conditions scope code reason start last insisted
  rw [← policy.run_append] at waited
  obtain ⟨answered, recorded, nobody, outline⟩ :=
    policy.handle_admitted scope code reason start connected disposing waited recovered
  obtain ⟨_, alone, _, outlineAlone⟩ := policy.handle_admitted scope code reason
    ⟨start.attempt, healthy⟩ connected disposing (.refl _ reason _ _) sound
  have course : final = policy.after eve (.trouble trouble) := by
    simp only [final, eve, insisting_concat, policy.run_append]
    rfl
  have whole : (done ++ eve.attempt.request.ledger.pending).Perm request.ledger.pending := by
    simpa [nobody] using recorded.waiting
  have sameLedger : final.attempt.request.ledger = single.attempt.request.ledger := by
    rw [course, recorded.ledger]
    refine Eq.trans ?_ alone.ledger.symm
    exact request.ledger.completeAll_congr _ _ fun index => (whole.map Prod.fst).mem_iff
  have sameOutline : final.attempt.outline = single.attempt.outline := by
    rw [course]
    exact outline.trans outlineAlone.symm
  obtain ⟨session, latch, concerns, incomplete, sameRequest⟩ :=
    final.attempt.of_outline_eq single.attempt sameOutline
  refine ⟨?_, ?_, alone.records, ⟨_, ?_, whole.map _⟩, fun other different => ⟨?_, ?_⟩,
    sameRequest sameLedger, session, latch, concerns, incomplete⟩
  · rw [insisting_concat, policy.answers_append, policy.answers_append, answers,
      policy.answers_conditions, List.append_nil, List.replicate_succ', ← answered]
    rfl
  · rw [course]
    exact Ledger.progress_of_pending_eq_nil _ nobody
  · rw [course]
    exact recorded.records
  · rw [course]
    exact recorded.others other different
  · exact alone.others other different

/-- The log fails first, then refuses one record out of three, and recovers. The refused recipient is
recorded behind the others, and everything else is as after one report to a log in good order. -/
theorem repeated_failure_converges_first_refused :
    let recipients : List Recipient :=
      [⟨"a", "a@x", 10, .pending⟩, ⟨"b", "b@x", 20, .pending⟩, ⟨"c", "c@x", 30, .pending⟩]
    let request : Request :=
      ⟨⟨"4F"⟩, ⟨0, 0, by decide, by decide, by decide⟩, ⟨0⟩, ⟨recipients⟩, none⟩
    let trouble := Scope.host.trouble 550 "no"
    let rounds : List (List Condition) :=
      [[.failing (.log .bounced) true, .failing .queue true],
        [.failing (.log .bounced) false, .refused .bounced 4]]
    let last : List Condition := [.failing .queue false]
    let start : Scene := ⟨.start request, .empty⟩
    (Policy.standard.run (insisting trouble (rounds ++ [last])) start).stores.records .bounced = [
        request.record recipients[1] "none" "no", request.record recipients[2] "none" "no",
        request.record recipients[0] "none" "no"] ∧
      (Policy.standard.run (insisting trouble (rounds ++ [last])) start).attempt.request =
        (Policy.standard.handle trouble start).value.scene.attempt.request := by
  dsimp only
  have converges := repeated_failure_converges .standard .host 550 "no"
  refine ⟨by decide +kernel, (converges _ _ _ .empty (fun message => nomatch message)
    (.inl (by decide)) ?recovered ?sound).2.2.2.2.2.1⟩
  case recovered =>
    exact Stores.admits_of_past _ _ _ (by decide +kernel) (by decide +kernel) (by decide +kernel)
  case sound => exact Stores.admits_of_past _ _ _ rfl rfl (by decide)

end Nondelivery
