/-
This file says what each call leaves undone, and what a course of moves does. A call that leaves
nothing undone has put an outcome on record for every recipient that it concerns.
-/

import Nondelivery.Proofs.Run

namespace Nondelivery

namespace Shortfall

/-- A shortfall is empty just when none of its parts is set. -/
theorem isEmpty_iff (shortfall : Shortfall) : shortfall.isEmpty = true ↔
    shortfall.incomplete = false ∧ shortfall.logFailed = false ∧ shortfall.queueFailed = false := by
  rcases shortfall with ⟨incomplete, logFailed, queueFailed⟩
  simp [isEmpty, none]

/-- Nothing that was left undone is ever made up for. -/
theorem isEmpty_union (left right : Shortfall) :
    (left.union right).isEmpty = true ↔ left.isEmpty = true ∧ right.isEmpty = true := by
  simp only [isEmpty_iff, union, Bool.or_eq_false_iff]
  constructor
  · rintro ⟨⟨a, b⟩, ⟨c, d⟩, e, f⟩
    exact ⟨⟨a, c, e⟩, b, d, f⟩
  · rintro ⟨⟨a, c, e⟩, b, d, f⟩
    exact ⟨⟨a, b⟩, ⟨c, d⟩, e, f⟩

theorem none_union (shortfall : Shortfall) : none.union shortfall = shortfall := by
  simp [none, union]

/-- Everything that one of the shortfalls names. -/
def unionAll (shortfalls : List Shortfall) : Shortfall :=
  shortfalls.foldr union none

theorem unionAll_cons (shortfall : Shortfall) (shortfalls : List Shortfall) :
    unionAll (shortfall :: shortfalls) = shortfall.union (unionAll shortfalls) := rfl

/-- Several shortfalls together name a part just when one of them names it. -/
theorem part_unionAll (part : Shortfall → Bool) (nothing : part none = false)
    (either : ∀ left right, part (left.union right) = (part left || part right))
    (shortfalls : List Shortfall) : part (unionAll shortfalls) = shortfalls.any part := by
  induction shortfalls with
  | nil => exact nothing
  | cons shortfall rest ih => rw [unionAll_cons, either, List.any_cons, ih]

theorem incomplete_unionAll (shortfalls : List Shortfall) :
    (unionAll shortfalls).incomplete = shortfalls.any Shortfall.incomplete :=
  part_unionAll Shortfall.incomplete rfl (fun _ _ => rfl) shortfalls

theorem logFailed_unionAll (shortfalls : List Shortfall) :
    (unionAll shortfalls).logFailed = shortfalls.any Shortfall.logFailed :=
  part_unionAll Shortfall.logFailed rfl (fun _ _ => rfl) shortfalls

theorem queueFailed_unionAll (shortfalls : List Shortfall) :
    (unionAll shortfalls).queueFailed = shortfalls.any Shortfall.queueFailed :=
  part_unionAll Shortfall.queueFailed rfl (fun _ _ => rfl) shortfalls

end Shortfall

namespace Filing

variable (filing : Filing) (stores : Stores)

/-- A filing of which no record is refused has all of them accepted. -/
theorem accepted_of_logged (logged : (filing.shortfall stores).logFailed = false) :
    filing.accepted stores = filing.entries := by
  have full : filing.entries.length ≤ (filing.accepted stores).length := by
    simpa [shortfall] using logged
  exact (stores.accepted_sublist filing.outcome filing.entries).eq_of_length_le full

/-- A filing that leaves nothing undone has all of its records accepted. -/
theorem accepted_of_isEmpty (clean : (filing.shortfall stores).isEmpty = true) :
    filing.accepted stores = filing.entries :=
  filing.accepted_of_logged stores ((Shortfall.isEmpty_iff _).mp clean).2.1

/-- A filing that leaves nothing undone finds the queue file at work if it needs it. -/
theorem queueWorks_of_isEmpty (clean : (filing.shortfall stores).isEmpty = true)
    (needed : filing.accepted stores ≠ []) : stores.queueWorks = true := by
  obtain ⟨_, _, told⟩ := (Shortfall.isEmpty_iff _).mp clean
  simpa [shortfall, needed] using told

end Filing

/-- The trouble leaves the recipients that it concerns to another exchanger. -/
def Scene.leaves (scene : Scene) : Trouble → Bool
  | .host code _ => scene.passesOver (.ofCode code)
  | .message code _ => scene.attempt.session.isSome && scene.passesOver (.ofCode code)
  | .recipient code index _ =>
      scene.attempt.request.ledger.isPending index && scene.passesOver (.ofCode code)
  | .stream _ _ => scene.attempt.session.isSome && !scene.attempt.state.finalServer
  | .streamCode code _ => (StreamFault.ofCode code).toOption.isSome &&
      scene.attempt.session.isSome && !scene.attempt.state.finalServer

/-- Recipients are remembered as passed over just when trouble leaves them to another exchanger. -/
theorem Scene.passedOver_aftermath (scene : Scene) (trouble : Trouble) :
    (scene.attempt.aftermath trouble).passedOver = scene.leaves trouble := by
  have same (code : Nat) : scene.passesOver (.ofCode code) = scene.attempt.passesOver code := rfl
  cases trouble with
  | host code reason =>
      simp only [Attempt.aftermath, Attempt.failureAftermath, leaves, same]
      cases scene.attempt.passesOver code <;> rfl
  | message code reason =>
      simp only [Attempt.aftermath, Attempt.failureAftermath, leaves, same]
      cases scene.attempt.session <;> cases scene.attempt.passesOver code <;> rfl
  | recipient code index reason =>
      simp only [Attempt.aftermath, Attempt.rejectionAftermath, leaves, same]
      by_cases unknown : scene.attempt.request.ledger.size ≤ index
      · have absent := scene.attempt.request.ledger.pending?_of_size_le index unknown
        rw [if_pos unknown, Ledger.isPending, absent]
        rfl
      · rw [if_neg unknown]
        cases scene.attempt.passesOver code <;> cases scene.attempt.session <;>
          simp [Aftermath.none]
  | stream fault stage =>
      simp only [Attempt.aftermath, Attempt.faultAftermath, leaves]
      cases scene.attempt.session <;> rfl
  | streamCode code stage =>
      simp only [Attempt.aftermath, Attempt.faultAftermath, leaves]
      cases StreamFault.ofCode code <;> cases scene.attempt.session <;> rfl

namespace Policy

variable (policy : Policy)

/-- What trouble leaves undone. -/
def undone (trouble : Trouble) (scene : Scene) : Shortfall :=
  if scene.leaves trouble then .incompleteOnly
  else (policy.filingFor scene trouble).elim .none fun filing => filing.shortfall scene.stores

/-- What is passed over is not put on record. -/
theorem filingFor_of_leaves (trouble : Trouble) (scene : Scene)
    (leaves : scene.leaves trouble = true) : policy.filingFor scene trouble = none := by
  have streams (fault : StreamFault) (stage : String)
      (early : (scene.attempt.session.isSome && !scene.attempt.state.finalServer) = true) :
      policy.filingForStream scene fault stage = none := by
    cases connected : scene.attempt.session <;> simp_all [filingForStream]
  cases trouble with
  | host code reason => exact if_pos leaves
  | message code reason =>
      obtain ⟨_, passes⟩ := Bool.and_eq_true_iff.mp leaves
      exact if_pos (by rw [passes, Bool.or_true])
  | recipient code index reason => exact if_pos (Bool.and_eq_true_iff.mp leaves).2
  | stream fault stage => exact streams fault stage leaves
  | streamCode code stage =>
      have early : (scene.attempt.session.isSome && !scene.attempt.state.finalServer) = true := by
        simp_all [Scene.leaves]
      exact Option.bind_eq_none_iff.mpr fun fault _ => streams fault stage early

/-- What a call leaves undone is added to what was left undone before. -/
theorem handle_shortfall (trouble : Trouble) (scene : Scene) :
    (policy.handle trouble scene).value.scene.attempt.state.shortfall =
      scene.attempt.state.shortfall.union (policy.undone trouble scene) := by
  have remembered : (policy.handle trouble scene).value.scene.attempt.state.shortfall =
      (scene.fileAny (policy.filingFor scene trouble)).attempt.state.shortfall.union
        { incomplete := scene.leaves trouble } := by
    rw [handle_eq, ← scene.passedOver_aftermath]
    rfl
  rw [remembered, undone]
  cases leaves : scene.leaves trouble with
  | true =>
      rw [policy.filingFor_of_leaves trouble scene leaves]
      rfl
  | false =>
      cases policy.filingFor scene trouble with
      | none => rfl
      | some filing => exact Shortfall.union_none _

end Policy

/-- The indices of the recipients that trouble concerns, out of a number of recipients. -/
def Trouble.scope (size : Nat) : Trouble → List Nat
  | .host _ _ => List.range size
  | .message _ _ => List.range size
  | .recipient _ index _ => [index]
  | .stream _ _ => List.range size
  | .streamCode _ _ => List.range size

namespace Policy

variable (policy : Policy)

theorem filingForStream_covers (fault : StreamFault) (stage : String) (scene : Scene)
    (session : Session) (connected : scene.attempt.session = some session)
    (stays : scene.leaves (.stream fault stage) = false) (index : Nat) (recipient : Recipient)
    (waits : scene.attempt.request.ledger.pending? index = some recipient) :
    ∃ filing, policy.filingForStream scene fault stage = some filing ∧
      (index, recipient) ∈ filing.entries := by
  have final : scene.attempt.state.finalServer = true := by
    simpa [Scene.leaves, connected] using stays
  refine ⟨_, by rw [filingForStream, connected, Option.bind_some, final, if_pos rfl], ?_⟩
  exact (Ledger.mem_pending _ _ _).mpr waits

/-- Trouble that is answered without an error, and not left to another exchanger, is filed for every
recipient that it concerns and that waits. -/
theorem filingFor_covers (trouble : Trouble) (scene : Scene) (verdict : Verdict)
    (answered : (policy.handle trouble scene).value.result = .ok verdict)
    (stays : scene.leaves trouble = false) (index : Nat) (recipient : Recipient)
    (concerned : index ∈ trouble.scope scene.attempt.request.ledger.size)
    (waits : scene.attempt.request.ledger.pending? index = some recipient) :
    ∃ filing, policy.filingFor scene trouble = some filing ∧
      (index, recipient) ∈ filing.entries := by
  have waiting : (index, recipient) ∈ scene.attempt.request.ledger.pending :=
    (Ledger.mem_pending _ _ _).mpr waits
  cases trouble with
  | host code reason =>
      simp only [Scene.leaves] at stays
      exact ⟨_, by rw [filingFor, stays, if_neg Bool.false_ne_true], waiting⟩
  | message code reason =>
      simp only [handle, messageFailure_value] at answered
      cases connected : scene.attempt.session with
      | none => simp [connected] at answered
      | some session =>
          have kept : scene.passesOver (.ofCode code) = false := by
            simpa [Scene.leaves, connected] using stays
          exact ⟨_, by rw [filingFor, kept, connected, Option.isNone_some, Bool.or_false,
            if_neg Bool.false_ne_true], waiting⟩
  | recipient code named reason =>
      obtain rfl : index = named := List.mem_singleton.mp concerned
      have known : ¬ scene.attempt.request.ledger.size ≤ index := by
        intro behind
        rw [Ledger.pending?_of_size_le _ index behind] at waits
        cases waits
      have kept : scene.passesOver (.ofCode code) = false := by
        simpa [Scene.leaves, Ledger.isPending, waits] using stays
      simp only [handle, recipientFailure_value, if_neg known, kept] at answered
      cases connected : scene.attempt.session with
      | none => simp [connected] at answered
      | some session =>
          exact ⟨_, by rw [filingFor, kept, if_neg Bool.false_ne_true, connected, Option.bind_some,
            waits, Option.map_some], List.mem_singleton.mpr rfl⟩
  | stream fault stage =>
      simp only [handle, streamFailure_value] at answered
      cases connected : scene.attempt.session with
      | none => simp [connected] at answered
      | some session =>
          exact policy.filingForStream_covers fault stage scene session connected stays index
            recipient waits
  | streamCode code stage =>
      simp only [handle, streamCodeFailure_value] at answered
      cases known : StreamFault.ofCode code with
      | error misuse => simp [known] at answered
      | ok fault =>
          cases connected : scene.attempt.session with
          | none => simp [known, streamFailure_value, connected] at answered
          | some session =>
              have kept : scene.leaves (.stream fault stage) = false := by
                simpa [Scene.leaves, known, Except.toOption] using stays
              simpa [filingFor, known, Except.toOption] using
                policy.filingForStream_covers fault stage scene session connected kept index
                  recipient waits

/-- Trouble that is answered without an error concerns recipients of the request only. -/
theorem scope_inside (trouble : Trouble) (scene : Scene) (verdict : Verdict)
    (answered : (policy.handle trouble scene).value.result = .ok verdict) (index : Nat)
    (concerned : index ∈ trouble.scope scene.attempt.request.ledger.size) :
    index < scene.attempt.request.ledger.size := by
  cases trouble with
  | host code reason => exact List.mem_range.mp concerned
  | message code reason => exact List.mem_range.mp concerned
  | recipient code named reason =>
      obtain rfl : index = named := List.mem_singleton.mp concerned
      apply Nat.lt_of_not_le
      intro behind
      simp only [handle, recipientFailure_value, if_pos behind] at answered
      cases answered
  | stream fault stage => exact List.mem_range.mp concerned
  | streamCode code stage => exact List.mem_range.mp concerned

/-- A call that leaves nothing undone leaves nobody to another exchanger, and files without a
shortfall. -/
theorem clean_of_undone (trouble : Trouble) (scene : Scene)
    (clean : (policy.undone trouble scene).isEmpty = true) :
    scene.leaves trouble = false ∧ ∀ filing, policy.filingFor scene trouble = some filing →
      (filing.shortfall scene.stores).isEmpty = true := by
  unfold undone at clean
  cases leaves : scene.leaves trouble with
  | true =>
      rw [leaves, if_pos rfl] at clean
      cases clean
  | false =>
      refine ⟨rfl, fun filing filed => ?_⟩
      rw [leaves, if_neg Bool.false_ne_true, filed, Option.elim_some] at clean
      exact clean

/-- After a call that has left nothing undone, every recipient that the call concerns is completed,
provided that it was answered without an error. -/
theorem handle_completes (trouble : Trouble) (scene : Scene) (verdict : Verdict)
    (answered : (policy.handle trouble scene).value.result = .ok verdict)
    (clean : (policy.undone trouble scene).isEmpty = true) (index : Nat)
    (concerned : index ∈ trouble.scope scene.attempt.request.ledger.size) :
    (policy.handle trouble scene).value.scene.attempt.request.ledger.isCompleted index = true := by
  rw [(policy.handle_posts trouble scene).isCompleted_iff]
  have inside := policy.scope_inside trouble scene verdict answered index concerned
  obtain ⟨stays, undone⟩ := policy.clean_of_undone trouble scene clean
  rcases Ledger.isCompleted_or_pending? _ index inside with completed | ⟨recipient, waits⟩
  · exact .inl completed
  · obtain ⟨filing, filed, among⟩ :=
      policy.filingFor_covers trouble scene verdict answered stays index recipient concerned waits
    have accepts := filing.accepted_of_isEmpty scene.stores (undone filing filed)
    refine .inr ?_
    rw [postings, filed, Option.elim_some, Filing.postings_index, accepts]
    exact List.mem_map_of_mem among

/-- After a call that has left nothing undone, the queue file has heard of everything that the call
has put on record. -/
theorem delivered_handle_clean (trouble : Trouble) (scene : Scene)
    (clean : (policy.undone trouble scene).isEmpty = true) :
    (policy.handle trouble scene).value.scene.stores.delivered = scene.stores.delivered ++
      (policy.postings trouble scene).map fun posting => posting.record.place := by
  obtain ⟨_, undone⟩ := policy.clean_of_undone trouble scene clean
  rw [delivered_handle]
  cases works : scene.stores.queueWorks with
  | true => rw [if_pos rfl]
  | false =>
      -- Nothing was accepted, or else the queue file would have missed it.
      have silent : policy.postings trouble scene = [] := by
        unfold postings
        cases filed : policy.filingFor scene trouble with
        | none => rfl
        | some filing =>
            have nothing : filing.accepted scene.stores = [] := by
              apply Decidable.byContradiction
              intro needed
              rw [filing.queueWorks_of_isEmpty scene.stores (undone filing filed) needed] at works
              cases works
            rw [Option.elim_some, Filing.postings, nothing, List.map_nil]
      rw [silent, List.map_nil, ite_self]

/-- What the calls in a course of moves leave undone, each on its own. -/
def undoneIn (moves : List Move) (scene : Scene) : List Shortfall :=
  (policy.calls moves scene).map fun call => policy.undone call.trouble call.scene

/-- Within an attempt, what is left undone is what was left undone before and what any of the calls
leaves undone. -/
theorem run_shortfall (moves : List Move) (scene : Scene)
    (oneAttempt : ∀ session, Move.retry session ∉ moves) :
    (policy.run moves scene).attempt.state.shortfall =
      scene.attempt.state.shortfall.union (.unionAll (policy.undoneIn moves scene)) := by
  induction moves generalizing scene with
  | nil => exact (Shortfall.union_none _).symm
  | cons move rest ih =>
      obtain ⟨same, restOfAttempt⟩ := Move.oneAttempt_cons oneAttempt
      rw [run_cons, ih (policy.after scene move) restOfAttempt]
      cases move with
      | trouble trouble =>
          have added := policy.handle_shortfall trouble scene
          simp only [after, play, added, Shortfall.union_assoc]
          rfl
      | connect session => rfl
      | markFinal => rfl
      | retry session => exact absurd rfl (same session)
      | condition condition => rfl

end Policy

end Nondelivery
