/-
This file reads the two latches of an attempt off the history of its course: whether the last
exchanger has been reached, and which reason has become the hop status.
-/

import Nondelivery.Proofs.Routing

namespace Nondelivery

namespace Call

/-- No other exchanger is tried after this call: the exchanger failed for good, or rejected the
message for good over a connection. -/
def endsSearch (call : Call) : Bool :=
  match call.trouble with
  | .host code _ => code / 100 != 4
  | .message code _ => call.scene.attempt.session.isSome && code / 100 != 4
  | .recipient _ _ _ => false
  | .stream _ _ => false
  | .streamCode _ _ => false

/-- The reason that the call offers as the hop status, which is that of a soft failure of the last
exchanger. -/
def hopReason? (call : Call) : Option String :=
  match call.trouble with
  | .host code reason =>
      if code / 100 = 4 ∧ call.scene.attempt.state.finalServer = true then some reason else none
  | .message _ _ => none
  | .recipient _ _ _ => none
  | .stream _ _ => none
  | .streamCode _ _ => none

variable (call : Call)

/-- Soft trouble never ends the search for an exchanger. -/
theorem endsSearch_of_isSoft (soft : call.trouble.isSoft = true) : call.endsSearch = false := by
  rcases call with ⟨trouble, scene⟩
  cases trouble <;> simp_all [endsSearch, Trouble.isSoft]

/-- A failure that concerns every recipient makes the exchanger the last one unless it is soft: a
soft failure that is not passed over finds the last exchanger already. -/
theorem final_failureAftermath (attempt : Attempt) (scope : Scope) (code : Nat) (reason : String) :
    (attempt.state.finalServer || (attempt.failureAftermath scope code reason).final) =
      (attempt.state.finalServer || code / 100 != 4) := by
  cases final : attempt.state.finalServer with
  | true => rfl
  | false =>
      have passes : attempt.passesOver code = decide (code / 100 = 4) := by
        simp [Attempt.passesOver, Severity.isSoft_ofCode, final]
      by_cases soft : code / 100 = 4 <;> simp [Attempt.failureAftermath, passes, soft]

theorem final_aftermath :
    (call.scene.attempt.state.finalServer ||
        (call.scene.attempt.aftermath call.trouble).final) =
      (call.scene.attempt.state.finalServer || call.endsSearch) := by
  rcases call with ⟨trouble, scene⟩
  cases trouble with
  | host code reason => exact final_failureAftermath scene.attempt .host code reason
  | message code reason =>
      simp only [Attempt.aftermath, endsSearch]
      cases scene.attempt.session with
      | none => rfl
      | some session => exact final_failureAftermath scene.attempt .message code reason
  | recipient code index reason =>
      exact congrArg _ (scene.attempt.rejectionAftermath_latches code index).1
  | stream fault stage => exact congrArg _ scene.attempt.faultAftermath_latches.1
  | streamCode code stage =>
      simp only [Attempt.aftermath, endsSearch]
      split
      · exact congrArg _ scene.attempt.faultAftermath_latches.1
      · rfl

/-- Only a failure of the exchanger as a whole offers a hop status. -/
theorem hopStatus_aftermath :
    (call.scene.attempt.aftermath call.trouble).hopStatus = call.hopReason? := by
  rcases call with ⟨trouble, scene⟩
  cases trouble with
  | host code reason =>
      simp only [Attempt.aftermath, Attempt.failureAftermath, Attempt.passesOver, hopReason?,
        Severity.isSoft_ofCode, Severity.outcome_ofCode]
      by_cases soft : code / 100 = 4 <;> cases scene.attempt.state.finalServer <;> simp [soft]
  | message code reason =>
      simp only [Attempt.aftermath, Attempt.failureAftermath, hopReason?]
      split
      · rfl
      · split <;> rfl
  | recipient code index reason => exact (scene.attempt.rejectionAftermath_latches code index).2
  | stream fault stage => exact scene.attempt.faultAftermath_latches.2
  | streamCode code stage =>
      simp only [Attempt.aftermath, hopReason?]
      split
      · exact scene.attempt.faultAftermath_latches.2
      · rfl

end Call

namespace Policy

variable (policy : Policy)

/-- Putting outcomes on record moves no latch. -/
theorem latches_fileAny (filing? : Option Filing) (scene : Scene) :
    (scene.fileAny filing?).attempt.state.finalServer = scene.attempt.state.finalServer ∧
      (scene.fileAny filing?).attempt.request.hopStatus = scene.attempt.request.hopStatus := by
  cases filing? <;> exact ⟨rfl, rfl⟩

theorem finalServer_handle (call : Call) :
    (policy.handle call.trouble call.scene).value.scene.attempt.state.finalServer =
      (call.scene.attempt.state.finalServer || call.endsSearch) := by
  rw [handle_eq, ← call.final_aftermath, ← (latches_fileAny _ call.scene).1]
  rfl

theorem hopStatus_handle (call : Call) :
    (policy.handle call.trouble call.scene).value.scene.attempt.request.hopStatus =
      (call.scene.attempt.request.hopStatus <|> call.hopReason?) := by
  rw [handle_eq, ← call.hopStatus_aftermath, ← (latches_fileAny _ call.scene).2]
  rfl

/-- Within an attempt the last exchanger is reached by a move that says so, or by a call. -/
theorem finalServer_after (move : Move) (scene : Scene)
    (same : ∀ session, Move.retry session ≠ move) :
    (policy.after scene move).attempt.state.finalServer = true ↔
      scene.attempt.state.finalServer = true ∨ move = .markFinal ∨
        ∃ call ∈ scene.calls move, call.endsSearch = true := by
  cases move with
  | trouble trouble =>
      have reached := policy.finalServer_handle ⟨trouble, scene⟩
      simp only [after, play, reached, Bool.or_eq_true, Scene.calls, List.mem_singleton,
        exists_eq_left, reduceCtorEq, false_or]
  | connect session => simp [after, play, Scene.connect, Scene.calls]
  | markFinal => simp [after, play, Scene.markFinal, AttemptState.markFinal]
  | retry session => exact absurd rfl (same session)
  | condition condition => simp [after, play, Scene.calls]

/-- The first reason that is offered stays the hop status. -/
theorem hopStatus_after (move : Move) (scene : Scene) :
    (policy.after scene move).attempt.request.hopStatus =
      (scene.attempt.request.hopStatus <|> (scene.calls move).findSome? Call.hopReason?) := by
  cases move with
  | trouble trouble =>
      have offered := policy.hopStatus_handle ⟨trouble, scene⟩
      simp only [after, play, offered, Scene.calls, List.findSome?_singleton]
  | connect session => simp [after, play, Scene.connect, Scene.calls]
  | markFinal => simp [after, play, Scene.markFinal, Scene.calls]
  | retry session => simp [after, play, Scene.retry, Scene.calls]
  | condition condition => simp [after, play, Scene.calls]

theorem run_finalServer (moves : List Move) (scene : Scene)
    (oneAttempt : ∀ session, Move.retry session ∉ moves) :
    (policy.run moves scene).attempt.state.finalServer = true ↔
      scene.attempt.state.finalServer = true ∨ Move.markFinal ∈ moves ∨
        ∃ call ∈ policy.calls moves scene, call.endsSearch = true := by
  induction moves generalizing scene with
  | nil => simp [calls]
  | cons move rest ih =>
      obtain ⟨same, restOfAttempt⟩ := Move.oneAttempt_cons oneAttempt
      rw [run_cons, ih (policy.after scene move) restOfAttempt,
        policy.finalServer_after move scene same, calls_cons]
      simp only [List.mem_cons, List.mem_append, or_and_right, exists_or,
        eq_comm (a := Move.markFinal)]
      grind

theorem run_hopStatus (moves : List Move) (scene : Scene) :
    (policy.run moves scene).attempt.request.hopStatus =
      (scene.attempt.request.hopStatus <|>
        (policy.calls moves scene).findSome? Call.hopReason?) := by
  induction moves generalizing scene with
  | nil => simp [calls]
  | cons move rest ih =>
      rw [run_cons, ih (policy.after scene move), policy.hopStatus_after, calls_cons,
        List.findSome?_append]
      simp [Option.or_assoc]

end Policy

/-- The latches of an attempt follow from its history. The last exchanger has been reached just when
a move said so, or when the exchanger failed for good, or rejected the message for good over a
connection; soft trouble and the rejection of a single recipient never change that. The hop status
is the one that the request had at first, or else the reason of the first soft failure of the last
exchanger. -/
theorem latches_follow_history (policy : Policy) (request : Request) (session : Option Session)
    (stores : Stores) (moves : List Move) (oneAttempt : ∀ other, Move.retry other ∉ moves) :
    let start : Scene := ⟨⟨request, session, .fresh⟩, stores⟩
    let calls := policy.calls moves start
    let final := (policy.run moves start).attempt
    (final.state.finalServer = true ↔
      Move.markFinal ∈ moves ∨ ∃ call ∈ calls, call.endsSearch = true) ∧
    (∀ call ∈ calls, (call.trouble.isSoft = true ∨
        ∃ code index reason, call.trouble = .recipient code index reason) →
      (policy.handle call.trouble call.scene).value.scene.attempt.state.finalServer =
        call.scene.attempt.state.finalServer) ∧
    final.request.hopStatus = (request.hopStatus <|> calls.findSome? Call.hopReason?) := by
  intro start calls final
  refine ⟨?_, fun call _ harmless => ?_, policy.run_hopStatus moves start⟩
  · have reached := policy.run_finalServer moves start oneAttempt
    have notYet : ¬ start.attempt.state.finalServer = true := Bool.false_ne_true
    exact reached.trans (or_iff_right notYet)
  · have goesOn : call.endsSearch = false := by
      rcases harmless with soft | ⟨code, index, reason, rejection⟩
      · exact call.endsSearch_of_isSoft soft
      · rw [Call.endsSearch, rejection]
    rw [policy.finalServer_handle, goesOn, Bool.or_false]

/-- A rejection of the message counts only over a connection, and a soft failure of the exchanger
only once the last one has been reached. -/
theorem latches_follow_history_rejected_message :
    let request : Request := ⟨⟨"4F"⟩, ⟨0, 0, by decide, by decide, by decide⟩, ⟨0⟩,
      ⟨[⟨"a", "a@x", 10, .pending⟩]⟩, none⟩
    let early : List Move := [.trouble (.message 550 "alone"), .trouble (.host 450 "early"),
      .connect (some ⟨"mx", "192.0.2.1"⟩)]
    let late : List Move := [.trouble (.message 554 "no"), .trouble (.host 451 "late"),
      .trouble (.host 452 "later")]
    let start : Scene := ⟨⟨request, none, .fresh⟩, .empty⟩
    (Policy.standard.run early start).attempt.state.finalServer = false ∧
      (Policy.standard.run (early ++ late) start).attempt.state.finalServer = true ∧
      (Policy.standard.run (early ++ late) start).attempt.request.hopStatus = some "late" := by
  intro request early late start
  have oneAttempt : ∀ other, Move.retry other ∉ early ++ late := by
    intro other
    simp [early, late]
  obtain ⟨final, _, hopStatus⟩ :=
    latches_follow_history .standard request none .empty (early ++ late) oneAttempt
  have ended : (Policy.standard.calls (early ++ late) start).any Call.endsSearch = true := by
    decide +kernel
  refine ⟨by decide +kernel, ?_, ?_⟩
  · rw [final]
    exact .inr (List.any_eq_true.mp ended)
  · rw [hopStatus]
    decide +kernel

end Nondelivery
