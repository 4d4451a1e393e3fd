/-
This file says when the postmaster gets a notice. It depends on the codes of the calls alone that were
answered without an error: not on whether the recipients waited, nor on whether the stores took the
outcomes.
-/

import Nondelivery.Proofs.ReplyCodes
import Nondelivery.Proofs.Routing

namespace Nondelivery

/-- The code that the exchanger gave. When the connection fails, it gives none. -/
def Trouble.replyCode? : Trouble → Option Nat
  | .host code _ => some code
  | .message code _ => some code
  | .recipient code _ _ => some code
  | .stream _ _ => none
  | .streamCode _ _ => none

/-- Soft trouble comes with no anomalous code. -/
theorem Trouble.not_anomalous_of_isSoft (trouble : Trouble) (soft : trouble.isSoft = true) :
    trouble.replyCode?.any isAnomalous = false := by
  have usual (code : Nat) (softCode : (code / 100 == 4) = true) : isAnomalous code = false := by
    have hundreds : code / 100 = 4 := beq_iff_eq.mp softCode
    exact isAnomalous_of_soft (by omega)
  cases trouble with
  | host code reason => exact usual code soft
  | message code reason => exact usual code soft
  | recipient code index reason => exact usual code soft
  | stream fault stage => rfl
  | streamCode code stage => rfl

/-- Note is taken of a code when the call is answered without an error. -/
theorem Attempt.anomalous_aftermath (attempt : Attempt) (trouble : Trouble) :
    (attempt.aftermath trouble).anomalous =
      ((attempt.answer trouble).isOk && trouble.replyCode?.any isAnomalous) := by
  have failures (scope : Scope) (code : Nat) (reason : String) :
      (attempt.failureAftermath scope code reason).anomalous = isAnomalous code := by
    unfold failureAftermath
    split <;> rfl
  have faults : attempt.faultAftermath.anomalous = false := by
    unfold faultAftermath
    split <;> rfl
  cases trouble with
  | host code reason => exact failures .host code reason
  | message code reason =>
      simp only [aftermath, answer, connectedAnswer]
      cases attempt.session with
      | none => rfl
      | some session => exact failures .message code reason
  | recipient code index reason =>
      simp only [aftermath, answer, rejectionAftermath, rejectionAnswer]
      by_cases unknown : attempt.request.ledger.size ≤ index
      · simp only [if_pos unknown]
        rfl
      · simp only [if_neg unknown]
        cases attempt.passesOver code <;> cases attempt.session <;> rfl
  | stream fault stage => exact faults.trans (Bool.and_false _).symm
  | streamCode code stage =>
      simp only [aftermath]
      split
      · exact faults.trans (Bool.and_false _).symm
      · exact (Bool.and_false _).symm

theorem AttemptState.notifiesPostmaster_iff (state : AttemptState) (policy : Policy) :
    state.notifiesPostmaster policy = true ↔
      .protocol ∈ policy.notifyClasses ∧ state.concerns.protocol = true := by
  have known : state.concerns.contains .protocolOnly = state.concerns.protocol := by
    rcases state with ⟨shortfall, finalServer, ⟨protocol⟩⟩
    cases protocol <;> rfl
  simp [notifiesPostmaster, known, Policy.notifies, and_comm]

namespace Policy

variable (policy : Policy)

/-- The call is answered without an error and gives an anomalous code. -/
def isNoted (call : Call) : Bool :=
  (policy.answer call).isOk && call.trouble.replyCode?.any isAnomalous

/-- A call adds to the concerns just when it is noted. -/
theorem concerns_handle (call : Call) :
    (policy.handle call.trouble call.scene).value.scene.attempt.state.concerns =
      call.scene.attempt.state.concerns.union { protocol := policy.isNoted call } := by
  have sameConcerns (filing? : Option Filing) : (call.scene.fileAny filing?).attempt.state.concerns =
      call.scene.attempt.state.concerns := by
    cases filing? <;> rfl
  have noted := call.scene.attempt.anomalous_aftermath call.trouble
  rw [isNoted, answer, handle_eq, ← noted,
    ← sameConcerns (policy.filingFor call.scene call.trouble)]
  rfl

/-- Soft trouble adds nothing to the concerns. -/
theorem concerns_handle_of_isSoft (call : Call) (soft : call.trouble.isSoft = true) :
    (policy.handle call.trouble call.scene).value.scene.attempt.state.concerns =
      call.scene.attempt.state.concerns := by
  rw [concerns_handle, isNoted, call.trouble.not_anomalous_of_isSoft soft, Bool.and_false]
  simp [Concerns.union]

/-- Within an attempt only noted calls add to the concerns. -/
theorem concerns_after (move : Move) (scene : Scene)
    (same : ∀ session, Move.retry session ≠ move) :
    (policy.after scene move).attempt.state.concerns.protocol =
      (scene.attempt.state.concerns.protocol || (scene.calls move).any policy.isNoted) := by
  cases move with
  | trouble trouble =>
      have added := policy.concerns_handle ⟨trouble, scene⟩
      simp [after, play, added, Concerns.union, Scene.calls]
  | connect session => exact (Bool.or_false _).symm
  | markFinal => exact (Bool.or_false _).symm
  | retry session => exact absurd rfl (same session)
  | condition condition => exact (Bool.or_false _).symm

theorem run_concerns (moves : List Move) (scene : Scene)
    (oneAttempt : ∀ session, Move.retry session ∉ moves) :
    (policy.run moves scene).attempt.state.concerns.protocol =
      (scene.attempt.state.concerns.protocol || (policy.calls moves scene).any policy.isNoted) := by
  induction moves generalizing scene with
  | nil => exact (Bool.or_false _).symm
  | cons move rest ih =>
      obtain ⟨same, restOfAttempt⟩ := Move.oneAttempt_cons oneAttempt
      rw [run_cons, ih (policy.after scene move) restOfAttempt,
        policy.concerns_after move scene same, calls_cons, List.any_append, Bool.or_assoc]

/-- What it takes for a call to be noted, in full. -/
theorem isNoted_iff (call : Call) : policy.isNoted call = true ↔
    (∃ verdict, policy.answer call = .ok verdict) ∧
      ∃ code, call.trouble.replyCode? = some code ∧
        (code < 400 ∨ 599 < code ∨ code = 555 ∨ (500 ≤ code ∧ code ≤ 509)) := by
  have answered : (policy.answer call).isOk = true ↔ ∃ verdict, policy.answer call = .ok verdict := by
    cases policy.answer call <;> simp [Except.isOk, Except.toBool]
  simp only [isNoted, Bool.and_eq_true, answered, Option.any_eq_true, isAnomalous_iff]

end Policy

/-- The notice to the postmaster reflects the history of an attempt. A site that asks for notices of
the protocol class gets one just when the exchanger gave a code that is no failure at all, reports a
syntax error or rejects a parameter, in a call that was answered without an error. Nothing else
matters: neither what the ledger and the stores were like at that call, nor soft trouble, which adds
nothing to the concerns. -/
theorem notices_follow_history (policy : Policy) (request : Request) (session : Option Session)
    (stores : Stores) (moves : List Move) (oneAttempt : ∀ other, Move.retry other ∉ moves)
    (site : Policy) :
    let start : Scene := ⟨⟨request, session, .fresh⟩, stores⟩
    let calls := policy.calls moves start
    ((policy.run moves start).attempt.state.notifiesPostmaster site = true ↔
      .protocol ∈ site.notifyClasses ∧ ∃ call ∈ calls,
        (∃ verdict, policy.answer call = .ok verdict) ∧
          ∃ code, call.trouble.replyCode? = some code ∧
            (code < 400 ∨ 599 < code ∨ code = 555 ∨ (500 ≤ code ∧ code ≤ 509))) ∧
    ∀ call ∈ calls, call.trouble.isSoft = true →
      (policy.handle call.trouble call.scene).value.scene.attempt.state.concerns =
        call.scene.attempt.state.concerns := by
  intro start calls
  refine ⟨?_, fun call _ => policy.concerns_handle_of_isSoft call⟩
  have none : start.attempt.state.concerns.protocol = false := rfl
  have raised := policy.run_concerns moves start oneAttempt
  rw [none, Bool.false_or] at raised
  rw [AttemptState.notifiesPostmaster_iff, raised, List.any_eq_true]
  simp only [policy.isNoted_iff, calls]

/-- A syntax error is noted although the recipient is completed already and the log refuses
everything, but not without a connection. The site that does not ask gets no notice. -/
theorem notices_follow_history_completed_recipient :
    let request : Request := ⟨⟨"4F"⟩, ⟨0, 0, by decide, by decide, by decide⟩, ⟨0⟩,
      ⟨[⟨"a", "a@x", 10, .completed⟩, ⟨"b", "b@x", 20, .pending⟩]⟩, none⟩
    let early : List Move := [.trouble (.message 503 "alone"), .trouble (.recipient 503 2 "nobody"),
      .condition (.failing (.log .bounced) true), .connect (some ⟨"mx", "192.0.2.1"⟩),
      .trouble (.recipient 450 1 "busy"), .trouble (.stream .lost "greeting"),
      .trouble (.message 554 "no")]
    let late : List Move := [.trouble (.recipient 503 0 "bad sequence")]
    let start : Scene := ⟨⟨request, none, .fresh⟩, .empty⟩
    let asking : Policy := { notifyClasses := [.delay, .protocol] }
    let state (moves : List Move) := (Policy.standard.run moves start).attempt.state
    (state early).notifiesPostmaster asking = false ∧
      (state (early ++ late)).notifiesPostmaster asking = true ∧
      (state (early ++ late)).notifiesPostmaster .standard = false := by
  intro request early late start asking state
  have oneAttempt : ∀ other, Move.retry other ∉ early ++ late := by
    intro other
    simp [early, late]
  obtain ⟨asked, _⟩ := notices_follow_history .standard request none .empty (early ++ late)
    oneAttempt asking
  obtain ⟨unasked, _⟩ := notices_follow_history .standard request none .empty (early ++ late)
    oneAttempt .standard
  have last : ⟨.recipient 503 0 "bad sequence", Policy.standard.run early start⟩ ∈
      Policy.standard.calls (early ++ late) start := by
    rw [Policy.calls_append]
    exact List.mem_append_right _ List.mem_cons_self
  refine ⟨by decide +kernel, ?_, ?_⟩
  · rw [asked]
    exact ⟨by decide, _, last, (Policy.standard.isNoted_iff _).mp (by decide +kernel)⟩
  · apply eq_false_of_ne_true
    rw [unasked]
    exact fun noticed => absurd noticed.1 (by decide)

end Nondelivery
