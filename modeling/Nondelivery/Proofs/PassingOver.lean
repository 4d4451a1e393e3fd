/-
This file says when an attempt counts as incomplete. The rejection of one recipient that is passed
over makes it so only if that recipient waits. Trouble that concerns everybody and is passed over
makes it so in any case, even when nobody waits any more and nothing is left to be done.
-/

import Nondelivery.Proofs.Routing
import Nondelivery.Proofs.Undone

namespace Nondelivery

/-- The trouble concerns all recipients of a message, and not just one of them. -/
def Trouble.isGeneral : Trouble → Bool
  | .host _ _ => true
  | .message _ _ => true
  | .recipient _ _ _ => false
  | .stream _ _ => true
  | .streamCode _ _ => true

namespace Call

/-- Some recipient that the call concerns waits for an outcome. -/
def isAwaited (call : Call) : Bool :=
  (call.trouble.scope call.scene.attempt.request.ledger.size).any
    call.scene.attempt.request.ledger.isPending

/-- The trouble is soft, and another exchanger may still take the message. -/
def isEarly (call : Call) : Bool :=
  call.trouble.isSoft && !call.scene.attempt.state.finalServer

theorem isAwaited_iff (call : Call) : call.isAwaited = true ↔
    ∃ index ∈ call.trouble.scope call.scene.attempt.request.ledger.size,
      call.scene.attempt.request.ledger.isPending index = true :=
  List.any_eq_true

theorem isEarly_iff (call : Call) : call.isEarly = true ↔
    call.trouble.isSoft = true ∧ call.scene.attempt.state.finalServer = false := by
  rw [isEarly, Bool.and_eq_true, Bool.not_eq_true']

/-- Early trouble that is answered without an error is passed over, except that the rejection of one
recipient is not when that recipient does not wait. -/
theorem leaves_eq (call : Call) : call.scene.leaves call.trouble =
    ((call.scene.attempt.answer call.trouble).isOk && call.isEarly &&
      (call.trouble.isGeneral || call.isAwaited)) := by
  rcases call with ⟨trouble, attempt, stores⟩
  have same (code : Nat) : Scene.passesOver ⟨attempt, stores⟩ (.ofCode code) =
      ((code / 100 == 4) && !attempt.state.finalServer) := attempt.passesOver_eq code
  cases trouble with
  | host code reason =>
      simp only [Scene.leaves, same, Attempt.answer, isEarly, Trouble.isSoft, Trouble.isGeneral]
      simp [Except.isOk, Except.toBool]
  | message code reason =>
      simp only [Scene.leaves, same, Attempt.answer, Attempt.connectedAnswer, isEarly,
        Trouble.isSoft, Trouble.isGeneral]
      cases attempt.session <;> simp [Except.isOk, Except.toBool]
  | recipient code index reason =>
      simp only [Scene.leaves, same, Attempt.answer, Attempt.rejectionAnswer, isEarly,
        Trouble.isSoft, Trouble.isGeneral, isAwaited, Trouble.scope, Attempt.passesOver_eq,
        List.any_cons, List.any_nil, Bool.or_false, Bool.false_or]
      by_cases unknown : attempt.request.ledger.size ≤ index
      · have absent := attempt.request.ledger.pending?_of_size_le index unknown
        simp [Ledger.isPending, absent]
      · cases early : ((code / 100 == 4) && !attempt.state.finalServer) <;>
          simp [unknown, Except.isOk, Except.toBool]
  | stream fault stage =>
      simp only [Scene.leaves, Attempt.answer, Attempt.connectedAnswer, isEarly, Trouble.isSoft,
        Trouble.isGeneral]
      cases attempt.session <;> simp [Except.isOk, Except.toBool]
  | streamCode code stage =>
      simp only [Scene.leaves, Attempt.answer, Attempt.connectedAnswer, isEarly, Trouble.isSoft,
        Trouble.isGeneral]
      cases StreamFault.ofCode code <;> cases attempt.session <;>
        simp [Except.isOk, Except.toBool, Except.toOption, bind, Except.bind]

end Call

namespace Policy

variable (policy : Policy)

/-- A call adds to the shortfall of the attempt that it is incomplete just when it comes early, is
answered without an error, and concerns everybody or a recipient that waits. -/
theorem incomplete_undone (call : Call) :
    (policy.undone call.trouble call.scene).incomplete =
      ((policy.answer call).isOk && call.isEarly &&
        (call.trouble.isGeneral || call.isAwaited)) := by
  have answered : policy.answer call = call.scene.attempt.answer call.trouble := by
    rw [answer, handle_eq]
  rw [answered, ← call.leaves_eq, undone]
  cases call.scene.leaves call.trouble with
  | true => rfl
  | false => cases policy.filingFor call.scene call.trouble <;> rfl

/-- Within an attempt, something was left undone by passing over just when one of the calls did so,
or when it was so from the start. -/
theorem run_incomplete (moves : List Move) (scene : Scene)
    (oneAttempt : ∀ session, Move.retry session ∉ moves) :
    (policy.run moves scene).attempt.state.shortfall.incomplete =
      (scene.attempt.state.shortfall.incomplete || (policy.calls moves scene).any fun call =>
        (policy.answer call).isOk && call.isEarly &&
          (call.trouble.isGeneral || call.isAwaited)) := by
  have each := funext policy.incomplete_undone
  have all := Shortfall.incomplete_unionAll (policy.undoneIn moves scene)
  rw [undoneIn, List.any_map] at all
  rw [policy.run_shortfall moves scene oneAttempt, ← each]
  exact congrArg (scene.attempt.state.shortfall.incomplete || ·) all

end Policy

/-- An attempt that was not incomplete before becomes so by a call just when the call is answered
without an error, its trouble is soft, another exchanger may still take the message, and either the
trouble concerns everybody or the rejected recipient waits. This means that somebody was left to
another exchanger or to a later attempt, with one exception: trouble that concerns everybody is
passed over in the same way when nobody waits. -/
theorem incomplete_handle_iff (policy : Policy) (call : Call) :
    let ledger := call.scene.attempt.request.ledger
    let before := call.scene.attempt.state.shortfall.incomplete
    let after :=
      (policy.handle call.trouble call.scene).value.scene.attempt.state.shortfall.incomplete
    let passedOver := (policy.answer call).isOk = true ∧ call.trouble.isSoft = true ∧
      call.scene.attempt.state.finalServer = false
    let somebody := ∃ index ∈ call.trouble.scope ledger.size, ledger.isPending index = true
    (after = true ↔
      before = true ∨ passedOver ∧ (call.trouble.isGeneral = true ∨ somebody)) ∧
    (before = false → ((after = true ↔ passedOver ∧ somebody) ↔
      ¬ (passedOver ∧ call.trouble.isGeneral = true ∧ ¬ somebody))) := by
  intro ledger before after passedOver somebody
  have exactly : after = true ↔
      before = true ∨ passedOver ∧ (call.trouble.isGeneral = true ∨ somebody) := by
    have added := congrArg Shortfall.incomplete (policy.handle_shortfall call.trouble call.scene)
    rw [Shortfall.union, policy.incomplete_undone] at added
    rw [show after = _ from added, Bool.or_eq_true, Bool.and_eq_true, Bool.and_eq_true,
      Bool.or_eq_true, call.isEarly_iff, call.isAwaited_iff]
  refine ⟨exactly, fun fresh => ?_⟩
  have unset : ¬ before = true := by
    rw [fresh]
    exact Bool.false_ne_true
  rw [exactly, or_iff_right unset]
  by_cases left : somebody <;> simp [left]

/-- The only recipient bounces, and then the exchanger fails softly. Nobody waits, but the attempt
is incomplete from then on. -/
theorem incomplete_without_recipients :
    let request : Request := ⟨⟨"4F"⟩, ⟨0, 0, by decide, by decide, by decide⟩, ⟨0⟩,
      ⟨[⟨"a", "a@x", 10, .pending⟩]⟩, none⟩
    let start : Scene := ⟨⟨request, some ⟨"mx", "192.0.2.1"⟩, .fresh⟩, .empty⟩
    let bounced := Policy.standard.run [.trouble (.recipient 550 0 "who")] start
    let call : Call := ⟨.host 450 "busy", bounced⟩
    let ledger := call.scene.attempt.request.ledger
    let after := (Policy.standard.handle call.trouble call.scene).value.scene
    call.scene.attempt.state.shortfall = .none ∧
      ¬ (after.attempt.state.shortfall.incomplete = true ↔
        (Policy.standard.answer call).isOk = true ∧ call.trouble.isSoft = true ∧
          call.scene.attempt.state.finalServer = false ∧
          ∃ index ∈ call.trouble.scope ledger.size, ledger.isPending index = true) := by
  intro request start bounced call ledger after
  have nobody : ∀ index ∈ call.trouble.scope ledger.size, ledger.isPending index = false := by
    decide +kernel
  have incomplete : after.attempt.state.shortfall.incomplete = true := by decide +kernel
  refine ⟨by decide +kernel, fun documented => ?_⟩
  obtain ⟨_, _, _, index, concerned, waits⟩ := documented.mp incomplete
  rw [nobody index concerned] at waits
  cases waits

end Nondelivery
