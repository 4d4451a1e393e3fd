/-
This file describes the complete effect of a failure of the exchanger or of the message that is not
passed over: every waiting recipient gets exactly one append, and everything else follows from which
of the appends the log accepts.
-/

import Nondelivery.Proofs.Aftermath

namespace Nondelivery

/-- A failure that concerns every recipient. -/
def Scope.trouble (code : Nat) (reason : String) : Scope → Trouble
  | .host => .host code reason
  | .message => .message code reason

namespace Stores

variable (deferLog bounceLog : Logbook) (queueFile : QueueFile) (outcome : Outcome)

end Stores

namespace Filing

variable (filing : Filing) (attempt : Attempt) (deferLog bounceLog : Logbook)
  (queueFile : QueueFile)

end Filing

namespace Policy

variable (policy : Policy) (scope : Scope) (code : Nat) (reason : String) (scene : Scene)

/-- The answer to a failure of the exchanger or of the message, once there is a connection if one is
needed. -/
theorem handle_scope (connected : scope = .message → scene.attempt.session.isSome = true) :
    (policy.handle (scope.trouble code reason) scene).value =
      ⟨.ok .attemptOver, policy.failedAll scope code reason scene⟩ := by
  cases scope with
  | host => exact policy.hostFailure_value code reason scene
  | message =>
      have present : scene.attempt.session.isNone = false := by
        simpa using connected rfl
      simp only [Scope.trouble, handle, messageFailure_value, present, Bool.false_eq_true, if_false]

/-- A failure that is not passed over is filed for every waiting recipient. -/
theorem failedAll_disposing
    (disposing : code / 100 ≠ 4 ∨ scene.attempt.state.finalServer = true) :
    policy.failedAll scope code reason scene =
      (((scene.file (policy.filing (.ofCode code) scene.attempt.peerLabel reason
        scene.attempt.request.ledger.pending)).latchHopStatus scope
          (Severity.ofCode code).outcome reason).markFinal).checked code := by
  have stays : scene.passesOver (.ofCode code) = false := by
    rw [Scene.passesOver, Severity.isSoft_ofCode]
    rcases disposing with other | final
    · simp [other]
    · simp [final]
  rw [failedAll, stays]
  rfl

/-- What an attempt remembers of a failure that is not passed over. -/
def disposingAftermath : Aftermath where
  hopStatus :=
    if scope = .host ∧ (Severity.ofCode code).outcome = .deferred then some reason else none
  final := true
  anomalous := isAnomalous code

/-- A failure that is not passed over is answered, filed for every waiting recipient and
remembered. -/
theorem handle_disposing (connected : scope = .message → scene.attempt.session.isSome = true)
    (disposing : code / 100 ≠ 4 ∨ scene.attempt.state.finalServer = true) :
    (policy.handle (scope.trouble code reason) scene).value = ⟨.ok .attemptOver,
      (scene.file (policy.filing (.ofCode code) scene.attempt.peerLabel reason
        scene.attempt.request.ledger.pending)).remember
          (disposingAftermath scope code reason)⟩ := by
  rw [policy.handle_scope scope code reason scene connected,
    policy.failedAll_disposing scope code reason scene disposing, Scene.closing_eq]
  rfl

end Policy

end Nondelivery
