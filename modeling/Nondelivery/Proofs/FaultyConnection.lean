/-
This file shows that a failure of the connection comes to the same as a soft rejection of the
message, although the two are handled apart: one knows nothing of codes, the other judges its code
and makes the present exchanger the last one.
-/

import Nondelivery.Proofs.Latches
import Nondelivery.Proofs.MisusedCalls
import Nondelivery.Proofs.Notices

namespace Nondelivery

/-- The last exchanger cannot become the last one once more. -/
theorem Scene.remember_final (scene : Scene) (final : scene.attempt.state.finalServer = true) :
    scene.remember { final := true } = scene := by
  refine Eq.trans ?_ scene.remember_none
  simp [remember, Attempt.remember, Aftermath.none, final]

section Fault

variable {code : Nat} (soft : 400 ≤ code ∧ code < 500)

include soft

/-- A fault is filed like a soft rejection of the message for the same reason. -/
theorem Policy.filingFor_fault (policy : Policy) (scene : Scene) (session : Session)
    (connected : scene.attempt.session = some session) (fault : StreamFault) (stage : String) :
    policy.filingFor scene (.stream fault stage) =
      policy.filingFor scene (.message code (fault.reason session.label stage)) := by
  have label : scene.attempt.peerLabel = session.label := by
    rw [Attempt.peerLabel, connected]
    rfl
  have severity := (Severity.ofCode_eq_soft_iff code).mpr soft
  simp only [filingFor, filingForStream, connected, label, severity, Scene.passesOver]
  cases scene.attempt.state.finalServer <;> rfl

/-- Before the last exchanger is tried, a fault and a soft rejection both leave the recipients to
another one. Afterwards all that the rejection adds is that this exchanger is the last one. -/
theorem Attempt.remember_fault (attempt : Attempt) (reason : String) (filed : Scene)
    (connected : attempt.session.isNone = false)
    (sameFinal : filed.attempt.state.finalServer = attempt.state.finalServer) :
    filed.remember (attempt.aftermath (.message code reason)) =
      filed.remember attempt.faultAftermath := by
  have severity := (Severity.ofCode_eq_soft_iff code).mpr soft
  simp only [faultAftermath, aftermath, connected, failureAftermath, passesOver, severity,
    isAnomalous_of_soft soft]
  cases final : attempt.state.finalServer with
  | false => rfl
  | true =>
      rw [final] at sameFinal
      exact (filed.remember_final sameFinal).trans filed.remember_none.symm

end Fault

/-- A failure of the connection is a soft rejection of the message. It is answered in the same way
and leaves the same request, attempt and stores behind as a rejection with any 4xx code whose reason
tells of the fault. Without a connection both are misused alike, whatever the reason is. -/
theorem fault_is_soft_rejection (policy : Policy) (fault : StreamFault) (stage : String)
    (code : Nat) (soft : 400 ≤ code ∧ code < 500) (scene : Scene) :
    let failed := (policy.handle (.stream fault stage) scene).value
    let rejected (reason : String) := (policy.handle (.message code reason) scene).value
    (∀ session, scene.attempt.session = some session →
      failed = rejected (fault.reason session.label stage)) ∧
    (scene.attempt.session = none → ∀ reason, failed = rejected reason) := by
  intro failed rejected
  constructor
  · intro session connected
    have present : scene.attempt.session.isNone = false := by rw [connected, Option.isNone_some]
    have filings := policy.filingFor_fault soft scene session connected fault stage
    let filed := scene.fileAny (policy.filingFor scene (.stream fault stage))
    have sameFinal :=
      (Policy.latches_fileAny (policy.filingFor scene (.stream fault stage)) scene).1
    have remembered := scene.attempt.remember_fault soft (fault.reason session.label stage) filed
      present sameFinal
    calc failed = ⟨scene.attempt.connectedAnswer, filed.remember scene.attempt.faultAftermath⟩ :=
          policy.handle_eq _ scene
      _ = ⟨scene.attempt.connectedAnswer, filed.remember
            (scene.attempt.aftermath (.message code (fault.reason session.label stage)))⟩ := by
          rw [remembered]
      _ = rejected (fault.reason session.label stage) := by
          simp only [rejected, policy.handle_eq, ← filings]
          rfl
  · intro alone reason
    have misused := policy.handle_misused (.stream fault stage alone)
    exact misused.trans (policy.handle_misused (.message code reason alone)).symm

/-- The last exchanger breaks the connection off. The log refuses the second of three deferrals, and
just the same is left behind when the exchanger answers 421 instead. -/
theorem fault_is_soft_rejection_second_refused :
    let recipients : List Recipient := [⟨"a", "a@x", 10, .pending⟩, ⟨"b", "b@x", 20, .pending⟩,
      ⟨"c", "c@x", 30, .pending⟩]
    let request : Request :=
      ⟨⟨"4F"⟩, ⟨0, 0, by decide, by decide, by decide⟩, ⟨0⟩, ⟨recipients⟩, none⟩
    let state : AttemptState := { finalServer := true }
    let scene : Scene := ⟨⟨request, some ⟨"mx", "192.0.2.1"⟩, state⟩,
      ⟨⟨none, { refused := [2] }⟩, ⟨none, .empty⟩, ⟨none, .empty⟩⟩⟩
    let failed := (Policy.standard.handle (.stream .lost "sending") scene).value
    failed = (Policy.standard.handle
        (.message 421 "lost connection with mx[192.0.2.1] while sending") scene).value ∧
      failed.scene.stores.deferLog.backend.records.map Record.address = ["a@x", "c@x"] ∧
      failed.scene.attempt.request.ledger.pendingIndices = [1] ∧
      failed.scene.attempt.request.hopStatus = none := by
  intro recipients request state scene failed
  obtain ⟨connected, _⟩ :=
    fault_is_soft_rejection .standard .lost "sending" 421 (by decide) scene
  have same := connected ⟨"mx", "192.0.2.1"⟩ rfl
  have reason : StreamFault.lost.reason (Session.label ⟨"mx", "192.0.2.1"⟩) "sending" =
      "lost connection with mx[192.0.2.1] while sending" := by decide
  rw [reason] at same
  exact ⟨same, by decide +kernel, by decide +kernel, by decide +kernel⟩

end Nondelivery
