/-
This file splits what handling trouble comes to into three parts: the answer, the outcomes that are
put on record, and what the attempt remembers besides. The answer and the memory depend on the
attempt alone, and nothing that is remembered is ever taken back.
-/

import Nondelivery.Proofs.Handling

namespace Nondelivery

theorem Shortfall.union_right_comm (first second third : Shortfall) :
    (first.union second).union third = (first.union third).union second := by
  simp [union, Bool.or_right_comm]

/-- What an attempt remembers of trouble besides the outcomes that are put on record for it. -/
structure Aftermath where
  /-- Recipients were left to another exchanger. -/
  passedOver : Bool := false
  /-- The reason that becomes the hop status unless there is one already. -/
  hopStatus : Option String := none
  /-- The present exchanger has become the last one. -/
  final : Bool := false
  /-- A code points at a misunderstanding. -/
  anomalous : Bool := false

namespace Aftermath

/-- Nothing is remembered. -/
def none : Aftermath := {}

/-- What is remembered of two things that happened one after the other. -/
def union (first second : Aftermath) : Aftermath where
  passedOver := first.passedOver || second.passedOver
  hopStatus := first.hopStatus <|> second.hopStatus
  final := first.final || second.final
  anomalous := first.anomalous || second.anomalous

@[simp] theorem union_self (aftermath : Aftermath) : aftermath.union aftermath = aftermath := by
  rcases aftermath with ⟨passedOver, hopStatus, final, anomalous⟩
  cases hopStatus <;> simp [union]

end Aftermath

/-- Adds to what an attempt remembers. -/
def Attempt.remember (aftermath : Aftermath) (attempt : Attempt) : Attempt where
  request := { attempt.request with
    hopStatus := attempt.request.hopStatus <|> aftermath.hopStatus }
  session := attempt.session
  state := {
    shortfall := attempt.state.shortfall.union { incomplete := aftermath.passedOver }
    finalServer := attempt.state.finalServer || aftermath.final
    concerns := attempt.state.concerns.union { protocol := aftermath.anomalous } }

namespace Attempt

/-- A failure with this code is passed over. -/
def passesOver (attempt : Attempt) (code : Nat) : Bool :=
  (Severity.ofCode code).isSoft && !attempt.state.finalServer

/-- A 4xx code is passed over while another exchanger may still take the message. -/
theorem passesOver_eq (attempt : Attempt) (code : Nat) :
    attempt.passesOver code = ((code / 100 == 4) && !attempt.state.finalServer) := by
  rw [passesOver, Severity.isSoft_ofCode]
  rfl

/-- What is not soft is never passed over, and the last exchanger passes nothing over. -/
theorem passesOver_eq_false (attempt : Attempt) (code : Nat) :
    attempt.passesOver code = false ↔
      code / 100 ≠ 4 ∨ attempt.state.finalServer = true := by
  simp [passesOver, Severity.isSoft_ofCode, Decidable.imp_iff_not_or]

/-- What is remembered of a failure that concerns every recipient. -/
def failureAftermath (attempt : Attempt) (scope : Scope) (code : Nat) (reason : String) :
    Aftermath :=
  if attempt.passesOver code then
    { passedOver := true, anomalous := isAnomalous code }
  else {
    hopStatus :=
      if scope = .host ∧ (Severity.ofCode code).outcome = .deferred then some reason else none
    final := true
    anomalous := isAnomalous code }

/-- What is remembered of the rejection of one recipient. -/
def rejectionAftermath (attempt : Attempt) (code index : Nat) : Aftermath :=
  if attempt.request.ledger.size ≤ index then .none
  else if attempt.passesOver code then
    { passedOver := attempt.request.ledger.isPending index, anomalous := isAnomalous code }
  else if attempt.session.isNone then .none
  else { anomalous := isAnomalous code }

/-- What is remembered of a failure of the connection. -/
def faultAftermath (attempt : Attempt) : Aftermath :=
  if attempt.session.isNone then .none
  else { passedOver := !attempt.state.finalServer }

/-- What is remembered of trouble. -/
def aftermath (attempt : Attempt) : Trouble → Aftermath
  | .host code reason => attempt.failureAftermath .host code reason
  | .message code reason =>
      if attempt.session.isNone then .none else attempt.failureAftermath .message code reason
  | .recipient code index _ => attempt.rejectionAftermath code index
  | .stream _ _ => attempt.faultAftermath
  | .streamCode code _ =>
      if (StreamFault.ofCode code).isOk then attempt.faultAftermath else .none

/-- The answer to a rejection of one recipient. -/
def rejectionAnswer (attempt : Attempt) (code index : Nat) : Except Misuse Verdict :=
  if attempt.request.ledger.size ≤ index then .error (.unknownRecipient index)
  else if attempt.session.isNone && !attempt.passesOver code then .error .noSession
  else .ok .carryOn

/-- The answer to trouble for which a connection is needed. -/
def connectedAnswer (attempt : Attempt) : Except Misuse Verdict :=
  if attempt.session.isNone then .error .noSession else .ok .attemptOver

/-- The answer to trouble. -/
def answer (attempt : Attempt) : Trouble → Except Misuse Verdict
  | .host _ _ => .ok .attemptOver
  | .message _ _ => attempt.connectedAnswer
  | .recipient code index _ => attempt.rejectionAnswer code index
  | .stream _ _ => attempt.connectedAnswer
  | .streamCode code _ => StreamFault.ofCode code >>= fun _ => attempt.connectedAnswer

/-- The rejection of one recipient moves no latch. -/
theorem rejectionAftermath_latches (attempt : Attempt) (code index : Nat) :
    (attempt.rejectionAftermath code index).final = false ∧
      (attempt.rejectionAftermath code index).hopStatus = none := by
  unfold rejectionAftermath
  split
  · exact ⟨rfl, rfl⟩
  · split
    · exact ⟨rfl, rfl⟩
    · split <;> exact ⟨rfl, rfl⟩

/-- A failure of the connection moves no latch. -/
theorem faultAftermath_latches (attempt : Attempt) :
    attempt.faultAftermath.final = false ∧ attempt.faultAftermath.hopStatus = none := by
  unfold faultAftermath
  split <;> exact ⟨rfl, rfl⟩

/-- Before the last exchanger is tried, no reason becomes the hop status. -/
theorem hopStatus_aftermath_early (attempt : Attempt) (trouble : Trouble)
    (early : attempt.state.finalServer = false) : (attempt.aftermath trouble).hopStatus = none := by
  have failures (scope : Scope) (code : Nat) (reason : String) :
      (attempt.failureAftermath scope code reason).hopStatus = none := by
    unfold failureAftermath passesOver
    cases Severity.ofCode code <;> simp [early, Severity.isSoft, Severity.outcome]
  cases trouble with
  | host code reason => exact failures .host code reason
  | message code reason =>
      simp only [aftermath]
      split
      · rfl
      · exact failures .message code reason
  | recipient code index reason => exact (attempt.rejectionAftermath_latches code index).2
  | stream fault stage => exact attempt.faultAftermath_latches.2
  | streamCode code stage =>
      simp only [aftermath]
      split
      · exact attempt.faultAftermath_latches.2
      · rfl

theorem remember_none (attempt : Attempt) : attempt.remember .none = attempt := by
  rcases attempt with ⟨request, session, shortfall, finalServer, concerns⟩
  simp [remember, Aftermath.none, Shortfall.union, Concerns.union]

theorem passesOver_remember (aftermath : Aftermath) (attempt : Attempt) (code : Nat) :
    (attempt.remember aftermath).passesOver code =
      (attempt.passesOver code && !aftermath.final) := by
  simp [passesOver, remember, Bool.and_assoc]

theorem remember_remember (first second : Aftermath) (attempt : Attempt) :
    (attempt.remember first).remember second = attempt.remember (first.union second) := by
  simp [remember, Aftermath.union, Shortfall.union, Concerns.union, Bool.or_assoc, Option.or_assoc]

end Attempt

namespace Scene

/-- Adds to what the attempt of a scene remembers. -/
def remember (aftermath : Aftermath) (scene : Scene) : Scene :=
  { scene with attempt := scene.attempt.remember aftermath }

theorem remember_none (scene : Scene) : scene.remember .none = scene := by
  rw [remember, Attempt.remember_none]

theorem remember_remember (first second : Aftermath) (scene : Scene) :
    (scene.remember first).remember second = scene.remember (first.union second) := by
  simp only [remember, Attempt.remember_remember]

/-- It does not matter whether something is remembered before or after outcomes are recorded. -/
theorem file_remember (aftermath : Aftermath) (filing : Filing) (scene : Scene) :
    (scene.remember aftermath).file filing = (scene.file filing).remember aftermath := by
  have undone := scene.attempt.state.shortfall.union_right_comm
    { incomplete := aftermath.passedOver } (filing.shortfall scene.stores)
  simp only [file, remember, Attempt.remember, AttemptState.add, undone]
  rfl

theorem fileAny_remember (aftermath : Aftermath) (filing? : Option Filing) (scene : Scene) :
    (scene.remember aftermath).fileAny filing? = (scene.fileAny filing?).remember aftermath := by
  cases filing? with
  | none => rfl
  | some filing => exact file_remember aftermath filing scene

theorem passedOver_eq (scene : Scene) :
    scene.passedOver = scene.remember { passedOver := true } := by
  simp [passedOver, remember, Attempt.remember, AttemptState.add, Shortfall.incompleteOnly,
    Concerns.union]

theorem checked_eq (code : Nat) (scene : Scene) :
    scene.checked code = scene.remember { anomalous := isAnomalous code } := by
  cases anomalous : isAnomalous code <;>
    simp [checked, anomalous, remember, Attempt.remember, AttemptState.flag, Shortfall.union,
      Concerns.union, Concerns.protocolOnly]

theorem passedOver_checked_eq (code : Nat) (scene : Scene) :
    scene.passedOver.checked code =
      scene.remember { passedOver := true, anomalous := isAnomalous code } := by
  simp [passedOver_eq, checked_eq, remember, Attempt.remember, Shortfall.union, Concerns.union]

theorem closing_eq (scope : Scope) (outcome : Outcome) (reason : String) (code : Nat)
    (scene : Scene) :
    ((scene.latchHopStatus scope outcome reason).markFinal).checked code = scene.remember {
      hopStatus := if scope = .host ∧ outcome = .deferred then some reason else none
      final := true
      anomalous := isAnomalous code } := by
  rw [checked_eq, latchHopStatus]
  split <;>
    simp [markFinal, AttemptState.markFinal, remember, Attempt.remember, Request.latchHopStatus,
      Shortfall.union]

end Scene

namespace Policy

variable (policy : Policy)

theorem failedAll_eq (scope : Scope) (code : Nat) (reason : String) (scene : Scene) :
    policy.failedAll scope code reason scene =
      (scene.fileAny (policy.filingFor scene (.host code reason))).remember
        (scene.attempt.failureAftermath scope code reason) := by
  have same : scene.passesOver (.ofCode code) = scene.attempt.passesOver code := rfl
  simp only [failedAll, filingFor, Attempt.failureAftermath, same]
  cases scene.attempt.passesOver code
  · exact Scene.closing_eq scope _ reason code _
  · exact scene.passedOver_checked_eq code

theorem handle_message_eq (code : Nat) (reason : String) (scene : Scene) :
    (policy.handle (.message code reason) scene).value = ⟨scene.attempt.connectedAnswer,
      (scene.fileAny (policy.filingFor scene (.message code reason))).remember
        (scene.attempt.aftermath (.message code reason))⟩ := by
  simp only [handle, messageFailure_value, Attempt.connectedAnswer, Attempt.aftermath]
  cases alone : scene.attempt.session.isNone with
  | true =>
      simp only [filingFor, alone, Bool.true_or, if_true]
      exact congrArg (Ruling.mk _) scene.remember_none.symm
  | false =>
      have sameFiling : policy.filingFor scene (.message code reason) =
          policy.filingFor scene (.host code reason) := by
        simp only [filingFor, alone, Bool.false_or]
      simp only [Bool.false_eq_true, if_false, sameFiling]
      exact congrArg (Ruling.mk _) (policy.failedAll_eq .message code reason scene)

theorem handle_recipient_eq (code index : Nat) (reason : String) (scene : Scene) :
    (policy.handle (.recipient code index reason) scene).value =
      ⟨scene.attempt.rejectionAnswer code index,
        (scene.fileAny (policy.filingFor scene (.recipient code index reason))).remember
          (scene.attempt.rejectionAftermath code index)⟩ := by
  have same : scene.passesOver (.ofCode code) = scene.attempt.passesOver code := rfl
  simp only [handle, recipientFailure_value, Attempt.rejectionAnswer, Attempt.rejectionAftermath,
    filingFor, same]
  by_cases unknown : scene.attempt.request.ledger.size ≤ index
  · have absent := scene.attempt.request.ledger.pending?_of_size_le index unknown
    have nothing : (if scene.attempt.passesOver code then none
        else scene.attempt.session.bind fun _ => none) = (none : Option Filing) := by
      cases scene.attempt.session <;> exact ite_self _
    simp only [unknown, if_true, absent, Option.map_none, nothing]
    exact congrArg (Ruling.mk _) scene.remember_none.symm
  simp only [unknown, if_false]
  cases passes : scene.attempt.passesOver code with
  | true =>
      simp only [if_true, Bool.not_true, Bool.and_false, Bool.false_eq_true, if_false]
      apply congrArg (Ruling.mk _)
      cases scene.attempt.request.ledger.isPending index
      · exact scene.checked_eq code
      · exact scene.passedOver_checked_eq code
  | false =>
      cases connected : scene.attempt.session with
      | none => exact congrArg (Ruling.mk _) scene.remember_none.symm
      | some session =>
          apply congrArg (Ruling.mk _)
          simp only [rejectedRecipient, Option.bind_some]
          cases scene.attempt.request.ledger.pending? index <;> exact Scene.checked_eq code _

theorem handle_stream_eq (fault : StreamFault) (stage : String) (scene : Scene) :
    (policy.handle (.stream fault stage) scene).value = ⟨scene.attempt.connectedAnswer,
      (scene.fileAny (policy.filingForStream scene fault stage)).remember
        scene.attempt.faultAftermath⟩ := by
  simp only [handle, streamFailure_value, Attempt.connectedAnswer, Attempt.faultAftermath,
    filingForStream]
  cases connected : scene.attempt.session with
  | none => exact congrArg (Ruling.mk _) scene.remember_none.symm
  | some session =>
      apply congrArg (Ruling.mk _)
      cases scene.attempt.state.finalServer
      · exact scene.passedOver_eq
      · exact (Scene.remember_none _).symm

/-- Trouble of any kind is answered from the attempt alone; outcomes are put on record first, and
the attempt then remembers what there is to remember. -/
theorem handle_eq (trouble : Trouble) (scene : Scene) :
    (policy.handle trouble scene).value = ⟨scene.attempt.answer trouble,
      (scene.fileAny (policy.filingFor scene trouble)).remember
        (scene.attempt.aftermath trouble)⟩ := by
  cases trouble with
  | host code reason =>
      exact (policy.hostFailure_value code reason scene).trans
        (congrArg (Ruling.mk _) (policy.failedAll_eq .host code reason scene))
  | message code reason => exact policy.handle_message_eq code reason scene
  | recipient code index reason => exact policy.handle_recipient_eq code index reason scene
  | stream fault stage => exact policy.handle_stream_eq fault stage scene
  | streamCode code stage =>
      simp only [handle, streamCodeFailure_value, filingFor, Attempt.answer, Attempt.aftermath]
      cases known : StreamFault.ofCode code with
      | error misuse => exact congrArg (Ruling.mk _) scene.remember_none.symm
      | ok fault => exact policy.handle_stream_eq fault stage scene

/-- Besides what is put on record, a call leaves the books alone. -/
theorem handle_sameBooks (trouble : Trouble) (scene : Scene) :
    (policy.handle trouble scene).value.scene.SameBooks
      (scene.fileAny (policy.filingFor scene trouble)) := by
  rw [handle_eq]
  exact ⟨rfl, rfl, rfl, rfl, rfl⟩

end Policy

end Nondelivery
