/-
This file says in closed form what handling trouble comes to, call by call, and what each call puts
on record.
-/

import Nondelivery.Proofs.Filing
import Nondelivery.Trouble

namespace Nondelivery

/-- Exactly the 4xx codes are soft. -/
theorem Severity.isSoft_ofCode (code : Nat) :
    (Severity.ofCode code).isSoft = decide (code / 100 = 4) := by
  unfold Severity.ofCode
  split <;> simp_all [Severity.isSoft]

/-- Exactly the 4xx codes lead to deferrals of their own. -/
theorem Severity.outcome_ofCode (code : Nat) :
    (Severity.ofCode code).outcome = .deferred ↔ code / 100 = 4 := by
  unfold Severity.ofCode
  split <;> simp_all [Severity.outcome]

/-- A bounce is recorded for the other codes, unless bounces are softened. -/
theorem Severity.soften_outcome_ofCode (code : Nat) (softBounce : Bool) :
    (Severity.ofCode code).outcome.soften softBounce =
      if code / 100 = 4 ∨ softBounce = true then .deferred else .bounced := by
  unfold Severity.ofCode
  split <;> cases softBounce <;> simp_all [Severity.outcome, Outcome.soften]

namespace Scene

/-- The scene after its recipients were left to another exchanger. -/
def passedOver (scene : Scene) : Scene :=
  { scene with attempt.state := scene.attempt.state.add .incompleteOnly }

/-- The scene after note was taken of a code. -/
def checked (code : Nat) (scene : Scene) : Scene :=
  { scene with attempt.state :=
      if isAnomalous code then scene.attempt.state.flag .protocolOnly else scene.attempt.state }

theorem passOver_value (scene : Scene) (reason : String) :
    (scene.passOver reason).value = scene.passedOver := rfl

theorem checkCode_value (scene : Scene) (code : Nat) :
    (scene.checkCode code).value = scene.checked code := by
  unfold checkCode checked
  split <;> rfl

@[simp] theorem checked_request (code : Nat) (scene : Scene) :
    (scene.checked code).attempt.request = scene.attempt.request := rfl

@[simp] theorem checked_stores (code : Nat) (scene : Scene) :
    (scene.checked code).stores = scene.stores := rfl

/-- It does not matter whether a code is noted before or after outcomes are recorded. -/
theorem file_checked (code : Nat) (filing : Filing) (scene : Scene) :
    (scene.checked code).file filing = (scene.file filing).checked code := by
  unfold checked
  split <;> rfl

theorem passedOver_checked (code : Nat) (scene : Scene) :
    (scene.checked code).passedOver = scene.passedOver.checked code := by
  unfold checked
  split <;> rfl

end Scene

namespace Policy

variable (policy : Policy)

/-- The filing of a failure for the recipients that it concerns. -/
def filing (severity : Severity) (peer reason : String) (entries : List (Nat × Recipient)) :
    Filing :=
  ⟨severity.outcome.soften policy.softBounce, peer, reason, entries⟩

/-- The scene after a failure of the exchanger or of the message was handled. -/
def failedAll (scope : Scope) (code : Nat) (reason : String) (scene : Scene) : Scene :=
  if scene.passesOver (.ofCode code) then
    scene.passedOver.checked code
  else
    (((scene.file (policy.filing (.ofCode code) scene.attempt.peerLabel reason
      scene.attempt.request.ledger.pending)).latchHopStatus scope
        (Severity.ofCode code).outcome reason).markFinal).checked code

theorem failAll_value (scope : Scope) (code : Nat) (reason : String) (scene : Scene) :
    (policy.failAll scope code reason scene).value =
      policy.failedAll scope code reason scene := by
  simp only [failAll, failedAll]
  cases scene.passesOver (Severity.ofCode code) with
  | true =>
      simp only [if_true, Traced.value_bind, Scene.checkCode_value, Scene.passOver_value]
  | false =>
      simp only [Bool.false_eq_true, if_false, Traced.value_bind, Traced.value_pure,
        Scene.checkCode_value, Scene.disposeAll_value]
      rfl

theorem hostFailure_value (code : Nat) (reason : String) (scene : Scene) :
    (policy.hostFailure code reason scene).value =
      ⟨.ok .attemptOver, policy.failedAll .host code reason scene⟩ := by
  simp only [hostFailure, Traced.value_bind, Traced.value_pure, failAll_value]

theorem messageFailure_value (code : Nat) (reason : String) (scene : Scene) :
    (policy.messageFailure code reason scene).value =
      if scene.attempt.session.isNone then ⟨.error .noSession, scene⟩
      else ⟨.ok .attemptOver, policy.failedAll .message code reason scene⟩ := by
  simp only [messageFailure, Traced.value_bind]
  split
  · rfl
  · simp only [Traced.value_bind, Traced.value_pure, failAll_value]

/-- The scene after the rejection of one recipient was handled, for which the peer is known. -/
def rejectedRecipient (code index : Nat) (session : Session) (reason : String) (scene : Scene) :
    Scene :=
  match scene.attempt.request.ledger.pending? index with
  | none => scene.checked code
  | some recipient =>
      (scene.file (policy.filing (.ofCode code) session.label reason
        [(index, recipient)])).checked code

theorem recipientFailure_value (code index : Nat) (reason : String) (scene : Scene) :
    (policy.recipientFailure code index reason scene).value =
      if scene.attempt.request.ledger.size ≤ index then
        ⟨.error (.unknownRecipient index), scene⟩
      else if scene.passesOver (.ofCode code) then
        ⟨.ok .carryOn, if scene.attempt.request.ledger.isPending index
          then scene.passedOver.checked code else scene.checked code⟩
      else
        match scene.attempt.session with
        | none => ⟨.error .noSession, scene⟩
        | some session =>
            ⟨.ok .carryOn, policy.rejectedRecipient code index session reason scene⟩ := by
  simp only [recipientFailure, Traced.value_bind]
  split
  · rfl
  split
  · simp only [Traced.value_bind, Traced.value_pure, Scene.checkCode_value, rejectRecipient,
      Scene.checked_request]
    cases waits : scene.attempt.request.ledger.isPending index
    · rfl
    · simp only [Bool.not_true, Bool.false_eq_true, if_false, if_true, Scene.passOver_value,
        Scene.passedOver_checked]
  · cases connected : scene.attempt.session with
    | none => rfl
    | some session =>
        simp only [Traced.value_bind, Traced.value_pure, Scene.checkCode_value, rejectRecipient,
          Scene.checked_request, rejectedRecipient, Ledger.isPending]
        cases waits : scene.attempt.request.ledger.pending? index with
        | none => rfl
        | some recipient =>
            simp only [Option.isSome_some, Bool.not_true, Bool.false_eq_true, if_false]
            rw [Scene.dispose_waiting _ _ _ _ _ index recipient (by simpa using waits),
              Scene.file_checked]
            rfl

theorem streamFailure_value (fault : StreamFault) (stage : String) (scene : Scene) :
    (policy.streamFailure fault stage scene).value =
      match scene.attempt.session with
      | none => ⟨.error .noSession, scene⟩
      | some session =>
          ⟨.ok .attemptOver,
            if scene.attempt.state.finalServer then
              scene.file (policy.filing .soft session.label (fault.reason session.label stage)
                scene.attempt.request.ledger.pending)
            else scene.passedOver⟩ := by
  simp only [streamFailure, Traced.value_bind]
  cases connected : scene.attempt.session with
  | none => rfl
  | some session =>
      cases scene.attempt.state.finalServer
      · rfl
      · simp only [if_true, Traced.value_bind, Traced.value_pure, Scene.disposeAll_value]
        rfl

theorem streamCodeFailure_value (code : Int) (stage : String) (scene : Scene) :
    (policy.streamCodeFailure code stage scene).value =
      match StreamFault.ofCode code with
      | .error misuse => ⟨.error misuse, scene⟩
      | .ok fault => (policy.streamFailure fault stage scene).value := by
  unfold streamCodeFailure
  cases StreamFault.ofCode code <;> rfl

/-- What is put on record for a failure of the connection. -/
def filingForStream (scene : Scene) (fault : StreamFault) (stage : String) : Option Filing :=
  scene.attempt.session.bind fun session =>
    if scene.attempt.state.finalServer then
      some (policy.filing .soft session.label (fault.reason session.label stage)
        scene.attempt.request.ledger.pending)
    else none

/-- What is put on record for trouble of any kind. -/
def filingFor (scene : Scene) : Trouble → Option Filing
  | .host code reason =>
      if scene.passesOver (.ofCode code) then none
      else some (policy.filing (.ofCode code) scene.attempt.peerLabel reason
        scene.attempt.request.ledger.pending)
  | .message code reason =>
      if scene.attempt.session.isNone || scene.passesOver (.ofCode code) then none
      else some (policy.filing (.ofCode code) scene.attempt.peerLabel reason
        scene.attempt.request.ledger.pending)
  | .recipient code index reason =>
      if scene.passesOver (.ofCode code) then none
      else scene.attempt.session.bind fun session =>
        (scene.attempt.request.ledger.pending? index).map fun recipient =>
          policy.filing (.ofCode code) session.label reason [(index, recipient)]
  | .stream fault stage => policy.filingForStream scene fault stage
  | .streamCode code stage =>
      (StreamFault.ofCode code).toOption.bind fun fault => policy.filingForStream scene fault stage

/-- What is put on record does not depend on the stores. -/
theorem filingFor_stores (attempt : Attempt) (left right : Stores) (trouble : Trouble) :
    policy.filingFor ⟨attempt, left⟩ trouble = policy.filingFor ⟨attempt, right⟩ trouble := by
  cases trouble <;> rfl

/-- A failure of the connection is put on record for the last exchanger only. -/
theorem filingForStream_eq_some (fault : StreamFault) (stage : String) (scene : Scene)
    (filing : Filing) (filed : policy.filingForStream scene fault stage = some filing) :
    ∃ session, scene.attempt.session = some session ∧
      scene.attempt.state.finalServer = true ∧
      filing = policy.filing .soft session.label (fault.reason session.label stage)
        scene.attempt.request.ledger.pending := by
  obtain ⟨session, connected, chosen⟩ := Option.bind_eq_some_iff.mp filed
  split at chosen
  · exact ⟨session, connected, ‹_›, (Option.some.inj chosen).symm⟩
  · cases chosen

theorem filingForStream_entries (scene : Scene) (fault : StreamFault) (stage : String)
    (filing : Filing) (filed : policy.filingForStream scene fault stage = some filing) :
    filing.entries.Sublist scene.attempt.request.ledger.pending := by
  obtain ⟨_, _, _, rfl⟩ := policy.filingForStream_eq_some fault stage scene filing filed
  exact List.Sublist.refl _

/-- Outcomes are only put on record for recipients that wait. -/
theorem filingFor_entries (trouble : Trouble) (scene : Scene) (filing : Filing)
    (filed : policy.filingFor scene trouble = some filing) :
    filing.entries.Sublist scene.attempt.request.ledger.pending := by
  cases trouble with
  | host code reason =>
      simp only [filingFor] at filed
      split at filed
      · cases filed
      · obtain rfl := Option.some.inj filed
        exact List.Sublist.refl _
  | message code reason =>
      simp only [filingFor] at filed
      split at filed
      · cases filed
      · obtain rfl := Option.some.inj filed
        exact List.Sublist.refl _
  | recipient code index reason =>
      simp only [filingFor] at filed
      split at filed
      · cases filed
      · obtain ⟨session, _, chosen⟩ := Option.bind_eq_some_iff.mp filed
        obtain ⟨recipient, waits, rfl⟩ := Option.map_eq_some_iff.mp chosen
        exact List.singleton_sublist.mpr ((Ledger.mem_pending _ _ _).mpr waits)
  | stream fault stage => exact policy.filingForStream_entries scene fault stage filing filed
  | streamCode code stage =>
      obtain ⟨fault, _, chosen⟩ := Option.bind_eq_some_iff.mp filed
      exact policy.filingForStream_entries scene fault stage filing chosen

end Policy

/-- The scene after the outcomes of a filing, if there is one, have been recorded. -/
def Scene.fileAny (filing? : Option Filing) (scene : Scene) : Scene :=
  filing?.elim scene fun filing => scene.file filing

/-- Two scenes keep the same books: they agree on the stores, and on the request apart from its hop
status. -/
structure Scene.SameBooks (left right : Scene) : Prop where
  stores : left.stores = right.stores
  queueId : left.attempt.request.queueId = right.attempt.request.queueId
  arrival : left.attempt.request.arrival = right.attempt.request.arrival
  purposes : left.attempt.request.purposes = right.attempt.request.purposes
  ledger : left.attempt.request.ledger = right.attempt.request.ledger

/-- Keeping the hop status, going over to the last exchanger and noting a code leave the books
alone. -/
theorem Scene.SameBooks.closing (scene : Scene) (scope : Scope) (outcome : Outcome)
    (reason : String) (code : Nat) :
    (((scene.latchHopStatus scope outcome reason).markFinal).checked code).SameBooks scene := by
  unfold latchHopStatus
  split <;> exact ⟨rfl, rfl, rfl, rfl, rfl⟩

end Nondelivery
