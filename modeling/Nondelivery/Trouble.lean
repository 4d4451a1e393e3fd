/-
This file decides what becomes of the recipients when a delivery runs into trouble with the remote
exchanger, with the message, with one recipient or with the connection.

A soft failure while another exchanger may still be tried leaves every recipient alone. Any other
failure, and every failure of the last exchanger, puts an outcome on record for each recipient that
it concerns.
-/

import Nondelivery.Policy
import Nondelivery.Scene
import Nondelivery.Fault

namespace Nondelivery

/-- How the delivery client goes on after trouble. -/
inductive Verdict where
  /-- The attempt with this exchanger is over. -/
  | attemptOver
  /-- The attempt goes on with the other recipients. -/
  | carryOn
  deriving DecidableEq, Repr

/-- The answer to trouble, and the scene that it leaves behind. -/
structure Ruling where
  result : Except Misuse Verdict
  scene : Scene

/-- Trouble with a delivery. -/
inductive Trouble where
  /-- The exchanger failed before the message came up. -/
  | host (code : Nat) (reason : String)
  /-- The exchanger rejected the message. -/
  | message (code : Nat) (reason : String)
  /-- The exchanger rejected the recipient at an index. -/
  | recipient (code index : Nat) (reason : String)
  /-- The connection failed while the client was in a stage of the exchange. -/
  | stream (fault : StreamFault) (stage : String)
  /-- The connection failed with a code of the connection layer. -/
  | streamCode (code : Int) (stage : String)
  deriving DecidableEq, Repr

namespace Policy

/-- Handles a failure that concerns every recipient. -/
def failAll (policy : Policy) (scope : Scope) (code : Nat) (reason : String) (scene : Scene) :
    Traced Scene := do
  let severity := Severity.ofCode code
  let after ←
    if scene.passesOver severity then
      scene.passOver reason
    else do
      let disposed ←
        scene.disposeAll policy.softBounce severity.outcome scene.attempt.peerLabel reason
      pure (disposed.latchHopStatus scope severity.outcome reason).markFinal
  after.checkCode code

/-- The exchanger failed before the message came up. No connection is needed for that. -/
def hostFailure (policy : Policy) (code : Nat) (reason : String) (scene : Scene) :
    Traced Ruling := do
  scene.openSpan "host_failure" [("code", toString code)]
  let after ← policy.failAll .host code reason scene
  pure ⟨.ok .attemptOver, after⟩

/-- The exchanger rejected the message as a whole. -/
def messageFailure (policy : Policy) (code : Nat) (reason : String) (scene : Scene) :
    Traced Ruling := do
  scene.openSpan "message_failure" [("code", toString code)]
  if scene.attempt.session.isNone then
    pure ⟨.error .noSession, scene⟩
  else do
    let after ← policy.failAll .message code reason scene
    pure ⟨.ok .attemptOver, after⟩

/-- Handles the rejection of a recipient of the request whose code has been checked. The peer is
given if an outcome is to be recorded. -/
def rejectRecipient (policy : Policy) (severity : Severity) (index : Nat) (peer : Option String)
    (reason : String) (scene : Scene) : Traced Scene :=
  if !scene.attempt.request.ledger.isPending index then do
    scene.attempt.request.note .debug
      "Recipient already has an outcome on record, ignoring failure" [("index", toString index)]
    pure scene
  else
    match peer with
    | none => scene.passOver reason
    | some peer => scene.dispose policy.softBounce severity.outcome peer reason index

/-- The exchanger rejected the recipient at an index, and the attempt goes on with the others. -/
def recipientFailure (policy : Policy) (code index : Nat) (reason : String) (scene : Scene) :
    Traced Ruling := do
  scene.openSpan "recipient_failure" [("code", toString code), ("index", toString index)]
  let severity := Severity.ofCode code
  if scene.attempt.request.ledger.size ≤ index then
    pure ⟨.error (.unknownRecipient index), scene⟩
  else if scene.passesOver severity then do
    let checked ← scene.checkCode code
    let after ← policy.rejectRecipient severity index none reason checked
    pure ⟨.ok .carryOn, after⟩
  else
    match scene.attempt.session with
    | none => pure ⟨.error .noSession, scene⟩
    | some session => do
        let checked ← scene.checkCode code
        let after ← policy.rejectRecipient severity index (some session.label) reason checked
        pure ⟨.ok .carryOn, after⟩

/-- The connection failed. A fault counts as a soft failure of the message. -/
def streamFailure (policy : Policy) (fault : StreamFault) (stage : String) (scene : Scene) :
    Traced Ruling := do
  scene.openSpan "stream_exception" [("fault", fault.text)]
  match scene.attempt.session with
  | none => pure ⟨.error .noSession, scene⟩
  | some session => do
      let reason := fault.reason session.label stage
      let after ←
        if scene.attempt.state.finalServer then
          scene.disposeAll policy.softBounce .deferred session.label reason
        else
          scene.passOver reason
      pure ⟨.ok .attemptOver, after⟩

/-- The connection failed with a code of the connection layer. -/
def streamCodeFailure (policy : Policy) (code : Int) (stage : String) (scene : Scene) :
    Traced Ruling :=
  match StreamFault.ofCode code with
  | .ok fault => policy.streamFailure fault stage scene
  | .error misuse => pure ⟨.error misuse, scene⟩

/-- Handles trouble of any kind. -/
def handle (policy : Policy) : Trouble → Scene → Traced Ruling
  | .host code reason => policy.hostFailure code reason
  | .message code reason => policy.messageFailure code reason
  | .recipient code index reason => policy.recipientFailure code index reason
  | .stream fault stage => policy.streamFailure fault stage
  | .streamCode code stage => policy.streamCodeFailure code stage

end Policy

end Nondelivery
