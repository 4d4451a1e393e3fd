/-
This file defines what one decision can change, an attempt and the stores, and the steps of which
decisions are made: passing over the recipients, recording outcomes for them and checking a code.
-/

import Nondelivery.Disposal
import Nondelivery.Severity

namespace Nondelivery

/-- An attempt together with the stores in which its outcomes are kept. -/
structure Scene where
  attempt : Attempt
  stores : Stores
  deriving DecidableEq

/-- What a failure concerns besides the recipients of the message. -/
inductive Scope where
  /-- The exchanger as a whole. -/
  | host
  /-- The message as a whole. -/
  | message
  deriving DecidableEq, Repr

namespace Scene

/-- Opens the span of a call that handles trouble. -/
def openSpan (scene : Scene) (name : String) (fields : Fields) : Traced Unit :=
  Traced.span .trace name (("queue_id", scene.attempt.request.queueId.text) :: fields)

/-- Soft failures are passed over while another exchanger may still take the message. -/
def passesOver (scene : Scene) (severity : Severity) : Bool :=
  severity.isSoft && !scene.attempt.state.finalServer

/-- Leaves the recipients to another exchanger. -/
def passOver (scene : Scene) (reason : String) : Traced Scene := do
  Traced.event .info reason [("queue_id", scene.attempt.request.queueId.text)]
  pure { scene with attempt.state := scene.attempt.state.add .incompleteOnly }

/-- Takes note of a code that points at a misunderstanding. It concerns the postmaster only and
never the recipients. -/
def checkCode (scene : Scene) (code : Nat) : Traced Scene :=
  if isAnomalous code then do
    Traced.remote .debug "Reply code points at a protocol error"
      [("status", (Reply.ofCode code).name)]
    pure { scene with attempt.state := scene.attempt.state.flag .protocolOnly }
  else
    pure scene

/-- Records an outcome for the recipient at an index. -/
def dispose (softBounce : Bool) (outcome : Outcome) (peer reason : String) (scene : Scene)
    (index : Nat) : Traced Scene := do
  let disposal ← scene.stores.dispose softBounce outcome scene.attempt.request index peer reason
  pure {
    attempt := { scene.attempt with
      request := disposal.request, state := scene.attempt.state.add disposal.shortfall }
    stores := disposal.stores }

/-- Records an outcome for every recipient that waits, in order. -/
def disposeAll (softBounce : Bool) (outcome : Outcome) (peer reason : String) (scene : Scene) :
    Traced Scene :=
  scene.attempt.request.ledger.pendingIndices.foldlM (dispose softBounce outcome peer reason) scene

/-- Keeps the reason of a deferral by the exchanger as a whole. -/
def latchHopStatus (scope : Scope) (outcome : Outcome) (reason : String) (scene : Scene) : Scene :=
  if scope = .host ∧ outcome = .deferred then
    { scene with attempt.request := scene.attempt.request.latchHopStatus reason }
  else
    scene

/-- Makes the present exchanger the last one. -/
def markFinal (scene : Scene) : Scene :=
  { scene with attempt.state := scene.attempt.state.markFinal }

end Scene

end Nondelivery
