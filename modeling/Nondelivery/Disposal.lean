/-
This file puts the outcome of one recipient on record. The recipient is completed only after its
record is in a log: when the log refuses the record the recipient keeps waiting, so that a later
attempt records the outcome instead of losing it.
-/

import Nondelivery.Attempt
import Nondelivery.Stores
import Nondelivery.Trace

namespace Nondelivery

/-- What putting an outcome on record leaves behind. -/
structure Disposal where
  request : Request
  stores : Stores
  /-- What could not be done. -/
  shortfall : Shortfall
  deriving DecidableEq

/-- Reports about the bookkeeping for a request. -/
def Request.note (request : Request) (level : Level) (message : String) (fields : Fields) :
    Traced Unit :=
  Traced.internal level message (("queue_id", request.queueId.text) :: fields)

namespace Stores

/-- Tells the queue file that a recorded recipient is done. The recipient is completed even when the
queue file refuses, because its record is in the log already and must not get there twice. -/
def settle (stores : Stores) (request : Request) (index : Nat) (recipient : Recipient) :
    Traced Disposal := do
  let settled := request.complete index
  match stores.markDelivered request.queueId recipient.offset with
  | (.ok (), stores) => pure ⟨settled, stores, .none⟩
  | (.error error, stores) => do
      request.note .warn "Outcome logged but the queue file was not updated"
        [("error", error.message)]
      pure ⟨settled, stores, .queueFailedOnly⟩

/-- Records an outcome for the recipient at an index. Nothing happens unless the recipient waits. -/
def dispose (stores : Stores) (softBounce : Bool) (outcome : Outcome) (request : Request)
    (index : Nat) (peer reason : String) : Traced Disposal :=
  match request.ledger.pending? index with
  | none => do
      request.note .debug "Recipient already has an outcome on record, not disposing again"
        [("index", toString index)]
      pure ⟨request, stores, .none⟩
  | some recipient =>
      let outcome := outcome.soften softBounce
      match stores.append outcome (request.record recipient peer reason) with
      | (.ok (), stores) => do
          Traced.event .info reason [("queue_id", request.queueId.text), ("to", recipient.address),
            ("relay", peer), ("status", outcome.text)]
          stores.settle request index recipient
      | (.error error, stores) => do
          request.note .warn
            ("Unable to log " ++ outcome.text ++ " outcome, recipient stays pending")
            [("error", (RecordingError.log error).message)]
          pure ⟨request, stores, .logFailedOnly⟩

end Stores

end Nondelivery
