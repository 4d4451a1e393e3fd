/-
This file gathers the places where outcomes are kept: a log of deferrals, a log of bounces and the
queue file, which knows the recipients that are done. Each of them can be cut off, and then answers
with an error of its own.
-/

import Nondelivery.Severity
import Nondelivery.Stores.Logbook

namespace Nondelivery

/-- The recipients that need no further attempt, in the order in which they were marked. -/
structure QueueFile where
  delivered : List (QueueId × UInt64) := []
  /-- While this is set, every update is refused. -/
  failing : Bool := false
  deriving DecidableEq

namespace QueueFile

def empty : QueueFile := {}

def setFailing (queueFile : QueueFile) (failing : Bool) : QueueFile :=
  { queueFile with failing }

def isDelivered (queueFile : QueueFile) (queueId : QueueId) (offset : UInt64) : Bool :=
  queueFile.delivered.contains (queueId, offset)

/-- Marks the recipient at this offset as done, unless the queue file is failing. -/
def markDelivered (queueId : QueueId) (offset : UInt64) (queueFile : QueueFile) :
    Except QueueError Unit × QueueFile :=
  if queueFile.failing then
    (.error (.internal ("memory queue refusing update of " ++ queueId.text ++ " at offset " ++
      toString offset)), queueFile)
  else
    (.ok (), { queueFile with delivered := queueFile.delivered ++ [(queueId, offset)] })

end QueueFile

/-- A backend behind a connection. While `outage` is set it is the answer to every call and the
backend does not see the call. -/
structure Reachable (ε : Type) (σ : Type) where
  outage : Option ε
  backend : σ
  deriving DecidableEq

/-- Calls the backend if it can be reached. -/
def Reachable.call {ε σ : Type} (service : Reachable ε σ)
    (operation : σ → Except ε Unit × σ) : Except ε Unit × Reachable ε σ :=
  match service.outage with
  | some error => (.error error, service)
  | none =>
      let answer := operation service.backend
      (answer.1, { service with backend := answer.2 })

/-- The places where the outcomes of all attempts are kept. -/
structure Stores where
  deferLog : Reachable LogError Logbook
  bounceLog : Reachable LogError Logbook
  queue : Reachable QueueError QueueFile
  deriving DecidableEq

namespace Stores

/-- Empty stores in good order. -/
def empty : Stores :=
  ⟨⟨none, .empty⟩, ⟨none, .empty⟩, ⟨none, .empty⟩⟩

/-- The log for an outcome. -/
def log (stores : Stores) : Outcome → Reachable LogError Logbook
  | .deferred => stores.deferLog
  | .bounced => stores.bounceLog

/-- The stores with another log for an outcome. -/
def withLog (stores : Stores) (outcome : Outcome) (log : Reachable LogError Logbook) : Stores :=
  match outcome with
  | .deferred => { stores with deferLog := log }
  | .bounced => { stores with bounceLog := log }

/-- Appends a record to the log for an outcome. -/
def append (stores : Stores) (outcome : Outcome) (record : Record) :
    Except LogError Unit × Stores :=
  let answer := (stores.log outcome).call (Logbook.append record)
  (answer.1, stores.withLog outcome answer.2)

/-- Marks a recipient as done in the queue file. -/
def markDelivered (stores : Stores) (queueId : QueueId) (offset : UInt64) :
    Except QueueError Unit × Stores :=
  let answer := stores.queue.call (QueueFile.markDelivered queueId offset)
  (answer.1, { stores with queue := answer.2 })

end Stores

end Nondelivery
