/-
This file defines the logs of outcomes and how one can be made to refuse records.
-/

import Nondelivery.Request
import Nondelivery.Stores.Fault

namespace Nondelivery

/-- The outcome of one recipient as a log keeps it. -/
structure Record where
  purposes : Purposes
  queueId : QueueId
  submitted : String
  address : String
  offset : UInt64
  /-- The exchanger that gave rise to the outcome. -/
  peer : String
  arrival : Instant
  reason : String
  deriving DecidableEq

/-- The record of an outcome for a recipient of a request. -/
def Request.record (request : Request) (recipient : Recipient) (peer reason : String) : Record where
  purposes := request.purposes
  queueId := request.queueId
  submitted := recipient.submitted
  address := recipient.address
  offset := recipient.offset
  peer := peer
  arrival := request.arrival
  reason := reason

/-- A log of outcomes, to which records are only ever appended. -/
structure Logbook where
  records : List Record := []
  /-- How many appends were tried, refused ones included. -/
  appends : Nat := 0
  /-- While this is set, every append is refused. -/
  failing : Bool := false
  /-- The numbers of single appends that are refused, counted from one. -/
  refused : List Nat := []
  deriving DecidableEq

namespace Logbook

def empty : Logbook := {}

def size (logbook : Logbook) : Nat :=
  logbook.records.length

def setFailing (logbook : Logbook) (failing : Bool) : Logbook :=
  { logbook with failing }

/-- Makes the append with this number be refused. -/
def refuse (logbook : Logbook) (number : Nat) : Logbook :=
  { logbook with refused := logbook.refused ++ [number] }

/-- The next append will be accepted. -/
def accepts (logbook : Logbook) : Bool :=
  !logbook.failing && !logbook.refused.contains (logbook.appends + 1)

/-- Appends a record, unless the log refuses it; the attempt counts either way. -/
def append (record : Record) (logbook : Logbook) : Except LogError Unit × Logbook :=
  if logbook.accepts then
    (.ok (), { logbook with
      records := logbook.records ++ [record], appends := logbook.appends + 1 })
  else
    (.error (.unavailable ("memory log refusing record for " ++ record.queueId.text)),
      { logbook with appends := logbook.appends + 1 })

end Logbook

end Nondelivery
