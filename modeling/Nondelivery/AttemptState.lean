/-
This file defines what an attempt has come to so far, and what it can leave undone. Nothing of it is
ever taken back.
-/

namespace Nondelivery

/-- What an attempt has left undone. -/
structure Shortfall where
  /-- Recipients were left for a later attempt or for another exchanger. -/
  incomplete : Bool := false
  /-- A log refused a record, and its recipient still waits. -/
  logFailed : Bool := false
  /-- A record was logged, but the queue file was not updated. -/
  queueFailed : Bool := false
  deriving DecidableEq, Repr

namespace Shortfall

/-- Nothing is left undone. -/
def none : Shortfall := {}

def incompleteOnly : Shortfall := { incomplete := true }

def logFailedOnly : Shortfall := { logFailed := true }

def queueFailedOnly : Shortfall := { queueFailed := true }

def union (left right : Shortfall) : Shortfall where
  incomplete := left.incomplete || right.incomplete
  logFailed := left.logFailed || right.logFailed
  queueFailed := left.queueFailed || right.queueFailed

/-- Everything that the other shortfall names is named by this one. -/
def contains (shortfall other : Shortfall) : Bool :=
  shortfall.union other == shortfall

def isEmpty (shortfall : Shortfall) : Bool :=
  shortfall == none

/-- The shortfall as a number, one bit for each part. -/
def bits (shortfall : Shortfall) : Nat :=
  shortfall.incomplete.toNat + 2 * shortfall.logFailed.toNat + 4 * shortfall.queueFailed.toNat

/-- The words for the parts of a shortfall. -/
def words (shortfall : Shortfall) : List String :=
  (if shortfall.incomplete then ["incomplete"] else []) ++
    (if shortfall.logFailed then ["ledger-failed"] else []) ++
    (if shortfall.queueFailed then ["queue-update-failed"] else [])

def text (shortfall : Shortfall) : String :=
  if shortfall.isEmpty then "ok" else String.intercalate "|" shortfall.words

end Shortfall

/-- The kinds of trouble that the postmaster may want to hear about. -/
structure Concerns where
  /-- A code of the exchanger points at a misunderstanding between the two ends. -/
  protocol : Bool := false
  deriving DecidableEq, Repr

/-- What is carried from one decision of an attempt to the next. -/
structure AttemptState where
  shortfall : Shortfall := {}
  /-- No other exchanger is tried after this one, so that soft failures are not passed over. -/
  finalServer : Bool := false
  concerns : Concerns := {}
  deriving DecidableEq, Repr

namespace Concerns

def none : Concerns := {}

def protocolOnly : Concerns := { protocol := true }

def union (left right : Concerns) : Concerns where
  protocol := left.protocol || right.protocol

def contains (concerns other : Concerns) : Bool :=
  concerns.union other == concerns

def isEmpty (concerns : Concerns) : Bool :=
  concerns == none

end Concerns

namespace AttemptState

/-- The state in which every attempt starts. -/
def fresh : AttemptState := {}

/-- Adds to what is left undone; nothing is ever taken back. -/
def add (state : AttemptState) (shortfall : Shortfall) : AttemptState :=
  { state with shortfall := state.shortfall.union shortfall }

/-- Makes the present exchanger the last one for this message. -/
def markFinal (state : AttemptState) : AttemptState :=
  { state with finalServer := true }

def flag (state : AttemptState) (concerns : Concerns) : AttemptState :=
  { state with concerns := state.concerns.union concerns }

end AttemptState

end Nondelivery
