/-
This file defines the ledger of a message: its recipients, and which of them still wait for an
outcome. A recipient is completed once and for all, so no outcome is put on record twice.
-/

import Nondelivery.Recipient

namespace Nondelivery

/-- The recipients of one message, in order. -/
structure Ledger where
  recipients : List Recipient
  deriving DecidableEq

namespace Ledger

def empty : Ledger :=
  ⟨[]⟩

def size (ledger : Ledger) : Nat :=
  ledger.recipients.length

def isEmpty (ledger : Ledger) : Bool :=
  ledger.recipients.isEmpty

/-- Adds a recipient at the end. -/
def push (ledger : Ledger) (recipient : Recipient) : Ledger :=
  ⟨ledger.recipients ++ [recipient]⟩

def get? (ledger : Ledger) (index : Nat) : Option Recipient :=
  ledger.recipients[index]?

/-- The recipient at this index when there is one and it still waits. -/
def pending? (ledger : Ledger) (index : Nat) : Option Recipient :=
  (ledger.get? index).filter Recipient.isPending

def isPending (ledger : Ledger) (index : Nat) : Bool :=
  (ledger.pending? index).isSome

/-- The waiting recipients with their indices. -/
def pending (ledger : Ledger) : List (Nat × Recipient) :=
  (ledger.recipients.zipIdx.filter fun entry => entry.1.isPending).map Prod.swap

def pendingIndices (ledger : Ledger) : List Nat :=
  ledger.pending.map Prod.fst

def pendingCount (ledger : Ledger) : Nat :=
  ledger.pending.length

/-- Completes the recipient at this index, if there is one. -/
def complete (ledger : Ledger) (index : Nat) : Ledger :=
  ⟨ledger.recipients.modify index Recipient.complete⟩

/-- Completes the recipient at this index and says whether that changed anything. -/
def markCompleted (ledger : Ledger) (index : Nat) : Bool × Ledger :=
  if ledger.isPending index then (true, ledger.complete index) else (false, ledger)

def toJson (ledger : Ledger) : Json :=
  .array (ledger.recipients.map Recipient.toJson)

def ofJson (json : Json) : Json.Decoded Ledger := do
  let items ← json.toItems
  let recipients ← items.mapM Recipient.ofJson
  .ok ⟨recipients⟩

end Ledger

end Nondelivery
