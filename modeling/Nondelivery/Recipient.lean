/-
This file defines the recipients of a message.
-/

import Nondelivery.Json.Decode

namespace Nondelivery

/-- Whether a recipient still waits for an outcome. -/
inductive Progress where
  /-- No outcome is on record. -/
  | pending
  /-- A delivery, a deferral or a bounce is on record. -/
  | completed
  deriving DecidableEq, Repr

/-- A recipient of a message. -/
structure Recipient where
  /-- The address as it was submitted. -/
  submitted : String
  /-- The address that the mail goes to. -/
  address : String
  /-- Where the queue file keeps this recipient. -/
  offset : UInt64
  progress : Progress := .pending
  deriving DecidableEq

namespace Progress

def name : Progress → String
  | pending => "Pending"
  | completed => "Completed"

def toJson (progress : Progress) : Json :=
  .text progress.name

def ofJson (json : Json) : Json.Decoded Progress :=
  json.toVariant [("Pending", pending), ("Completed", completed)]

end Progress

namespace Recipient

def isPending (recipient : Recipient) : Bool :=
  recipient.progress == .pending

def complete (recipient : Recipient) : Recipient :=
  { recipient with progress := .completed }

def toJson (recipient : Recipient) : Json :=
  .object [("address", .text recipient.address), ("offset", .natural recipient.offset.toNat),
    ("original", .text recipient.submitted), ("state", recipient.progress.toJson)]

def shape : String := "struct Recipient with 4 elements"

def ofJson : Json → Json.Decoded Recipient
  | .object members => do
      let address ← Json.member? members "address" Json.toText
      let offset ← Json.member? members "offset" Json.toUInt64
      let submitted ← Json.member? members "original" Json.toText
      let progress ← Json.member? members "state" Progress.ofJson
      let submitted ← Json.required "original" submitted
      let address ← Json.required "address" address
      let offset ← Json.required "offset" offset
      let progress ← Json.required "state" progress
      .ok ⟨submitted, address, offset, progress⟩
  | .array items => do
      let submitted ← Json.item items 0 shape Json.toText
      let address ← Json.item items 1 shape Json.toText
      let offset ← Json.item items 2 shape Json.toUInt64
      let progress ← Json.item items 3 shape Progress.ofJson
      Json.noFurther items 4
      .ok ⟨submitted, address, offset, progress⟩
  | other => .error (.wrongType other "struct Recipient")

end Recipient

end Nondelivery
