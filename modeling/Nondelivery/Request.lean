/-
This file defines delivery requests: queued messages on the way to their recipients, with the
identifiers under which they are queued and the purposes that they are queued for.
-/

import Nondelivery.Instant
import Nondelivery.Ledger

namespace Nondelivery

/-- The identifier of a queued message. -/
structure QueueId where
  text : String
  deriving DecidableEq

namespace QueueId

/-- Identifiers compare by the code points of their texts. -/
instance : Ord QueueId where
  compare left right := compare left.text right.text

/-- The digits of new identifiers: letters that are easily mistaken for others are left out. -/
def digits : List Char :=
  "0123456789ABCDEFGHJKMNPQRSTVWXYZ".toList

/-- The last `length` digits of a number in base 32. -/
def base32 : Nat → Nat → List Char
  | 0, _ => []
  | length + 1, number => base32 length (number / 32) ++ [digits.getD (number % 32) '0']

/-- The new identifier for a number below `2 ^ 128`: its digits in base 32. -/
def ofNumber (number : Nat) : QueueId :=
  ⟨String.ofList (base32 26 number)⟩

def toJson (queueId : QueueId) : Json :=
  .text queueId.text

def ofJson (json : Json) : Json.Decoded QueueId :=
  QueueId.mk <$> json.toText

end QueueId

/-- What a message is queued for besides plain delivery, one bit for each purpose. -/
structure Purposes where
  bits : UInt8
  deriving DecidableEq

namespace Purposes

def none : Purposes := ⟨0⟩

/-- An address is to be verified. -/
def verify : Purposes := ⟨1⟩

/-- An address is to be expanded. -/
def expand : Purposes := ⟨2⟩

/-- The outcome is to be kept for a delivery report. -/
def record : Purposes := ⟨4⟩

def union (left right : Purposes) : Purposes :=
  ⟨left.bits ||| right.bits⟩

/-- Every one of the other purposes is among these. -/
def contains (purposes other : Purposes) : Bool :=
  purposes.bits &&& other.bits == other.bits

def toJson (purposes : Purposes) : Json :=
  .natural purposes.bits.toNat

def ofJson (json : Json) : Json.Decoded Purposes :=
  Purposes.mk <$> json.toUInt8

end Purposes

/-- A queued message that is handed to the client for delivery. -/
structure Request where
  queueId : QueueId
  /-- When the message entered the queue. -/
  arrival : Instant
  purposes : Purposes
  ledger : Ledger
  /-- The reason of the first deferral of this hop as a whole. -/
  hopStatus : Option String
  deriving DecidableEq

namespace Request

/-- Keeps the reason as the hop status unless there is one already. -/
def latchHopStatus (request : Request) (reason : String) : Request :=
  { request with hopStatus := request.hopStatus <|> some reason }

/-- Completes the recipient at this index. -/
def complete (request : Request) (index : Nat) : Request :=
  { request with ledger := request.ledger.complete index }

/-- The request as a record. -/
def toJson (request : Request) : Except EncodeError Json := do
  let arrival ← request.arrival.toJson
  .ok (.object [("arrival_time", arrival),
    ("hop_status", (request.hopStatus.map Json.text).getD .null),
    ("queue_id", request.queueId.toJson), ("recipients", request.ledger.toJson),
    ("trace_flags", request.purposes.toJson)])

def shape : String := "struct DeliveryRequest with 5 elements"

def ofJson : Json → Json.Decoded Request
  | .object members => do
      let arrival ← Json.member? members "arrival_time" Instant.ofJson
      let hopStatus ← Json.member? members "hop_status" Json.toOptionalText
      let queueId ← Json.member? members "queue_id" QueueId.ofJson
      let ledger ← Json.member? members "recipients" Ledger.ofJson
      let purposes ← Json.member? members "trace_flags" Purposes.ofJson
      let queueId ← Json.required "queue_id" queueId
      let arrival ← Json.required "arrival_time" arrival
      let purposes ← Json.required "trace_flags" purposes
      let ledger ← Json.required "recipients" ledger
      .ok ⟨queueId, arrival, purposes, ledger, hopStatus.join⟩
  | .array items => do
      let queueId ← Json.item items 0 shape QueueId.ofJson
      let arrival ← Json.item items 1 shape Instant.ofJson
      let purposes ← Json.item items 2 shape Purposes.ofJson
      let ledger ← Json.item items 3 shape Ledger.ofJson
      let hopStatus ← Json.item items 4 shape Json.toOptionalText
      Json.noFurther items 5
      .ok ⟨queueId, arrival, purposes, ledger, hopStatus⟩
  | other => .error (.wrongType other "struct DeliveryRequest")

end Request

end Nondelivery
