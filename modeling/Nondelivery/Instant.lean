/-
This file defines points in time, which messages carry as the time of their arrival.
-/

import Nondelivery.Json.Decode

namespace Nondelivery

/-- The nanoseconds in a second. -/
def nanosPerSecond : Nat := 1000000000

/-- The seconds of a point in time fit into a signed word of 64 bits. -/
abbrev secondsLimit : Int := 9223372036854775808

/-- A point in time: whole seconds since the epoch, negative before it, and nanoseconds after that
second. -/
structure Instant where
  seconds : Int
  nanos : Nat
  nanos_lt : nanos < nanosPerSecond
  le_seconds : -secondsLimit ≤ seconds
  seconds_lt : seconds < secondsLimit
  deriving DecidableEq

/-- Why a value cannot be written as a record. -/
inductive EncodeError where
  /-- Records have no way to tell points in time before the epoch. -/
  | beforeEpoch
  deriving DecidableEq, Repr

def EncodeError.message : EncodeError → String
  | beforeEpoch => "SystemTime must be later than UNIX_EPOCH"

namespace Instant

/-- The point in time this many nanoseconds after the given second, if it is in range. Nanoseconds
beyond a second are carried into the seconds. -/
def ofParts? (seconds : Int) (nanos : Nat) : Option Instant :=
  let total := seconds + (nanos / nanosPerSecond : Nat)
  if inRange : -secondsLimit ≤ total ∧ total < secondsLimit then
    some ⟨total, nanos % nanosPerSecond, Nat.mod_lt _ (by decide), inRange.1, inRange.2⟩
  else
    none

/-- The point in time as a record. -/
def toJson (instant : Instant) : Except EncodeError Json :=
  if 0 ≤ instant.seconds then
    .ok (.object [("nanos_since_epoch", .natural instant.nanos),
      ("secs_since_epoch", .integer instant.seconds)])
  else
    .error .beforeEpoch

/-- The point in time that two decoded members denote. The carry of the nanoseconds has to fit into
an unsigned word before the sum is held against the range of points in time. -/
def ofMembers (seconds nanos : Nat) (further : Json.Decoded Unit) : Json.Decoded Instant := do
  if UInt64.size ≤ seconds + nanos / nanosPerSecond then
    .error .offsetOverflow
  further
  match ofParts? seconds nanos with
  | some instant => .ok instant
  | none => .error .instantOverflow

def secondsOfJson (json : Json) : Json.Decoded Nat :=
  json.toNatBelow UInt64.size "u64"

def nanosOfJson (json : Json) : Json.Decoded Nat :=
  json.toNatBelow UInt32.size "u32"

/-- Checks the members of a record in the order in which they stand and refuses unknown ones. -/
def checkMembers : List (String × Json) → Json.Decoded Unit
  | [] => .ok ()
  | (name, value) :: members => do
      if name = "secs_since_epoch" then
        let _ ← secondsOfJson value
      else if name = "nanos_since_epoch" then
        let _ ← nanosOfJson value
      else
        .error (.unknownMember name ["secs_since_epoch", "nanos_since_epoch"])
      checkMembers members

def ofJson : Json → Json.Decoded Instant
  | .object members => do
      checkMembers members
      let seconds ← Json.member? members "secs_since_epoch" secondsOfJson
      let nanos ← Json.member? members "nanos_since_epoch" nanosOfJson
      let seconds ← Json.required "secs_since_epoch" seconds
      let nanos ← Json.required "nanos_since_epoch" nanos
      ofMembers seconds nanos (.ok ())
  | .array items => do
      let seconds ← Json.item items 0 "struct SystemTime" secondsOfJson
      let nanos ← Json.item items 1 "struct SystemTime" nanosOfJson
      ofMembers seconds nanos (Json.noFurther items 2)
  | other => .error (.wrongType other "struct SystemTime")

end Instant

end Nondelivery
