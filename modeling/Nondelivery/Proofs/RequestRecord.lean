/-
This file says that a request which is written as a record is read back unchanged.
-/

import Nondelivery.Proofs.ItemReading
import Nondelivery.Request

namespace Nondelivery

namespace Json

@[simp] theorem ok_bind {α β : Type} (value : α) (next : α → Decoded β) :
    ((.ok value : Decoded α) >>= next) = next value := rfl

@[simp] theorem map_ok {α β : Type} (f : α → β) (value : α) :
    (f <$> (.ok value : Decoded α)) = .ok (f value) := rfl

/-- A natural number below the bound is read back. -/
theorem toNatBelow_natural (bound : Nat) (expected : String) (value : Nat) (small : value < bound) :
    (natural value).toNatBelow bound expected = .ok value := by
  have fits : (0 : Int) ≤ value ∧ (value : Int) < bound := by omega
  simp only [natural, toNatBelow, if_pos fits, Int.toNat_natCast]

end Json

namespace Instant

theorem secondsOfJson_integer (seconds : Int) (positive : 0 ≤ seconds)
    (small : seconds < secondsLimit) : secondsOfJson (.integer seconds) = .ok seconds.toNat := by
  have whole : Json.integer seconds = Json.natural seconds.toNat := by
    rw [Json.natural, Int.toNat_of_nonneg positive]
  rw [whole]
  apply Json.toNatBelow_natural
  simp only [UInt64.size, secondsLimit] at *
  omega

theorem nanosOfJson_natural (nanos : Nat) (small : nanos < nanosPerSecond) :
    nanosOfJson (.natural nanos) = .ok nanos := by
  apply Json.toNatBelow_natural
  simp only [UInt32.size, nanosPerSecond] at *
  omega

/-- The parts of a point in time denote it. -/
theorem ofParts?_parts (instant : Instant) :
    ofParts? instant.seconds instant.nanos = some instant := by
  have carry : instant.nanos / nanosPerSecond = 0 := Nat.div_eq_of_lt instant.nanos_lt
  have rest : instant.nanos % nanosPerSecond = instant.nanos := Nat.mod_eq_of_lt instant.nanos_lt
  unfold ofParts?
  simp only [carry, Int.natCast_zero, Int.add_zero, rest]
  rw [dif_pos ⟨instant.le_seconds, instant.seconds_lt⟩]

/-- Parts that are in range denote a point in time. -/
theorem ofMembers_parts (instant : Instant) (later : 0 ≤ instant.seconds) :
    ofMembers instant.seconds.toNat instant.nanos (.ok ()) = .ok instant := by
  have limit := instant.seconds_lt
  have carry : instant.nanos / nanosPerSecond = 0 := Nat.div_eq_of_lt instant.nanos_lt
  have whole : ((instant.seconds.toNat : Nat) : Int) = instant.seconds := Int.toNat_of_nonneg later
  have small : ¬ UInt64.size ≤ instant.seconds.toNat + instant.nanos / nanosPerSecond := by
    rw [carry]
    simp only [UInt64.size, secondsLimit] at *
    omega
  unfold ofMembers
  rw [if_neg small, whole, ofParts?_parts]
  rfl

theorem checkMembers_record (instant : Instant) (later : 0 ≤ instant.seconds) :
    checkMembers [("nanos_since_epoch", .natural instant.nanos),
      ("secs_since_epoch", .integer instant.seconds)] = .ok () := by
  have seconds := secondsOfJson_integer instant.seconds later instant.seconds_lt
  have nanos := nanosOfJson_natural instant.nanos instant.nanos_lt
  simp [checkMembers, seconds, nanos]

theorem ofJson_record (instant : Instant) (later : 0 ≤ instant.seconds) :
    ofJson (.object [("nanos_since_epoch", .natural instant.nanos),
      ("secs_since_epoch", .integer instant.seconds)]) = .ok instant := by
  have seconds := secondsOfJson_integer instant.seconds later instant.seconds_lt
  have nanos := nanosOfJson_natural instant.nanos instant.nanos_lt
  simp [ofJson, checkMembers_record instant later, Json.member?, Json.required, List.lookup_cons,
    seconds, nanos, ofMembers_parts instant later]

end Instant

theorem Purposes.ofJson_toJson (purposes : Purposes) : ofJson purposes.toJson = .ok purposes := by
  have small : purposes.bits.toNat < UInt8.size := purposes.bits.toNat_lt
  simp [ofJson, toJson, Json.toUInt8, Json.toNatBelow_natural _ _ _ small]

theorem QueueId.ofJson_toJson (queueId : QueueId) : ofJson queueId.toJson = .ok queueId := rfl

theorem Progress.ofJson_toJson (progress : Progress) : ofJson progress.toJson = .ok progress := by
  cases progress <;>
    simp [ofJson, toJson, name, Json.toVariant, Json.toVariant.find, List.lookup_cons]

theorem Recipient.ofJson_toJson (recipient : Recipient) :
    ofJson recipient.toJson = .ok recipient := by
  have small : recipient.offset.toNat < UInt64.size := recipient.offset.toNat_lt
  have offset : Json.toUInt64 (.natural recipient.offset.toNat) = .ok recipient.offset := by
    simp [Json.toUInt64, Json.toNatBelow_natural _ _ _ small]
  simp [ofJson, toJson, Json.member?, Json.required, List.lookup_cons, Json.toText, offset,
    Progress.ofJson_toJson]

theorem Ledger.ofJson_toJson (ledger : Ledger) : ofJson ledger.toJson = .ok ledger := by
  have items := mapM_map_eq_ok Recipient.toJson _ Recipient.ofJson_toJson ledger.recipients
  simp [ofJson, toJson, Json.toItems, items]

namespace Request

theorem hopStatus_record (hopStatus : Option String) :
    Json.toOptionalText ((hopStatus.map Json.text).getD .null) = .ok hopStatus := by
  cases hopStatus <;> rfl

/-- A request that did not arrive before the epoch can be written, and is read back unchanged. -/
theorem ofJson_toJson (request : Request) (later : 0 ≤ request.arrival.seconds) :
    ∃ json, request.toJson = .ok json ∧ ofJson json = .ok request := by
  refine ⟨_, by simp only [toJson, Instant.toJson, if_pos later]; rfl, ?_⟩
  simp [ofJson, Json.member?, Json.required, List.lookup_cons, Instant.ofJson_record _ later,
    hopStatus_record, QueueId.ofJson_toJson, Ledger.ofJson_toJson, Purposes.ofJson_toJson]

/-- A request from before the epoch cannot be written. -/
theorem toJson_beforeEpoch (request : Request) (early : request.arrival.seconds < 0) :
    request.toJson = .error .beforeEpoch := by
  simp only [toJson, Instant.toJson, if_neg (Int.not_le.mpr early)]
  rfl

/-- The request as it is read back from its own record, if it can be written and read back. -/
def copy? (request : Request) : Option Request :=
  match request.toJson with
  | .ok json => (ofJson json).toOption
  | .error _ => none

theorem copy?_eq (request : Request) :
    request.copy? = if 0 ≤ request.arrival.seconds then some request else none := by
  by_cases later : 0 ≤ request.arrival.seconds
  · obtain ⟨json, written, back⟩ := request.ofJson_toJson later
    simp only [copy?, written, back, if_pos later]
    rfl
  · rw [copy?, request.toJson_beforeEpoch (Int.not_le.mp later), if_neg later]

end Request

end Nondelivery
