/-
This file says from which values requests are read. Whatever the form of such a value, its request
did not arrive before the epoch, so that it can be written again, and what is written is the same
from then on.
-/

import Nondelivery.Proofs.RequestRecord

namespace Nondelivery

namespace Json

section Decoded

variable {α β : Type}

/-- Decoding in two steps succeeds just when both steps do. -/
theorem bind_eq_ok {first : Decoded α} {next : α → Decoded β} {value : β} :
    first >>= next = .ok value ↔ ∃ middle, first = .ok middle ∧ next middle = .ok value := by
  cases first with
  | error error => simp [bind, Except.bind]
  | ok middle => simp

theorem map_eq_ok {f : α → β} {decoded : Decoded α} {value : β} :
    f <$> decoded = .ok value ↔ ∃ middle, decoded = .ok middle ∧ f middle = value := by
  cases decoded <;> simp [Functor.map, Except.map]

/-- A member that has been decoded stands in the record. -/
theorem member?_eq_some {members : List (String × Json)} {name : String}
    {decode : Json → Decoded α} {value : α} :
    member? members name decode = .ok (some value) ↔
      ∃ json, members.lookup name = some json ∧ decode json = .ok value := by
  unfold member?
  cases members.lookup name <;> simp [map_eq_ok]

theorem required_eq_ok {name : String} {found : Option α} {value : α} :
    required name found = .ok value ↔ found = some value := by
  cases found <;> simp [required]

/-- An item that has been decoded stands in the array. -/
theorem item_eq_ok {items : List Json} {position : Nat} {expected : String}
    {decode : Json → Decoded α} {value : α} :
    item items position expected decode = .ok value ↔
      ∃ json, items[position]? = some json ∧ decode json = .ok value := by
  unfold item
  cases items[position]? <;> simp

end Decoded

end Json

namespace Instant

/-- The nanoseconds from the epoch to a point in time, which are negative before the epoch. -/
def sinceEpoch (instant : Instant) : Int :=
  instant.seconds * nanosPerSecond + instant.nanos

theorem ofParts?_eq_some {seconds : Int} {nanos : Nat} {instant : Instant}
    (denoted : ofParts? seconds nanos = some instant) :
    instant.seconds = seconds + (nanos / nanosPerSecond : Nat) ∧
      instant.nanos = nanos % nanosPerSecond := by
  dsimp only [ofParts?] at denoted
  split at denoted
  · cases denoted
    exact ⟨rfl, rfl⟩
  · cases denoted

/-- The carry from the nanoseconds to the seconds loses no time. -/
theorem sinceEpoch_ofParts? {seconds : Int} {nanos : Nat} {instant : Instant}
    (denoted : ofParts? seconds nanos = some instant) :
    instant.sinceEpoch = seconds * nanosPerSecond + nanos := by
  obtain ⟨whole, rest⟩ := ofParts?_eq_some denoted
  have parts : nanosPerSecond * (nanos / nanosPerSecond) + nanos % nanosPerSecond = nanos :=
    Nat.div_add_mod nanos nanosPerSecond
  rw [sinceEpoch, whole, rest]
  simp only [nanosPerSecond] at parts ⊢
  omega

/-- Seconds and nanoseconds after the epoch denote a point in time as long as their whole seconds
are in range. -/
theorem ofParts?_isSome (seconds nanos : Nat) : (ofParts? seconds nanos).isSome = true ↔
    (seconds + nanos / nanosPerSecond : Nat) < secondsLimit := by
  -- Below the range there is nothing to check, since neither the seconds nor the carry is negative.
  have bounded (carry : Nat) : (-secondsLimit ≤ (seconds : Int) + carry ∧
      (seconds : Int) + carry < secondsLimit) ↔ (seconds + carry : Nat) < secondsLimit := by
    simp only [secondsLimit]
    omega
  have bounds := bounded (nanos / nanosPerSecond)
  dsimp only [ofParts?]
  split
  · exact iff_of_true rfl (bounds.mp ‹_›)
  · exact iff_of_false Bool.false_ne_true (mt bounds.mpr ‹_›)

/-- Two members denote a point in time as long as the carry leaves the seconds in range. -/
theorem ofMembers_inRange (seconds nanos : Nat)
    (inRange : (seconds + nanos / nanosPerSecond : Nat) < secondsLimit) :
    ∃ instant, ofMembers seconds nanos (.ok ()) = .ok instant ∧
      instant.sinceEpoch = seconds * nanosPerSecond + nanos := by
  have small : ¬ UInt64.size ≤ seconds + nanos / nanosPerSecond := by
    simp only [UInt64.size, secondsLimit] at inRange ⊢
    omega
  obtain ⟨instant, denoted⟩ :=
    Option.isSome_iff_exists.mp ((ofParts?_isSome seconds nanos).mpr inRange)
  refine ⟨instant, ?_, sinceEpoch_ofParts? denoted⟩
  rw [ofMembers, if_neg small, denoted]
  rfl

/-- There are two ways to be out of range: the sum exceeds the range of points in time, or an
unsigned word as well. -/
theorem ofMembers_beyond (seconds nanos : Nat)
    (beyond : secondsLimit ≤ (seconds + nanos / nanosPerSecond : Nat)) :
    ofMembers seconds nanos (.ok ()) =
      .error (if UInt64.size ≤ seconds + nanos / nanosPerSecond then .offsetOverflow
        else .instantOverflow) := by
  have nothing : ofParts? seconds nanos = none := by
    have known := mt (ofParts?_isSome seconds nanos).mp (Int.not_lt.mpr beyond)
    simpa using known
  rw [ofMembers, nothing]
  split <;> rfl

/-- Points in time before the epoch are read from no record. -/
theorem ofMembers_later {seconds nanos : Nat} {further : Json.Decoded Unit} {instant : Instant}
    (read : ofMembers seconds nanos further = .ok instant) : 0 ≤ instant.seconds := by
  have denoted : ofParts? seconds nanos = some instant := by
    by_cases large : UInt64.size ≤ seconds + nanos / nanosPerSecond
    · simp only [ofMembers, if_pos large] at read
      cases read
    · simp only [ofMembers, if_neg large, Json.bind_eq_ok] at read
      obtain ⟨_, _, last⟩ := read
      split at last <;> cases last
      assumption
  rw [(ofParts?_eq_some denoted).1]
  exact Int.add_nonneg (Int.natCast_nonneg _) (Int.natCast_nonneg _)

theorem ofJson_later {json : Json} {instant : Instant} (read : ofJson json = .ok instant) :
    0 ≤ instant.seconds := by
  cases json with
  | object members =>
      simp only [ofJson, Json.bind_eq_ok] at read
      obtain ⟨_, _, _, _, _, _, _, _, _, _, denoted⟩ := read
      exact ofMembers_later denoted
  | array items =>
      simp only [ofJson, Json.bind_eq_ok] at read
      obtain ⟨_, _, _, _, denoted⟩ := read
      exact ofMembers_later denoted
  | null => cases read
  | boolean value => cases read
  | integer value => cases read
  | decimal value => cases read
  | text value => cases read

/-- The ways to write seconds and nanoseconds after the epoch: as an object, whose members may stand
in either order, or as an array. -/
def spellings (seconds : UInt64) (nanos : UInt32) : List Json :=
  [.object [("nanos_since_epoch", .natural nanos.toNat),
      ("secs_since_epoch", .natural seconds.toNat)],
    .object [("secs_since_epoch", .natural seconds.toNat),
      ("nanos_since_epoch", .natural nanos.toNat)],
    .array [.natural seconds.toNat, .natural nanos.toNat]]

theorem secondsOfJson_natural (seconds : UInt64) :
    secondsOfJson (.natural seconds.toNat) = .ok seconds.toNat :=
  Json.toNatBelow_natural _ _ _ seconds.toNat_lt

theorem nanosOfJson_word (nanos : UInt32) :
    nanosOfJson (.natural nanos.toNat) = .ok nanos.toNat :=
  Json.toNatBelow_natural _ _ _ nanos.toNat_lt

/-- All of them are read in the same way. -/
theorem ofJson_spelling (seconds : UInt64) (nanos : UInt32) :
    ∀ json ∈ spellings seconds nanos,
      ofJson json = ofMembers seconds.toNat nanos.toNat (.ok ()) := by
  have first := secondsOfJson_natural seconds
  have second := nanosOfJson_word nanos
  simp [spellings, ofJson, checkMembers, Json.member?, Json.required, Json.item, Json.noFurther,
    List.lookup_cons, first, second]

end Instant

namespace Request

/-- Every request that is read could also be written: it did not arrive before the epoch. -/
theorem ofJson_later {json : Json} {request : Request} (read : ofJson json = .ok request) :
    0 ≤ request.arrival.seconds := by
  -- Of all that is read, only the arrival matters: a member of an object, or the second item of an
  -- array.
  cases json with
  | object members =>
      simp only [ofJson, Json.bind_eq_ok, Json.required_eq_ok] at read
      obtain ⟨_, stands, _, _, _, _, _, _, _, _, _, _, arrival, rfl, _, _, _, _, made⟩ := read
      obtain ⟨_, _, arrived⟩ := Json.member?_eq_some.mp stands
      cases made
      exact Instant.ofJson_later arrived
  | array items =>
      simp only [ofJson, Json.bind_eq_ok, Json.item_eq_ok] at read
      obtain ⟨_, _, _, ⟨_, _, arrived⟩, _, _, _, _, _, _, _, _, made⟩ := read
      cases made
      exact Instant.ofJson_later arrived
  | null => cases read
  | boolean value => cases read
  | integer value => cases read
  | decimal value => cases read
  | text value => cases read

/-- The record of a request, with any value in the place of its arrival. -/
def recordArriving (request : Request) (arrival : Json) : Json :=
  .object [("arrival_time", arrival), ("hop_status", (request.hopStatus.map Json.text).getD .null),
    ("queue_id", request.queueId.toJson), ("recipients", request.ledger.toJson),
    ("trace_flags", request.purposes.toJson)]

theorem toJson_eq (request : Request) :
    request.toJson = request.recordArriving <$> request.arrival.toJson := by
  rw [toJson]
  cases request.arrival.toJson <;> rfl

/-- The arrival alone decides whether such a record is read, and with which error it is refused. -/
theorem ofJson_recordArriving (request : Request) (arrival : Json) :
    ofJson (request.recordArriving arrival) =
      (fun instant => { request with arrival := instant }) <$> Instant.ofJson arrival := by
  cases read : Instant.ofJson arrival with
  | error error =>
      simp only [recordArriving, ofJson, Json.member?, List.lookup_cons, beq_self_eq_true, read]
      rfl
  | ok instant =>
      simp [recordArriving, ofJson, Json.member?, Json.required, List.lookup_cons, read,
        hopStatus_record, QueueId.ofJson_toJson, Ledger.ofJson_toJson, Purposes.ofJson_toJson]

/-- The record of the request that a value denotes. -/
def rewrite? (json : Json) : Option Json :=
  match ofJson json with
  | .ok request => request.toJson.toOption
  | .error _ => none

theorem rewrite?_of_read {json record : Json} {request : Request}
    (read : ofJson json = .ok request) (written : request.toJson = .ok record) :
    rewrite? json = some record := by
  simp only [rewrite?, read, written]
  rfl

end Request

/-- Requests survive being kept as records. A request is written unless it arrived before the epoch,
and read back as it was. A request that was read, from a value of whatever form, can be written; what
is written is read as that request again and does not change any more. The arrival is read on its
own: seconds and nanoseconds are read as the point in time that they denote, with a carry, or refused
if that is out of range. -/
theorem requests_survive_records (request : Request) :
    (0 ≤ request.arrival.seconds →
      ∃ record, request.toJson = .ok record ∧ Request.ofJson record = .ok request) ∧
    (request.arrival.seconds < 0 → request.toJson = .error .beforeEpoch) ∧
    (∀ json, Request.ofJson json = .ok request →
      ∃ record, request.toJson = .ok record ∧ Request.ofJson record = .ok request ∧
        Request.rewrite? json = some record ∧ Request.rewrite? record = some record) ∧
    (request.toJson = request.recordArriving <$> request.arrival.toJson ∧
      ∀ arrival, Request.ofJson (request.recordArriving arrival) =
        (fun instant => { request with arrival := instant }) <$> Instant.ofJson arrival) ∧
    ∀ (seconds : UInt64) (nanos : UInt32), ∀ json ∈ Instant.spellings seconds nanos,
      let total := seconds.toNat + nanos.toNat / nanosPerSecond
      (total < secondsLimit → ∃ instant, Instant.ofJson json = .ok instant ∧
        instant.sinceEpoch = seconds.toNat * nanosPerSecond + nanos.toNat) ∧
      (secondsLimit ≤ total → Instant.ofJson json =
        .error (if UInt64.size ≤ total then .offsetOverflow else .instantOverflow)) := by
  refine ⟨request.ofJson_toJson, request.toJson_beforeEpoch, fun json read => ?_,
    ⟨request.toJson_eq, request.ofJson_recordArriving⟩, fun seconds nanos json spelled => ?_⟩
  · obtain ⟨record, written, back⟩ := request.ofJson_toJson (Request.ofJson_later read)
    exact ⟨record, written, back, Request.rewrite?_of_read read written,
      Request.rewrite?_of_read back written⟩
  · rw [Instant.ofJson_spelling seconds nanos json spelled]
    exact ⟨Instant.ofMembers_inRange seconds.toNat nanos.toNat,
      Instant.ofMembers_beyond seconds.toNat nanos.toNat⟩

/-- Arrays in the place of objects, members that nobody asks for, a variant that is written as an
object, a missing hop status and two billion nanoseconds do no harm. -/
theorem requests_survive_records_unusual_form :
    let json : Json := .object [
      ("arrival_time", .array [.integer 5, .integer 2000000001]),
      ("priority", .text "bulk"),
      ("queue_id", .text "4F"),
      ("recipients", .array [
        .array [.text "a", .text "a@x", .integer 10, .object [("Completed", .null)]],
        .object [("address", .text "b@x"), ("note", .null), ("offset", .integer 20),
          ("original", .text "b"), ("state", .text "Pending")]]),
      ("trace_flags", .integer 4)]
    let request : Request := ⟨⟨"4F"⟩, ⟨7, 1, by decide, by decide, by decide⟩, ⟨4⟩,
      ⟨[⟨"a", "a@x", 10, .completed⟩, ⟨"b", "b@x", 20, .pending⟩]⟩, none⟩
    Request.ofJson json = .ok request ∧
      ∃ record, Request.rewrite? json = some record ∧ Request.rewrite? record = some record ∧
        Request.ofJson record = .ok request := by
  intro json request
  have read : Request.ofJson json = .ok request := by rfl
  obtain ⟨_, _, reading, _⟩ := requests_survive_records request
  obtain ⟨record, _, back, first, second⟩ := reading json read
  exact ⟨read, record, first, second, back⟩

end Nondelivery
