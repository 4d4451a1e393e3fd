/-
This file shows that records are read by the names of their members. It does not matter whether a
record is written as an object or as an array, nor whether objects have members that nobody asks
for. A point in time is the exception: it has no members but its own.
-/

import Mathlib.Data.List.Perm.Basic
import Nondelivery.Policy.Json
import Nondelivery.Proofs.RecordReading
import Nondelivery.Attempt

namespace Nondelivery

/-- Items that are each read with the same result are read with the same result as a list. -/
theorem mapM_congr {Item Result Fault : Type} (read : Item → Except Fault Result)
    {items others : List Item}
    (same : List.Forall₂ (fun item other => read other = read item) items others) :
    others.mapM read = items.mapM read := by
  induction same with
  | nil => rfl
  | cons first _ ih => rw [List.mapM_cons, List.mapM_cons, first, ih]

namespace Json

section Lookup

variable {members others : List (String × Json)}

theorem lookup_eq_some_iff_mem (distinct : (members.map Prod.fst).Nodup) (name : String)
    (value : Json) : members.lookup name = some value ↔ (name, value) ∈ members := by
  induction members with
  | nil => simp
  | cons member members ih =>
      obtain ⟨other, first⟩ := member
      simp only [List.map_cons, List.nodup_cons] at distinct
      rw [List.lookup_cons]
      by_cases here : name = other
      · have absent : (name, value) ∉ members := by
          intro later
          apply distinct.1
          rw [← here]
          exact List.mem_map_of_mem later
        simp [here ▸ absent, here, eq_comm]
      · simp [beq_eq_false_iff_ne.mpr here, ih distinct.2, here]

/-- Members with names of their own are found in whatever order they stand. -/
theorem lookup_perm (perm : members.Perm others) (distinct : (others.map Prod.fst).Nodup)
    (name : String) : members.lookup name = others.lookup name := by
  have also : (members.map Prod.fst).Nodup := (perm.map Prod.fst).nodup_iff.mpr distinct
  apply Option.ext
  intro value
  rw [lookup_eq_some_iff_mem also, lookup_eq_some_iff_mem distinct, perm.mem_iff]

/-- A new member does not stand in the way of others. -/
theorem lookup_insertMember {name key : String} (differs : name ≠ key) (value : Json) :
    (insertMember key value members).lookup name = members.lookup name := by
  have apart : (name == key) = false := beq_eq_false_iff_ne.mpr differs
  induction members with
  | nil => simp [insertMember, List.lookup_cons, apart]
  | cons member members ih =>
      obtain ⟨other, first⟩ := member
      rw [insertMember]
      split
      · next same => rw [List.lookup_cons, List.lookup_cons, apart, ← same, apart]
      · split
        · rw [List.lookup_cons, apart]
        · rw [List.lookup_cons, List.lookup_cons, ih]

end Lookup

/-- The record is read from an array that holds its members in the order of their names just when it
is read from an object that holds them by their names, and with the same result. -/
def FormsAgree {α : Type} (names : List String) (read : Json → Decoded α) : Prop :=
  ∀ (values : List Json) (members : List (String × Json)), values.length = names.length →
    members.Perm (names.zip values) →
      ∀ record, read (.array values) = .ok record ↔ read (.object members) = .ok record

/-- How the values of named members may be altered. -/
abbrev Alterations := String → Json → Json → Prop

/-- No value is altered. -/
def unaltered : Alterations := fun _ _ _ => False

section Padded

variable (names : List String) (alters : Alterations)

/-- The members of an object whose values may have been altered, with further members under names
that the record does not have. -/
inductive Enlarged (members : List (String × Json)) : List (String × Json) → Prop where
  | altered {others : List (String × Json)}
      (same : List.Forall₂ (fun member other => other.1 = member.1 ∧
        (other.2 = member.2 ∨ alters member.1 member.2 other.2)) members others) :
      Enlarged members others
  | further {others : List (String × Json)} (enlarged : Enlarged members others) (key : String)
      (value : Json) (unknown : key ∉ names) : Enlarged members (insertMember key value others)

/-- The items of an array that may have been altered. The item at a position belongs to the member
whose name stands there. -/
structure Rewritten (items others : List Json) : Prop where
  length : others.length = items.length
  same : ∀ (position : Nat) (item other : Json), items[position]? = some item →
    others[position]? = some other →
      other = item ∨ ∃ name, names[position]? = some name ∧ alters name item other

/-- The value of a record, with further members if it is an object. -/
inductive Padded : Json → Json → Prop where
  | object {members others : List (String × Json)}
      (enlarged : Enlarged names alters members others) : Padded (.object members) (.object others)
  | array {items others : List Json} (rewritten : Rewritten names alters items others) :
      Padded (.array items) (.array others)
  | same (json : Json) : Padded json json

variable {names : List String} {alters : Alterations} {α : Type} {decode : Json → Decoded α}

namespace Enlarged

variable {members others : List (String × Json)} {name : String}

/-- The members that the record has are found as before. -/
theorem lookup (enlarged : Enlarged names alters members others) (known : name ∈ names) :
    Option.Rel (fun value other => other = value ∨ alters name value other)
      (members.lookup name) (others.lookup name) := by
  induction enlarged with
  | altered same =>
      induction same with
      | nil => exact .none
      | @cons member other members others first _ ih =>
          rw [List.lookup_cons, List.lookup_cons, first.1]
          cases here : name == member.1 with
          | true => exact .some (beq_iff_eq.mp here ▸ first.2)
          | false => exact ih
  | further _ key value unknown ih =>
      have differs : name ≠ key := fun same => unknown (same ▸ known)
      rw [lookup_insertMember differs]
      exact ih

/-- If alterations do not matter to the reading of a member, then further members do not either. -/
theorem member? (enlarged : Enlarged names alters members others) (known : name ∈ names)
    (blind : ∀ value other, alters name value other → decode other = decode value) :
    Json.member? others name decode = Json.member? members name decode := by
  have found := enlarged.lookup known
  unfold Json.member?
  generalize members.lookup name = before, others.lookup name = after at found
  cases found with
  | none => rfl
  | @some value other same =>
      have reads : decode other = decode value := by
        rcases same with rfl | altered
        · rfl
        · exact blind value other altered
      simp only [reads]

theorem member?_unaltered (enlarged : Enlarged names unaltered members others)
    (known : name ∈ names) : Json.member? others name decode = Json.member? members name decode :=
  enlarged.member? known fun _ _ altered => altered.elim

end Enlarged

namespace Rewritten

variable {items others : List Json}

/-- An item that is read is read as before. -/
theorem getElem? (rewritten : Rewritten names alters items others) (position : Nat)
    (blind : ∀ name, names[position]? = some name →
      ∀ value other, alters name value other → decode other = decode value) :
    others[position]?.map decode = items[position]?.map decode := by
  by_cases inside : position < items.length
  · have among : position < others.length := rewritten.length ▸ inside
    rw [List.getElem?_eq_getElem inside, List.getElem?_eq_getElem among]
    rcases rewritten.same position _ _ (List.getElem?_eq_getElem inside)
        (List.getElem?_eq_getElem among) with same | ⟨name, here, altered⟩
    · rw [same]
    · rw [Option.map_some, Option.map_some, blind name here _ _ altered]
  · have beyond : items.length ≤ position := Nat.le_of_not_lt inside
    rw [List.getElem?_eq_none beyond, List.getElem?_eq_none (rewritten.length ▸ beyond)]

theorem item (rewritten : Rewritten names alters items others) (position : Nat) (expected : String)
    (blind : ∀ name, names[position]? = some name →
      ∀ value other, alters name value other → decode other = decode value) :
    Json.item others position expected decode = Json.item items position expected decode := by
  have reads := rewritten.getElem? position blind
  unfold Json.item
  rw [rewritten.length]
  generalize items[position]? = before, others[position]? = after at reads
  cases before <;> cases after <;> simp_all

theorem item? (rewritten : Rewritten names alters items others) (position : Nat)
    (blind : ∀ name, names[position]? = some name →
      ∀ value other, alters name value other → decode other = decode value) :
    Json.item? others position decode = Json.item? items position decode := by
  have reads := rewritten.getElem? position blind
  unfold Json.item?
  generalize items[position]? = before, others[position]? = after at reads
  cases before <;> cases after <;> simp_all

theorem item_unaltered (rewritten : Rewritten names unaltered items others) (position : Nat)
    (expected : String) :
    Json.item others position expected decode = Json.item items position expected decode :=
  rewritten.item position expected fun _ _ _ _ altered => altered.elim

theorem item?_unaltered (rewritten : Rewritten names unaltered items others) (position : Nat) :
    Json.item? others position decode = Json.item? items position decode :=
  rewritten.item? position fun _ _ _ _ altered => altered.elim

theorem noFurther (rewritten : Rewritten names alters items others) (count : Nat) :
    Json.noFurther others count = Json.noFurther items count := by
  rw [Json.noFurther, Json.noFurther, rewritten.length]

end Rewritten

end Padded

end Json

namespace Session

def memberNames : List String := ["host", "address"]

/-- The value of a connection, with further members if it is an object. -/
abbrev Padded := Json.Padded memberNames Json.unaltered

theorem ofJson_padded {json padded : Json} (pads : Padded json padded) :
    ofJson padded = ofJson json := by
  cases pads with
  | object enlarged =>
      rw [ofJson, ofJson, enlarged.member?_unaltered (by decide),
        enlarged.member?_unaltered (by decide)]
  | array rewritten =>
      rw [ofJson, ofJson, rewritten.item_unaltered 0 _, rewritten.item_unaltered 1 _,
        rewritten.noFurther]
  | same => rfl

theorem ofJson_array (host address : Json) :
    ofJson (.array [host, address]) = (do
      let host ← Json.toText host
      let address ← Json.toText address
      .ok ⟨host, address⟩) := rfl

theorem ofJson_object {members : List (String × Json)} {host address : Json}
    (hosts : members.lookup "host" = some host)
    (addresses : members.lookup "address" = some address) :
    ofJson (.object members) = (do
      let address ← Json.toText address
      let host ← Json.toText host
      .ok ⟨host, address⟩) := by
  simp [ofJson, Json.member?, hosts, addresses, Json.required]

theorem formsAgree : Json.FormsAgree memberNames ofJson := by
  intro values members count perm session
  match values, count with
  | [host, address], _ =>
      have found (name : String) := Json.lookup_perm perm (by simp [memberNames]) name
      rw [ofJson_array, ofJson_object (found "host") (found "address")]
      simp only [Json.bind_eq_ok]
      constructor
      · intro ⟨_, host, _, address, same⟩
        exact ⟨_, address, _, host, same⟩
      · intro ⟨_, address, _, host, same⟩
        exact ⟨_, host, _, address, same⟩

end Session

namespace Recipient

def memberNames : List String := ["original", "address", "offset", "state"]

/-- The value of a recipient, with further members if it is an object. -/
abbrev Padded := Json.Padded memberNames Json.unaltered

theorem ofJson_padded {json padded : Json} (pads : Padded json padded) :
    ofJson padded = ofJson json := by
  cases pads with
  | object enlarged =>
      rw [ofJson, ofJson, enlarged.member?_unaltered (by decide),
        enlarged.member?_unaltered (by decide), enlarged.member?_unaltered (by decide),
        enlarged.member?_unaltered (by decide)]
  | array rewritten =>
      rw [ofJson, ofJson, rewritten.item_unaltered 0 _, rewritten.item_unaltered 1 _,
        rewritten.item_unaltered 2 _, rewritten.item_unaltered 3 _, rewritten.noFurther]
  | same => rfl

theorem ofJson_array (submitted address offset progress : Json) :
    ofJson (.array [submitted, address, offset, progress]) = (do
      let submitted ← Json.toText submitted
      let address ← Json.toText address
      let offset ← Json.toUInt64 offset
      let progress ← Progress.ofJson progress
      .ok ⟨submitted, address, offset, progress⟩) := rfl

theorem ofJson_object {members : List (String × Json)} {submitted address offset progress : Json}
    (submits : members.lookup "original" = some submitted)
    (addresses : members.lookup "address" = some address)
    (offsets : members.lookup "offset" = some offset)
    (progresses : members.lookup "state" = some progress) :
    ofJson (.object members) = (do
      let address ← Json.toText address
      let offset ← Json.toUInt64 offset
      let submitted ← Json.toText submitted
      let progress ← Progress.ofJson progress
      .ok ⟨submitted, address, offset, progress⟩) := by
  simp [ofJson, Json.member?, submits, addresses, offsets, progresses, Json.required]

theorem formsAgree : Json.FormsAgree memberNames ofJson := by
  intro values members count perm recipient
  match values, count with
  | [submitted, address, offset, progress], _ =>
      have found (name : String) := Json.lookup_perm perm (by simp [memberNames]) name
      rw [ofJson_array, ofJson_object (found "original") (found "address") (found "offset")
        (found "state")]
      simp only [Json.bind_eq_ok]
      constructor
      · intro ⟨_, submitted, _, address, _, offset, _, progress, same⟩
        exact ⟨_, address, _, offset, _, submitted, _, progress, same⟩
      · intro ⟨_, address, _, offset, _, submitted, _, progress, same⟩
        exact ⟨_, submitted, _, address, _, offset, _, progress, same⟩

end Recipient

/-- The values of recipients in a list, with further members in those that are objects. -/
inductive Ledger.Padded : Json → Json → Prop where
  | array {items others : List Json} (same : List.Forall₂ Recipient.Padded items others) :
      Padded (.array items) (.array others)
  | same (json : Json) : Padded json json

theorem Ledger.ofJson_padded {json padded : Json} (pads : Padded json padded) :
    ofJson padded = ofJson json := by
  cases pads with
  | array same =>
      have reads := mapM_congr Recipient.ofJson (same.imp fun _ _ => Recipient.ofJson_padded)
      rw [ofJson, ofJson, Json.toItems, Json.toItems, Json.ok_bind, Json.ok_bind, reads]
  | same => rfl

namespace Request

def memberNames : List String :=
  ["queue_id", "arrival_time", "trace_flags", "recipients", "hop_status"]

/-- The value of a request, with further members if it is an object, and with further members in
those of its recipients that are objects. -/
abbrev Padded := Json.Padded memberNames fun name value other =>
  name = "recipients" ∧ Ledger.Padded value other

theorem ofJson_padded {json padded : Json} (pads : Padded json padded) :
    ofJson padded = ofJson json := by
  have ledgers (name : String) (value other : Json)
      (altered : name = "recipients" ∧ Ledger.Padded value other) :
      Ledger.ofJson other = Ledger.ofJson value := Ledger.ofJson_padded altered.2
  cases pads with
  | object enlarged =>
      rw [ofJson, ofJson, enlarged.member? (by decide) (by simp),
        enlarged.member? (by decide) (by simp), enlarged.member? (by decide) (by simp),
        enlarged.member? (by decide) (ledgers "recipients"), enlarged.member? (by decide) (by simp)]
  | array rewritten =>
      rw [ofJson, ofJson, rewritten.item 0 _ (by simp [memberNames]),
        rewritten.item 1 _ (by simp [memberNames]), rewritten.item 2 _ (by simp [memberNames]),
        rewritten.item 3 _ fun name _ => ledgers name,
        rewritten.item 4 _ (by simp [memberNames]), rewritten.noFurther]
  | same => rfl

theorem ofJson_array (queueId arrival purposes ledger hopStatus : Json) :
    ofJson (.array [queueId, arrival, purposes, ledger, hopStatus]) = (do
      let queueId ← QueueId.ofJson queueId
      let arrival ← Instant.ofJson arrival
      let purposes ← Purposes.ofJson purposes
      let ledger ← Ledger.ofJson ledger
      let hopStatus ← Json.toOptionalText hopStatus
      .ok ⟨queueId, arrival, purposes, ledger, hopStatus⟩) := rfl

theorem ofJson_object {members : List (String × Json)}
    {queueId arrival purposes ledger hopStatus : Json}
    (queueIds : members.lookup "queue_id" = some queueId)
    (arrivals : members.lookup "arrival_time" = some arrival)
    (purpose : members.lookup "trace_flags" = some purposes)
    (ledgers : members.lookup "recipients" = some ledger)
    (hopStatuses : members.lookup "hop_status" = some hopStatus) :
    ofJson (.object members) = (do
      let arrival ← Instant.ofJson arrival
      let hopStatus ← Json.toOptionalText hopStatus
      let queueId ← QueueId.ofJson queueId
      let ledger ← Ledger.ofJson ledger
      let purposes ← Purposes.ofJson purposes
      .ok ⟨queueId, arrival, purposes, ledger, hopStatus⟩) := by
  simp [ofJson, Json.member?, queueIds, arrivals, purpose, ledgers, hopStatuses, Json.required]

theorem formsAgree : Json.FormsAgree memberNames ofJson := by
  intro values members count perm request
  match values, count with
  | [queueId, arrival, purposes, ledger, hopStatus], _ =>
      have found (name : String) := Json.lookup_perm perm (by simp [memberNames]) name
      rw [ofJson_array, ofJson_object (found "queue_id") (found "arrival_time")
        (found "trace_flags") (found "recipients") (found "hop_status")]
      simp only [Json.bind_eq_ok]
      constructor
      · intro ⟨_, queueId, _, arrival, _, purposes, _, ledger, _, hopStatus, same⟩
        exact ⟨_, arrival, _, hopStatus, _, queueId, _, ledger, _, purposes, same⟩
      · intro ⟨_, arrival, _, hopStatus, _, queueId, _, ledger, _, purposes, same⟩
        exact ⟨_, queueId, _, arrival, _, purposes, _, ledger, _, hopStatus, same⟩

end Request

namespace Policy

def memberNames : List String := ["soft_bounce", "notify_classes"]

/-- The value of a policy, with further members if it is an object. -/
abbrev Padded := Json.Padded memberNames Json.unaltered

theorem ofJson_padded {json padded : Json} (pads : Padded json padded) :
    ofJson padded = ofJson json := by
  cases pads with
  | object enlarged =>
      rw [ofJson, ofJson, enlarged.member?_unaltered (by decide),
        enlarged.member?_unaltered (by decide)]
  | array rewritten =>
      rw [ofJson, ofJson, rewritten.item?_unaltered 0, rewritten.item?_unaltered 1,
        rewritten.noFurther]
  | same => rfl

theorem ofJson_array (softBounce notifyClasses : Json) :
    ofJson (.array [softBounce, notifyClasses]) = (do
      let softBounce ← some <$> Json.toBool softBounce
      let notifyClasses ← some <$> ProblemClass.listOfJson notifyClasses
      .ok (ofSettings softBounce notifyClasses)) := rfl

theorem ofJson_object {members : List (String × Json)} {softBounce notifyClasses : Json}
    (bounces : members.lookup "soft_bounce" = some softBounce)
    (classes : members.lookup "notify_classes" = some notifyClasses) :
    ofJson (.object members) = (do
      let notifyClasses ← some <$> ProblemClass.listOfJson notifyClasses
      let softBounce ← some <$> Json.toBool softBounce
      .ok (ofSettings softBounce notifyClasses)) := by
  simp only [ofJson, Json.member?, bounces, classes]

theorem formsAgree : Json.FormsAgree memberNames ofJson := by
  intro values members count perm policy
  match values, count with
  | [softBounce, notifyClasses], _ =>
      have found (name : String) := Json.lookup_perm perm (by simp [memberNames]) name
      rw [ofJson_array, ofJson_object (found "soft_bounce") (found "notify_classes")]
      simp only [Json.bind_eq_ok]
      constructor
      · intro ⟨_, softBounce, _, notifyClasses, same⟩
        exact ⟨_, notifyClasses, _, softBounce, same⟩
      · intro ⟨_, notifyClasses, _, softBounce, same⟩
        exact ⟨_, softBounce, _, notifyClasses, same⟩

end Policy

namespace Instant

def memberNames : List String := ["secs_since_epoch", "nanos_since_epoch"]

theorem checkMembers_known {parts : List (String × Json)} (checked : checkMembers parts = .ok ()) :
    ∀ part ∈ parts, part.1 ∈ memberNames := by
  induction parts with
  | nil => exact nofun
  | cons part parts ih =>
      obtain ⟨name, value⟩ := part
      rw [checkMembers] at checked
      split at checked
      · next seconds =>
          obtain ⟨_, _, later⟩ := Json.bind_eq_ok.mp checked
          exact List.forall_mem_cons.mpr ⟨by simp [memberNames, seconds], ih later⟩
      · split at checked
        · next nanos =>
            obtain ⟨_, _, later⟩ := Json.bind_eq_ok.mp checked
            exact List.forall_mem_cons.mpr ⟨by simp [memberNames, nanos], ih later⟩
        · cases checked

/-- A point in time is read only from an object that has no other members. -/
theorem ofJson_known {parts : List (String × Json)} {instant : Instant}
    (read : ofJson (.object parts) = .ok instant) : ∀ part ∈ parts, part.1 ∈ memberNames := by
  simp only [ofJson, Json.bind_eq_ok] at read
  obtain ⟨_, checked, _⟩ := read
  exact checkMembers_known checked

end Instant

namespace Request

/-- A request is read only if its arrival is. -/
theorem ofJson_arrival {members : List (String × Json)} {arrival : Json} {request : Request}
    (arrives : members.lookup "arrival_time" = some arrival)
    (read : ofJson (.object members) = .ok request) :
    ∃ instant, Instant.ofJson arrival = .ok instant := by
  simp only [ofJson, Json.bind_eq_ok, Json.member?, arrives, Json.map_eq_ok] at read
  obtain ⟨_, ⟨instant, arrived, _⟩, _⟩ := read
  exact ⟨instant, arrived⟩

/-- A request is refused if the object for its arrival has any other member. -/
theorem ofJson_refused {members parts : List (String × Json)} {key : String} {value : Json}
    (arrives : members.lookup "arrival_time" = some (.object parts)) (member : (key, value) ∈ parts)
    (unknown : key ∉ Instant.memberNames) : ∃ error, ofJson (.object members) = .error error := by
  cases read : ofJson (.object members) with
  | error error => exact ⟨error, rfl⟩
  | ok request =>
      obtain ⟨instant, arrived⟩ := ofJson_arrival arrives read
      exact absurd (Instant.ofJson_known arrived _ member) unknown

end Request

/-- Records are read by the names of their members. An array with the values of all members in the
order of their declaration is read just when an object with these members is, and as the same record.
Further members change neither what is read nor which fault is reported, wherever an object is read
as a record. The arrival of a request is the exception: an object with a member of another name is
no point in time. -/
theorem records_are_read_by_names :
    (Json.FormsAgree Policy.memberNames Policy.ofJson ∧
      Json.FormsAgree Request.memberNames Request.ofJson ∧
      Json.FormsAgree Recipient.memberNames Recipient.ofJson ∧
      Json.FormsAgree Session.memberNames Session.ofJson) ∧
    (∀ json padded : Json,
      (Policy.Padded json padded → Policy.ofJson padded = Policy.ofJson json) ∧
      (Request.Padded json padded → Request.ofJson padded = Request.ofJson json) ∧
      (Ledger.Padded json padded → Ledger.ofJson padded = Ledger.ofJson json) ∧
      (Recipient.Padded json padded → Recipient.ofJson padded = Recipient.ofJson json) ∧
      (Session.Padded json padded → Session.ofJson padded = Session.ofJson json)) ∧
    ∀ (members parts : List (String × Json)) (key : String) (value : Json),
      members.lookup "arrival_time" = some (.object parts) → (key, value) ∈ parts →
        key ∉ Instant.memberNames → ∃ error, Request.ofJson (.object members) = .error error := by
  refine ⟨⟨Policy.formsAgree, Request.formsAgree, Recipient.formsAgree, Session.formsAgree⟩, ?_, ?_⟩
  · intro json padded
    exact ⟨Policy.ofJson_padded, Request.ofJson_padded, Ledger.ofJson_padded,
      Recipient.ofJson_padded, Session.ofJson_padded⟩
  · intro members parts key value arrives member unknown
    exact Request.ofJson_refused arrives member unknown

/-- A connection is written in both forms. Members are added to a request and to its recipient, and
one too many to the object for the arrival. -/
theorem records_are_read_by_names_bulk_mail :
    let parts : List (String × Json) :=
      [("nanos_since_epoch", .integer 0), ("secs_since_epoch", .integer 5)]
    let recipient : List (String × Json) := [("address", .text "a@x"), ("offset", .integer 10),
      ("original", .text "a"), ("state", .text "Pending")]
    let members (arrival recipient : List (String × Json)) : List (String × Json) :=
      [("arrival_time", .object arrival), ("queue_id", .text "4F"),
        ("recipients", .array [.object recipient]), ("trace_flags", .integer 4)]
    let padded := Json.insertMember "priority" (.text "bulk")
      (members parts (Json.insertMember "note" .null recipient))
    let request : Request := ⟨⟨"4F"⟩, ⟨5, 0, by decide, by decide, by decide⟩, ⟨4⟩,
      ⟨[⟨"a", "a@x", 10, .pending⟩]⟩, none⟩
    Session.ofJson (.array [.text "mx", .text "192.0.2.1"]) = .ok ⟨"mx", "192.0.2.1"⟩ ∧
      Request.ofJson (.object padded) = .ok request ∧
      ∃ error, Request.ofJson (.object
        (members (("zone", .text "UTC") :: parts) recipient)) = .error error := by
  intro parts recipient members padded request
  obtain ⟨⟨_, _, _, forms⟩, padding, refusal⟩ := records_are_read_by_names
  refine ⟨?_, ?_, ?_⟩
  · have object : Session.ofJson (.object [("address", .text "192.0.2.1"), ("host", .text "mx")]) =
        .ok ⟨"mx", "192.0.2.1"⟩ := rfl
    exact (forms _ _ rfl (List.Perm.swap _ _ _) _).mpr object
  · have plain : Request.ofJson (.object (members parts recipient)) = .ok request := rfl
    have noted : Recipient.Padded (.object recipient)
        (.object (Json.insertMember "note" .null recipient)) := by
      apply Json.Padded.object
      apply Json.Enlarged.further
      · exact .altered (List.forall₂_same.mpr fun _ _ => ⟨rfl, .inl rfl⟩)
      · decide
    have bulk : Request.Padded (.object (members parts recipient)) (.object padded) := by
      apply Json.Padded.object
      apply Json.Enlarged.further
      · exact .altered <| .cons ⟨rfl, .inl rfl⟩ <| .cons ⟨rfl, .inl rfl⟩ <|
          .cons ⟨rfl, .inr ⟨rfl, .array (.cons noted .nil)⟩⟩ <| .cons ⟨rfl, .inl rfl⟩ .nil
      · decide
    exact ((padding _ _).2.1 bulk).trans plain
  · exact refusal _ _ "zone" (.text "UTC") rfl List.mem_cons_self (by decide)

end Nondelivery
