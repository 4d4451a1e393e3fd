/-
This file turns values of the interchange format into numbers, texts and records, and says what is
wrong with a value that does not fit. A record is an object that holds its members by name, or an
array that holds them in the order of their declaration.
-/

import Nondelivery.Json.Binary64
import Nondelivery.Text.Quoted

namespace Nondelivery

/-- Why a value cannot be taken for what was expected. -/
inductive DecodeError where
  | wrongType (found : Json) (expected : String)
  | wrongValue (found : Json) (expected : String)
  | wrongLength (length : Nat) (expected : String)
  | missingMember (name : String)
  | unknownMember (name : String) (known : List String)
  | unknownVariant (name : String) (known : List String)
  | offsetOverflow
  | instantOverflow
  deriving BEq, Repr

/-- A list of names as the alternatives in a message. -/
def alternatives (names : List String) : String :=
  let quoted := names.map fun name => "`" ++ name ++ "`"
  match quoted with
  | [] => ""
  | [only] => only
  | [first, second] => first ++ " or " ++ second
  | _ => "one of " ++ String.intercalate ", " quoted

namespace Json

/-- What a value is called in a message. -/
def describe : Json → String
  | null => "null"
  | boolean value => "boolean `" ++ toString value ++ "`"
  | integer value => "integer `" ++ toString value ++ "`"
  | decimal value => "floating point `" ++ value.text ++ "`"
  | text value => "string " ++ Text.quote value
  | array _ => "sequence"
  | object _ => "map"

end Json

def DecodeError.message : DecodeError → String
  | wrongType found expected => "invalid type: " ++ found.describe ++ ", expected " ++ expected
  | wrongValue found expected => "invalid value: " ++ found.describe ++ ", expected " ++ expected
  | wrongLength length expected =>
      "invalid length " ++ toString length ++ ", expected " ++ expected
  | missingMember name => "missing field `" ++ name ++ "`"
  | unknownMember name known => "unknown field `" ++ name ++ "`, expected " ++ alternatives known
  | unknownVariant name known =>
      "unknown variant `" ++ name ++ "`, expected " ++ alternatives known
  | offsetOverflow => "overflow deserializing SystemTime epoch offset"
  | instantOverflow => "overflow deserializing SystemTime"

namespace Json

/-- What a value decodes to, or why it does not. -/
abbrev Decoded := Except DecodeError

def toBool : Json → Decoded Bool
  | boolean value => .ok value
  | other => .error (.wrongType other "a boolean")

def toText : Json → Decoded String
  | text value => .ok value
  | other => .error (.wrongType other "a string")

/-- A text, or nothing for null. -/
def toOptionalText : Json → Decoded (Option String)
  | null => .ok none
  | other => some <$> other.toText

/-- An integer that is at least zero and below the bound. -/
def toNatBelow (bound : Nat) (expected : String) : Json → Decoded Nat
  | integer value =>
      if 0 ≤ value ∧ value < bound then .ok value.toNat
      else .error (.wrongValue (integer value) expected)
  | other => .error (.wrongType other expected)

def toUInt8 (json : Json) : Decoded UInt8 :=
  UInt8.ofNat <$> json.toNatBelow UInt8.size "u8"

def toUInt64 (json : Json) : Decoded UInt64 :=
  UInt64.ofNat <$> json.toNatBelow UInt64.size "u64"

def toItems : Json → Decoded (List Json)
  | array items => .ok items
  | other => .error (.wrongType other "a sequence")

/-- One of the named variants: its name, or an object that maps its name to null. -/
def toVariant {α : Type} (variants : List (String × α)) : Json → Decoded α
  | text name => find name
  | object [(name, payload)] => do
      let variant ← find name
      match payload with
      | null => .ok variant
      | other => .error (.wrongType other "unit")
  | object members => .error (.wrongValue (object members) "map with a single key")
  | other => .error (.wrongType other "string or map")
where
  find (name : String) : Decoded α :=
    match variants.lookup name with
    | some variant => .ok variant
    | none => .error (.unknownVariant name (variants.map Prod.fst))

/-- The member with this name, decoded if there is one. -/
def member? {α : Type} (members : List (String × Json)) (name : String)
    (decode : Json → Decoded α) : Decoded (Option α) :=
  match members.lookup name with
  | none => .ok none
  | some value => some <$> decode value

/-- The value of a member that a record cannot do without. -/
def required {α : Type} (name : String) : Option α → Decoded α
  | some value => .ok value
  | none => .error (.missingMember name)

/-- The item at this position of a record that is written as an array. -/
def item {α : Type} (items : List Json) (position : Nat) (expected : String)
    (decode : Json → Decoded α) : Decoded α :=
  match items[position]? with
  | some value => decode value
  | none => .error (.wrongLength items.length expected)

/-- The item at this position of a record that is written as an array, if it is that long. -/
def item? {α : Type} (items : List Json) (position : Nat) (decode : Json → Decoded α) :
    Decoded (Option α) :=
  match items[position]? with
  | none => .ok none
  | some value => some <$> decode value

/-- A record that is written as an array has no more items than members. -/
def noFurther (items : List Json) (count : Nat) : Decoded Unit :=
  if items.length ≤ count then .ok ()
  else .error (.wrongLength items.length "fewer elements in array")

end Json

end Nondelivery
