/-
This file defines the values of the interchange format in which requests and policies are kept.
-/

namespace Nondelivery

/-- A number that is written with a fraction or an exponent: `digits` times ten to the power of
`exponent`, negated if `negative` is set. -/
structure Decimal where
  negative : Bool
  digits : Nat
  exponent : Int
  deriving DecidableEq, Repr

/-- A value of the interchange format. -/
inductive Json where
  | null
  | boolean (value : Bool)
  | integer (value : Int)
  | decimal (value : Decimal)
  | text (value : String)
  | array (items : List Json)
  | object (members : List (String × Json))
  deriving Inhabited, BEq, Repr

namespace Json

/-- Adds a member in key order, in place of a member with the same key. -/
def insertMember (key : String) (value : Json) : List (String × Json) → List (String × Json)
  | [] => [(key, value)]
  | (otherKey, otherValue) :: rest =>
      if key = otherKey then
        (key, value) :: rest
      else if key < otherKey then
        (key, value) :: (otherKey, otherValue) :: rest
      else
        (otherKey, otherValue) :: insertMember key value rest

/-- The object with these members in key order; of two members with one key the later counts. -/
def ofMembers (members : List (String × Json)) : Json :=
  .object (members.foldl (fun sorted member => insertMember member.1 member.2 sorted) [])

/-- The natural number as a value. -/
def natural (value : Nat) : Json :=
  .integer value

end Json

end Nondelivery
