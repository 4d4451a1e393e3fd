/-
This file writes values as text, without spaces between the tokens.
-/

import Nondelivery.Json.Binary64

namespace Nondelivery.Json

/-- A hexadecimal numeral of four digits. -/
def fourDigits (value : Nat) : List Char :=
  let digits := Nat.toDigits 16 value
  List.replicate (4 - digits.length) '0' ++ digits

/-- A character as it is written in a text. -/
def writeCharacter (character : Char) : List Char :=
  if character = '"' then ['\\', '"']
  else if character = '\\' then ['\\', '\\']
  else if character < ' ' then ['\\', 'u'] ++ fourDigits character.toNat
  else [character]

def writeText (value : String) : String :=
  String.ofList ('"' :: value.toList.flatMap writeCharacter ++ ['"'])

mutual

/-- The text of a value. -/
def write : Json → String
  | null => "null"
  | boolean value => toString value
  | integer value => toString value
  | decimal value => value.text
  | text value => writeText value
  | array items => "[" ++ String.intercalate "," (writeItems items) ++ "]"
  | object members => "\x7b" ++ String.intercalate "," (writeMembers members) ++ "\x7d"

def writeItems : List Json → List String
  | [] => []
  | item :: items => item.write :: writeItems items

def writeMembers : List (String × Json) → List String
  | [] => []
  | (key, value) :: members => (writeText key ++ ":" ++ value.write) :: writeMembers members

end

end Nondelivery.Json
