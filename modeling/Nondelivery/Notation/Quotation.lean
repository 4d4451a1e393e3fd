/-
This file finds the texts and characters of configuration files. No setting is a text, so all that
matters is where a text ends and whether what stands after its backslashes makes sense.
-/

import Nondelivery.Text.Reader

namespace Nondelivery.Notation

/-- What stands between quotes: one character or many, and characters or bytes. -/
inductive Quotation where
  | text
  | character
  | byteText
  | byte
  deriving DecidableEq

namespace Quotation

/-- The quotation that starts here, if one does. -/
def ofStart? : List Char → Option Quotation
  | '"' :: _ => some text
  | 'r' :: '"' :: _ => some text
  | 'r' :: '#' :: '"' :: _ => some text
  | 'r' :: '#' :: '#' :: _ => some text
  | '\'' :: _ => some character
  | 'b' :: '"' :: _ => some byteText
  | 'b' :: 'r' :: '"' :: _ => some byteText
  | 'b' :: 'r' :: '#' :: _ => some byteText
  | 'b' :: '\'' :: _ => some byte
  | _ => none

/-- The quote of a raw text stands after any number of number signs. -/
def opensRaw (characters : List Char) : Bool :=
  (characters.dropWhile (· = '#')).head? = some '"'

/-- The opening quote of the quotation stands here. A word that starts like a raw text has none. -/
def opens : Quotation → List Char → Bool
  | text, '"' :: _ => true
  | text, 'r' :: rest => opensRaw rest
  | byteText, 'b' :: '"' :: _ => true
  | byteText, 'b' :: 'r' :: rest => opensRaw rest
  | character, '\'' :: _ => true
  | byte, 'b' :: '\'' :: _ => true
  | _, _ => false

/-- A quotation of bytes may hold any bytes, another one only those that are the UTF-8 code of a
character. -/
def admits (quotation : Quotation) (bytes : List UInt8) : Bool :=
  match quotation with
  | text | character => bytes.toByteArray.validateUTF8
  | byteText | byte => true

/-- How many bytes may be written for one character. -/
def mostBytes : Quotation → Nat
  | text => 4
  | character | byteText | byte => 1

/-- Only quotations of many characters may go on in another line. -/
def holdsMany : Quotation → Bool
  | text | byteText => true
  | character | byte => false

/-- This many bytes, each after a backslash of its own, and what follows them. -/
def bytes? : Nat → List Char → Option (List UInt8 × List Char)
  | 0, characters => some ([], characters)
  | count + 1, '\\' :: 'x' :: first :: second :: rest => do
      let value ← Text.hexadecimal? [first, second]
      let (bytes, rest) ← bytes? count rest
      some (UInt8.ofNat value :: bytes, rest)
  | _ + 1, _ => none

/-- What follows a code point that is written in braces. -/
def afterCodePoint? (characters : List Char) : Option (List Char) := do
  let digits := characters.takeWhile (· ≠ '\x7d')
  let value ← Text.hexadecimal? digits
  if 1 ≤ digits.length ∧ digits.length ≤ 6 ∧ value.isValidChar then
    match characters.dropWhile (· ≠ '\x7d') with
    | _ :: rest => some rest
    | [] => none
  else
    none

/-- What follows the characters that belong to a backslash. -/
def afterEscape? (quotation : Quotation) : List Char → Option (List Char)
  | 'x' :: rest =>
      (List.range quotation.mostBytes).findSome? fun more => do
        let (bytes, rest) ← bytes? (more + 1) ('\\' :: 'x' :: rest)
        if quotation.admits bytes then some rest else none
  | 'u' :: '\x7b' :: rest => if quotation = byte then none else afterCodePoint? rest
  | '\r' :: '\n' :: rest => if quotation.holdsMany then some rest else none
  | '\n' :: rest => if quotation.holdsMany then some rest else none
  | letter :: rest =>
      if ['\'', '"', '\\', 'n', 'r', 't', '0'].contains letter then some rest else none
  | [] => none

/-- What follows the closing quote of a text; each round drops at least one character. -/
def afterMany? (quotation : Quotation) : Nat → List Char → Option (List Char)
  | 0, _ => none
  | _ + 1, [] => none
  | _ + 1, '"' :: rest => some rest
  | rounds + 1, '\\' :: rest => do
      let rest ← afterEscape? quotation rest
      afterMany? quotation rounds rest
  | rounds + 1, _ :: rest => afterMany? quotation rounds rest

/-- What follows the closing quote of a single character. Of bytes only those of ASCII stand for
themselves. -/
def afterOne? (quotation : Quotation) (characters : List Char) : Option (List Char) := do
  let rest ←
    match characters with
    | '\\' :: rest => afterEscape? quotation rest
    | first :: rest => if quotation = byte ∧ 0x80 ≤ first.toNat then none else some rest
    | [] => none
  match rest with
  | '\'' :: rest => some rest
  | _ => none

/-- What follows the first place where the ending stands. -/
def afterEnding? (ending : List Char) : List Char → Option (List Char)
  | [] => none
  | first :: rest => (ending.isPrefixOf? (first :: rest)).or (afterEnding? ending rest)

/-- What follows a raw text, in which a backslash is a character like any other. It ends with a
quote and as many number signs as stand before it. -/
def afterRaw? (characters : List Char) : Option (List Char) :=
  match characters.dropWhile (· = '#') with
  | '"' :: rest => afterEnding? ('"' :: characters.takeWhile (· = '#')) rest
  | _ => none

/-- What follows the quotation. -/
def after? : Quotation → List Char → Option (List Char)
  | text, '"' :: rest => afterMany? text (rest.length + 1) rest
  | text, 'r' :: rest => afterRaw? rest
  | byteText, 'b' :: '"' :: rest => afterMany? byteText (rest.length + 1) rest
  | byteText, 'b' :: 'r' :: rest => afterRaw? rest
  | character, '\'' :: rest => afterOne? character rest
  | byte, 'b' :: '\'' :: rest => afterOne? byte rest
  | _, _ => none

end Quotation

end Nondelivery.Notation
