/-
This file cuts the text of a value into its smallest parts.
-/

import Nondelivery.Json.Binary64
import Nondelivery.Text.Reader

namespace Nondelivery.Json

/-- The smallest parts of a written value. -/
inductive Token where
  | mark (character : Char)
  | word (letters : List Char)
  | text (value : String)
  | integer (value : Int)
  | decimal (value : Decimal)
  deriving DecidableEq

namespace Token

/-- The characters that may stand between tokens. -/
def isSpace (character : Char) : Bool :=
  character = ' ' || character = '\t' || character = '\n' || character = '\r'

/-- The characters that are tokens of their own. -/
def isMark (character : Char) : Bool :=
  ['[', ']', '\x7b', '\x7d', ':', ','].contains character

/-- The character that a letter after a backslash stands for. -/
def escaped? : Char → Option Char
  | '"' => some '"'
  | '\\' => some '\\'
  | '/' => some '/'
  | 'b' => some '\x08'
  | 'f' => some '\x0c'
  | 'n' => some '\n'
  | 'r' => some '\r'
  | 't' => some '\t'
  | _ => none

/-- A code unit that opens a pair for a character beyond the first 65536. -/
def isLeading (unit : Nat) : Bool := 0xD800 ≤ unit && unit < 0xDC00

/-- A code unit that closes such a pair. -/
def isTrailing (unit : Nat) : Bool := 0xDC00 ≤ unit && unit < 0xE000

/-- The characters up to the closing quote, and what follows it. -/
def readText : List Char → Option (List Char × List Char)
  | '"' :: rest => some ([], rest)
  | '\\' :: 'u' :: a :: b :: c :: d :: '\\' :: 'u' :: e :: f :: g :: h :: rest => do
      let first ← Text.hexadecimal? [a, b, c, d]
      if isLeading first then
        let second ← Text.hexadecimal? [e, f, g, h]
        if isTrailing second then
          let character := Char.ofNat (0x10000 + (first - 0xD800) * 0x400 + (second - 0xDC00))
          (readText rest).map fun (characters, rest) => (character :: characters, rest)
        else
          none
      else if isTrailing first then
        none
      else
        (readText ('\\' :: 'u' :: e :: f :: g :: h :: rest)).map
          fun (characters, rest) => (Char.ofNat first :: characters, rest)
  | '\\' :: 'u' :: a :: b :: c :: d :: rest => do
      let unit ← Text.hexadecimal? [a, b, c, d]
      if isLeading unit || isTrailing unit then
        none
      else
        (readText rest).map fun (characters, rest) => (Char.ofNat unit :: characters, rest)
  | '\\' :: letter :: rest => do
      let character ← escaped? letter
      (readText rest).map fun (characters, rest) => (character :: characters, rest)
  | character :: rest =>
      if character < ' ' || character = '\\' then none
      else (readText rest).map fun (characters, rest) => (character :: characters, rest)
  | [] => none

/-- The characters of which numbers are made. -/
def isNumeric (character : Char) : Bool :=
  character.isDigit || ['-', '+', '.', 'e', 'E'].contains character

/-- An exponent, with or without a sign. -/
def exponent? : List Char → Option Int
  | '+' :: digits => (Text.numeral? digits).map Int.ofNat
  | '-' :: digits => (Text.numeral? digits).map fun value => -Int.ofNat value
  | digits => (Text.numeral? digits).map Int.ofNat

/-- A run of digits that does not start with a zero unless it is that zero. -/
def isWholePart (digits : List Char) : Bool :=
  (Text.numeral? digits).isSome && !(digits.head? == some '0' && digits.length != 1)

/-- The magnitude of the least integer that is kept exactly. -/
def leastInteger : Int := 9223372036854775808

/-- Appends digits to a number as long as it fits into 64 bits, and counts the digits left over. -/
def appendDigits : Nat → List Char → Nat × Nat
  | value, [] => (value, 0)
  | value, digit :: digits =>
      let longer := 10 * value + Text.digitValue digit
      if longer < UInt64.size then appendDigits longer digits else (value, digits.length + 1)

/-- The decimal with these digits before and after the point. A decimal keeps as many digits as fit
into 64 bits; those left over before the point still count for its size. -/
def decimalOf (negative : Bool) (wholeDigits fractionDigits : List Char) (exponent : Int) :
    Decimal :=
  let whole := appendDigits 0 wholeDigits
  let digits := appendDigits whole.1 fractionDigits
  ⟨negative, digits.1, exponent + whole.2 + digits.2 - fractionDigits.length⟩

/-- A decimal is a number only if the floating-point format has one of its size. -/
def decimal? (value : Decimal) : Option Token :=
  if value.magnitude.isFinite then some (decimal value) else none

/-- A numeral without fraction and exponent. It is an integer as long as it fits into 64 bits, and
minus zero is not an integer. -/
def whole? (negative : Bool) (digits : List Char) : Option Token :=
  let magnitude := Text.digitsValue digits
  let value : Int := if negative then -magnitude else magnitude
  if -leastInteger ≤ value ∧ value < UInt64.size ∧ ¬(negative ∧ magnitude = 0) then
    some (integer value)
  else
    decimal? (decimalOf negative digits [] 0)

/-- The number that the characters denote. -/
def number? (characters : List Char) : Option Token := do
  let isExponentMark := fun character => character = 'e' ∨ character = 'E'
  let negative := characters.head? = some '-'
  let unsigned := if negative then characters.tail else characters
  let mantissa := unsigned.takeWhile fun character => ¬isExponentMark character
  let exponentPart := unsigned.dropWhile fun character => ¬isExponentMark character
  let wholeDigits := mantissa.takeWhile fun character => character ≠ '.'
  let fractionPart := mantissa.dropWhile fun character => character ≠ '.'
  if ¬isWholePart wholeDigits then
    none
  else if fractionPart.isEmpty ∧ exponentPart.isEmpty then
    whole? negative wholeDigits
  else
    let exponent ← if exponentPart.isEmpty then some 0 else exponent? exponentPart.tail
    if fractionPart.isEmpty ∨ (Text.numeral? fractionPart.tail).isSome then
      decimal? (decimalOf negative wholeDigits fractionPart.tail exponent)
    else
      none

/-- The first token and what follows it. -/
def next? : List Char → Option (Token × List Char)
  | [] => none
  | character :: rest =>
      if isMark character then
        some (mark character, rest)
      else if character = '"' then
        (readText rest).map fun (characters, rest) => (text (String.ofList characters), rest)
      else if character.isAlpha then
        some (word (character :: rest.takeWhile Char.isAlpha), rest.dropWhile Char.isAlpha)
      else
        (number? ((character :: rest).takeWhile isNumeric)).map
          fun token => (token, (character :: rest).dropWhile isNumeric)

/-- All tokens; each round reads one, so as many rounds as there are characters are enough. -/
def readAll : Nat → List Char → Option (List Token)
  | 0, characters => if (characters.dropWhile isSpace).isEmpty then some [] else none
  | rounds + 1, characters =>
      match characters.dropWhile isSpace with
      | [] => some []
      | character :: rest => do
          let (token, rest) ← next? (character :: rest)
          let tokens ← readAll rounds rest
          some (token :: tokens)

/-- The tokens of a written value. -/
def ofText? (source : String) : Option (List Token) :=
  readAll source.length source.toList

end Token

end Nondelivery.Json
