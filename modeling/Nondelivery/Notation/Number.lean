/-
This file finds the numbers of configuration files, and the ranges between two of them. No setting
is a number, so all that matters is where a number ends.
-/

import Nondelivery.Notation.Quotation
import Nondelivery.Text.Identifier
import Nondelivery.Text.Reader

namespace Nondelivery.Notation.Number

/-- What follows a word, if the characters start with it and it ends there. -/
def afterWord? (word : String) (characters : List Char) : Option (List Char) :=
  (word.toList.isPrefixOf? characters).filter fun rest => !rest.head?.any Text.continuesName

/-- The characters without the sign in front. -/
def unsigned : List Char → List Char
  | '+' :: rest => rest
  | '-' :: rest => rest
  | characters => characters

/-- The base that a mark in front of the digits names, and the digits. -/
def splitBase : List Char → Nat × List Char
  | '0' :: 'b' :: rest => (2, rest)
  | '0' :: 'o' :: rest => (8, rest)
  | '0' :: 'x' :: rest => (16, rest)
  | characters => (10, characters)

/-- A digit of an integer, or a gap between two. -/
def isWholeCharacter (character : Char) : Bool :=
  (Text.hexValue? character).isSome || character = '_'

/-- The value of digits in a base. Gaps do not count, but none may come first. -/
def wholeValue? (base : Nat) (characters : List Char) : Option Nat :=
  if characters.head?.all (· = '_') then
    none
  else
    (characters.filter (· ≠ '_')).foldlM
      (fun value digit => do
        let digit ← Text.hexValue? digit
        if digit < base then some (base * value + digit) else none)
      0

/-- The characters are an integer within these bounds. -/
def isWithin (bounds : Int × Int) (characters : List Char) : Bool :=
  let (base, digits) := splitBase (unsigned characters)
  (wholeValue? base digits).any fun value =>
    let signed : Int := if characters.head? = some '-' then -value else value
    bounds.1 ≤ signed && signed ≤ bounds.2

/-- The bounds of an integer that does not name its kind. -/
def widestBounds : Int × Int := (-9223372036854775808, 18446744073709551615)

/-- The kinds that an integer may name, with their bounds. -/
def kinds : List (String × Int × Int) :=
  [("i8", -128, 127), ("i16", -32768, 32767), ("i32", -2147483648, 2147483647),
    ("i64", -9223372036854775808, 9223372036854775807), ("u8", 0, 255), ("u16", 0, 65535),
    ("u32", 0, 4294967295), ("u64", 0, 18446744073709551615)]

/-- What follows an integer that does not name its kind. -/
def afterPlainInteger? (characters : List Char) : Option (List Char) :=
  let rest := (splitBase (unsigned characters)).2.dropWhile isWholeCharacter
  if isWithin widestBounds (characters.take (characters.length - rest.length)) then some rest
  else none

/-- What follows an integer that names its kind. -/
def afterKindInteger? (characters : List Char) : Option (List Char) :=
  let rest := (splitBase (unsigned characters)).2.dropWhile isWholeCharacter
  kinds.findSome? fun (kind, bounds) => do
    let following ← afterWord? kind rest
    if isWithin bounds (characters.take (characters.length - rest.length)) then some following
    else none

/-- The characters of which decimals are made. -/
def isDecimalCharacter (character : Char) : Bool :=
  character.isDigit || ['e', 'E', '.', '+', '-', '_'].contains character

/-- The characters that may belong to a decimal. Two points in a row do not. -/
def decimalRun : List Char → List Char
  | '.' :: '.' :: _ => []
  | character :: rest => if isDecimalCharacter character then character :: decimalRun rest else []
  | [] => []

/-- Every gap comes after a digit or an exponent mark, and the first character after a point is no
gap; `allowed` tells whether a gap may come first. -/
def gapsFit : Bool → List Char → Bool
  | _, [] => true
  | allowed, '_' :: rest => allowed && gapsFit allowed rest
  | _, '.' :: rest => gapsFit false rest
  | allowed, character :: rest =>
      gapsFit (allowed || character.isDigit || character = 'e' || character = 'E') rest

/-- The characters are a decimal numeral, with an optional point and an optional exponent. -/
def isDecimal (characters : List Char) : Bool :=
  let body := unsigned characters
  let mantissa := body.takeWhile fun character => character ≠ 'e' && character ≠ 'E'
  let exponent := body.dropWhile fun character => character ≠ 'e' && character ≠ 'E'
  let figures := mantissa.eraseP fun character => character = '.'
  (Text.numeral? figures).isSome &&
    (exponent.isEmpty || (Text.numeral? (unsigned exponent.tail)).isSome)

/-- What follows a decimal, which may name its width. -/
def afterDecimal? (characters : List Char) : Option (List Char) :=
  let run := decimalRun characters
  let rest := characters.drop run.length
  if gapsFit false run && isDecimal (run.filter (· ≠ '_')) then
    some ((["f32", "f64"].findSome? fun width => afterWord? width rest).getD rest)
  else
    none

/-- The words for decimals that have no digits. -/
def limitWords : List String := ["inf", "inff32", "inff64", "NaN", "NaNf32", "NaNf64"]

/-- What follows a decimal without digits. -/
def afterLimit? (characters : List Char) : Option (List Char) :=
  limitWords.findSome? fun word => afterWord? word (unsigned characters)

/-- What follows a byte, which is a number as well. -/
def afterByte? (characters : List Char) : Option (List Char) :=
  Quotation.byte.after? characters

/-- What follows a number. Where the characters start with several numbers it is the longest. -/
def after? (characters : List Char) : Option (List Char) :=
  let numbers := [afterPlainInteger?, afterKindInteger?, afterDecimal?, afterLimit?, afterByte?]
  (numbers.filterMap fun number? => number? characters).foldl
    (fun best rest => if best.all (rest.length < ·.length) then some rest else best) none

/-- What follows the upper end of a range. Only the inclusive range needs one. -/
def afterUpperEnd? : List Char → Option (List Char)
  | '=' :: rest => after? rest
  | rest => some ((after? rest).getD rest)

/-- What follows a number or a range of numbers. -/
def afterRange? : List Char → Option (List Char)
  | '.' :: '.' :: rest => afterUpperEnd? rest
  | characters => do
      match ← after? characters with
      | '.' :: '.' :: rest => afterUpperEnd? rest
      | rest => some rest

end Nondelivery.Notation.Number
