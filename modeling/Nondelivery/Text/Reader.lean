/-
This file reads what several formats have in common: decimal and hexadecimal numerals, and the
comma-separated sequences that stand between brackets.
-/

namespace Nondelivery.Text

/-- The value of a decimal digit. -/
def digitValue (digit : Char) : Nat :=
  digit.toNat - '0'.toNat

/-- The number that a string of decimal digits denotes. -/
def digitsValue (digits : List Char) : Nat :=
  digits.foldl (fun value digit => 10 * value + digitValue digit) 0

/-- The number that the characters denote when they are one or more decimal digits. -/
def numeral? (characters : List Char) : Option Nat :=
  if !characters.isEmpty && characters.all Char.isDigit then some (digitsValue characters) else none

/-- The characters without the plus sign that may stand in front of them. -/
def unsigned (characters : List Char) : List Char :=
  if characters.head? = some '+' then characters.tail else characters

/-- The value of a hexadecimal digit. -/
def hexValue? (digit : Char) : Option Nat :=
  if digit.isDigit then some (digitValue digit)
  else if 'a' ≤ digit ∧ digit ≤ 'f' then some (digit.toNat - 'a'.toNat + 10)
  else if 'A' ≤ digit ∧ digit ≤ 'F' then some (digit.toNat - 'A'.toNat + 10)
  else none

/-- The number that hexadecimal digits denote. -/
def hexadecimal? (digits : List Char) : Option Nat :=
  digits.foldlM (fun value digit => (hexValue? digit).map (16 * value + ·)) 0

/-- Reads items up to the closing token and returns what follows it. Two items are separated by one
comma; `trailing` says whether a comma may also stand after the last item. Each round reads an
item, so as many rounds as there are tokens are enough. -/
def sequence? {Token Item : Type} [DecidableEq Token] (comma close : Token) (trailing : Bool)
    (item? : List Token → Option (Item × List Token)) :
    Nat → List Token → Option (List Item × List Token)
  | 0, _ => none
  | rounds + 1, tokens => do
      let (item, afterItem) ← item? tokens
      match afterItem with
      | [] => none
      | token :: afterToken =>
          if token = close then
            some ([item], afterToken)
          else if token = comma then
            if trailing = true ∧ afterToken.head? = some close then
              some ([item], afterToken.tail)
            else do
              let (items, rest) ← sequence? comma close trailing item? rounds afterToken
              some (item :: items, rest)
          else
            none

/-- Reads a sequence that may be empty. -/
def bracketed? {Token Item : Type} [DecidableEq Token] (comma close : Token) (trailing : Bool)
    (item? : List Token → Option (Item × List Token)) (tokens : List Token) :
    Option (List Item × List Token) :=
  if tokens.head? = some close then
    some ([], tokens.tail)
  else
    sequence? comma close trailing item? tokens.length tokens

end Nondelivery.Text
