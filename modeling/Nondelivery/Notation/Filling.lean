/-
This file tells what stands in the parentheses around an optional value. That is one value, or the
parts of a tuple or record, which may be written there without parentheses of their own where the
file allows it.
-/

import Nondelivery.Notation.Word

namespace Nondelivery.Notation

/-- What stands in the parentheses around an optional value. -/
inductive Filling where
  | value
  | parts
  deriving DecidableEq

namespace Filling

def isOpening (character : Char) : Bool :=
  ['(', '[', '\x7b'].contains character

def isClosing (character : Char) : Bool :=
  [')', ']', '\x7d'].contains character

/-- A comma makes parts unless the parentheses are closed right after it. -/
def afterComma? (characters : List Char) : Option Filling := do
  let rest ← afterBlanks? characters
  some (if rest.head? = some ')' then value else parts)

/-- What follows a character in quotes if there is one here, and the same characters otherwise. -/
def passCharacter (characters : List Char) : List Char :=
  (Quotation.character.after? characters).getD characters

/-- What follows a text if its quote opens here, and the same characters otherwise. There is no
result if the text cannot be read. -/
def passText? (quotation : Quotation) (characters : List Char) : Option (List Char) :=
  if quotation.opens characters then quotation.after? characters else some characters

/-- Looks for a comma outside of all brackets, of which `depth` are open. Each round passes over
blanks and comments, a character in quotes and texts, and over blanks and comments once more. Then
it takes one sign; a quote that is taken as a sign opens no text. -/
def search? : Nat → Nat → List Char → Option Filling
  | 0, _, _ => none
  | rounds + 1, depth, characters => do
      let rest ← afterBlanks? characters
      let rest ← passText? .text (passCharacter rest)
      let rest ← passText? .byteText rest
      let rest ← afterBlanks? rest
      match depth, rest with
      | _, [] => none
      | 0, ',' :: rest => afterComma? rest
      | depth, sign :: rest =>
          if isOpening sign then search? rounds (depth + 1) rest
          else if !isClosing sign then search? rounds depth rest
          else if depth = 0 then some value
          else search? rounds (depth - 1) rest

/-- What stands in the parentheses of which these characters follow the opening one. -/
def ofContent? (characters : List Char) : Option Filling := do
  let start ← afterBlanks? characters
  if start.head? = some ')' then
    some parts
  else
    match Word.read? start with
    | none => search? (start.length + 1) 0 start
    | some (_, _, rest) => do
        match ← afterBlanks? rest with
        | ':' :: _ => some parts
        | ',' :: rest => afterComma? rest
        | rest => search? (rest.length + 1) 0 rest

end Filling

end Nondelivery.Notation
