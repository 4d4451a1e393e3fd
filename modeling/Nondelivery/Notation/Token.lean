/-
This file cuts the text of a configuration file into its smallest parts. Blanks and comments
separate the parts and are dropped.
-/

import Nondelivery.Notation.Filling
import Nondelivery.Notation.Number

namespace Nondelivery.Notation

/-- The smallest parts of a configuration file. -/
inductive Token where
  | mark (character : Char)
  /-- A pair of parentheses with nothing in between, not even a blank. -/
  | unit
  /-- A word; a raw word is written after a mark and is never a keyword. -/
  | word (letters : List Char) (isRaw : Bool)
  /-- The keyword and the parenthesis before an optional value, with what stands in there, if that
  can be told. -/
  | optional (filling : Option Filling)
  /-- A text, of which only matters that there is one. -/
  | text
  /-- A number, a range, a character or a text of bytes: no setting has such a value, so it is not
  kept. -/
  | literal
  deriving DecidableEq

namespace Token

/-- The characters that are tokens of their own. -/
def isMark (character : Char) : Bool :=
  ['(', ')', '[', ']', '\x7b', '\x7d', ':', ',', '#', '!', '='].contains character

/-- The keyword before an optional value. -/
def optionalWord : List Char := "Some".toList

/-- The token that starts with a word, and what follows it. A word may not be directly followed by
a character that only raw words hold, apart from the one before an optional value and from those
that are numbers. -/
def ofWord? (characters letters : List Char) (isRaw : Bool) (rest : List Char) :
    Option (Token × List Char) :=
  if letters = optionalWord ∧ isRaw = false then do
    match ← afterBlanks? rest with
    | '(' :: content => some (optional (Filling.ofContent? content), content)
    | _ => some (word letters isRaw, rest)
  else if rest.head?.any Word.isRawOnly then
    (Number.afterRange? characters).map (literal, ·)
  else
    some (word letters isRaw, rest)

/-- The first token, when the text starts with one, and what follows it. -/
def next? (characters : List Char) : Option (Token × List Char) :=
  match Quotation.ofStart? characters with
  | some .byte => (Number.afterRange? characters).map (literal, ·)
  | some .text => (Quotation.text.after? characters).map (text, ·)
  | some quotation => (quotation.after? characters).map (literal, ·)
  | none =>
      match Word.read? characters, characters with
      | some (letters, isRaw, rest), _ => ofWord? characters letters isRaw rest
      | none, '(' :: ')' :: rest => some (unit, rest)
      | none, character :: rest =>
          if isMark character then some (mark character, rest)
          else (Number.afterRange? characters).map (literal, ·)
      | none, [] => none

/-- All tokens; each round drops at least one character, so one round more than there are characters
is enough. -/
def readAll : Nat → List Char → Option (List Token)
  | 0, _ => none
  | rounds + 1, characters => do
      match ← afterBlanks? characters with
      | [] => some []
      | start => do
          let (token, rest) ← next? start
          let tokens ← readAll rounds rest
          some (token :: tokens)

/-- The tokens of a configuration file. -/
def ofText? (source : List Char) : Option (List Token) :=
  readAll (source.length + 1) source

end Token

end Nondelivery.Notation
