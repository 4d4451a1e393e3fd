/-
This file finds the words of configuration files, and skips what stands between the parts of one:
blanks, comments to the end of a line, and comments between marks, which may be nested.
-/

import Nondelivery.Notation.Quotation
import Nondelivery.Text.Identifier

namespace Nondelivery.Notation

/-- The code points with the Unicode property `Pattern_White_Space`, as inclusive ranges. -/
def spaceRanges : List (Nat × Nat) :=
  [(0x09, 0x0D), (0x20, 0x20), (0x85, 0x85), (0x200E, 0x200F), (0x2028, 0x2029)]

def isSpace (character : Char) : Bool :=
  Text.inRanges spaceRanges character.toNat

/-- What follows the end of comments that are nested this deep. -/
def afterComment? : Nat → List Char → Option (List Char)
  | 0, characters => some characters
  | depth + 1, '*' :: '/' :: rest => afterComment? depth rest
  | depth + 1, '/' :: '*' :: rest => afterComment? (depth + 2) rest
  | depth + 1, _ :: rest => afterComment? (depth + 1) rest
  | _ + 1, [] => none

/-- Skips blanks and comments in a number of rounds. There is no result if a comment does not end,
or if a slash does not start one. -/
def skipBlanks? : Nat → List Char → Option (List Char)
  | 0, _ => none
  | _ + 1, [] => some []
  | rounds + 1, '/' :: '/' :: rest => skipBlanks? rounds (rest.dropWhile (· ≠ '\n'))
  | rounds + 1, '/' :: '*' :: rest => do
      let rest ← afterComment? 1 rest
      skipBlanks? rounds rest
  | rounds + 1, character :: rest =>
      if isSpace character then skipBlanks? rounds rest
      else if character = '/' then none
      else some (character :: rest)

/-- What follows the blanks and comments. Each round drops at least one character or is the last. -/
def afterBlanks? (characters : List Char) : Option (List Char) :=
  skipBlanks? (characters.length + 1) characters

namespace Word

/-- The characters with which a word may start. -/
def isStart (character : Char) : Bool :=
  Text.startsName character || character = '_'

/-- The characters that raw words may hold beyond those of other words. -/
def isRawOnly (character : Char) : Bool :=
  ['.', '+', '-'].contains character

/-- The characters that raw words may hold. -/
def isRawPart (character : Char) : Bool :=
  Text.continuesName character || isRawOnly character

/-- The letters of the word that starts here, whether it is raw, and what follows it. A raw word is
written after a mark, and a quotation is not a word even if it starts with a letter. -/
def read? (characters : List Char) : Option (List Char × Bool × List Char) :=
  match Quotation.ofStart? characters, characters with
  | none, 'r' :: '#' :: rest =>
      if rest.head?.any isRawPart then
        some (rest.takeWhile isRawPart, true, rest.dropWhile isRawPart)
      else
        none
  | none, first :: rest =>
      if isStart first then
        some (first :: rest.takeWhile Text.continuesName, false, rest.dropWhile Text.continuesName)
      else
        none
  | _, _ => none

end Word

end Nondelivery.Notation
