/-
This file reads the values of configuration files. A record is written in parentheses, after its
name if it has one, and a list in brackets; a comma may follow the last part of either.
-/

import Nondelivery.Notation.Feature
import Nondelivery.Text.Reader

namespace Nondelivery.Notation

/-- A value of a configuration file. -/
inductive Node where
  | truth (value : Bool)
  | word (letters : List Char)
  | list (items : List Node)
  | record (name : Option (List Char)) (members : List (List Char × Node))
  /-- A number, a character, a text, a tuple, a table or an optional value: no setting has such a
  value. -/
  | other
  deriving Inhabited

namespace Node

/-- A reader of one part, which also returns the tokens after it. -/
abbrev Reader (α : Type) := List Token → Option (α × List Token)

/-- Reads a name, a colon and a value. -/
def member? (value? : Reader Node) : Reader (List Char × Node)
  | .word name _ :: .mark ':' :: rest => do
      let (value, rest) ← value? rest
      some ((name, value), rest)
  | _ => none

/-- Reads a value, a colon and another value. -/
def pair? (value? : Reader Node) : Reader Unit := fun tokens => do
  let (_, rest) ← value? tokens
  match rest with
  | .mark ':' :: rest => do
      let (_, rest) ← value? rest
      some ((), rest)
  | _ => none

/-- What stands in parentheses is a record if it is empty or starts with the name of a member, and
a tuple otherwise. -/
def parenthesised? (name : Option (List Char)) (value? : Reader Node) : Reader Node := fun tokens =>
  match tokens with
  | .mark ')' :: rest => some (record name [], rest)
  | .word _ _ :: .mark ':' :: _ => do
      let (members, rest) ← Text.bracketed? (.mark ',') (.mark ')') true (member? value?) tokens
      some (record name members, rest)
  | _ => do
      let (_, rest) ← Text.bracketed? (.mark ',') (.mark ')') true value? tokens
      some (other, rest)

/-- Reads the end of the parentheses around an optional value. -/
def closeOptional? : Reader Node
  | .mark ')' :: rest => some (other, rest)
  | .mark ',' :: .mark ')' :: rest => some (other, rest)
  | _ => none

/-- The words, apart from the truth values, that are complete values and name no record. -/
def completeWords : List String := "None" :: Number.limitWords

/-- The value of a keyword. -/
def keyword? (letters : List Char) (isRaw : Bool) : Option Node :=
  if isRaw then none
  else if letters = "true".toList then some (truth true)
  else if letters = "false".toList then some (truth false)
  else if completeWords.any fun word => word.toList = letters then some other
  else none

/-- The keyword of an optional value stands without parentheses. -/
def isBareOptional (letters : List Char) (isRaw : Bool) : Bool :=
  !isRaw && letters = Token.optionalWord

/-- Reads a value that is a single token. -/
def single? : Reader Node
  | .literal :: rest => some (other, rest)
  | .text :: rest => some (other, rest)
  | .unit :: rest => some (record none [], rest)
  | .word letters isRaw :: rest =>
      if isBareOptional letters isRaw then none
      else some ((keyword? letters isRaw).getD (word letters), rest)
  | _ => none

/-- The reader of nothing. -/
def unreadable : Reader Node := fun _ => none

/-- Reads an optional value after its opening parenthesis. Its value is read with `content?`. If
parts may stand there without parentheses of their own, their items are read with `part?`, and if
there are none, nothing has to be read. -/
def optional? (features : List Feature) (filling : Option Filling) (content? : Reader Node)
    (part? : Option (Reader Node)) : Reader Node := fun tokens =>
  if features.contains .unwrapVariantNewtypes ∧ filling ≠ some .value then
    match filling, part?, tokens with
    | some _, _, .mark ')' :: rest => some (other, rest)
    | some _, some part?, _ => do
        let (_, rest) ← parenthesised? none part? tokens
        some (other, rest)
    | _, _, _ => none
  else do
    let (_, rest) ← content? tokens
    closeOptional? rest

/-- Reads a value that may open brackets. The value after the keyword of an optional one is read
with `content?`, the items in brackets are read with `item?`, and the parts of an optional value
with `part?`. -/
def value? (features : List Feature) (content? item? : Reader Node) (part? : Option (Reader Node)) :
    Reader Node := fun tokens =>
  match tokens with
  | .optional filling :: rest => optional? features filling content? part? rest
  | .word letters isRaw :: rest =>
      if isBareOptional letters isRaw then
        if features.contains .implicitSome then do
          let (_, rest) ← content? rest
          some (other, rest)
        else
          none
      else if (keyword? letters isRaw).isSome then
        single? tokens
      else
        match rest with
        | .mark '(' :: rest => parenthesised? (some letters) item? rest
        | .unit :: rest => some (record (some letters) [], rest)
        | _ => single? tokens
  | .mark '(' :: rest => parenthesised? none item? rest
  | .mark '[' :: rest => do
      let (items, rest) ← Text.bracketed? (.mark ',') (.mark ']') true item? rest
      some (list items, rest)
  | .mark '\x7b' :: rest => do
      let (_, rest) ← Text.bracketed? (.mark ',') (.mark '\x7d') true (pair? item?) rest
      some (other, rest)
  | _ => single? tokens

/-- Reads one value that may go down this many steps. Every bracket is a step down, and every item
in it another; an optional value is one step below its keyword. -/
def read? (features : List Feature) : Nat → Reader Node
  | 0, tokens => single? tokens
  | 1, tokens => value? features single? unreadable none tokens
  | 2, tokens => value? features (read? features 1) single? (some unreadable) tokens
  | depth + 3, tokens =>
      value? features (read? features (depth + 2)) (read? features (depth + 1))
        (some (read? features depth)) tokens

/-- The depth down to which values may be nested. -/
def greatestDepth : Nat := 128

/-- The value that the tokens of a configuration file denote. -/
def ofTokens? (features : List Feature) (tokens : List Token) : Option Node :=
  match read? features greatestDepth tokens with
  | some (node, []) => some node
  | _ => none

end Node

end Nondelivery.Notation
