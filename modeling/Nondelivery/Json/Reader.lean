/-
This file reads values from their text.
-/

import Nondelivery.Json.Token
import Nondelivery.Text.Reader

namespace Nondelivery.Json

/-- Reads one value and returns the tokens after it; `depth` bounds how deep values are nested. -/
def read? : Nat → List Token → Option (Json × List Token)
  | 0, _ => none
  | depth + 1, tokens =>
      match tokens with
      | .text value :: rest => some (text value, rest)
      | .integer value :: rest => some (integer value, rest)
      | .decimal value :: rest => some (decimal value, rest)
      | .word letters :: rest =>
          if letters = "null".toList then some (null, rest)
          else if letters = "true".toList then some (boolean true, rest)
          else if letters = "false".toList then some (boolean false, rest)
          else none
      | .mark '[' :: rest => do
          let (items, rest) ←
            Text.bracketed? (Token.mark ',') (Token.mark ']') false (read? depth) rest
          some (array items, rest)
      | .mark '\x7b' :: rest => do
          let (members, rest) ←
            Text.bracketed? (Token.mark ',') (Token.mark '\x7d') false
              (fun tokens =>
                match tokens with
                | .text key :: .mark ':' :: rest => do
                    let (value, rest) ← read? depth rest
                    some ((key, value), rest)
                | _ => none)
              rest
          some (ofMembers members, rest)
      | _ => none

/-- The value that a text denotes. -/
def ofText? (source : String) : Option Json := do
  let tokens ← Token.ofText? source
  match ← read? tokens.length tokens with
  | (value, []) => some value
  | _ => none

end Nondelivery.Json
