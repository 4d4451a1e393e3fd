/-
This file reads the lines at the head of a configuration file. Some switch features of the notation
on, others say what kind of file it is.
-/

import Nondelivery.Notation.Token
import Nondelivery.Text.Reader

namespace Nondelivery.Notation

/-- The features that a configuration file may switch on: a policy must have its name, an optional
value may do without parentheses, and tuples and records may share the parentheses of what they are
wrapped in. -/
inductive Feature where
  | explicitNames
  | implicitSome
  | unwrapNewtypes
  | unwrapVariantNewtypes
  deriving DecidableEq

namespace Feature

def all : List Feature := [explicitNames, implicitSome, unwrapNewtypes, unwrapVariantNewtypes]

def name : Feature → String
  | explicitNames => "explicit_struct_names"
  | implicitSome => "implicit_some"
  | unwrapNewtypes => "unwrap_newtypes"
  | unwrapVariantNewtypes => "unwrap_variant_newtypes"

/-- Reads the name of a feature. -/
def read? : List Token → Option (Feature × List Token)
  | .word letters _ :: rest =>
      (all.find? fun feature => feature.name.toList = letters).map fun feature => (feature, rest)
  | _ => none

/-- The word that introduces features. -/
def enablingWord : String := "enable"

/-- The words that introduce a text about the kind of the file. -/
def describingWords : List String := ["type", "schema"]

/-- Reads what stands in the brackets of a head line: features in parentheses, or a text. -/
def content? : List Token → Option (List Feature × List Token)
  | .word letters false :: .mark '(' :: rest =>
      if letters = enablingWord.toList then
        Text.sequence? (.mark ',') (.mark ')') true read? rest.length rest
      else
        none
  | .word letters false :: .mark '=' :: .text :: rest =>
      if describingWords.any fun word => word.toList = letters then some ([], rest) else none
  | _ => none

/-- Reads a head line. -/
def line? : List Token → Option (List Feature × List Token)
  | .mark '#' :: .mark '!' :: .mark '[' :: rest => do
      let (features, rest) ← content? rest
      if rest.head? = some (.mark ']') then some (features, rest.tail) else none
  | _ => none

/-- Reads all head lines and returns the tokens after them; each round reads a line, so as many
rounds as there are tokens are enough. -/
def lines? : Nat → List Token → Option (List Feature × List Token)
  | 0, tokens => some ([], tokens)
  | rounds + 1, tokens =>
      if tokens.head? = some (.mark '#') then do
        let (features, rest) ← line? tokens
        let (others, rest) ← lines? rounds rest
        some (features ++ others, rest)
      else
        some ([], tokens)

end Feature

end Nondelivery.Notation
