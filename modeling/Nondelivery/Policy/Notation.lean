/-
This file reads policies from configuration files.
-/

import Nondelivery.Notation.Feature
import Nondelivery.Notation.Node
import Nondelivery.Policy.Json

namespace Nondelivery

open Notation (Feature Node Token)

namespace Notation.Node

def truth? : Node → Option Bool
  | truth value => some value
  | _ => none

/-- The problem class that a bare word names. -/
def problem? : Node → Option ProblemClass
  | word letters => ProblemClass.all.find? fun problem => problem.name.toList = letters
  | _ => none

def problems? : Node → Option (List ProblemClass)
  | list items => items.mapM problem?
  | _ => none

/-- The member with this name, read as a setting. A setting may be left out but not repeated. -/
def setting? {α : Type} (members : List (List Char × Node)) (name : String)
    (value? : Node → Option α) : Option (Option α) :=
  match members.filter fun member => member.1 = name.toList with
  | [] => some none
  | [(_, node)] => (value? node).map some
  | _ => none

end Notation.Node

namespace Policy

/-- The policy that a record describes. The record may do without its name unless the file asks for
names. Members that are not settings of the policy are ignored. -/
def ofNode? (needsName : Bool) : Node → Option Policy
  | .record name members =>
      if name = some "PolicyConfig".toList ∨ name = none ∧ needsName = false then do
        let softBounce ← Node.setting? members "soft_bounce" Node.truth?
        let notifyClasses ← Node.setting? members "notify_classes" Node.problems?
        some (ofSettings softBounce notifyClasses)
      else
        none
  | _ => none

/-- The policy that a configuration file describes. -/
def ofConfiguration? (source : String) : Option Policy := do
  let tokens ← Token.ofText? source.toList
  let (features, tokens) ← Feature.lines? tokens.length tokens
  let node ← Node.ofTokens? features tokens
  ofNode? (features.contains .explicitNames) node

end Policy

end Nondelivery
