/-
This file reads policies from the parameters of the mail system.
-/

import Nondelivery.Policy.Json
import Nondelivery.Text.Words

namespace Nondelivery

/-- The parameters of the mail system: the value that a name has, if it has one. -/
structure Registry where
  value? : String → Option String

/-- A parameter whose value makes no sense. -/
structure ParameterError where
  name : String
  value : String
  reason : String
  deriving DecidableEq, Repr

def ParameterError.message (error : ParameterError) : String :=
  "Invalid value " ++ Text.quote error.value ++ " for parameter " ++ error.name ++ ": " ++
    error.reason

namespace Registry

/-- The registry with these parameters; the first value of a name counts. -/
def ofList (parameters : List (String × String)) : Registry :=
  ⟨fun name => parameters.lookup name⟩

/-- The truth value that a word stands for, whatever its case and the blanks around it. -/
def truth? (value : String) : Option Bool :=
  let word := String.ofList (Text.lower (Text.trim value.toList))
  if word = "yes" ∨ word = "true" then some true
  else if word = "no" ∨ word = "false" then some false
  else none

/-- The truth value of a parameter, or the given one when the parameter has no value. -/
def bool (registry : Registry) (name : String) (standard : Bool) : Except ParameterError Bool :=
  match registry.value? name with
  | none => .ok standard
  | some value =>
      match truth? value with
      | some truth => .ok truth
      | none => .error ⟨name, value, "expected yes or no"⟩

/-- Commas and blanks separate the elements of a list. -/
def isSeparator (character : Char) : Bool :=
  character = ',' || Text.isBlank character

/-- The elements of a list that is written in one value. -/
def elements (value : String) : List String :=
  (Text.words isSeparator value.toList).map String.ofList

/-- The elements of a parameter that holds a list. -/
def list? (registry : Registry) (name : String) : Option (List String) :=
  (registry.value? name).map elements

end Registry

/-- The problem class that a word stands for, in any case. -/
def ProblemClass.ofText (text : String) : Except String ProblemClass :=
  match String.ofList (Text.lower text.toList) with
  | "bounce" => .ok .bounce
  | "delay" => .ok .delay
  | "policy" => .ok .policy
  | "protocol" => .ok .protocol
  | "resource" => .ok .resource
  | "software" => .ok .software
  | word => .error ("unknown notification class " ++ word)

/-- The words are the names that the problem classes have in records, but for their case. -/
theorem ProblemClass.ofText_name (problem : ProblemClass) : ofText problem.name = .ok problem := by
  cases problem <;> rfl

namespace Policy

/-- The problem class that an element of the list parameter names. -/
def problemOfElement (element : String) : Except ParameterError ProblemClass :=
  (ProblemClass.ofText element).mapError fun reason => ⟨"notify_classes", element, reason⟩

/-- The policy that the parameters ask for, or the first parameter that makes no sense. -/
def ofRegistry (registry : Registry) : Except ParameterError Policy := do
  let softBounce ← registry.bool "soft_bounce" standard.softBounce
  match registry.list? "notify_classes" with
  | none => .ok (ofSettings (some softBounce) none)
  | some elements =>
      let problems ← elements.mapM problemOfElement
      .ok (ofSettings (some softBounce) (some problems))

end Policy

end Nondelivery
