/-
This file writes policies as records and reads them back.
-/

import Nondelivery.Json.Decode
import Nondelivery.Policy

namespace Nondelivery

namespace ProblemClass

def toJson (problem : ProblemClass) : Json :=
  .text problem.name

def ofJson (json : Json) : Json.Decoded ProblemClass :=
  json.toVariant (all.map fun problem => (problem.name, problem))

/-- A list of problem classes. -/
def listOfJson (json : Json) : Json.Decoded (List ProblemClass) := do
  let items ← json.toItems
  items.mapM ofJson

end ProblemClass

namespace Policy

def toJson (policy : Policy) : Json :=
  .object [("notify_classes", .array (policy.notifyClasses.map ProblemClass.toJson)),
    ("soft_bounce", .boolean policy.softBounce)]

/-- The policy with these settings, and the standard ones in place of those that are left out. -/
def ofSettings (softBounce : Option Bool) (notifyClasses : Option (List ProblemClass)) :
    Policy where
  softBounce := softBounce.getD standard.softBounce
  notifyClasses := notifyClasses.getD standard.notifyClasses

def ofJson : Json → Json.Decoded Policy
  | .object members => do
      let notifyClasses ← Json.member? members "notify_classes" ProblemClass.listOfJson
      let softBounce ← Json.member? members "soft_bounce" Json.toBool
      .ok (ofSettings softBounce notifyClasses)
  | .array items => do
      let softBounce ← Json.item? items 0 Json.toBool
      let notifyClasses ← Json.item? items 1 ProblemClass.listOfJson
      Json.noFurther items 2
      .ok (ofSettings softBounce notifyClasses)
  | other => .error (.wrongType other "struct PolicyConfig")

end Policy

end Nondelivery
