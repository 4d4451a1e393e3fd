/-
This file shows that it does not matter where the policy of a site is written down. Records,
configuration files and the parameters of the mail system with the same settings are read as the
same policy, and a policy that is written as a record is read back unchanged.
-/

import Nondelivery.Proofs.ConfigurationReading
import Nondelivery.Proofs.ParameterReading

namespace Nondelivery

theorem ProblemClass.listOfJson_toJson (problems : List ProblemClass) :
    listOfJson (.array (problems.map toJson)) = .ok problems := by
  have known (problem : ProblemClass) : ofJson problem.toJson = .ok problem := by
    cases problem <;> rfl
  exact mapM_map_eq_ok toJson ofJson known problems

/-- The members of a record hold these settings, in any order. There is no member for a setting that
is left out. -/
structure Policy.Records (members : List (String × Json)) (softBounce : Option Bool)
    (notifyClasses : Option (List ProblemClass)) : Prop where
  softBounce : members.lookup "soft_bounce" = softBounce.map Json.boolean
  notifyClasses : members.lookup "notify_classes" =
    notifyClasses.map fun problems => Json.array (problems.map ProblemClass.toJson)

namespace Policy

theorem ofJson_of_records (members : List (String × Json)) (softBounce : Option Bool)
    (notifyClasses : Option (List ProblemClass))
    (records : Records members softBounce notifyClasses) :
    ofJson (.object members) = .ok (ofSettings softBounce notifyClasses) := by
  have bounces : Json.member? members "soft_bounce" Json.toBool = .ok softBounce := by
    rw [Json.member?, records.softBounce]
    cases softBounce <;> rfl
  have problems : Json.member? members "notify_classes" ProblemClass.listOfJson =
      .ok notifyClasses := by
    rw [Json.member?, records.notifyClasses]
    cases notifyClasses with
    | none => rfl
    | some problems =>
        simp only [Option.map_some, ProblemClass.listOfJson_toJson]
        rfl
  rw [ofJson, problems, bounces]
  rfl

/-- The record that is written for a policy holds all of its settings. -/
theorem ofJson_toJson (policy : Policy) : ofJson policy.toJson = .ok policy :=
  ofJson_of_records _ (some policy.softBounce) (some policy.notifyClasses) ⟨rfl, rfl⟩

end Policy

/-- The settings of a policy, or some of them, may be written in a record, in a configuration file
or in the parameters of the mail system. All three are read as the policy that has these settings,
and the standard ones in place of those that are left out. A whole policy that is written as a record
is read back unchanged. -/
theorem front_ends_agree (policy : Policy) (keepsBounce keepsClasses : Bool) :
    let softBounce := if keepsBounce then some policy.softBounce else none
    let notifyClasses := if keepsClasses then some policy.notifyClasses else none
    let meant : Policy := {
      softBounce := if keepsBounce then policy.softBounce else Policy.standard.softBounce
      notifyClasses :=
        if keepsClasses then policy.notifyClasses else Policy.standard.notifyClasses }
    (∀ members, Policy.Records members softBounce notifyClasses →
        Policy.ofJson (.object members) = .ok meant) ∧
      (∀ (layout : Layout) (text : String),
        Notation.Spaced (layout.pieces softBounce notifyClasses) text.toList →
          Policy.ofConfiguration? text = some meant) ∧
      (∀ registry : Registry, registry.Tells softBounce notifyClasses →
        Policy.ofRegistry registry = .ok meant) ∧
      Policy.ofJson policy.toJson = .ok policy := by
  intro softBounce notifyClasses meant
  have settings : Policy.ofSettings softBounce notifyClasses = meant := by
    cases keepsBounce <;> cases keepsClasses <;> rfl
  rw [← settings]
  refine ⟨?_, ?_, ?_, policy.ofJson_toJson⟩
  · intro members records
    exact Policy.ofJson_of_records members softBounce notifyClasses records
  · intro layout text spaced
    exact Policy.ofConfiguration?_spaced layout softBounce notifyClasses text spaced
  · intro registry tells
    exact Policy.ofRegistry_of_tells registry softBounce notifyClasses tells

/-- Two problem classes are named and the other setting is left out. The file has a comma after the
last problem class, and the parameters do not heed the case. -/
theorem front_ends_agree_two_classes :
    let meant : Policy := ⟨false, [.software, .bounce]⟩
    Policy.ofJson (.object [("notify_classes", .array [.text "Software", .text "Bounce"])]) =
        .ok meant ∧
      Policy.ofConfiguration? "(notify_classes: [Software,\n\tBounce,])" = some meant ∧
      Policy.ofRegistry (.ofList [("notify_classes", "SOFTWARE,\tbounce")]) = .ok meant := by
  intro meant
  obtain ⟨records, files, parameters, _⟩ :=
    front_ends_agree ⟨true, [.software, .bounce]⟩ false true
  refine ⟨records _ ⟨rfl, rfl⟩, ?_, ?_⟩
  · refine files ⟨false, false, false, true⟩ _ ?_
    have cut : "(notify_classes: [Software,\n\tBounce,])".toList =
        [] ++ "(".toList ++ ([] ++ "notify_classes".toList ++ ([] ++ ":".toList ++
          (" ".toList ++ "[".toList ++ ([] ++ "Software".toList ++ ([] ++ ",".toList ++
            ("\n\t".toList ++ "Bounce".toList ++ ([] ++ ",".toList ++ ([] ++ "]".toList ++
              ([] ++ ")".toList ++ []))))))))) := by
      decide
    rw [cut]
    exact .next (by decide) <| .next (by decide) <| .next (by decide) <| .next (by decide) <|
      .next (by decide) <| .next (by decide) <| .next (by decide) <| .next (by decide) <|
      .next (by decide) <| .next (by decide) <| .last (by decide)
  · refine parameters _ ⟨.none, .some ⟨["SOFTWARE".toList, "bounce".toList], ?_, by decide⟩⟩
    have cut : "SOFTWARE,\tbounce".toList =
        [] ++ "SOFTWARE".toList ++ (",\t".toList ++ "bounce".toList ++ []) := by
      decide
    rw [cut]
    exact .next (by decide) (by decide) (by decide) (by decide) <|
      .next (by decide) (by decide) (by decide) (by decide) <| .last (by decide)

end Nondelivery
