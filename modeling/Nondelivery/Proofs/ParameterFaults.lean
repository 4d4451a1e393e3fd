/-
This file says which parameters make sense and what is answered if they do not. Of several faults
the first one is reported, and a value or an element is quoted as it was written.
-/

import Nondelivery.Proofs.ListReading

namespace Nondelivery

namespace Registry

/-- The elements are the words that are written in the value. -/
def Lists (value : String) (elements : List String) : Prop :=
  ∃ writing : Text.Writing isSeparator,
    writing.text = value.toList ∧ writing.words.map String.ofList = elements

/-- The names of these problem classes are written in the value, in this order. -/
def ListsProblems (value : String) (problems : List ProblemClass) : Prop :=
  ∃ elements, Lists value elements ∧ List.Forall₂ Names elements problems

/-- What the parameters come to. They ask for a policy, or one of them makes no sense; a truth value
that makes no sense is reported whatever the other parameter says. -/
inductive Yields (registry : Registry) : Except ParameterError Policy → Prop where
  | policy {softBounce : Option Bool} {notifyClasses : Option (List ProblemClass)}
      (bounces : Option.Rel MeansTruth (registry.value? "soft_bounce") softBounce)
      (classes : Option.Rel ListsProblems (registry.value? "notify_classes") notifyClasses) :
      Yields registry (.ok {
        softBounce := softBounce.getD false
        notifyClasses := notifyClasses.getD [.resource, .software] })
  | softBounce {value : String} (present : registry.value? "soft_bounce" = some value)
      (senseless : ∀ truth, ¬ MeansTruth value truth) :
      Yields registry (.error ⟨"soft_bounce", value, "expected yes or no"⟩)
  | notifyClasses {softBounce : Option Bool} {value unknown : String}
      {earlier later : List String}
      (bounces : Option.Rel MeansTruth (registry.value? "soft_bounce") softBounce)
      (present : registry.value? "notify_classes" = some value)
      (elements : Lists value (earlier ++ unknown :: later))
      (known : ∀ element ∈ earlier, ∃ problem, Names element problem)
      (senseless : ∀ problem, ¬ Names unknown problem) :
      Yields registry (.error ⟨"notify_classes", unknown,
        "unknown notification class " ++ String.ofList (Text.lower unknown.toList)⟩)

/-- The elements that are read are those that are written. -/
theorem elements_eq_iff (value : String) (others : List String) :
    elements value = others ↔ Lists value others := by
  constructor
  · rintro rfl
    obtain ⟨writing, written, read⟩ := exists_elements_eq value
    exact ⟨writing, written, read.symm⟩
  · rintro ⟨writing, written, rfl⟩
    rw [← elements_text, written, String.ofList_toList]

theorem exists_names {elements : List String} {problems : List ProblemClass}
    (named : List.Forall₂ Names elements problems) :
    ∀ element ∈ elements, ∃ problem, Names element problem := by
  induction named with
  | nil => exact nofun
  | cons first _ ih => exact List.forall_mem_cons.mpr ⟨⟨_, first⟩, ih⟩

theorem bool_eq_error_iff (registry : Registry) (name : String) (standard : Bool)
    (error : ParameterError) :
    registry.bool name standard = .error error ↔ ∃ value,
      registry.value? name = some value ∧ (∀ truth, ¬ MeansTruth value truth) ∧
        ⟨name, value, "expected yes or no"⟩ = error := by
  rw [bool]
  cases registry.value? name with
  | none => simp
  | some value =>
      simp only [← truth?_eq_some_iff]
      cases read : truth? value <;> simp [read]

end Registry

theorem ProblemClass.ofText_eq_error_iff (text reason : String) :
    ofText text = .error reason ↔ (∀ problem, ¬ Registry.Names text problem) ∧
      "unknown notification class " ++ String.ofList (Text.lower text.toList) = reason := by
  simp only [← ofText_eq_ok_iff]
  unfold ofText
  split <;> simp

namespace Policy

theorem problemOfElement_eq_error_iff (element : String) (error : ParameterError) :
    problemOfElement element = .error error ↔ (∀ problem, ¬ Registry.Names element problem) ∧
      ⟨"notify_classes", element,
        "unknown notification class " ++ String.ofList (Text.lower element.toList)⟩ = error := by
  have mapped : problemOfElement element = .error error ↔ ∃ reason,
      ProblemClass.ofText element = .error reason ∧
        ⟨"notify_classes", element, reason⟩ = error := by
    rw [problemOfElement]
    cases ProblemClass.ofText element <;> simp [Except.mapError]
  simp only [mapped, ProblemClass.ofText_eq_error_iff]
  constructor
  · rintro ⟨_, ⟨senseless, rfl⟩, rfl⟩
    exact ⟨senseless, rfl⟩
  · rintro ⟨senseless, rfl⟩
    exact ⟨_, ⟨senseless, rfl⟩, rfl⟩

theorem problems_eq_ok_iff (value : String) (problems : List ProblemClass) :
    (Registry.elements value).mapM problemOfElement = .ok problems ↔
      Registry.ListsProblems value problems := by
  simp only [mapM_eq_ok_iff, problemOfElement_eq_ok_iff, Registry.ListsProblems,
    ← Registry.elements_eq_iff, exists_eq_left']

/-- The first element that names no problem class is at fault. -/
theorem problems_eq_error_iff (value : String) (error : ParameterError) :
    (Registry.elements value).mapM problemOfElement = .error error ↔ ∃ earlier unknown later,
      Registry.Lists value (earlier ++ unknown :: later) ∧
        (∀ element ∈ earlier, ∃ problem, Registry.Names element problem) ∧
        (∀ problem, ¬ Registry.Names unknown problem) ∧
        ⟨"notify_classes", unknown,
          "unknown notification class " ++ String.ofList (Text.lower unknown.toList)⟩ = error := by
  simp only [mapM_eq_error_iff, problemOfElement_eq_ok_iff, problemOfElement_eq_error_iff,
    Registry.elements_eq_iff]

theorem yields_ofRegistry (registry : Registry) : registry.Yields (ofRegistry registry) := by
  rw [ofRegistry]
  cases bounces : registry.bool "soft_bounce" standard.softBounce with
  | error error =>
      obtain ⟨value, present, senseless, rfl⟩ := (registry.bool_eq_error_iff _ _ _).mp bounces
      exact .softBounce present senseless
  | ok softBounce =>
      obtain ⟨meant, means, rfl⟩ := (registry.bool_eq_ok_iff _ _ _).mp bounces
      rw [Registry.list?]
      cases present : registry.value? "notify_classes" with
      | none => exact @Registry.Yields.policy registry meant none means (present ▸ .none)
      | some value =>
          cases read : (Registry.elements value).mapM problemOfElement with
          | ok problems =>
              have lists := (problems_eq_ok_iff value problems).mp read
              simp only [Option.map_some, read]
              exact @Registry.Yields.policy registry meant (some problems) means
                (present ▸ .some lists)
          | error error =>
              obtain ⟨earlier, unknown, later, elements, known, senseless, rfl⟩ :=
                (problems_eq_error_iff value error).mp read
              simp only [Option.map_some, read]
              exact .notifyClasses means present elements known senseless

theorem ofRegistry_of_yields (registry : Registry) (outcome : Except ParameterError Policy)
    (yields : registry.Yields outcome) : ofRegistry registry = outcome := by
  rw [ofRegistry]
  cases yields with
  | policy bounces classes =>
      rw [(registry.bool_eq_ok_iff _ _ _).mpr ⟨_, bounces, rfl⟩, Registry.list?]
      generalize registry.value? "notify_classes" = value? at classes
      cases classes with
      | none => rfl
      | some lists =>
          simp only [Option.map_some, (problems_eq_ok_iff _ _).mpr lists]
          rfl
  | softBounce present senseless =>
      rw [(registry.bool_eq_error_iff _ _ _).mpr ⟨_, present, senseless, rfl⟩]
      rfl
  | notifyClasses bounces present elements known senseless =>
      rw [(registry.bool_eq_ok_iff _ _ _).mpr ⟨_, bounces, rfl⟩, Registry.list?, present]
      simp only [Option.map_some,
        (problems_eq_error_iff _ _).mpr ⟨_, _, _, elements, known, senseless, rfl⟩]
      rfl

/-- A policy comes of parameters that make sense. -/
theorem isOk_ofRegistry_iff (registry : Registry) :
    (∃ policy, ofRegistry registry = .ok policy) ↔
      (∀ value, registry.value? "soft_bounce" = some value →
        ∃ truth, Registry.MeansTruth value truth) ∧
      ∀ value, registry.value? "notify_classes" = some value →
        ∃ elements, Registry.Lists value elements ∧
          ∀ element ∈ elements, ∃ problem, Registry.Names element problem := by
  have yields := yields_ofRegistry registry
  constructor
  · rintro ⟨policy, read⟩
    rw [read] at yields
    cases yields with
    | policy bounces classes =>
        refine ⟨fun value present => ?_, fun value present => ?_⟩
        · rw [present] at bounces
          cases bounces with
          | some means => exact ⟨_, means⟩
        · rw [present] at classes
          cases classes with
          | some lists =>
              obtain ⟨elements, written, named⟩ := lists
              exact ⟨elements, written, Registry.exists_names named⟩
  · rintro ⟨bounces, classes⟩
    cases read : ofRegistry registry with
    | ok policy => exact ⟨policy, rfl⟩
    | error error =>
        rw [read] at yields
        exfalso
        cases yields with
        | softBounce present senseless =>
            obtain ⟨truth, means⟩ := bounces _ present
            exact senseless truth means
        | notifyClasses _ present written _ senseless =>
            obtain ⟨elements, others, named⟩ := classes _ present
            -- A value lists one sequence of elements only, so the unknown one is among those that
            -- are named.
            rw [← Registry.elements_eq_iff] at written others
            obtain ⟨problem, names⟩ := named _ (others ▸ written ▸ List.mem_append_cons_self)
            exact senseless problem names

end Policy

/-- Either the parameters are read as the policy that they ask for, or the first fault is reported. A
truth value that is none is reported first, as it was written, and otherwise the first element of the
list that names no problem class. A policy comes of the parameters if the truth value is left out or
is a word for one apart from blanks at its ends, and if the list is left out or every element of it
is the name of a problem class. -/
theorem parameters_yield_policy_or_first_fault (registry : Registry) :
    (∀ outcome, Policy.ofRegistry registry = outcome ↔ registry.Yields outcome) ∧
    ((∃ policy, Policy.ofRegistry registry = .ok policy) ↔
      (∀ value, registry.value? "soft_bounce" = some value →
        ∃ truth, Registry.MeansTruth value truth) ∧
      ∀ value, registry.value? "notify_classes" = some value →
        ∃ elements, Registry.Lists value elements ∧
          ∀ element ∈ elements, ∃ problem, Registry.Names element problem) := by
  refine ⟨fun outcome => ⟨?_, Policy.ofRegistry_of_yields registry outcome⟩,
    Policy.isOk_ofRegistry_iff registry⟩
  rintro rfl
  exact Policy.yields_ofRegistry registry

/-- A letter that merely looks like one of the name is another letter. The fault is that of the
second element, for the first one names a problem class in capitals. -/
example : Policy.ofRegistry (.ofList [("soft_bounce", "\u00a0Yes\n"),
    ("notify_classes", "POLICY,\u017fOFTWARE gossip")]) =
      .error ⟨"notify_classes", "\u017fOFTWARE",
        "unknown notification class \u017foftware"⟩ := by
  decide +kernel

end Nondelivery
