/-
This file says what is read from the parameters of the mail system. A text in which words are kept
apart by separators is cut into exactly these words, and words are understood in upper and lower
case alike.
-/

import Nondelivery.Policy.Registry
import Nondelivery.Proofs.ItemReading

namespace Nondelivery

namespace Text

/-- The text consists of these words, which are kept apart by separators. There may be separators at
its ends as well. -/
inductive Parted (isSeparator : Char → Bool) : List (List Char) → List Char → Prop where
  | last {gap : List Char} (separates : gap.all isSeparator = true) : Parted isSeparator [] gap
  | next {gap word rest : List Char} {words : List (List Char)}
      (separates : gap.all isSeparator = true) (holds : word ≠ [])
      (solid : word.any isSeparator = false) (ends : rest.head?.all isSeparator = true)
      (others : Parted isSeparator words rest) :
      Parted isSeparator (word :: words) (gap ++ word ++ rest)

variable (isSeparator : Char → Bool)

/-- Characters that do not separate belong to the first piece. -/
theorem split_append (word rest : List Char) (solid : word.any isSeparator = false) :
    ∃ piece pieces, split isSeparator rest = piece :: pieces ∧
      split isSeparator (word ++ rest) = (word ++ piece) :: pieces := by
  induction word with
  | nil =>
      cases rest with
      | nil => exact ⟨[], [], rfl, rfl⟩
      | cons character rest =>
          simp only [List.nil_append, split]
          split
          · exact ⟨_, _, rfl, rfl⟩
          · split <;> exact ⟨_, _, rfl, rfl⟩
  | cons letter word ih =>
      rw [List.any_cons, Bool.or_eq_false_iff] at solid
      obtain ⟨piece, pieces, later, joined⟩ := ih solid.2
      refine ⟨piece, pieces, later, ?_⟩
      rw [List.cons_append, split, solid.1, joined]
      rfl

/-- Separators in front make no difference. -/
theorem words_gap_append (gap rest : List Char) (separates : gap.all isSeparator = true) :
    words isSeparator (gap ++ rest) = words isSeparator rest := by
  induction gap with
  | nil => rfl
  | cons character gap ih =>
      rw [List.all_cons, Bool.and_eq_true] at separates
      rw [List.cons_append, words, split, separates.1]
      exact ih separates.2

/-- What does not separate is the first word up to the separator that follows it. -/
theorem words_word_append (word rest : List Char) (holds : word ≠ [])
    (solid : word.any isSeparator = false) (ends : rest.head?.all isSeparator = true) :
    words isSeparator (word ++ rest) = word :: words isSeparator rest := by
  obtain ⟨piece, pieces, later, joined⟩ := split_append isSeparator word rest solid
  have first : piece = [] := by
    cases rest with
    | nil => exact (List.cons.inj later).1.symm
    | cons character rest =>
        have separates : isSeparator character = true := ends
        rw [split, separates] at later
        exact (List.cons.inj later).1.symm
  rw [words, words, joined, later, first]
  simp [holds]

theorem Parted.words_eq {isSeparator : Char → Bool} {parts : List (List Char)} {text : List Char}
    (parted : Parted isSeparator parts text) : words isSeparator text = parts := by
  induction parted with
  | last separates =>
      have blank := words_gap_append isSeparator _ [] separates
      rw [List.append_nil] at blank
      exact blank
  | next separates holds solid ends others ih =>
      rw [List.append_assoc, words_gap_append isSeparator _ _ separates,
        words_word_append isSeparator _ _ holds solid ends, ih]

/-- Blanks around a text without blanks are cut off. -/
theorem trim_padded (front word back : List Char) (leads : front.all isBlank = true)
    (solid : word.any isBlank = false) (trails : back.all isBlank = true) :
    trim (front ++ word ++ back) = word := by
  have skips (gap rest : List Char) (blank : gap.all isBlank = true) :
      (gap ++ rest).dropWhile isBlank = rest.dropWhile isBlank :=
    List.dropWhile_append_of_pos (List.all_eq_true.mp blank)
  have whole (letters : List Char) (solid : letters.any isBlank = false) :
      letters.dropWhile isBlank = letters := by
    cases letters with
    | nil => rfl
    | cons letter rest =>
        rw [List.any_cons, Bool.or_eq_false_iff] at solid
        rw [List.dropWhile_cons, if_neg (by simp [solid.1])]
  rw [trim, List.append_assoc, skips front _ leads, List.dropWhile_append, whole word solid]
  split
  · rename_i nothing
    have gone := skips back [] trails
    rw [List.append_nil] at gone
    rw [gone, List.isEmpty_iff.mp nothing]
    rfl
  · rw [List.reverse_append, skips back.reverse _ (List.all_reverse.trans trails),
      whole word.reverse (List.any_reverse.trans solid), List.reverse_reverse]

/-- Only blanks are cut off. -/
theorem exists_trim_padded (characters : List Char) :
    ∃ front back, front.all isBlank = true ∧ back.all isBlank = true ∧
      characters = front ++ trim characters ++ back := by
  let rest := characters.dropWhile isBlank
  refine ⟨characters.takeWhile isBlank, (rest.reverse.takeWhile isBlank).reverse,
    List.all_takeWhile, List.all_reverse.trans List.all_takeWhile, ?_⟩
  rw [trim, List.append_assoc, ← List.reverse_append, List.takeWhile_append_dropWhile,
    List.reverse_reverse, List.takeWhile_append_dropWhile]

/-- Whether a text holds blanks does not depend on the case of its letters. -/
theorem any_isBlank_lower (characters : List Char) :
    (lower characters).any isBlank = characters.any isBlank := by
  have letters (codePoint : Nat) (low : 65 ≤ codePoint) (high : codePoint ≤ 122) :
      inRanges blankRanges codePoint = false := by
    simp [inRanges, blankRanges]
    omega
  rw [lower_eq, List.any_map]
  congr 1
  funext character
  dsimp only [Function.comp]
  split
  · rename_i capital
    have low : 65 ≤ character.toNat := UInt32.le_iff_toNat_le.mp capital.1
    have high : character.toNat ≤ 90 := UInt32.le_iff_toNat_le.mp capital.2
    rw [isBlank, isBlank, toNat_small capital, letters _ low (by omega),
      letters _ (by omega) (by omega)]
  · rfl

end Text

namespace Registry

/-- The words for a truth value. -/
def truthWords : Bool → List String
  | true => ["yes", "true"]
  | false => ["no", "false"]

/-- The text is a word for the truth value, in any case. -/
def SpellsTruth (text : String) (truth : Bool) : Prop :=
  String.ofList (Text.lower text.toList) ∈ truthWords truth

/-- Apart from blanks at its ends the value is a word for the truth value. -/
def MeansTruth (value : String) (truth : Bool) : Prop :=
  ∃ front word back, front.all Text.isBlank = true ∧ back.all Text.isBlank = true ∧
    value.toList = front ++ word ++ back ∧ SpellsTruth (String.ofList word) truth

/-- The element is the name of the problem class, in any case. -/
def Names (element : String) (problem : ProblemClass) : Prop :=
  Text.lower element.toList = Text.lower problem.name.toList

/-- The text lists the names of these problem classes, in upper or lower case. -/
def SpellsProblems (text : String) (problems : List ProblemClass) : Prop :=
  ∃ names, Text.Parted isSeparator names text.toList ∧
    names.map Text.lower = problems.map fun problem => Text.lower problem.name.toList

/-- The registry holds these settings. It has no value for the ones that are left out. -/
structure Tells (registry : Registry) (softBounce : Option Bool)
    (notifyClasses : Option (List ProblemClass)) : Prop where
  softBounce : Option.Rel SpellsTruth (registry.value? "soft_bounce") softBounce
  notifyClasses : Option.Rel SpellsProblems (registry.value? "notify_classes") notifyClasses

/-- A word for a truth value holds no blanks. -/
theorem SpellsTruth.solid {text : String} {truth : Bool} (spells : SpellsTruth text truth) :
    text.toList.any Text.isBlank = false := by
  have words : ∀ truth, ∀ word ∈ truthWords truth, word.toList.any Text.isBlank = false := by
    decide
  have solid := words truth _ spells
  rwa [String.toList_ofList, Text.any_isBlank_lower] at solid

theorem truth?_eq_some_iff_trim (text : String) (truth : Bool) :
    truth? text = some truth ↔ SpellsTruth (String.ofList (Text.trim text.toList)) truth := by
  rw [truth?, SpellsTruth, String.toList_ofList]
  generalize String.ofList (Text.lower (Text.trim text.toList)) = word
  cases truth with
  | true =>
      simp only [truthWords, List.mem_cons, List.not_mem_nil, or_false]
      split
      · simp [*]
      · split <;> simp [*]
  | false =>
      simp only [truthWords, List.mem_cons, List.not_mem_nil, or_false]
      split
      · rename_i affirms
        rcases affirms with rfl | rfl <;> decide
      · split <;> simp [*]

/-- Blanks need not stand around a word for a truth value. -/
theorem SpellsTruth.means {text : String} {truth : Bool} (spells : SpellsTruth text truth) :
    MeansTruth text truth :=
  ⟨[], text.toList, [], rfl, rfl, by simp, by rwa [String.ofList_toList]⟩

/-- A value is read as a truth value just if it means that. -/
theorem truth?_eq_some_iff (value : String) (truth : Bool) :
    truth? value = some truth ↔ MeansTruth value truth := by
  rw [truth?_eq_some_iff_trim]
  constructor
  · intro spells
    obtain ⟨front, back, leads, trails, whole⟩ := Text.exists_trim_padded value.toList
    exact ⟨front, _, back, leads, trails, whole, spells⟩
  · rintro ⟨front, word, back, leads, trails, whole, spells⟩
    have solid := spells.solid
    rw [String.toList_ofList] at solid
    rwa [whole, Text.trim_padded front word back leads solid trails]

theorem bool_eq_ok_iff (registry : Registry) (name : String) (standard truth : Bool) :
    registry.bool name standard = .ok truth ↔ ∃ meant,
      Option.Rel MeansTruth (registry.value? name) meant ∧ meant.getD standard = truth := by
  rw [bool]
  generalize registry.value? name = value?
  constructor
  · intro read
    cases value? with
    | none => exact ⟨none, .none, Except.ok.inj read⟩
    | some value =>
        cases means : truth? value with
        | none => simp [means] at read
        | some other =>
            have same : other = truth := by simpa [means] using read
            exact ⟨some other, .some ((truth?_eq_some_iff _ _).mp means), same⟩
  · rintro ⟨meant, means, rfl⟩
    cases means with
    | none => rfl
    | some means =>
        rw [← truth?_eq_some_iff] at means
        simp [means]

/-- A parameter that holds a truth value, or none, is read as it is meant. -/
theorem bool_of_spells (registry : Registry) (name : String) (standard : Bool)
    (meant : Option Bool) (spells : Option.Rel SpellsTruth (registry.value? name) meant) :
    registry.bool name standard = .ok (meant.getD standard) := by
  refine (bool_eq_ok_iff registry name standard _).mpr ⟨meant, ?_, rfl⟩
  generalize registry.value? name = value? at spells ⊢
  cases spells with
  | none => exact .none
  | some spells => exact .some spells.means

end Registry

/-- A text is read as a problem class if it is its name. -/
theorem ProblemClass.ofText_eq_ok_iff (text : String) (problem : ProblemClass) :
    ofText text = .ok problem ↔ Registry.Names text problem := by
  constructor
  · intro read
    unfold ofText at read
    split at read <;> cases read
    all_goals
      rename_i written
      rw [Registry.Names, ← String.toList_ofList (l := Text.lower text.toList), written]
      rfl
  · intro names
    rw [← ofText_name problem, ofText, show Text.lower text.toList = _ from names]
    rfl

namespace Policy

theorem problemOfElement_eq_ok_iff (element : String) (problem : ProblemClass) :
    problemOfElement element = .ok problem ↔ Registry.Names element problem := by
  rw [← ProblemClass.ofText_eq_ok_iff, problemOfElement]
  cases ProblemClass.ofText element <;> simp [Except.mapError]

/-- Elements that spell the names of problem classes are read as these classes. -/
theorem problems_of_spells (names : List (List Char)) (problems : List ProblemClass)
    (spell : names.map Text.lower = problems.map fun problem => Text.lower problem.name.toList) :
    (names.map String.ofList).mapM problemOfElement = .ok problems := by
  rw [← List.forall₂_eq_eq_eq, List.forall₂_map_left_iff, List.forall₂_map_right_iff] at spell
  refine (mapM_eq_ok_iff _ _ _).mpr (List.forall₂_map_left_iff.mpr (spell.imp ?_))
  intro name problem same
  rwa [problemOfElement_eq_ok_iff, Registry.Names, String.toList_ofList]

/-- The settings that a registry holds are read as they are meant. -/
theorem ofRegistry_of_tells (registry : Registry) (softBounce : Option Bool)
    (notifyClasses : Option (List ProblemClass))
    (tells : registry.Tells softBounce notifyClasses) :
    ofRegistry registry = .ok (ofSettings softBounce notifyClasses) := by
  have truth := registry.bool_of_spells "soft_bounce" standard.softBounce softBounce
    tells.softBounce
  have problems := tells.notifyClasses
  simp only [ofRegistry, truth, Registry.list?]
  generalize registry.value? "notify_classes" = value? at problems
  cases problems with
  | none => rfl
  | some spells =>
      obtain ⟨names, parted, spell⟩ := spells
      simp only [Option.map_some, Registry.elements, parted.words_eq,
        problems_of_spells names _ spell]
      rfl

end Policy

end Nondelivery
