/-
This file shows that reading a list from a parameter undoes every way of writing it. Every value is
the writing of exactly one list, so reading loses nothing but the separators.
-/

import Mathlib.Data.List.Chain
import Mathlib.Logic.ExistsUnique
import Nondelivery.Proofs.ParameterReading

namespace Nondelivery

namespace Text

/-- A list of words as it is written in a text, with a gap in front of the first word and another one
behind each of them. Between two words the gap must not be empty, for they would be one word. -/
structure Writing (isSeparator : Char → Bool) where
  front : List Char
  /-- The words, each with the gap behind it. -/
  parts : List (List Char × List Char)
  front_separates : front.all isSeparator = true
  separates : ∀ part ∈ parts, part.2.all isSeparator = true
  holds : ∀ part ∈ parts, part.1 ≠ []
  solid : ∀ part ∈ parts, part.1.any isSeparator = false
  apart : parts.IsChain fun part _ => part.2 ≠ []

namespace Writing

variable {isSeparator : Char → Bool}

def words (writing : Writing isSeparator) : List (List Char) :=
  writing.parts.map Prod.fst

def text (writing : Writing isSeparator) : List Char :=
  writing.front ++ writing.parts.flatMap fun part => part.1 ++ part.2

/-- The writing without its first word. What stood behind that word is in front of the others. -/
def tail (writing : Writing isSeparator) {first : List Char × List Char}
    {others : List (List Char × List Char)} (starts : writing.parts = first :: others) :
    Writing isSeparator where
  front := first.2
  parts := others
  front_separates := writing.separates first (starts ▸ List.mem_cons_self)
  separates part member := writing.separates part (starts ▸ List.mem_cons_of_mem first member)
  holds part member := writing.holds part (starts ▸ List.mem_cons_of_mem first member)
  solid part member := writing.solid part (starts ▸ List.mem_cons_of_mem first member)
  apart := (starts ▸ writing.apart : (first :: others).IsChain _).tail

/-- Behind the first word there is a gap, or no other word. -/
theorem tail_apart (writing : Writing isSeparator) {first : List Char × List Char}
    {others : List (List Char × List Char)} (starts : writing.parts = first :: others) :
    (writing.tail starts).parts = [] ∨ (writing.tail starts).front ≠ [] := by
  have apart : (first :: others).IsChain _ := starts ▸ writing.apart
  cases others with
  | nil => exact .inl rfl
  | cons second others => exact .inr (List.isChain_cons_cons.mp apart).1

/-- The writing with one more word in front. -/
def cons (word : List Char) (holds : word ≠ []) (solid : word.any isSeparator = false)
    (writing : Writing isSeparator) (apart : writing.parts = [] ∨ writing.front ≠ []) :
    Writing isSeparator where
  front := []
  parts := (word, writing.front) :: writing.parts
  front_separates := rfl
  separates := List.forall_mem_cons.mpr ⟨writing.front_separates, writing.separates⟩
  holds := List.forall_mem_cons.mpr ⟨holds, writing.holds⟩
  solid := List.forall_mem_cons.mpr ⟨solid, writing.solid⟩
  apart := by
    refine List.isChain_cons.mpr ⟨fun second next => ?_, writing.apart⟩
    refine apart.resolve_left fun wordless => ?_
    simp [wordless] at next

/-- What begins with a gap, or holds no word, may follow a word at once. -/
theorem head?_text (writing : Writing isSeparator)
    (apart : writing.parts = [] ∨ writing.front ≠ []) :
    writing.text.head?.all isSeparator = true := by
  have separates := writing.front_separates
  rw [text]
  generalize writing.front = front at apart separates
  cases front with
  | nil => rw [apart.resolve_right (absurd rfl)]; rfl
  | cons character front =>
      rw [List.all_cons, Bool.and_eq_true] at separates
      exact separates.1

/-- A text in which words are written is parted into them. -/
theorem parted (writing : Writing isSeparator) :
    Parted isSeparator writing.words writing.text := by
  -- By induction on the words: what follows the first one is itself a writing of the others.
  generalize parts : writing.parts = pieces
  induction pieces generalizing writing with
  | nil =>
      rw [words, text, parts, List.flatMap_nil, List.append_nil]
      exact .last writing.front_separates
  | cons first others ih =>
      have member : first ∈ writing.parts := parts ▸ List.mem_cons_self
      have later := ih (writing.tail parts) rfl
      rw [words, text, parts, List.flatMap_cons, List.append_assoc, ← List.append_assoc]
      exact .next writing.front_separates (writing.holds first member) (writing.solid first member)
        ((writing.tail parts).head?_text (writing.tail_apart parts)) later

theorem words_text (writing : Writing isSeparator) :
    Text.words isSeparator writing.text = writing.words :=
  writing.parted.words_eq

/-- All that is lost of a writing are the separators. -/
theorem flatten_words (writing : Writing isSeparator) :
    writing.words.flatten = writing.text.filter fun character => !isSeparator character := by
  have vanishes (gap : List Char) (separates : gap.all isSeparator = true) :
      gap.filter (fun character => !isSeparator character) = [] := by
    simpa using separates
  have stays (word : List Char) (solid : word.any isSeparator = false) :
      word.filter (fun character => !isSeparator character) = word := by
    simpa using solid
  rw [text, List.filter_append, vanishes _ writing.front_separates, List.nil_append,
    List.filter_flatMap, words, ← List.flatMap_def]
  refine List.flatMap_congr fun part member => ?_
  rw [List.filter_append, stays _ (writing.solid part member),
    vanishes _ (writing.separates part member), List.append_nil]

/-- Another separator in front of a writing belongs to the gap there. -/
theorem exists_separator_cons (character : Char) (separates : isSeparator character = true)
    (writing : Writing isSeparator) :
    ∃ longer : Writing isSeparator, longer.text = character :: writing.text :=
  ⟨{ writing with
    front := character :: writing.front
    front_separates := by rw [List.all_cons, separates, writing.front_separates]; rfl }, rfl⟩

/-- Another letter in front of a writing is a word of its own, unless the first word follows it at
once, which it then begins. -/
theorem exists_letter_cons (letter : Char) (solid : isSeparator letter = false)
    (writing : Writing isSeparator) :
    ∃ longer : Writing isSeparator, longer.text = letter :: writing.text := by
  have alone : [letter].any isSeparator = false := by rw [List.any_cons, solid]; rfl
  by_cases apart : writing.parts = [] ∨ writing.front ≠ []
  · exact ⟨writing.cons [letter] (List.cons_ne_nil _ _) alone apart, by simp [text, cons]⟩
  · obtain ⟨filled, gapless⟩ := not_or.mp apart
    obtain ⟨⟨word, gap⟩, others, starts⟩ := List.exists_cons_of_ne_nil filled
    have member : (word, gap) ∈ writing.parts := starts ▸ List.mem_cons_self
    have joined : (letter :: word).any isSeparator = false := by
      rw [List.any_cons, solid, writing.solid _ member]
      rfl
    refine ⟨(writing.tail starts).cons (letter :: word) (List.cons_ne_nil _ _) joined
      (writing.tail_apart starts), ?_⟩
    simp [text, cons, tail, starts, not_not.mp gapless]

/-- Every text is the writing of some words. -/
theorem exists_text_eq (characters : List Char) :
    ∃ writing : Writing isSeparator, writing.text = characters := by
  induction characters with
  | nil =>
      exact ⟨⟨[], [], rfl, nofun, nofun, nofun, .nil⟩, rfl⟩
  | cons character characters ih =>
      obtain ⟨writing, rfl⟩ := ih
      cases separates : isSeparator character with
      | true => exact writing.exists_separator_cons character separates
      | false => exact writing.exists_letter_cons character separates

/-- Every text is the writing of exactly one list of words. -/
theorem existsUnique_words (characters : List Char) :
    ∃! words, ∃ writing : Writing isSeparator,
      writing.words = words ∧ writing.text = characters := by
  obtain ⟨writing, rfl⟩ : ∃ writing : Writing isSeparator, writing.text = characters :=
    exists_text_eq characters
  refine ⟨writing.words, ⟨writing, rfl, rfl⟩, ?_⟩
  rintro _ ⟨other, rfl, same⟩
  rw [← other.words_text, same, writing.words_text]

end Writing

end Text

namespace Registry

/-- The elements of a value are the words that are written in it. -/
theorem elements_text (writing : Text.Writing isSeparator) :
    elements (String.ofList writing.text) = writing.words.map String.ofList := by
  rw [elements, String.toList_ofList, writing.words_text]

/-- The elements of a value are the words of a writing. -/
theorem exists_elements_eq (value : String) :
    ∃ writing : Text.Writing isSeparator, writing.text = value.toList ∧
      elements value = writing.words.map String.ofList := by
  obtain ⟨writing, written⟩ : ∃ writing : Text.Writing isSeparator, writing.text = value.toList :=
    Text.Writing.exists_text_eq value.toList
  refine ⟨writing, written, ?_⟩
  rw [← elements_text, written, String.ofList_toList]

/-- No element is empty or holds a separator. -/
theorem solid_of_mem_elements (value element : String) (member : element ∈ elements value) :
    element ≠ "" ∧ element.toList.any isSeparator = false := by
  obtain ⟨writing, _, read⟩ := exists_elements_eq value
  rw [read, Text.Writing.words, List.map_map] at member
  obtain ⟨part, among, rfl⟩ := List.mem_map.mp member
  rw [Function.comp_apply, String.toList_ofList]
  exact ⟨by simpa using writing.holds part among, writing.solid part among⟩

/-- The elements keep all that does not separate. -/
theorem flatMap_elements (value : String) :
    (elements value).flatMap String.toList =
      value.toList.filter fun character => !isSeparator character := by
  obtain ⟨writing, written, read⟩ := exists_elements_eq value
  rw [read, ← written, ← writing.flatten_words, List.flatMap_map]
  simp only [String.toList_ofList, List.flatMap_id']

end Registry

/-- Reading a list from a parameter undoes every way of writing it down, with any gaps before, between
and behind the words. Every value is the writing of exactly one list. So what is read from it are
words that are not empty and hold no separator, and together they keep, in order, every character of
the value that does not separate. -/
theorem list_undoes_writing (registry : Registry) (name : String) :
    (∀ writing : Text.Writing Registry.isSeparator,
      registry.value? name = some (String.ofList writing.text) →
        registry.list? name = some (writing.words.map String.ofList)) ∧
    (∀ value : String, ∃! words, ∃ writing : Text.Writing Registry.isSeparator,
      writing.words = words ∧ writing.text = value.toList) ∧
    ∀ value, registry.value? name = some value → ∃ elements,
      registry.list? name = some elements ∧
        (∀ element ∈ elements,
          element ≠ "" ∧ element.toList.any Registry.isSeparator = false) ∧
        elements.flatMap String.toList =
          value.toList.filter fun character => !Registry.isSeparator character := by
  refine ⟨fun writing written => ?_, fun value => Text.Writing.existsUnique_words value.toList,
    fun value written => ⟨Registry.elements value, ?_,
      fun element => Registry.solid_of_mem_elements value element,
      Registry.flatMap_elements value⟩⟩
  · rw [Registry.list?, written, Option.map_some, Registry.elements_text]
  · rw [Registry.list?, written, Option.map_some]

/-- Commas and blanks of several kinds stand between four words, and at both ends. -/
theorem list_undoes_writing_mixed_gaps :
    let value := " ,resource, software,,protocol\u3000policy,"
    let registry := Registry.ofList [("notify_classes", value)]
    registry.value? "notify_classes" = some value ∧
      registry.list? "notify_classes" = some ["resource", "software", "protocol", "policy"] ∧
      "resourcesoftwareprotocolpolicy".toList =
        value.toList.filter fun character => !Registry.isSeparator character := by
  intro value registry
  let writing : Text.Writing Registry.isSeparator := {
    front := " ,".toList
    parts := [("resource".toList, ", ".toList), ("software".toList, ",,".toList),
      ("protocol".toList, "\u3000".toList), ("policy".toList, ",".toList)]
    front_separates := by decide
    separates := by decide
    holds := by decide
    solid := by decide
    apart := by decide }
  have written : registry.value? "notify_classes" = some (String.ofList writing.text) := by decide
  have words : writing.words.map String.ofList =
      ["resource", "software", "protocol", "policy"] := by decide
  obtain ⟨undoes, _, keeps⟩ := list_undoes_writing registry "notify_classes"
  have read := undoes writing written
  rw [words] at read
  obtain ⟨elements, again, _, kept⟩ := keeps value rfl
  obtain rfl := Option.some.inj (read.symm.trans again)
  exact ⟨rfl, read, kept ▸ by decide⟩

end Nondelivery
