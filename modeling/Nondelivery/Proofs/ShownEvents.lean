/-
This file shows which events reach the operator under a setting. A setting is read as the threshold
that it asks for, and one that asks for none gives way to the fallback with a warning. An event is
shown when it is one of this system and the threshold reaches its level.
-/

import Nondelivery.Proofs.NumeralReading
import Nondelivery.Trace.Threshold

namespace Nondelivery

namespace Threshold

/-- The text is the word for the threshold, in any case. -/
def Spells (text : String) (threshold : Threshold) : Prop :=
  Text.lower text.toList = Text.lower threshold.word.toList

/-- What the text of a setting asks for. -/
inductive Asks : String → Threshold → Prop where
  | nothing : Asks "" (upTo .error)
  | word {text : String} {threshold : Threshold} (spells : Spells text threshold) :
      Asks text threshold
  | number {text : String} {threshold : Threshold}
      (signed : Text.IsSigned text.toList threshold.verbosity) : Asks text threshold

/-- The threshold that a setting leads to, and the warning. -/
inductive Chooses (fallback : Threshold) :
    Option String → Threshold × Option String → Prop where
  | unset : Chooses fallback none (fallback, none)
  | asked {setting : String} {threshold : Threshold} (asks : Asks setting threshold) :
      Chooses fallback (some setting) (threshold, none)
  | senseless {setting : String} (aimless : ∀ threshold, ¬ Asks setting threshold) :
      Chooses fallback (some setting) (fallback, some ("Invalid log level specified " ++ setting ++
        ", defaulting to " ++ fallback.word ++ "\n"))

/-- The list of the thresholds is complete. -/
theorem mem_named (threshold : Threshold) : (threshold.word, threshold) ∈ named := by
  cases threshold with
  | off => decide
  | upTo level => cases level <;> decide

/-- Whether something holds of all thresholds is found out from the list. -/
instance {property : Threshold → Prop} [DecidablePred property] :
    Decidable (∀ threshold, property threshold) :=
  decidable_of_iff (∀ entry ∈ named, property entry.2)
    ⟨fun holds threshold => holds _ (mem_named threshold), fun holds entry _ => holds entry.2⟩

theorem lower_word : ∀ threshold : Threshold,
    Text.lower threshold.word.toList = threshold.word.toList := by
  decide

/-- The words for thresholds hold no digit. -/
theorem any_isDigit_word : ∀ threshold : Threshold,
    threshold.word.toList.any Char.isDigit = false := by
  decide

/-- A threshold is found by its word and by no other. -/
theorem lookup_named_eq_some_iff (word : String) (threshold : Threshold) :
    named.lookup word = some threshold ↔ threshold.word = word := by
  constructor
  · intro found
    obtain ⟨before, after, entries, _⟩ := List.lookup_eq_some_iff.mp found
    have words : ∀ entry ∈ named, entry.2.word = entry.1 := by decide
    apply words (word, threshold)
    rw [entries]
    exact List.mem_append_right before List.mem_cons_self
  · have found : ∀ threshold : Threshold, named.lookup threshold.word = some threshold := by decide
    rintro rfl
    exact found threshold

/-- A threshold is found by its number and by no other. -/
theorem ofNumber?_eq_some_iff (number : Nat) (threshold : Threshold) :
    ofNumber? number = some threshold ↔ threshold.verbosity = number := by
  constructor
  · intro found
    have same := List.find?_some found
    exact beq_iff_eq.mp same
  · have found : ∀ threshold : Threshold, ofNumber? threshold.verbosity = some threshold := by
      decide
    rintro rfl
    exact found threshold

/-- The thresholds are numbered from zero to five. -/
theorem exists_verbosity_iff (number : Nat) :
    (∃ threshold : Threshold, threshold.verbosity = number) ↔ number ≤ 5 := by
  constructor
  · have bounded : ∀ threshold : Threshold, threshold.verbosity ≤ 5 := by decide
    rintro ⟨threshold, rfl⟩
    exact bounded threshold
  · intro bounded
    have numbered : ∀ number < 6, (ofNumber? number).isSome = true := by decide
    obtain ⟨threshold, found⟩ := Option.isSome_iff_exists.mp (numbered number (by omega))
    exact ⟨threshold, (ofNumber?_eq_some_iff number threshold).mp found⟩

/-- The word for a threshold is no numeral, in any case. -/
theorem Spells.unnumbered {text : String} {threshold : Threshold} (spells : Spells text threshold) :
    Text.numeral? (Text.unsigned text.toList) = none := by
  apply Option.eq_none_iff_forall_ne_some.mpr
  intro number read
  have digit := ((Text.numeral?_unsigned_eq_some_iff _ _).mp read).any_isDigit_lower
  rw [spells, lower_word, any_isDigit_word] at digit
  contradiction

/-- The word for a threshold is not empty. -/
theorem Spells.filled {text : String} {threshold : Threshold} (spells : Spells text threshold) :
    text.toList.isEmpty = false := by
  have nonempty : ∀ threshold : Threshold, threshold.word.toList ≠ [] := by decide
  apply List.isEmpty_eq_false_iff.mpr
  intro empty
  rw [Spells, empty, lower_word] at spells
  exact nonempty threshold spells.symm

theorem asks_of_ofText? {text : String} {threshold : Threshold}
    (read : ofText? text = some threshold) : Asks text threshold := by
  unfold ofText? at read
  split at read
  · rename_i number numeral
    rw [ofNumber?_eq_some_iff] at read
    subst read
    exact .number ((Text.numeral?_unsigned_eq_some_iff _ _).mp numeral)
  · split at read
    · rename_i empty
      obtain rfl : text = "" := String.toList_eq_nil_iff.mp (List.isEmpty_iff.mp empty)
      obtain rfl := Option.some.inj read
      exact .nothing
    · have spelled := (lookup_named_eq_some_iff _ _).mp read
      apply Asks.word
      rw [Spells, lower_word, spelled, String.toList_ofList]

theorem ofText?_of_asks {text : String} {threshold : Threshold} (asks : Asks text threshold) :
    ofText? text = some threshold := by
  cases asks with
  | nothing => rfl
  | word spells =>
      have spelled : String.ofList (Text.lower text.toList) = threshold.word := by
        rw [spells, lower_word, String.ofList_toList]
      simp only [ofText?, spells.unnumbered, spells.filled, Bool.false_eq_true, if_false]
      exact (lookup_named_eq_some_iff _ _).mpr spelled.symm
  | number signed =>
      rw [ofText?, (Text.numeral?_unsigned_eq_some_iff _ _).mpr signed]
      exact (ofNumber?_eq_some_iff _ _).mpr rfl

/-- A text is read as the threshold that it asks for. -/
theorem ofText?_eq_some_iff (text : String) (threshold : Threshold) :
    ofText? text = some threshold ↔ Asks text threshold :=
  ⟨asks_of_ofText?, ofText?_of_asks⟩

/-- A text that asks for nothing is not read. -/
theorem ofText?_eq_none_iff (text : String) :
    ofText? text = none ↔ ∀ threshold, ¬ Asks text threshold := by
  simp only [Option.eq_none_iff_forall_ne_some, ne_eq, ofText?_eq_some_iff]

theorem chooses_selectOr (fallback : Threshold) (setting : Option String) :
    Chooses fallback setting (selectOr fallback setting) := by
  cases setting with
  | none => exact .unset
  | some setting =>
      rw [selectOr]
      cases read : ofText? setting with
      | some threshold => exact .asked ((ofText?_eq_some_iff _ _).mp read)
      | none => exact .senseless ((ofText?_eq_none_iff _).mp read)

theorem Chooses.selectOr_eq {fallback : Threshold} {setting : Option String}
    {choice : Threshold × Option String} (chooses : Chooses fallback setting choice) :
    selectOr fallback setting = choice := by
  cases chooses with
  | unset => rfl
  | asked asks => rw [selectOr, (ofText?_eq_some_iff _ _).mpr asks]
  | senseless aimless => rw [selectOr, (ofText?_eq_none_iff _).mpr aimless]

/-- A setting leads to one choice and no other. -/
theorem selectOr_eq_iff (fallback : Threshold) (setting : Option String)
    (choice : Threshold × Option String) :
    selectOr fallback setting = choice ↔ Chooses fallback setting choice := by
  constructor
  · rintro rfl
    exact chooses_selectOr fallback setting
  · exact Chooses.selectOr_eq

/-- A threshold admits the levels up to its limit, and without a limit none. -/
theorem admits_iff (threshold : Threshold) (level : Level) :
    threshold.admits level = true ↔
      ∃ limit, threshold = upTo limit ∧ level.verbosity ≤ limit.verbosity := by
  have positive : 0 < level.verbosity := by cases level <;> decide
  rw [admits, decide_eq_true_iff]
  cases threshold with
  | off => simp [verbosity, positive.ne']
  | upTo limit => simp [verbosity]

end Threshold

/-- The targets of this system are the ones that begin with its name. -/
theorem isOwnTarget_iff (target : String) :
    isOwnTarget target = true ↔ ∃ rest, target = "ferry" ++ rest := by
  rw [isOwnTarget, List.isPrefixOf_iff_prefix]
  constructor
  · rintro ⟨rest, whole⟩
    have joined : ("ferry" ++ String.ofList rest).toList = "ferry".toList ++ rest :=
      String.toList_append.trans (congrArg _ String.toList_ofList)
    exact ⟨String.ofList rest, String.toList_inj.mp (whole.symm.trans joined.symm)⟩
  · rintro ⟨rest, rfl⟩
    exact ⟨rest.toList, String.toList_append.symm⟩

theorem isShown_iff (threshold : Threshold) (target : String) (level : Level) :
    isShown threshold target level = true ↔ (∃ rest, target = "ferry" ++ rest) ∧
      ∃ limit, threshold = .upTo limit ∧ level.verbosity ≤ limit.verbosity := by
  rw [isShown, Bool.and_eq_true, isOwnTarget_iff, Threshold.admits_iff]

/-- A threshold that reaches further hides no event that the other one shows. -/
theorem isShown_mono {threshold wider : Threshold} (within : threshold.verbosity ≤ wider.verbosity)
    {target : String} {level : Level} (shown : isShown threshold target level = true) :
    isShown wider target level = true := by
  simp only [isShown, Threshold.admits, Bool.and_eq_true, decide_eq_true_eq] at shown ⊢
  exact ⟨shown.1, shown.2.trans within⟩

/-- A setting chooses the threshold that it asks for: errors only if it is empty, the threshold that
it names in any case, or the one whose number it writes in digits, with or without a plus sign. A
setting that asks for none of them is warned about and comes to the same as no setting. Then an event
is shown if its target begins with the name of this system and its level is at most the chosen one,
so no event is lost when more is asked for. -/
theorem setting_decides_what_is_shown (fallback : Threshold) :
    (∀ (setting : Option String) (choice : Threshold × Option String),
      Threshold.selectOr fallback setting = choice ↔ Threshold.Chooses fallback setting choice) ∧
    (∀ setting : String, (∀ threshold, ¬ Threshold.Asks setting threshold) →
      (Threshold.selectOr fallback (some setting)).1 = (Threshold.selectOr fallback none).1) ∧
    (∀ number, (∃ threshold : Threshold, threshold.verbosity = number) ↔ number ≤ 5) ∧
    (∀ (setting : Option String) (target : String) (level : Level),
      isShown (Threshold.selectOr fallback setting).1 target level = true ↔
        (∃ rest, target = "ferry" ++ rest) ∧ ∃ limit warning,
          Threshold.Chooses fallback setting (.upTo limit, warning) ∧
            level.verbosity ≤ limit.verbosity) ∧
    ∀ (threshold wider : Threshold) (target : String) (level : Level),
      threshold.verbosity ≤ wider.verbosity → isShown threshold target level = true →
        isShown wider target level = true := by
  refine ⟨Threshold.selectOr_eq_iff fallback, ?_, Threshold.exists_verbosity_iff, ?_, ?_⟩
  · intro setting aimless
    rw [(Threshold.Chooses.senseless aimless).selectOr_eq, Threshold.Chooses.unset.selectOr_eq]
  · intro setting target level
    rw [isShown_iff]
    apply and_congr_right
    intro own
    constructor
    · rintro ⟨limit, chosen, within⟩
      have chooses := Threshold.chooses_selectOr fallback setting
      refine ⟨limit, (Threshold.selectOr fallback setting).2, ?_, within⟩
      rwa [← chosen]
    · rintro ⟨limit, warning, chooses, within⟩
      exact ⟨limit, congrArg Prod.fst chooses.selectOr_eq, within⟩
  · intro threshold wider target level within shown
    exact isShown_mono within shown

/-- A numeral is well written but its number is too great, and a word is understood in any case. -/
theorem setting_decides_what_is_shown_great_number :
    (∀ threshold, ¬ Threshold.Asks "+007" threshold) ∧
      (Threshold.selectOr (.upTo .info) (some "+007")).1 =
        (Threshold.selectOr (.upTo .info) none).1 ∧
      Threshold.selectOr (.upTo .info) (some "WaRn") = (.upTo .warn, none) ∧
      isShown (Threshold.selectOr (.upTo .info) (some "WaRn")).1 "ferryboat" .warn = true ∧
      isShown (.upTo .warn) "ferryboat" .warn = true ∧
      isShown (.upTo .debug) "ferryboat" .warn = true := by
  obtain ⟨chosen, unasked, _, shows, wider⟩ := setting_decides_what_is_shown (.upTo .info)
  have warned : Threshold.selectOr (.upTo .info) (some "+007") =
      (.upTo .info, some "Invalid log level specified +007, defaulting to info\n") := by decide
  have aimless : ∀ threshold, ¬ Threshold.Asks "+007" threshold := by
    cases (chosen _ _).mp warned with
    | senseless aimless => exact aimless
  have chooses : Threshold.Chooses (.upTo .info) (some "WaRn") (.upTo .warn, none) :=
    .asked (.word rfl)
  have named := (chosen _ _).mpr chooses
  have shownNamed := (shows (some "WaRn") "ferryboat" .warn).mpr
    ⟨⟨"boat", rfl⟩, .warn, none, chooses, le_rfl⟩
  have shown : isShown (.upTo .warn) "ferryboat" .warn = true := by decide
  exact ⟨aimless, unasked "+007" aimless, named, shownNamed, shown,
    wider (.upTo .warn) (.upTo .debug) "ferryboat" .warn (by decide) shown⟩

/-- Zeros in front of a number make no difference, and digits of another script are none. -/
example : Threshold.select (some "+0003") = (.upTo .info, none) ∧
    (Threshold.select (some "\uff13")).1 = .upTo .trace := by
  decide

end Nondelivery
