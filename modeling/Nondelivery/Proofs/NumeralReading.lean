/-
This file says what is read as a number. The digits of a numeral have their values by place, zeros
in front make no difference, and a plus sign may stand in front of all.
-/

import Mathlib.Data.List.Induction
import Mathlib.Data.Nat.Digits.Defs
import Nondelivery.Text.Reader
import Nondelivery.Text.Words

namespace Nondelivery.Text

/-- The characters are decimal digits that denote the number by their places. There may be zeros in
front. -/
structure IsNumeral (characters : List Char) (number : Nat) : Prop where
  holds : characters ≠ []
  decimal : ∀ character ∈ characters, character.isDigit = true
  value : Nat.ofDigits 10 (characters.map digitValue).reverse = number

/-- The characters are a numeral for the number, possibly with a plus sign in front. -/
def IsSigned (characters : List Char) (number : Nat) : Prop :=
  ∃ sign digits, (sign = [] ∨ sign = ['+']) ∧ characters = sign ++ digits ∧
    IsNumeral digits number

/-- Reading digit by digit gives each digit the value of its place. -/
theorem digitsValue_eq_ofDigits (digits : List Char) :
    digitsValue digits = Nat.ofDigits 10 (digits.map digitValue).reverse := by
  -- From the back, for the last digit is the one that is read last and has the lowest place.
  induction digits using List.reverseRecOn with
  | nil => rfl
  | append_singleton digits digit ih =>
      calc
        digitsValue (digits ++ [digit]) = digitValue digit + 10 * digitsValue digits := by
          simp only [digitsValue, List.foldl_append, List.foldl_cons, List.foldl_nil]
          omega
        _ = digitValue digit + 10 * Nat.ofDigits 10 (digits.map digitValue).reverse := by rw [ih]
        _ = Nat.ofDigits 10 ((digits ++ [digit]).map digitValue).reverse := by
          rw [List.map_append, List.reverse_append]
          exact Nat.ofDigits_cons.symm

/-- Just the numerals are read as numbers. -/
theorem numeral?_eq_some_iff (characters : List Char) (number : Nat) :
    numeral? characters = some number ↔ IsNumeral characters number := by
  have accepted : (!characters.isEmpty && characters.all Char.isDigit) = true ↔
      characters ≠ [] ∧ ∀ character ∈ characters, character.isDigit = true := by
    rw [Bool.and_eq_true, Bool.not_eq_true', List.isEmpty_eq_false_iff, List.all_eq_true]
  rw [numeral?, digitsValue_eq_ofDigits]
  constructor
  · intro read
    split at read
    · rename_i digits
      obtain ⟨holds, decimal⟩ := accepted.mp digits
      exact ⟨holds, decimal, Option.some.inj read⟩
    · contradiction
  · rintro ⟨holds, decimal, rfl⟩
    rw [if_pos (accepted.mpr ⟨holds, decimal⟩)]

/-- A number reads back from its decimal digits. -/
theorem numeral?_toString (number : Nat) :
    numeral? (toString number).toList = some number := by
  have digits : (toString number).toList = Nat.toDigits 10 number := by
    rw [Nat.toString_eq_repr, Nat.toList_repr]
  have value : digitsValue (Nat.toDigits 10 number) = number :=
    Nat.ofDigitChars_eq_foldl.symm.trans (Nat.ofDigitChars_toDigits (by decide) (by decide))
  rw [digits, numeral?_eq_some_iff]
  refine ⟨Nat.toDigits_ne_nil, ?_, (digitsValue_eq_ofDigits _).symm.trans value⟩
  intro digit member
  exact Nat.isDigit_of_mem_toDigits (by decide) (by decide) member

/-- At most a plus sign is taken away. -/
theorem exists_sign (characters : List Char) :
    ∃ sign, (sign = [] ∨ sign = ['+']) ∧ characters = sign ++ unsigned characters := by
  cases characters with
  | nil => exact ⟨[], .inl rfl, rfl⟩
  | cons first rest =>
      by_cases plus : first = '+'
      · subst plus
        exact ⟨['+'], .inr rfl, rfl⟩
      · refine ⟨[], .inl rfl, ?_⟩
        rw [unsigned, List.head?_cons, if_neg (by simp [plus]), List.nil_append]

/-- What remains of a numeral with a sign is the numeral, for no numeral begins with a sign. -/
theorem unsigned_append {sign digits : List Char} {number : Nat} (signed : sign = [] ∨ sign = ['+'])
    (numeral : IsNumeral digits number) : unsigned (sign ++ digits) = digits := by
  rcases signed with rfl | rfl
  · obtain ⟨first, rest, rfl⟩ := List.exists_cons_of_ne_nil numeral.holds
    have digit := numeral.decimal first List.mem_cons_self
    have unmarked : first ≠ '+' := by
      rintro rfl
      contradiction
    rw [List.nil_append, unsigned, List.head?_cons, if_neg (by simp [unmarked])]
  · rfl

/-- Just the numerals, with or without a plus sign, are numbers once the sign is taken away. -/
theorem numeral?_unsigned_eq_some_iff (characters : List Char) (number : Nat) :
    numeral? (unsigned characters) = some number ↔ IsSigned characters number := by
  constructor
  · intro read
    obtain ⟨sign, signed, whole⟩ := exists_sign characters
    exact ⟨sign, unsigned characters, signed, whole, (numeral?_eq_some_iff _ _).mp read⟩
  · rintro ⟨sign, digits, signed, rfl, numeral⟩
    rw [unsigned_append signed numeral]
    exact (numeral?_eq_some_iff _ _).mpr numeral

/-- Every numeral still shows a digit in lower case. -/
theorem IsSigned.any_isDigit_lower {characters : List Char} {number : Nat}
    (signed : IsSigned characters number) : (lower characters).any Char.isDigit = true := by
  obtain ⟨sign, digits, _, rfl, numeral⟩ := signed
  obtain ⟨first, rest, rfl⟩ := List.exists_cons_of_ne_nil numeral.holds
  have digit := numeral.decimal first List.mem_cons_self
  have small : ¬ ('A' ≤ first ∧ first ≤ 'Z') := by
    intro capital
    have low : 65 ≤ first.toNat := UInt32.le_iff_toNat_le.mp capital.1
    have high : first.toNat ≤ 57 := (Char.isDigit_iff_toNat.mp digit).2
    omega
  rw [lower_eq]
  apply List.any_eq_true.mpr
  refine ⟨first, List.mem_map.mpr ⟨first, ?_, if_neg small⟩, digit⟩
  exact List.mem_append_right sign List.mem_cons_self

end Nondelivery.Text
