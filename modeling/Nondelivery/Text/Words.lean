/-
This file decides which characters are blank, and cuts texts into words.
-/

namespace Nondelivery.Text

/-- The code points with the Unicode property `White_Space`, as inclusive ranges. -/
def blankRanges : List (Nat × Nat) :=
  [(0x09, 0x0D), (0x20, 0x20), (0x85, 0x85), (0xA0, 0xA0), (0x1680, 0x1680), (0x2000, 0x200A),
    (0x2028, 0x2029), (0x202F, 0x202F), (0x205F, 0x205F), (0x3000, 0x3000)]

/-- The code point lies in one of the ranges. -/
def inRanges (ranges : List (Nat × Nat)) (codePoint : Nat) : Bool :=
  ranges.any fun range => range.1 ≤ codePoint && codePoint ≤ range.2

def isBlank (character : Char) : Bool :=
  inRanges blankRanges character.toNat

/-- The characters without the blanks at either end. -/
def trim (characters : List Char) : List Char :=
  ((characters.dropWhile isBlank).reverse.dropWhile isBlank).reverse

/-- The ASCII letters in lower case, all other characters as they are. -/
def lower (characters : List Char) : List Char :=
  characters.map Char.toLower

/-- The small letter stands 32 code points after the capital one. -/
theorem toNat_small {character : Char} (capital : 'A' ≤ character ∧ character ≤ 'Z') :
    (Char.ofNat (character.toNat + 32)).toNat = character.toNat + 32 := by
  have high : character.toNat ≤ 90 := UInt32.le_iff_toNat_le.mp capital.2
  have valid : (character.toNat + 32).isValidChar := .inl (by omega)
  unfold Char.ofNat
  rw [dif_pos valid]
  rfl

/-- The capital letters of ASCII become small ones, and no other character is changed. -/
theorem lower_eq (characters : List Char) : lower characters = characters.map fun character =>
    if 'A' ≤ character ∧ character ≤ 'Z' then Char.ofNat (character.toNat + 32)
    else character := by
  apply List.map_congr_left
  intro character _
  unfold Char.toLower
  split
  · rename_i upper
    have capital : 'A' ≤ character ∧ character ≤ 'Z' := upper
    have high : character.toNat ≤ 90 := UInt32.le_iff_toNat_le.mp capital.2
    rw [if_pos capital]
    apply Char.toNat_inj.mp
    rw [toNat_small capital]
    change (character.val + 32).toNat = character.toNat + 32
    rw [UInt32.toNat_add]
    change (character.toNat + 32) % _ = _
    omega
  · rename_i other
    exact (if_neg other).symm

/-- The pieces between the separators, empty ones included. -/
def split (isSeparator : Char → Bool) : List Char → List (List Char)
  | [] => [[]]
  | character :: rest =>
      if isSeparator character then
        [] :: split isSeparator rest
      else
        match split isSeparator rest with
        | [] => [[character]]
        | piece :: pieces => (character :: piece) :: pieces

/-- The pieces between the separators that hold something. -/
def words (isSeparator : Char → Bool) (characters : List Char) : List (List Char) :=
  (split isSeparator characters).filter fun piece => !piece.isEmpty

end Nondelivery.Text
