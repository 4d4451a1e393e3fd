/-
This file says how the text of a configuration file is cut into tokens. The pieces of the text
become tokens one by one, whatever blanks stand around them, as long as no two pieces run together.
-/

import Mathlib.Data.List.Chain
import Nondelivery.Notation.Token

namespace Nondelivery.Notation

/-- The text consists of these pieces in order, with any blanks before, between and after them. -/
inductive Spaced : List String → List Char → Prop where
  | last {gap : List Char} (blank : gap.all isSpace = true) : Spaced [] gap
  | next {gap rest : List Char} {piece : String} {pieces : List String}
      (blank : gap.all isSpace = true) (others : Spaced pieces rest) :
      Spaced (piece :: pieces) (gap ++ piece.toList ++ rest)

/-- The word is no keyword before an optional value, and no quotation starts like it. -/
def isPlainWord : List Char → Bool
  | [] => false
  | first :: others =>
      Word.isStart first && first ≠ 'r' && first ≠ 'b' && others.all Text.continuesName &&
        first :: others ≠ Token.optionalWord

/-- The characters are a mark. -/
def isMarkPiece : List Char → Bool
  | [character] => Token.isMark character
  | _ => false

namespace Token

/-- The token that a piece stands for. -/
def ofPiece (piece : String) : Token :=
  match piece.toList with
  | [character] => if isMark character then mark character else word [character] false
  | letters => word letters false

end Token

/-- A blank is not part of a word, starts no comment and closes no parentheses. -/
theorem isSpace_apart (character : Char) (blank : isSpace character = true) :
    Text.continuesName character = false ∧ Word.isRawOnly character = false ∧ character ≠ '/' ∧
      character ≠ ')' := by
  -- The tables of letters are long and there are few blanks, so the blanks are gone through.
  have spaces : ∀ codePoint ∈ [0x09, 0x0A, 0x0B, 0x0C, 0x0D, 0x20, 0x85, 0x200E, 0x200F, 0x2028,
      0x2029], Text.continuesName (Char.ofNat codePoint) = false ∧
        Word.isRawOnly (Char.ofNat codePoint) = false ∧ Char.ofNat codePoint ≠ '/' ∧
        Char.ofNat codePoint ≠ ')' := by
    decide +kernel
  have among := spaces character.toNat (by
    simp [isSpace, Text.inRanges, spaceRanges] at blank ⊢
    omega)
  rw [Char.ofNat_toNat] at among
  exact among

/-- What holds of each mark holds of every mark. -/
theorem Token.isMark_all (holds : Char → Bool) (character : Char)
    (mark : isMark character = true)
    (all : ['(', ')', '[', ']', '\x7b', '\x7d', ':', ',', '#', '!', '='].all holds = true) :
    holds character = true :=
  List.all_eq_true.mp all character (by simpa [isMark] using mark)

/-- A mark is not part of a word either, nor is it a blank. -/
theorem isMark_apart (character : Char) (mark : Token.isMark character = true) :
    Text.continuesName character = false ∧ Word.isRawOnly character = false ∧
      isSpace character = false ∧ character ≠ '/' := by
  have apart := Token.isMark_all (fun sign => !Text.continuesName sign && !Word.isRawOnly sign &&
    !isSpace sign && sign ≠ '/') character mark (by decide)
  simpa [and_assoc] using apart

theorem Word.continuesName_of_isStart (character : Char) (starts : isStart character = true) :
    Text.continuesName character = true := by
  simp only [isStart, Text.startsName, Text.continuesName, Char.isAlphanum] at starts ⊢
  grind

/-- A word starts neither with a blank nor with what starts a comment or a quotation. -/
theorem isStart_apart (character : Char) (starts : Word.isStart character = true) :
    isSpace character = false ∧ character ≠ '/' ∧ character ≠ '"' ∧ character ≠ '\'' := by
  have continues := Word.continuesName_of_isStart character starts
  refine ⟨?_, ?_, ?_, ?_⟩
  · by_contra blank
    rw [(isSpace_apart character (by simpa using blank)).1] at continues
    cases continues
  all_goals
    rintro rfl
    revert continues
    decide

/-- The characters start neither with a blank nor with what starts a comment. -/
def StartsSolid (characters : List Char) : Prop :=
  ∀ character ∈ characters.head?, isSpace character = false ∧ character ≠ '/'

theorem skipBlanks?_gap (gap rest : List Char) (blank : gap.all isSpace = true)
    (solid : StartsSolid rest) (rounds : Nat) (enough : gap.length < rounds) :
    skipBlanks? rounds (gap ++ rest) = some rest := by
  obtain ⟨rounds, rfl⟩ := Nat.exists_eq_succ_of_ne_zero (Nat.ne_zero_of_lt enough)
  induction gap generalizing rounds with
  | nil =>
      cases rest with
      | nil => rfl
      | cons character rest =>
          obtain ⟨solid, other⟩ := solid character rfl
          simp [skipBlanks?, solid, other]
  | cons character gap ih =>
      rw [List.all_cons, Bool.and_eq_true] at blank
      obtain ⟨rounds, rfl⟩ : ∃ fewer, rounds = fewer + 1 :=
        Nat.exists_eq_succ_of_ne_zero (Nat.ne_zero_of_lt (Nat.lt_of_succ_lt_succ enough))
      have other := (isSpace_apart character blank.1).2.2.1
      have later := ih blank.2 rounds (Nat.lt_of_succ_lt_succ enough)
      simp [skipBlanks?, blank.1, other, later]

theorem afterBlanks?_gap (gap rest : List Char) (blank : gap.all isSpace = true)
    (solid : StartsSolid rest) : afterBlanks? (gap ++ rest) = some rest :=
  skipBlanks?_gap gap rest blank solid _ (by rw [List.length_append]; omega)

/-- A word ends where these characters follow. -/
def EndsWord (rest : List Char) : Prop :=
  ∀ character ∈ rest.head?,
    Text.continuesName character = false ∧ Word.isRawOnly character = false

/-- Quotations start with a quote or with one of two letters. -/
def quotationStarts : List Char := ['"', '\'', 'r', 'b']

theorem Quotation.ofStart?_eq_none (first : Char) (rest : List Char)
    (apart : first ∉ quotationStarts) : ofStart? (first :: rest) = none := by
  unfold ofStart?
  split <;> simp_all [quotationStarts]

theorem Word.read?_cons (first : Char) (rest : List Char) (apart : first ∉ quotationStarts) :
    read? (first :: rest) =
      if isStart first then
        some (first :: rest.takeWhile Text.continuesName, false,
          rest.dropWhile Text.continuesName)
      else none := by
  have noRaw : first ≠ 'r' := by
    rintro rfl
    exact apart (by decide)
  rw [read?]
  · exact fun _ same _ => noRaw same
  · exact Quotation.ofStart?_eq_none first rest apart

theorem isPlainWord_cases (letters : List Char) (plain : isPlainWord letters = true) :
    ∃ first others, letters = first :: others ∧ Word.isStart first = true ∧
      first ∉ quotationStarts ∧ (∀ character ∈ others, Text.continuesName character = true) ∧
      letters ≠ Token.optionalWord := by
  cases letters with
  | nil => cases plain
  | cons first others =>
      simp only [isPlainWord, Bool.and_eq_true, decide_eq_true_eq, List.all_eq_true] at plain
      obtain ⟨⟨⟨⟨starts, noRaw⟩, noByte⟩, continues⟩, required⟩ := plain
      obtain ⟨_, _, noText, noCharacter⟩ := isStart_apart first starts
      exact ⟨first, others, rfl, starts,
        by simp [quotationStarts, noRaw, noByte, noText, noCharacter], continues, required⟩

namespace Token

/-- A word is read as it is written, up to where it ends. -/
theorem next?_word (letters rest : List Char) (plain : isPlainWord letters = true)
    (ends : EndsWord rest) : next? (letters ++ rest) = some (word letters false, rest) := by
  obtain ⟨first, others, rfl, starts, apart, continues, required⟩ := isPlainWord_cases letters plain
  have stops : rest.takeWhile Text.continuesName = [] ∧
      rest.dropWhile Text.continuesName = rest ∧ rest.head?.any Word.isRawOnly = false := by
    cases rest with
    | nil => exact ⟨rfl, rfl, rfl⟩
    | cons character rest => simp [ends character rfl]
  have read : Word.read? (first :: (others ++ rest)) = some (first :: others, false, rest) := by
    rw [Word.read?_cons first _ apart, if_pos starts, List.takeWhile_append_of_pos continues,
      List.dropWhile_append_of_pos continues, stops.1, stops.2.1, List.append_nil]
  rw [List.cons_append]
  simp [next?, Quotation.ofStart?_eq_none first _ apart, read, ofWord?, required, stops]

/-- A mark is a token of its own, unless it is the first of an empty pair of parentheses. -/
theorem next?_mark (character : Char) (rest : List Char) (known : isMark character = true)
    (single : ¬ (character = '(' ∧ rest.head? = some ')')) :
    next? (character :: rest) = some (mark character, rest) := by
  obtain ⟨apart, noStart⟩ : character ∉ quotationStarts ∧ Word.isStart character = false := by
    have apart := isMark_all (fun sign => !quotationStarts.contains sign && !Word.isStart sign)
      character known (by decide)
    simpa using apart
  have noWord : Word.read? (character :: rest) = none := by
    rw [Word.read?_cons character rest apart, noStart]
    rfl
  simp only [next?, Quotation.ofStart?_eq_none character rest apart, noWord]
  split <;> simp_all

theorem next?_unit (rest : List Char) : next? ('(' :: ')' :: rest) = some (unit, rest) :=
  rfl

/-- The first token is read after the blanks in front of it, and then the others. -/
theorem readAll_next (gap start rest : List Char) (token : Token) (rounds : Nat)
    (blank : gap.all isSpace = true) (holds : start ≠ []) (solid : StartsSolid start)
    (next : next? start = some (token, rest)) :
    readAll (rounds + 1) (gap ++ start) = (readAll rounds rest).map (token :: ·) := by
  rw [readAll, afterBlanks?_gap gap start blank solid]
  cases start with
  | nil => exact absurd rfl holds
  | cons character start =>
      simp only [Option.bind_eq_bind, Option.bind_some, next]
      cases readAll rounds rest <;> rfl

theorem readAll_blank (gap : List Char) (rounds : Nat) (blank : gap.all isSpace = true) :
    readAll (rounds + 1) gap = some [] := by
  have empty := afterBlanks?_gap gap [] blank (by rintro character ⟨⟩)
  rw [List.append_nil] at empty
  rw [readAll, empty]
  rfl

end Token

/-- A piece of a configuration file is a word or a mark. -/
def isPiece (piece : String) : Bool :=
  isPlainWord piece.toList || isMarkPiece piece.toList

/-- The second piece can stand right after the first one. Words would run together, and parentheses
with nothing in between would be one token. -/
def CanFollow (first second : String) : Prop :=
  (isMarkPiece first.toList = true ∨ isMarkPiece second.toList = true) ∧
    ¬ (first = "(" ∧ second = ")")

/-- Anything can follow a mark that opens no parentheses. -/
theorem CanFollow.ofFirst {first : String} (mark : isMarkPiece first.toList = true)
    (other : first ≠ "(") (second : String) : CanFollow first second :=
  ⟨.inl mark, fun both => other both.1⟩

/-- A mark that closes no parentheses can follow anything. -/
theorem CanFollow.ofSecond {second : String} (mark : isMarkPiece second.toList = true)
    (other : second ≠ ")") (first : String) : CanFollow first second :=
  ⟨.inr mark, fun both => other both.2⟩

theorem isMarkPiece_cases (piece : String) (mark : isMarkPiece piece.toList = true) :
    ∃ character, piece.toList = [character] ∧ Token.isMark character = true := by
  unfold isMarkPiece at mark
  split at mark
  · exact ⟨_, ‹_›, mark⟩
  · cases mark

/-- No piece is both a word and a mark. -/
theorem isMarkPiece_of_plain (piece : String) (plain : isPlainWord piece.toList = true) :
    isMarkPiece piece.toList = false := by
  obtain ⟨first, others, same, starts, _⟩ := isPlainWord_cases _ plain
  by_contra mark
  obtain ⟨character, single, isMark⟩ := isMarkPiece_cases piece (by simpa using mark)
  obtain ⟨rfl, _⟩ := List.cons.inj (same.symm.trans single)
  have continues := Word.continuesName_of_isStart first starts
  rw [(isMark_apart first isMark).1] at continues
  cases continues

/-- A piece holds something, and it starts neither with a blank nor with what starts a comment. -/
theorem isPiece_start (piece : String) (sound : isPiece piece = true) :
    ∃ first others, piece.toList = first :: others ∧ isSpace first = false ∧ first ≠ '/' := by
  rcases Bool.or_eq_true_iff.mp sound with plain | mark
  · obtain ⟨first, others, same, starts, _⟩ := isPlainWord_cases _ plain
    obtain ⟨noSpace, noComment, _⟩ := isStart_apart first starts
    exact ⟨first, others, same, noSpace, noComment⟩
  · obtain ⟨character, single, isMark⟩ := isMarkPiece_cases piece mark
    obtain ⟨_, _, noSpace, noComment⟩ := isMark_apart character isMark
    exact ⟨character, [], single, noSpace, noComment⟩

/-- The first piece of a text is its first token. -/
theorem Token.next?_piece (piece : String) (rest : List Char) (sound : isPiece piece = true)
    (ends : isPlainWord piece.toList = true → EndsWord rest)
    (single : ¬ (piece = "(" ∧ rest.head? = some ')')) :
    next? (piece.toList ++ rest) = some (ofPiece piece, rest) := by
  rcases Bool.or_eq_true_iff.mp sound with plain | mark
  · have noMark := isMarkPiece_of_plain piece plain
    have asWord : ofPiece piece = word piece.toList false := by
      unfold ofPiece
      unfold isMarkPiece at noMark
      split <;> simp_all
    rw [next?_word _ rest plain (ends plain), asWord]
  · obtain ⟨character, same, isMark⟩ := isMarkPiece_cases piece mark
    have asMark : ofPiece piece = Token.mark character := by
      simp [ofPiece, same, isMark]
    have opens : character = '(' → piece = "(" := by
      rintro rfl
      exact String.toList_inj.mp same
    rw [asMark, same]
    exact next?_mark character rest isMark fun unit => single ⟨opens unit.1, unit.2⟩

namespace Spaced

/-- A text starts with a blank or like the first of its pieces. -/
theorem head {pieces : List String} {text : List Char} (spaced : Spaced pieces text)
    (sound : ∀ piece ∈ pieces, isPiece piece = true) (character : Char)
    (first : text.head? = some character) : isSpace character = true ∨
      ∃ piece ∈ pieces.head?, piece.toList.head? = some character := by
  cases spaced with
  | last blank =>
      exact .inl (List.all_eq_true.mp blank character (List.mem_of_mem_head? first))
  | @next gap rest piece pieces blank others =>
      cases gap with
      | cons space gap =>
          obtain rfl : space = character := Option.some.inj first
          exact .inl (List.all_eq_true.mp blank space List.mem_cons_self)
      | nil =>
          obtain ⟨opening, letters, same, _⟩ := isPiece_start piece (sound piece List.mem_cons_self)
          refine .inr ⟨piece, rfl, ?_⟩
          rw [same] at first ⊢
          exact first

/-- A word ends before the text that follows it. -/
theorem endsWord {piece : String} {pieces : List String} {rest : List Char}
    (spaced : Spaced pieces rest) (sound : ∀ piece ∈ pieces, isPiece piece = true)
    (apart : ∀ next ∈ pieces.head?, CanFollow piece next)
    (plain : isPlainWord piece.toList = true) : EndsWord rest := by
  intro character first
  rcases spaced.head sound character first with blank | ⟨next, following, opening⟩
  · obtain ⟨noName, noRaw, _⟩ := isSpace_apart character blank
    exact ⟨noName, noRaw⟩
  · have noMark := isMarkPiece_of_plain piece plain
    have mark := (apart next following).1.resolve_left (by simp [noMark])
    obtain ⟨sign, single, isMark⟩ := isMarkPiece_cases next mark
    rw [single] at opening
    obtain rfl : sign = character := Option.some.inj opening
    obtain ⟨noName, noRaw, _⟩ := isMark_apart sign isMark
    exact ⟨noName, noRaw⟩

/-- An opening parenthesis is not closed by what directly follows it. -/
theorem noUnit {piece : String} {pieces : List String} {rest : List Char}
    (spaced : Spaced pieces rest) (sound : ∀ piece ∈ pieces, isPiece piece = true)
    (apart : ∀ next ∈ pieces.head?, CanFollow piece next) :
    ¬ (piece = "(" ∧ rest.head? = some ')') := by
  rintro ⟨opens, closes⟩
  rcases spaced.head sound ')' closes with blank | ⟨next, following, opening⟩
  · exact (isSpace_apart ')' blank).2.2.2 rfl
  · refine (apart next following).2 ⟨opens, String.toList_inj.mp ?_⟩
    rcases Bool.or_eq_true_iff.mp (sound next (List.mem_of_mem_head? following)) with plain | mark
    · obtain ⟨first, others, same, starts, _⟩ := isPlainWord_cases _ plain
      rw [same] at opening
      obtain rfl : first = ')' := Option.some.inj opening
      exact absurd starts (by decide)
    · obtain ⟨sign, single, _⟩ := isMarkPiece_cases next mark
      rw [single] at opening ⊢
      obtain rfl : sign = ')' := Option.some.inj opening
      rfl

/-- The first piece of a text becomes the first token. -/
theorem readAll_next {piece : String} {pieces : List String} {text : List Char}
    (spaced : Spaced (piece :: pieces) text)
    (sound : ∀ other ∈ piece :: pieces, isPiece other = true)
    (apart : ∀ next ∈ pieces.head?, CanFollow piece next) :
    ∃ rest, Spaced pieces rest ∧ rest.length < text.length ∧ ∀ rounds,
      Token.readAll (rounds + 1) text =
        (Token.readAll rounds rest).map (Token.ofPiece piece :: ·) := by
  cases spaced with
  | @next gap rest _ _ blank others =>
      have soundHere := sound piece List.mem_cons_self
      have soundLater : ∀ other ∈ pieces, isPiece other = true := fun other member =>
        sound other (List.mem_cons_of_mem piece member)
      obtain ⟨first, letters, same, solid⟩ := isPiece_start piece soundHere
      have starts : StartsSolid (piece.toList ++ rest) := by
        rw [same]
        rintro character ⟨⟩
        exact solid
      have next := Token.next?_piece piece rest soundHere (others.endsWord soundLater apart)
        (others.noUnit soundLater apart)
      refine ⟨rest, others, ?_, fun rounds => ?_⟩
      · rw [List.length_append, List.length_append, same, List.length_cons]
        omega
      · rw [List.append_assoc]
        exact Token.readAll_next gap _ rest (Token.ofPiece piece) rounds blank (by simp [same])
          starts next

/-- A text is cut into its pieces. -/
theorem readAll {pieces : List String} {text : List Char} (spaced : Spaced pieces text)
    (sound : ∀ piece ∈ pieces, isPiece piece = true) (apart : pieces.IsChain CanFollow)
    (rounds : Nat) (enough : text.length < rounds) :
    Token.readAll rounds text = some (pieces.map Token.ofPiece) := by
  obtain ⟨rounds, rfl⟩ := Nat.exists_eq_succ_of_ne_zero (Nat.ne_zero_of_lt enough)
  induction pieces generalizing text rounds with
  | nil =>
      cases spaced with
      | last blank => exact Token.readAll_blank text rounds blank
  | cons piece pieces ih =>
      obtain ⟨here, later⟩ := List.isChain_cons.mp apart
      obtain ⟨rest, others, shorter, step⟩ := spaced.readAll_next sound here
      obtain ⟨rounds, rfl⟩ : ∃ fewer, rounds = fewer + 1 := ⟨rounds - 1, by omega⟩
      rw [step, ih others (fun other member => sound other (List.mem_cons_of_mem piece member))
        later rounds (by omega)]
      rfl

/-- Parentheses with nothing in between are one token if they stand side by side, and two if there
are blanks in between. -/
theorem readAll_parentheses {text : List Char} (spaced : Spaced ["(", ")"] text) (rounds : Nat)
    (enough : text.length < rounds) : Token.readAll rounds text = some [.unit] ∨
      Token.readAll rounds text = some [.mark '(', .mark ')'] := by
  obtain ⟨rounds, rfl⟩ := Nat.exists_eq_succ_of_ne_zero (Nat.ne_zero_of_lt enough)
  cases spaced with
  | @next gap rest _ _ blank closing =>
      have opens : StartsSolid ('(' :: rest) := by
        rintro character ⟨⟩
        decide
      rw [List.append_assoc]
      cases closing with
      | @next between rest _ _ separates last =>
          cases between with
          | nil =>
              refine .inl ?_
              have unit := Token.readAll_next gap ('(' :: ')' :: rest) rest .unit rounds blank
                (List.cons_ne_nil _ _) opens (Token.next?_unit rest)
              refine unit.trans ?_
              rw [last.readAll (by simp) .nil rounds (by simp at enough; omega)]
              rfl
          | cons space between =>
              refine .inr ?_
              have closing : Spaced [")"] (space :: between ++ ")".toList ++ rest) :=
                .next separates last
              have noUnit : ¬ ('(' = '(' ∧ some space = some ')') := by
                rintro ⟨-, ⟨⟩⟩
                exact absurd (List.all_eq_true.mp separates ')' List.mem_cons_self) (by decide)
              have mark := Token.readAll_next gap _ _ (.mark '(') rounds blank
                (List.cons_ne_nil _ _) opens (Token.next?_mark '(' _ (by decide) noUnit)
              refine mark.trans ?_
              rw [closing.readAll (by decide) (by simp) rounds (by simp at enough ⊢; omega)]
              rfl

end Spaced

end Nondelivery.Notation
