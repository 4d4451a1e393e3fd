/-
This file shows that a reply and its code can stand for each other. What is judged of a reply and
what is printed of it depends on the code alone, while the order of replies also tells an unlisted
reply from a named one with the same code.
-/

import Mathlib.Data.List.Basic
import Nondelivery.Proofs.NumeralReading
import Nondelivery.Severity

namespace Nondelivery

namespace Severity

/-- Exactly the 4xx codes are soft. -/
theorem ofCode_eq_soft_iff (code : Nat) : ofCode code = soft ↔ 400 ≤ code ∧ code < 500 := by
  unfold ofCode
  split
  · exact iff_of_true rfl (by omega)
  · exact iff_of_false nofun (by omega)
  · have notSoft : code / 100 ≠ 4 := ‹_›
    exact iff_of_false nofun (by omega)

/-- Exactly the 5xx codes are hard. -/
theorem ofCode_eq_hard_iff (code : Nat) : ofCode code = hard ↔ 500 ≤ code ∧ code < 600 := by
  unfold ofCode
  split
  · exact iff_of_false nofun (by omega)
  · exact iff_of_true rfl (by omega)
  · have notHard : code / 100 ≠ 5 := ‹_›
    exact iff_of_false nofun (by omega)

/-- A code outside both ranges is neither. -/
theorem ofCode_eq_other_iff (code : Nat) : ofCode code = other ↔ code < 400 ∨ 600 ≤ code := by
  have notSoft := ofCode_eq_soft_iff code
  have notHard := ofCode_eq_hard_iff code
  cases severity : ofCode code <;> simp only [severity, reduceCtorEq, true_iff, false_iff] at * <;>
    omega

end Severity

/-- The anomalous codes by their numbers. -/
theorem isAnomalous_iff (code : Nat) : isAnomalous code = true ↔
    code < 400 ∨ 599 < code ∨ code = 555 ∨ (500 ≤ code ∧ code ≤ 509) := by
  simp only [isAnomalous, Bool.or_eq_true, beq_iff_eq, Bool.and_eq_true, decide_eq_true_eq,
    Severity.ofCode_eq_other_iff]
  omega

/-- A 4xx code points at no misunderstanding. -/
theorem isAnomalous_of_soft {code : Nat} (soft : 400 ≤ code ∧ code < 500) :
    isAnomalous code = false := by
  rw [Bool.eq_false_iff, ne_eq, isAnomalous_iff]
  omega

namespace Reply

/-- Every reply has a name, unless it is kept as a bare number. -/
def isNamed : Reply → Bool
  | unlisted _ => false
  | _ => true

/-- A reply without a name is the number that it carries. -/
theorem eq_unlisted_of_not_isNamed {reply : Reply} (unnamed : reply.isNamed = false) :
    reply = unlisted reply.code := by
  cases reply with
  | unlisted number => rfl
  | _ => contradiction

/-- The named replies are listed by rising codes. -/
theorem code_increasing : (named.map code).Pairwise (· < ·) := by
  decide

/-- Replies rank in the order in which they are declared. -/
theorem rank_eq_ctorIdx (reply : Reply) : reply.rank = reply.ctorIdx := by
  cases reply <;> rfl

/-- The unlisted replies come after the named ones. -/
theorem rank_unlisted (number : Nat) : (unlisted number).rank = named.length := by
  rw [rank_eq_ctorIdx]
  rfl

/-- A named reply stands at its rank. -/
theorem getElem?_rank {reply : Reply} (isNamed : reply.isNamed = true) :
    named[reply.rank]? = some reply := by
  rw [rank_eq_ctorIdx]
  cases reply with
  | unlisted number => contradiction
  | _ => rfl

/-- A named reply that precedes another has the lower code. -/
theorem code_lt_of_rank_lt {left right : Reply} (leftNamed : left.isNamed = true)
    (rightNamed : right.isNamed = true) (earlier : left.rank < right.rank) :
    left.code < right.code := by
  have codeAt {reply : Reply} (isNamed : reply.isNamed = true) :
      (named.map code)[reply.rank]? = some reply.code := by
    rw [List.getElem?_map, getElem?_rank isNamed]
    rfl
  obtain ⟨leftBound, leftCode⟩ := List.getElem?_eq_some_iff.mp (codeAt leftNamed)
  obtain ⟨rightBound, rightCode⟩ := List.getElem?_eq_some_iff.mp (codeAt rightNamed)
  have rising := List.pairwise_iff_getElem.mp code_increasing _ _ leftBound rightBound earlier
  rwa [leftCode, rightCode] at rising

/-- The reply to a code has the code. -/
theorem code_ofCode (number : Nat) : (ofCode number).code = number := by
  -- The table of replies is left by one of its arms, and the table of codes leads back.
  unfold ofCode
  split <;> rfl

/-- A named reply is found again by its code. -/
theorem ofCode_code_of_isNamed {reply : Reply} (isNamed : reply.isNamed = true) :
    ofCode reply.code = reply := by
  cases reply with
  | unlisted number => contradiction
  | _ => rfl

/-- Named replies have their codes to themselves. -/
theorem eq_of_code_eq {left right : Reply} (leftNamed : left.isNamed = true)
    (rightNamed : right.isNamed = true) (same : left.code = right.code) : left = right := by
  rw [← ofCode_code_of_isNamed leftNamed, same, ofCode_code_of_isNamed rightNamed]

/-- A code is left without a name only when no named reply has it. -/
theorem isNamed_ofCode_eq_false_iff (number : Nat) : (ofCode number).isNamed = false ↔
    ∀ reply : Reply, reply.isNamed = true → reply.code ≠ number := by
  constructor
  · intro unnamed reply isNamed same
    subst same
    rw [ofCode_code_of_isNamed isNamed, isNamed] at unnamed
    contradiction
  · intro unknown
    apply Bool.eq_false_iff.mpr
    intro isNamed
    exact unknown (ofCode number) isNamed (code_ofCode number)

/-- The reply is kept as a bare number although a reply with a name has the number as its code. -/
def Shadows (reply : Reply) : Prop :=
  reply.isNamed = false ∧ ∃ other : Reply, other.isNamed = true ∧ other.code = reply.code

/-- A reply is found again by its code, unless a named reply comes up instead. -/
theorem ofCode_code_iff (reply : Reply) : ofCode reply.code = reply ↔ ¬ reply.Shadows := by
  cases isNamed : reply.isNamed with
  | true =>
      apply iff_of_true (ofCode_code_of_isNamed isNamed)
      intro shadows
      exact Bool.false_ne_true (shadows.1.symm.trans isNamed)
  | false =>
      constructor
      · intro found shadows
        obtain ⟨other, otherNamed, same⟩ := shadows.2
        rw [← found] at isNamed
        exact (isNamed_ofCode_eq_false_iff reply.code).mp isNamed other otherNamed same
      · intro single
        have unknown : (ofCode reply.code).isNamed = false := by
          apply (isNamed_ofCode_eq_false_iff reply.code).mpr
          intro other otherNamed same
          exact single ⟨isNamed, other, otherNamed, same⟩
        calc
          ofCode reply.code = unlisted (ofCode reply.code).code :=
            eq_unlisted_of_not_isNamed unknown
          _ = unlisted reply.code := by rw [code_ofCode]
          _ = reply := (eq_unlisted_of_not_isNamed isNamed).symm

/-- Just the replies with a 4xx code are temporary. -/
theorem isTemporary_iff (reply : Reply) :
    reply.isTemporary = true ↔ 400 ≤ reply.code ∧ reply.code < 500 := by
  rw [isTemporary, beq_iff_eq]
  omega

/-- Just the replies with a 5xx code are permanent. -/
theorem isPermanent_iff (reply : Reply) :
    reply.isPermanent = true ↔ 500 ≤ reply.code ∧ reply.code < 600 := by
  rw [isPermanent, beq_iff_eq]
  omega

example : (ofCode 599).isPermanent = true ∧ (ofCode 600).isPermanent = false := by
  decide

/-- Named replies compare like their codes. -/
theorem compare_named {left right : Reply} (leftNamed : left.isNamed = true)
    (rightNamed : right.isNamed = true) :
    compare left right = compare left.code right.code := by
  change (compare left.rank right.rank).then (compare left.code right.code) = _
  rcases Nat.lt_trichotomy left.rank right.rank with earlier | level | later
  · have rising := code_lt_of_rank_lt leftNamed rightNamed earlier
    rw [Nat.compare_eq_lt.mpr earlier, Nat.compare_eq_lt.mpr rising]
    rfl
  · rw [Nat.compare_eq_eq.mpr level]
    rfl
  · have falling := code_lt_of_rank_lt rightNamed leftNamed later
    rw [Nat.compare_eq_gt.mpr later, Nat.compare_eq_gt.mpr falling]
    rfl

/-- Named replies precede unlisted ones, whatever their codes. -/
theorem compare_named_unlisted {reply : Reply} (isNamed : reply.isNamed = true) (number : Nat) :
    compare reply (unlisted number) = .lt := by
  have earlier : reply.rank < (unlisted number).rank := by
    rw [rank_unlisted]
    exact (List.getElem?_eq_some_iff.mp (getElem?_rank isNamed)).1
  change (compare reply.rank _).then _ = _
  rw [Nat.compare_eq_lt.mpr earlier]
  rfl

/-- Unlisted replies compare by number. -/
theorem compare_unlisted (left right : Nat) :
    compare (unlisted left) (unlisted right) = compare left right := by
  change (compare (unlisted left).rank (unlisted right).rank).then (compare left right) = _
  rw [rank_unlisted, rank_unlisted, Nat.compare_eq_eq.mpr rfl]
  rfl

/-- The order compares ranks first and codes next. -/
instance : Std.TransOrd Reply :=
  inferInstanceAs (Std.TransCmp (compareLex (compareOn rank) (compareOn code)))

/-- Replies that rank alike and have the same code are equal. -/
instance : Std.LawfulEqOrd Reply where
  eq_of_compare {left right} level := by
    cases leftNamed : left.isNamed with
    | true =>
        cases rightNamed : right.isNamed with
        | true =>
            rw [compare_named leftNamed rightNamed, Nat.compare_eq_eq] at level
            exact eq_of_code_eq leftNamed rightNamed level
        | false =>
            rw [eq_unlisted_of_not_isNamed rightNamed, compare_named_unlisted leftNamed] at level
            contradiction
    | false =>
        have ranked := eq_unlisted_of_not_isNamed leftNamed
        cases rightNamed : right.isNamed with
        | true =>
            rw [Std.OrientedOrd.eq_swap, ranked, compare_named_unlisted rightNamed] at level
            contradiction
        | false =>
            have sameCode : left.code = right.code := by
              rw [ranked, eq_unlisted_of_not_isNamed rightNamed, compare_unlisted,
                Nat.compare_eq_eq] at level
              exact level
            rw [ranked, eq_unlisted_of_not_isNamed rightNamed, sameCode]

/-- Only equal replies are level. -/
theorem compare_eq_iff (left right : Reply) : compare left right = .eq ↔ left = right :=
  Std.LawfulEqOrd.compare_eq_iff_eq

/-- What is judged and printed of a reply is read off its code. -/
structure FollowsCode (reply : Reply) : Prop where
  severity : Severity.ofReply reply = Severity.ofCode reply.code
  soft : Severity.ofReply reply = .soft ↔ reply.isTemporary = true
  temporary : reply.isTemporary = true ↔ 400 ≤ reply.code ∧ reply.code ≤ 499
  hard : Severity.ofReply reply = .hard ↔ reply.isPermanent = true
  permanent : reply.isPermanent = true ↔ 500 ≤ reply.code ∧ reply.code ≤ 599
  text : Text.numeral? reply.text.toList = some reply.code

theorem followsCode (reply : Reply) : reply.FollowsCode where
  severity := rfl
  soft := (Severity.ofCode_eq_soft_iff reply.code).trans reply.isTemporary_iff.symm
  temporary := reply.isTemporary_iff.trans (by omega)
  hard := (Severity.ofCode_eq_hard_iff reply.code).trans reply.isPermanent_iff.symm
  permanent := reply.isPermanent_iff.trans (by omega)
  text := Text.numeral?_toString reply.code

end Reply

/-- A reply and its code stand for each other, unless the reply is a bare number that shadows a
named one. The severity and the text of any reply follow its code, and no soft code is anomalous.
Replies are totally ordered: the named ones by code, and after them the unlisted ones by number. -/
theorem replies_and_codes_agree :
    (∀ number : Nat, (Reply.ofCode number).code = number ∧
      ((Reply.ofCode number).isNamed = false ↔
        ∀ reply : Reply, reply.isNamed = true → reply.code ≠ number)) ∧
    (∀ reply : Reply, (Reply.ofCode reply.code = reply ↔ ¬ reply.Shadows) ∧ reply.FollowsCode) ∧
    (∀ number : Nat, Severity.ofCode number = .soft → isAnomalous number = false) ∧
    (∀ left right : Reply, left.isNamed = true → right.isNamed = true →
      compare left right = compare left.code right.code) ∧
    (∀ (reply : Reply) (number : Nat), reply.isNamed = true →
      compare reply (.unlisted number) = .lt) ∧
    (∀ left right : Nat, compare (Reply.unlisted left) (.unlisted right) = compare left right) ∧
    (∀ left right : Reply, (compare left right = .eq ↔ left = right) ∧
      compare right left = (compare left right).swap) ∧
    ∀ left middle right : Reply, (compare left middle).isLE = true →
      (compare middle right).isLE = true → (compare left right).isLE = true := by
  constructor
  · intro number
    exact ⟨Reply.code_ofCode number, Reply.isNamed_ofCode_eq_false_iff number⟩
  constructor
  · intro reply
    exact ⟨reply.ofCode_code_iff, reply.followsCode⟩
  constructor
  · intro number soft
    exact isAnomalous_of_soft ((Severity.ofCode_eq_soft_iff number).mp soft)
  constructor
  · intro left right leftNamed rightNamed
    exact Reply.compare_named leftNamed rightNamed
  constructor
  · intro reply number isNamed
    exact Reply.compare_named_unlisted isNamed number
  constructor
  · exact Reply.compare_unlisted
  constructor
  · intro left right
    exact ⟨Reply.compare_eq_iff left right, Std.OrientedOrd.eq_swap⟩
  · intro left middle right first second
    exact Std.TransOrd.isLE_trans first second

/-- A bare 550 comes back as the named reply with that code, and is ordered after it. -/
theorem replies_and_codes_agree_shadow :
    (Reply.unlisted 550).Shadows ∧ Reply.ofCode 550 ≠ .unlisted 550 ∧
      compare Reply.error (.unlisted 550) = .lt ∧
      compare Reply.mailboxBusy .error = .lt ∧ isAnomalous 450 = false ∧
      (compare Reply.mailboxBusy (.unlisted 550)).isLE = true := by
  obtain ⟨-, round, usual, named, above, -, -, trans⟩ := replies_and_codes_agree
  have shadows : (Reply.unlisted 550).Shadows := ⟨rfl, .error, rfl, rfl⟩
  have later : compare Reply.error (.unlisted 550) = .lt := above .error 550 rfl
  have rising : compare Reply.mailboxBusy .error = .lt := named .mailboxBusy .error rfl rfl
  refine ⟨shadows, ?_, later, rising, usual 450 rfl, ?_⟩
  · intro same
    exact (round (.unlisted 550)).1.mp same shadows
  · apply trans .mailboxBusy .error (.unlisted 550)
    · rw [rising]
      rfl
    · rw [later]
      rfl

end Nondelivery
