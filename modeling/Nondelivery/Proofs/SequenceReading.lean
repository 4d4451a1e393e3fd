/-
This file says how comma-separated sequences are read. If a reader can read each part of a sequence,
it can read all of them, with or without a comma after the last one.
-/

import Mathlib.Data.List.Chain
import Mathlib.Data.List.Forall2
import Nondelivery.Text.Reader

namespace Nondelivery.Text

/-- Parts one after another, with commas in between. A comma may also follow the last one. -/
def listed {α : Type} (comma : α) (closing : Bool) : List (List α) → List α
  | [] => []
  | [part] => part ++ if closing then [comma] else []
  | part :: next :: others => part ++ comma :: listed comma closing (next :: others)

theorem map_listed {α β : Type} (f : α → β) (comma : α) (closing : Bool)
    (parts : List (List α)) :
    (listed comma closing parts).map f = listed (f comma) closing (parts.map (List.map f)) := by
  induction parts with
  | nil => rfl
  | cons part others ih =>
      cases others with
      | nil => cases closing <;> simp [listed]
      | cons next others =>
          rw [listed, List.map_append, List.map_cons, ih]
          rfl

/-- What stands in such a list is a comma or stands in one of the parts. -/
theorem mem_listed {α : Type} {comma item : α} {closing : Bool} {parts : List (List α)}
    (member : item ∈ listed comma closing parts) :
    item = comma ∨ ∃ part ∈ parts, item ∈ part := by
  induction parts with
  | nil => cases member
  | cons part others ih =>
      cases others with
      | nil =>
          simp only [listed, List.mem_append] at member
          rcases member with here | here
          · exact .inr ⟨part, List.mem_cons_self, here⟩
          · exact .inl (by cases closing <;> simp_all)
      | cons next others =>
          rw [listed, List.mem_append, List.mem_cons] at member
          rcases member with here | rfl | later
          · exact .inr ⟨part, List.mem_cons_self, here⟩
          · exact .inl rfl
          · exact (ih later).imp_right fun ⟨other, among, here⟩ =>
              ⟨other, List.mem_cons_of_mem part among, here⟩

theorem head?_listed {α : Type} (comma : α) (closing : Bool) {part : List α}
    (others : List (List α)) (first : α) (starts : part.head? = some first) :
    (listed comma closing (part :: others)).head? = some first := by
  cases part with
  | nil => cases starts
  | cons item part => cases others <;> exact starts

/-- A list is a chain if its parts are chains and a comma may stand next to anything. -/
theorem isChain_listed {α : Type} {related : α → α → Prop} {comma : α} (closing : Bool)
    (before : ∀ item, related item comma) (after : ∀ item, related comma item)
    (parts : List (List α)) (chains : ∀ part ∈ parts, part.IsChain related) :
    (listed comma closing parts).IsChain related := by
  induction parts with
  | nil => exact .nil
  | cons part others ih =>
      have here := chains part List.mem_cons_self
      have later := ih fun other member => chains other (List.mem_cons_of_mem part member)
      cases others with
      | nil =>
          cases closing with
          | false => simpa [listed] using here
          | true => simp [listed, List.isChain_append, here, before]
      | cons next others =>
          rw [listed, List.isChain_append, List.isChain_cons]
          refine ⟨here, ⟨fun item _ => after item, later⟩, ?_⟩
          rintro item - _ ⟨⟩
          exact before item

variable {Token Item : Type} {comma close : Token}

/-- The reader reads this item off the part if the list goes on or is closed after it. -/
structure PartReads (comma close : Token) (item? : List Token → Option (Item × List Token))
    (part : List Token) (item : Item) : Prop where
  starts : ∃ first ∈ part.head?, first ≠ close
  reads : ∀ token rest, token = comma ∨ token = close →
    item? (part ++ token :: rest) = some (item, token :: rest)

variable {item? : List Token → Option (Item × List Token)}

/-- No part is empty, so the list has at least as many tokens as parts. -/
theorem length_le_listed (closing : Bool) {parts : List (List Token)} {items : List Item}
    (reads : List.Forall₂ (PartReads comma close item?) parts items) :
    parts.length ≤ (listed comma closing parts).length := by
  induction reads with
  | nil => exact Nat.le_refl 0
  | @cons part item others items here later ih =>
      obtain ⟨first, starts, _⟩ := here.starts
      have holds : 0 < part.length := List.length_pos_of_mem (List.mem_of_mem_head? starts)
      cases later with
      | nil =>
          rw [listed, List.length_append]
          exact Nat.le_add_right_of_le holds
      | cons following later =>
          simp only [listed, List.length_append, List.length_cons] at ih ⊢
          omega

variable [DecidableEq Token]

theorem sequence?_listed (apart : comma ≠ close) (closing : Bool) (rest : List Token)
    {parts : List (List Token)} {items : List Item}
    (reads : List.Forall₂ (PartReads comma close item?) parts items) (holds : parts ≠ [])
    (rounds : Nat) (enough : parts.length ≤ rounds) :
    sequence? comma close true item? rounds (listed comma closing parts ++ close :: rest) =
      some (items, rest) := by
  induction reads generalizing rounds with
  | nil => exact absurd rfl holds
  | @cons part item others items here later ih =>
      obtain ⟨rounds, rfl⟩ := Nat.exists_eq_succ_of_ne_zero (Nat.ne_zero_of_lt enough)
      cases later with
      | nil =>
          cases closing with
          | false => simp [listed, sequence?, here.reads close _ (.inr rfl)]
          | true =>
              simp [listed, sequence?, here.reads comma _ (.inl rfl), apart]
      | @cons next nextItem others items following later =>
          obtain ⟨first, starts, goesOn⟩ := following.starts
          have more := head?_listed comma closing others first starts
          have tail := ih (List.cons_ne_nil _ _) rounds (Nat.le_of_succ_le_succ enough)
          rw [listed, List.append_assoc, List.cons_append, sequence?,
            here.reads comma _ (.inl rfl)]
          simp [apart, more, goesOn, tail]

/-- A list in brackets is read part by part. -/
theorem bracketed?_listed (apart : comma ≠ close) (closing : Bool) (rest : List Token)
    {parts : List (List Token)} {items : List Item}
    (reads : List.Forall₂ (PartReads comma close item?) parts items) :
    bracketed? comma close true item? (listed comma closing parts ++ close :: rest) =
      some (items, rest) := by
  rw [bracketed?]
  cases reads with
  | nil => exact if_pos rfl
  | @cons part item others items here later =>
      obtain ⟨first, starts, goesOn⟩ := here.starts
      have more := head?_listed comma closing others first starts
      have enough := length_le_listed closing (.cons here later)
      rw [if_neg (by simp [more, goesOn])]
      refine sequence?_listed apart closing rest (.cons here later) (List.cons_ne_nil _ _) _ ?_
      rw [List.length_append]
      exact Nat.le_add_right_of_le enough

end Nondelivery.Text
