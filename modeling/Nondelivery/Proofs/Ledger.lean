/-
This file says which recipients of a ledger wait, and what becomes of a ledger when several of its
recipients are completed one after another.
-/

import Nondelivery.Ledger

namespace Nondelivery

namespace Ledger

/-- The ledger has a recipient at this index, and its outcome is on record. -/
def isCompleted (ledger : Ledger) (index : Nat) : Bool :=
  (ledger.get? index).any fun recipient => recipient.progress == .completed

/-- Completes the recipients at these indices. -/
def completeAll (indices : List Nat) (ledger : Ledger) : Ledger :=
  indices.foldl complete ledger

@[simp] theorem completeAll_nil (ledger : Ledger) : ledger.completeAll [] = ledger := rfl

@[simp] theorem completeAll_cons (index : Nat) (indices : List Nat) (ledger : Ledger) :
    ledger.completeAll (index :: indices) = (ledger.complete index).completeAll indices := rfl

theorem completeAll_append (first second : List Nat) (ledger : Ledger) :
    ledger.completeAll (first ++ second) = (ledger.completeAll first).completeAll second :=
  List.foldl_append

/-- The recipients that meet a condition, with their indices. -/
def select (condition : Recipient → Bool) (ledger : Ledger) : List (Nat × Recipient) :=
  (ledger.recipients.zipIdx.filter fun entry => condition entry.1).map Prod.swap

/-- The recipients whose outcome is on record, with their indices. -/
def completed (ledger : Ledger) : List (Nat × Recipient) :=
  ledger.select fun recipient => recipient.progress == .completed

theorem mem_select (condition : Recipient → Bool) (ledger : Ledger) (index : Nat)
    (recipient : Recipient) : (index, recipient) ∈ ledger.select condition ↔
      ledger.get? index = some recipient ∧ condition recipient = true := by
  simp only [select, get?, List.mem_map, List.mem_filter, Prod.exists,
    List.mem_zipIdx_iff_getElem?, Prod.swap_prod_mk, Prod.mk.injEq]
  constructor
  · rintro ⟨other, position, ⟨found, meets⟩, rfl, rfl⟩
    exact ⟨found, meets⟩
  · rintro ⟨found, meets⟩
    exact ⟨recipient, index, ⟨found, meets⟩, rfl, rfl⟩

/-- Selected recipients are given in the order of their indices. -/
theorem select_increasing (condition : Recipient → Bool) (ledger : Ledger) :
    ((ledger.select condition).map Prod.fst).Pairwise (· < ·) := by
  have order : (ledger.recipients.zipIdx.map Prod.snd).Pairwise (· < ·) := by
    rw [List.zipIdx_map_snd]
    exact List.pairwise_lt_range'
  have part : ((ledger.select condition).map Prod.fst).Sublist
      (ledger.recipients.zipIdx.map Prod.snd) := by
    simp only [select, List.map_map]
    exact List.filter_sublist.map _
  exact order.sublist part

theorem select_map_snd (condition : Recipient → Bool) (ledger : Ledger) :
    (ledger.select condition).map Prod.snd = ledger.recipients.filter condition := by
  have recipients : ledger.recipients.zipIdx.map Prod.fst = ledger.recipients :=
    List.zipIdx_map_fst 0 _
  rw [select, List.map_map]
  conv =>
    rhs
    rw [← recipients, List.filter_map]
  rfl

/-- A waiting recipient is one of the ledger, and no outcome is on record for it. -/
theorem pending?_eq_some (ledger : Ledger) (index : Nat) (recipient : Recipient) :
    ledger.pending? index = some recipient ↔
      ledger.get? index = some recipient ∧ recipient.isPending = true := by
  simp [pending?, Option.filter_eq_some_iff]

/-- Only waiting recipients are handed out, each with the index at which it waits. -/
theorem mem_pending (ledger : Ledger) (index : Nat) (recipient : Recipient) :
    (index, recipient) ∈ ledger.pending ↔ ledger.pending? index = some recipient := by
  rw [pending?_eq_some]
  exact ledger.mem_select Recipient.isPending index recipient

/-- The indices of the waiting recipients are in increasing order. -/
theorem pendingIndices_increasing (ledger : Ledger) :
    ledger.pendingIndices.Pairwise (· < ·) :=
  ledger.select_increasing Recipient.isPending

theorem pendingIndices_nodup (ledger : Ledger) : ledger.pendingIndices.Nodup :=
  ledger.pendingIndices_increasing.imp Nat.ne_of_lt

/-- Nobody waits behind the end of the ledger. -/
theorem pending?_of_size_le (ledger : Ledger) (index : Nat) (behind : ledger.size ≤ index) :
    ledger.pending? index = none := by
  rw [pending?, get?, List.getElem?_eq_none behind, Option.filter_none]

theorem isPending_eq_true (ledger : Ledger) (index : Nat) :
    ledger.isPending index = true ↔ ∃ recipient, ledger.pending? index = some recipient := by
  rw [isPending, Option.isSome_iff_exists]

theorem mem_pendingIndices (ledger : Ledger) (index : Nat) :
    index ∈ ledger.pendingIndices ↔ ledger.isPending index = true := by
  simp [pendingIndices, mem_pending, isPending_eq_true]

/-- A recipient that waits is not completed. -/
theorem isCompleted_of_pending (ledger : Ledger) (index : Nat) (recipient : Recipient)
    (waits : ledger.pending? index = some recipient) : ledger.isCompleted index = false := by
  obtain ⟨found, pending⟩ := (ledger.pending?_eq_some index recipient).mp waits
  simp_all [isCompleted, Recipient.isPending]

/-- Every recipient of the ledger is completed or waits. -/
theorem isCompleted_or_pending? (ledger : Ledger) (index : Nat) (inside : index < ledger.size) :
    ledger.isCompleted index = true ∨ ∃ recipient, ledger.pending? index = some recipient := by
  have found : ledger.get? index = some ledger.recipients[index] :=
    List.getElem?_eq_getElem inside
  cases progress : ledger.recipients[index].progress with
  | pending =>
      refine .inr ⟨_, (ledger.pending?_eq_some _ _).mpr ⟨found, ?_⟩⟩
      rw [Recipient.isPending, progress]
      rfl
  | completed =>
      refine .inl ?_
      rw [isCompleted, found, Option.any_some, progress]
      rfl

theorem lt_size_of_isPending (ledger : Ledger) (index : Nat)
    (waits : ledger.isPending index = true) : index < ledger.size := by
  refine Nat.lt_of_not_le fun behind => ?_
  rw [isPending, ledger.pending?_of_size_le index behind] at waits
  cases waits

/-- The completed recipients are those of the ledger that do not wait. -/
theorem isCompleted_iff (ledger : Ledger) (index : Nat) :
    ledger.isCompleted index = true ↔ index < ledger.size ∧ ledger.isPending index = false := by
  constructor
  · intro completed
    constructor
    · refine Nat.lt_of_not_le fun behind => ?_
      rw [isCompleted, get?, List.getElem?_eq_none behind] at completed
      cases completed
    · rw [Bool.eq_false_iff, ne_eq, isPending_eq_true]
      rintro ⟨recipient, waits⟩
      rw [ledger.isCompleted_of_pending index recipient waits] at completed
      cases completed
  · rintro ⟨inside, idle⟩
    refine (ledger.isCompleted_or_pending? index inside).resolve_right fun waits => ?_
    rw [(ledger.isPending_eq_true index).mpr waits] at idle
    cases idle

theorem get?_complete (ledger : Ledger) (completed index : Nat) :
    (ledger.complete completed).get? index =
      if completed = index then (ledger.get? index).map Recipient.complete
      else ledger.get? index := by
  simp only [complete, get?, List.getElem?_modify]
  split <;> simp

/-- Exactly the recipients at the given indices are completed, in whatever order and however often
an index is given. -/
theorem get?_completeAll (ledger : Ledger) (indices : List Nat) (index : Nat) :
    (ledger.completeAll indices).get? index =
      if index ∈ indices then (ledger.get? index).map Recipient.complete
      else ledger.get? index := by
  induction indices generalizing ledger with
  | nil => simp
  | cons first rest ih =>
      rw [completeAll_cons, ih, get?_complete]
      by_cases here : first = index
      · subst here
        cases ledger.get? first <;> simp [Recipient.complete]
      · have there : index ≠ first := fun equal => here equal.symm
        simp [here, there]

@[simp] theorem size_completeAll (ledger : Ledger) (indices : List Nat) :
    (ledger.completeAll indices).size = ledger.size := by
  induction indices generalizing ledger with
  | nil => rfl
  | cons first rest ih =>
      rw [completeAll_cons, ih, size, size, complete, List.length_modify]

/-- A recipient waits on just when it waited and was not among those completed. -/
theorem pending?_completeAll (ledger : Ledger) (indices : List Nat) (index : Nat) :
    (ledger.completeAll indices).pending? index =
      if index ∈ indices then none else ledger.pending? index := by
  rw [pending?, get?_completeAll]
  split
  · cases ledger.get? index <;> simp [Recipient.isPending, Recipient.complete]
  · rfl

end Ledger

end Nondelivery
