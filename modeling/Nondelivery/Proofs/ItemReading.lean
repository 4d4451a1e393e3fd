/-
This file says when a list is read item by item, and which fault is reported if it is not.
-/

import Mathlib.Data.List.Forall2

namespace Nondelivery

variable {Item Result Fault : Type}

/-- A list is read if each of its items is. -/
theorem mapM_eq_ok_iff (read : Item → Except Fault Result) (items : List Item)
    (results : List Result) :
    items.mapM read = .ok results ↔
      List.Forall₂ (fun item result => read item = .ok result) items results := by
  induction items generalizing results with
  | nil => cases results <;> simp [pure, Except.pure]
  | cons item items ih =>
      rw [List.mapM_cons, List.forall₂_cons_left_iff]
      simp only [← ih]
      cases read item with
      | error fault => simp [bind, Except.bind]
      | ok result =>
          cases items.mapM read with
          | error fault => simp [bind, Except.bind]
          | ok rest => simp [bind, Except.bind, pure, Except.pure, eq_comm]

/-- A list that is written item by item is read back if each item is. -/
theorem mapM_map_eq_ok (write : Result → Item) (read : Item → Except Fault Result)
    (known : ∀ result, read (write result) = .ok result) (results : List Result) :
    (results.map write).mapM read = .ok results :=
  (mapM_eq_ok_iff read _ _).mpr <| List.forall₂_map_left_iff.mpr <|
    List.forall₂_same.mpr fun result _ => known result

/-- What is wrong with a list is what is wrong with its first item, or with the others. -/
theorem mapM_cons_eq_error_iff (read : Item → Except Fault Result) (item : Item)
    (items : List Item) (fault : Fault) :
    (item :: items).mapM read = .error fault ↔ read item = .error fault ∨
      (∃ result, read item = .ok result) ∧ items.mapM read = .error fault := by
  rw [List.mapM_cons]
  cases read item with
  | error other => simp [bind, Except.bind]
  | ok result => cases items.mapM read <;> simp [bind, Except.bind, pure, Except.pure]

/-- If a list is not read, the fault is that of the first item that is not. -/
theorem mapM_eq_error_iff (read : Item → Except Fault Result) (items : List Item) (fault : Fault) :
    items.mapM read = .error fault ↔ ∃ earlier faulty later,
      items = earlier ++ faulty :: later ∧ (∀ item ∈ earlier, ∃ result, read item = .ok result) ∧
        read faulty = .error fault := by
  induction items with
  | nil => simp [pure, Except.pure]
  | cons item items ih =>
      rw [mapM_cons_eq_error_iff, ih]
      constructor
      · rintro (faults | ⟨succeeds, earlier, faulty, later, rfl, before, faults⟩)
        · exact ⟨[], item, items, rfl, nofun, faults⟩
        · exact ⟨item :: earlier, faulty, later, rfl,
            List.forall_mem_cons.mpr ⟨succeeds, before⟩, faults⟩
      · rintro ⟨earlier, faulty, later, parts, before, faults⟩
        cases earlier with
        | nil =>
            obtain ⟨rfl, rfl⟩ := List.cons.inj parts
            exact .inl faults
        | cons head earlier =>
            obtain ⟨rfl, rfl⟩ := List.cons.inj parts
            obtain ⟨succeeds, before⟩ := List.forall_mem_cons.mp before
            exact .inr ⟨succeeds, earlier, faulty, later, rfl, before, faults⟩

end Nondelivery
