/-
This file says which appends a log accepts over its whole history. An append is refused if the log
was last set to fail, or if the number of the append had been named before.
-/

import Mathlib.Data.List.Basic
import Nondelivery.Stores.Logbook

namespace Nondelivery

namespace Logbook

/-- What is done to a log. -/
inductive Operation where
  | append (record : Record)
  | setFailing (failing : Bool)
  | refuse (number : Nat)
  deriving DecidableEq

namespace Operation

/-- The record that the log is handed. -/
def record? : Operation → Option Record
  | append record => some record
  | setFailing _ => none
  | refuse _ => none

/-- Whether the log is set to fail, if it is set at all. -/
def setting? : Operation → Option Bool
  | append _ => none
  | setFailing failing => some failing
  | refuse _ => none

/-- The number of the append that is to be refused. -/
def number? : Operation → Option Nat
  | append _ => none
  | setFailing _ => none
  | refuse number => some number

end Operation

/-- The log after an operation. -/
def perform (logbook : Logbook) : Operation → Logbook
  | .append record => (logbook.append record).2
  | .setFailing failing => logbook.setFailing failing
  | .refuse number => logbook.refuse number

/-- The answer to an append. -/
def answer? (logbook : Logbook) : Operation → Option (Except LogError Unit)
  | .append record => some (logbook.append record).1
  | .setFailing _ => none
  | .refuse _ => none

/-- The log after operations, one after another. -/
def performAll (operations : List Operation) (logbook : Logbook) : Logbook :=
  operations.foldl perform logbook

/-- The answers to the appends among operations. -/
def answers : List Operation → Logbook → List (Except LogError Unit)
  | [], _ => []
  | operation :: later, logbook =>
      (logbook.answer? operation).toList ++ answers later (logbook.perform operation)

/-- The records that the log is handed, refused ones included. -/
def handed (operations : List Operation) : List Record :=
  operations.filterMap Operation.record?

/-- How the log was last set, if it was set at all. -/
def lastSetting? (operations : List Operation) : Option Bool :=
  (operations.filterMap Operation.setting?).getLast?

/-- After these operations on a new log the next append is refused. -/
def Refuses (earlier : List Operation) : Prop :=
  lastSetting? earlier = some true ∨
    Operation.refuse ((handed earlier).length + 1) ∈ earlier

instance (earlier : List Operation) : Decidable (Refuses earlier) :=
  inferInstanceAs (Decidable (_ ∨ _))

/-- What an append that is refused is answered. -/
def refusal (record : Record) : Except LogError Unit :=
  .error (.unavailable ("memory log refusing record for " ++ record.queueId.text))

theorem append_eq (logbook : Logbook) (record : Record) :
    logbook.append record =
      (if logbook.accepts then .ok () else refusal record,
        { logbook with
          records := logbook.records ++ if logbook.accepts then [record] else []
          appends := logbook.appends + 1 }) := by
  cases accepted : logbook.accepts <;> simp [append, accepted, refusal]

@[simp] theorem handed_cons (operation : Operation) (later : List Operation) :
    handed (operation :: later) = operation.record?.toList ++ handed later := by
  cases operation <;> rfl

@[simp] theorem performAll_nil (logbook : Logbook) : logbook.performAll [] = logbook := rfl

@[simp] theorem performAll_cons (operation : Operation) (later : List Operation)
    (logbook : Logbook) :
    logbook.performAll (operation :: later) = (logbook.perform operation).performAll later := rfl

theorem performAll_append (first second : List Operation) (logbook : Logbook) :
    logbook.performAll (first ++ second) = (logbook.performAll first).performAll second :=
  List.foldl_append

theorem answers_append (first second : List Operation) (logbook : Logbook) :
    answers (first ++ second) logbook =
      answers first logbook ++ answers second (logbook.performAll first) := by
  induction first generalizing logbook with
  | nil => rfl
  | cons operation later ih =>
      rw [List.cons_append, answers, answers, ih, performAll_cons, List.append_assoc]

theorem length_answers (operations : List Operation) (logbook : Logbook) :
    (answers operations logbook).length = (handed operations).length := by
  induction operations generalizing logbook with
  | nil => rfl
  | cons operation later ih =>
      rw [answers, handed_cons, List.length_append, List.length_append, ih]
      cases operation <;> rfl

section Counters

variable (operations : List Operation) (logbook : Logbook)

/-- Every append counts. -/
theorem appends_performAll :
    (logbook.performAll operations).appends = logbook.appends + (handed operations).length := by
  induction operations generalizing logbook with
  | nil => rfl
  | cons operation later ih =>
      rw [performAll_cons, ih]
      cases operation with
      | append record =>
          simp only [perform, append_eq, handed_cons, Operation.record?, Option.toList_some,
            List.length_append, List.length_singleton]
          omega
      | setFailing failing => rfl
      | refuse number => rfl

/-- The last setting holds. -/
theorem failing_performAll :
    (logbook.performAll operations).failing =
      (lastSetting? operations).getD logbook.failing := by
  unfold lastSetting?
  induction operations generalizing logbook with
  | nil => rfl
  | cons operation later ih =>
      rw [performAll_cons, ih]
      cases operation with
      | append record => simp only [perform, append_eq]; rfl
      | setFailing failing =>
          simp [perform, setFailing, Operation.setting?, List.getLast?_cons]
      | refuse number => rfl

/-- All numbers that were named are kept. -/
theorem refused_performAll :
    (logbook.performAll operations).refused =
      logbook.refused ++ operations.filterMap Operation.number? := by
  induction operations generalizing logbook with
  | nil => simp
  | cons operation later ih =>
      rw [performAll_cons, ih]
      cases operation with
      | append record => simp only [perform, append_eq]; rfl
      | setFailing failing => rfl
      | refuse number => simp [perform, refuse, Operation.number?]

end Counters

theorem mem_numbers_iff (operations : List Operation) (number : Nat) :
    number ∈ operations.filterMap Operation.number? ↔ .refuse number ∈ operations := by
  rw [List.mem_filterMap]
  constructor
  · intro ⟨operation, member, named⟩
    cases operation with
    | append record => cases named
    | setFailing failing => cases named
    | refuse other => cases named; exact member
  · intro member
    exact ⟨_, member, rfl⟩

/-- The history of a new log tells whether its next append is accepted. -/
theorem accepts_performAll (earlier : List Operation) :
    (empty.performAll earlier).accepts = !decide (Refuses earlier) := by
  have failing : (empty.performAll earlier).failing = true ↔ lastSetting? earlier = some true := by
    rw [failing_performAll]
    cases lastSetting? earlier <;> simp [empty]
  have named : (handed earlier).length + 1 ∈ (empty.performAll earlier).refused ↔
      .refuse ((handed earlier).length + 1) ∈ earlier := by
    rw [refused_performAll, ← mem_numbers_iff]
    rfl
  have count : (empty.performAll earlier).appends = (handed earlier).length := by
    rw [appends_performAll]
    exact Nat.zero_add _
  rw [accepts, count, Bool.eq_iff_iff]
  simp [Refuses, ← failing, ← named]

/-- What the log holds is what it was handed, less what it refused. -/
theorem records_performAll (operations : List Operation) (logbook : Logbook) :
    (logbook.performAll operations).records = logbook.records ++
      (((handed operations).zip (answers operations logbook)).filter
        fun entry => entry.2.isOk).map Prod.fst := by
  induction operations generalizing logbook with
  | nil => simp [handed]
  | cons operation later ih =>
      rw [performAll_cons, ih, answers]
      cases operation with
      | append record =>
          cases accepted : logbook.accepts <;>
            simp [perform, answer?, append_eq, accepted, Operation.record?, refusal,
              Except.isOk, Except.toBool]
      | setFailing failing => rfl
      | refuse number => rfl

/-- Two logs that differ at most in the numbers of appends that were made before. -/
structure Alike (left right : Logbook) : Prop where
  records : left.records = right.records
  appends : left.appends = right.appends
  failing : left.failing = right.failing
  refused : ∀ number, right.appends < number → (number ∈ left.refused ↔ number ∈ right.refused)

namespace Alike

variable {left right : Logbook}

theorem accepts (alike : Alike left right) : left.accepts = right.accepts := by
  have next := alike.refused (right.appends + 1) (Nat.lt_succ_self _)
  rw [Logbook.accepts, Logbook.accepts, alike.failing, alike.appends, Bool.eq_iff_iff]
  simp [next]

theorem answer? (alike : Alike left right) (operation : Operation) :
    left.answer? operation = right.answer? operation := by
  cases operation with
  | append record => simp only [Logbook.answer?, append_eq, alike.accepts]
  | setFailing failing => rfl
  | refuse number => rfl

theorem perform (alike : Alike left right) (operation : Operation) :
    Alike (left.perform operation) (right.perform operation) := by
  cases operation with
  | append record =>
      simp only [Logbook.perform, append_eq]
      constructor
      · simp only [alike.records, alike.accepts]
      · simp only [alike.appends]
      · exact alike.failing
      · intro number later
        exact alike.refused number (Nat.lt_of_succ_lt later)
  | setFailing failing =>
      exact ⟨alike.records, alike.appends, rfl, alike.refused⟩
  | refuse named =>
      constructor
      · exact alike.records
      · exact alike.appends
      · exact alike.failing
      · intro number later
        simp only [Logbook.perform, refuse, List.mem_append, alike.refused number later]

theorem performAll (alike : Alike left right) (operations : List Operation) :
    Alike (left.performAll operations) (right.performAll operations) := by
  induction operations generalizing left right with
  | nil => exact alike
  | cons operation later ih => exact ih (alike.perform operation)

theorem answers (alike : Alike left right) (operations : List Operation) :
    answers operations left = Logbook.answers operations right := by
  induction operations generalizing left right with
  | nil => rfl
  | cons operation later ih =>
      rw [Logbook.answers, Logbook.answers, alike.answer? operation, ih (alike.perform operation)]

end Alike

/-- It is too late to name an append that has been made. -/
theorem refuse_alike (logbook : Logbook) (number : Nat) (past : number ≤ logbook.appends) :
    Alike (logbook.refuse number) logbook := by
  constructor
  · rfl
  · rfl
  · rfl
  · intro other later
    have differs : other ≠ number := by omega
    simp [refuse, differs]

end Logbook

/-- A log can be set to fail and back, and can be told to refuse single appends, at any time. An append
to a new log is refused just when the log was last set to fail, or when the number of that append,
counted from one and counting refused ones, had been named before. The log holds exactly the records
that it accepted, in order and as they were handed to it. To name an append that has been made
already, or none at all, has no effect on any answer and on any record. -/
theorem log_follows_history (operations : List Logbook.Operation) :
    let answers := Logbook.answers operations .empty
    let final := Logbook.empty.performAll operations
    answers.length = (Logbook.handed operations).length ∧
    (∀ earlier record later, operations = earlier ++ .append record :: later →
      answers[(Logbook.handed earlier).length]? =
        some (if Logbook.Refuses earlier then Logbook.refusal record else .ok ()) ∧
      (Logbook.Refuses earlier →
        (Logbook.empty.performAll (earlier ++ [.append record])).records =
          (Logbook.empty.performAll earlier).records)) ∧
    final.records = (((Logbook.handed operations).zip answers).filter
      fun entry => entry.2.isOk).map Prod.fst ∧
    ∀ earlier number later, operations = earlier ++ .refuse number :: later →
      number ≤ (Logbook.handed earlier).length →
        Logbook.answers (earlier ++ later) .empty = answers ∧
        (Logbook.empty.performAll (earlier ++ later)).records = final.records := by
  intro answers final
  refine ⟨Logbook.length_answers _ _, ?_, Logbook.records_performAll _ _, ?_⟩
  · intro earlier record later split
    have accepts := Logbook.accepts_performAll earlier
    constructor
    · have place : (Logbook.answers earlier .empty).length = (Logbook.handed earlier).length :=
        Logbook.length_answers _ _
      simp only [answers, split, Logbook.answers_append, Logbook.answers, Logbook.answer?,
        Logbook.append_eq, accepts]
      rw [← place, List.getElem?_append_right (Nat.le_refl _), Nat.sub_self]
      by_cases refuses : Logbook.Refuses earlier <;> simp [refuses]
    · intro refuses
      rw [Logbook.performAll_append]
      simp [Logbook.perform, Logbook.append_eq, accepts, refuses]
  · intro earlier number later split past
    have reached : number ≤ (Logbook.empty.performAll earlier).appends := by
      rw [Logbook.appends_performAll]
      omega
    have alike := Logbook.refuse_alike _ number reached
    constructor
    · have same := alike.answers later
      simp only [answers, split, Logbook.answers_append, Logbook.answers]
      exact congrArg _ same.symm
    · simp only [final, split, Logbook.performAll_append, Logbook.performAll_cons]
      exact (alike.performAll later).records.symm

/-- The second append was named in advance, and the third one meets a failing log. It is too late for
the first one. -/
theorem log_follows_history_two_refusals :
    let record (offset : UInt64) : Record :=
      ⟨⟨0⟩, ⟨"4F"⟩, "a", "a@x", offset, "none", ⟨0, 0, by decide, by decide, by decide⟩, "busy"⟩
    let earlier : List Logbook.Operation := [.refuse 2, .append (record 10)]
    let later : List Logbook.Operation :=
      [.refuse 1, .setFailing true, .append (record 30), .setFailing false, .append (record 40)]
    let operations := earlier ++ .append (record 20) :: later
    (Logbook.answers operations .empty)[1]? = some (Logbook.refusal (record 20)) ∧
      (Logbook.empty.performAll operations).records = [record 10, record 40] ∧
      (Logbook.empty.performAll (earlier ++ .append (record 20) :: later.tail)).records =
        [record 10, record 40] := by
  intro record earlier later operations
  obtain ⟨_, each, kept, late⟩ := log_follows_history operations
  have accepted : (Logbook.empty.performAll operations).records = [record 10, record 40] :=
    kept.trans (by decide)
  refine ⟨?_, accepted, ?_⟩
  · have answered := (each earlier (record 20) later rfl).1
    rw [if_pos (by decide)] at answered
    exact answered
  · have inert := late (earlier ++ [.append (record 20)]) 1 later.tail rfl (by decide)
    exact inert.2.trans accepted

end Nondelivery
