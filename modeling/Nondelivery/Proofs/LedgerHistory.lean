/-
This file keeps account of what is done to a ledger. Whatever recipients are added and completed in
whatever order, each of them is completed at most once, and nobody is lost.
-/

import Mathlib.Data.List.Nodup
import Nondelivery.Proofs.Ledger

namespace Nondelivery

theorem Recipient.isPending_iff {recipient : Recipient} :
    recipient.isPending = true ↔ recipient.progress = .pending :=
  beq_iff_eq

namespace Ledger

/-- What is done to a ledger. -/
inductive Operation where
  | push (recipient : Recipient)
  | mark (index : Nat)

/-- The recipient that is added. -/
def Operation.recipient? : Operation → Option Recipient
  | push recipient => some recipient
  | mark _ => none

/-- The ledger after an operation. -/
def perform (ledger : Ledger) : Operation → Ledger
  | .push recipient => ledger.push recipient
  | .mark index => (ledger.markCompleted index).2

/-- The index that is marked, with the answer. -/
def answer? (ledger : Ledger) : Operation → Option (Nat × Bool)
  | .push _ => none
  | .mark index => some (index, (ledger.markCompleted index).1)

/-- The ledger after operations, one after another. -/
def performAll (operations : List Operation) (ledger : Ledger) : Ledger :=
  operations.foldl perform ledger

/-- The indices that are marked by operations, with the answers. -/
def answers : List Operation → Ledger → List (Nat × Bool)
  | [], _ => []
  | operation :: later, ledger =>
      (ledger.answer? operation).toList ++ answers later (ledger.perform operation)

/-- The recipients that are added by operations. -/
def pushed (operations : List Operation) : List Recipient :=
  operations.filterMap Operation.recipient?

/-- The ledger with further recipients. -/
def pushAll (recipients : List Recipient) (ledger : Ledger) : Ledger :=
  ⟨ledger.recipients ++ recipients⟩

/-- The indices of which it is answered that the recipient was completed. -/
def marked (operations : List Operation) (ledger : Ledger) : List Nat :=
  ((answers operations ledger).filter Prod.snd).map Prod.fst

theorem markCompleted_waiting {ledger : Ledger} {index : Nat}
    (waits : ledger.isPending index = true) :
    ledger.markCompleted index = (true, ledger.complete index) := by
  rw [markCompleted, if_pos waits]

theorem markCompleted_idle {ledger : Ledger} {index : Nat}
    (idle : ledger.isPending index = false) : ledger.markCompleted index = (false, ledger) := by
  rw [markCompleted, idle]
  rfl

@[simp] theorem performAll_nil (ledger : Ledger) : ledger.performAll [] = ledger := rfl

@[simp] theorem performAll_cons (operation : Operation) (later : List Operation)
    (ledger : Ledger) :
    ledger.performAll (operation :: later) = (ledger.perform operation).performAll later := rfl

theorem performAll_append (first second : List Operation) (ledger : Ledger) :
    ledger.performAll (first ++ second) = (ledger.performAll first).performAll second :=
  List.foldl_append

@[simp] theorem marked_nil (ledger : Ledger) : ledger.marked [] = [] := rfl

theorem marked_waiting {ledger : Ledger} {index : Nat} (waits : ledger.isPending index = true)
    (later : List Operation) :
    ledger.marked (.mark index :: later) = index :: (ledger.complete index).marked later := by
  simp [marked, answers, answer?, perform, markCompleted_waiting waits]

theorem marked_idle {ledger : Ledger} {index : Nat} (idle : ledger.isPending index = false)
    (later : List Operation) : ledger.marked (.mark index :: later) = ledger.marked later := by
  simp [marked, answers, answer?, perform, markCompleted_idle idle]

theorem pushAll_pushed (recipient : Recipient) (later : List Operation) (ledger : Ledger) :
    (ledger.push recipient).pushAll (pushed later) =
      ledger.pushAll (pushed (.push recipient :: later)) := by
  simp [pushAll, push, pushed, Operation.recipient?]

theorem get?_pushAll_of_lt {ledger : Ledger} {index : Nat} (inside : index < ledger.size)
    (recipients : List Recipient) : (ledger.pushAll recipients).get? index = ledger.get? index :=
  List.getElem?_append_left inside

/-- Those who wait wait on when others are added. -/
theorem isPending_pushAll {ledger : Ledger} {index : Nat} (waits : ledger.isPending index = true)
    (recipients : List Recipient) : (ledger.pushAll recipients).isPending index = true := by
  rw [isPending, pending?, get?_pushAll_of_lt (ledger.lt_size_of_isPending index waits)]
  exact waits

/-- It does not matter whether others are added before or after a recipient is completed. -/
theorem complete_pushAll {ledger : Ledger} {index : Nat} (inside : index < ledger.size)
    (recipients : List Recipient) :
    (ledger.complete index).pushAll recipients = (ledger.pushAll recipients).complete index := by
  obtain ⟨earlier⟩ := ledger
  apply congrArg Ledger.mk
  change index < earlier.length at inside
  change earlier.modify index Recipient.complete ++ recipients =
    (earlier ++ recipients).modify index Recipient.complete
  induction earlier generalizing index with
  | nil => exact absurd inside (Nat.not_lt_zero index)
  | cons first earlier ih =>
      cases index with
      | zero => rfl
      | succ index =>
          simp only [List.cons_append, List.modify_succ_cons]
          rw [ih (Nat.lt_of_succ_lt_succ inside)]

theorem isPending_complete (ledger : Ledger) (completed index : Nat) :
    (ledger.complete completed).isPending index =
      (decide (index ≠ completed) && ledger.isPending index) := by
  have waits := ledger.pending?_completeAll [completed] index
  rw [isPending, isPending]
  change (((ledger.completeAll [completed]).pending? index).isSome = _)
  rw [waits]
  by_cases same : index = completed <;> simp [same]

/-- All that operations come to: recipients are added, and some of them are completed. -/
theorem performAll_eq (operations : List Operation) (ledger : Ledger) :
    ledger.performAll operations =
      (ledger.pushAll (pushed operations)).completeAll (ledger.marked operations) := by
  induction operations generalizing ledger with
  | nil => simp [pushed, pushAll]
  | cons operation later ih =>
      rw [performAll_cons, ih]
      cases operation with
      | push recipient =>
          rw [← pushAll_pushed]
          rfl
      | mark index =>
          cases waits : ledger.isPending index with
          | true =>
              have inside := ledger.lt_size_of_isPending index waits
              rw [perform, markCompleted_waiting waits, marked_waiting waits, completeAll_cons,
                complete_pushAll inside]
              rfl
          | false =>
              rw [perform, markCompleted_idle waits, marked_idle waits]
              rfl

/-- Whoever is completed waited before, if only from the time of being added. -/
theorem waits_of_mem_marked {operations : List Operation} {ledger : Ledger} {index : Nat}
    (among : index ∈ ledger.marked operations) :
    (ledger.pushAll (pushed operations)).isPending index = true := by
  induction operations generalizing ledger with
  | nil => cases among
  | cons operation later ih =>
      cases operation with
      | push recipient =>
          rw [← pushAll_pushed]
          exact ih among
      | mark marked =>
          cases waits : ledger.isPending marked with
          | true =>
              rw [marked_waiting waits, List.mem_cons] at among
              rcases among with rfl | among
              · exact isPending_pushAll waits _
              · have others := ih among
                rw [complete_pushAll (ledger.lt_size_of_isPending marked waits),
                  isPending_complete, Bool.and_eq_true] at others
                exact others.2
          | false =>
              rw [marked_idle waits] at among
              exact ih among

/-- Nobody is completed twice. -/
theorem marked_nodup (operations : List Operation) (ledger : Ledger) :
    (ledger.marked operations).Nodup := by
  induction operations generalizing ledger with
  | nil => exact List.nodup_nil
  | cons operation later ih =>
      cases operation with
      | push recipient => exact ih _
      | mark index =>
          cases waits : ledger.isPending index with
          | true =>
              rw [marked_waiting waits, List.nodup_cons]
              constructor
              · intro again
                have still := waits_of_mem_marked again
                rw [complete_pushAll (ledger.lt_size_of_isPending index waits),
                  isPending_complete] at still
                simp at still
              · exact ih _
          | false =>
              rw [marked_idle waits]
              exact ih _

theorem pendingCount_eq (ledger : Ledger) :
    ledger.pendingCount = ledger.recipients.countP Recipient.isPending := by
  rw [List.countP_eq_length_filter, ← select_map_snd, List.length_map]
  rfl

/-- One waits less when a waiting recipient is completed. -/
theorem pendingCount_complete {ledger : Ledger} {index : Nat}
    (waits : ledger.isPending index = true) :
    (ledger.complete index).pendingCount + 1 = ledger.pendingCount := by
  obtain ⟨recipient, found⟩ := (ledger.isPending_eq_true index).mp waits
  obtain ⟨stands, pending⟩ := (ledger.pending?_eq_some index recipient).mp found
  rw [pendingCount_eq, pendingCount_eq]
  obtain ⟨recipients⟩ := ledger
  change recipients[index]? = some recipient at stands
  change (recipients.modify index Recipient.complete).countP Recipient.isPending + 1 =
    recipients.countP Recipient.isPending
  clear waits found
  induction recipients generalizing index with
  | nil => cases stands
  | cons first recipients ih =>
      cases index with
      | zero =>
          obtain rfl : first = recipient := Option.some.inj stands
          have done : first.complete.isPending = false := rfl
          simp [pending, done]
      | succ index =>
          have others := ih stands
          rw [List.modify_succ_cons, List.countP_cons, List.countP_cons]
          omega

/-- As many wait less as are completed. -/
theorem pendingCount_completeAll {ledger : Ledger} {indices : List Nat} (once : indices.Nodup)
    (waiting : ∀ index ∈ indices, ledger.isPending index = true) :
    (ledger.completeAll indices).pendingCount + indices.length = ledger.pendingCount := by
  induction indices generalizing ledger with
  | nil => rfl
  | cons first rest ih =>
      rw [List.nodup_cons] at once
      obtain ⟨waits, others⟩ := List.forall_mem_cons.mp waiting
      have still : ∀ index ∈ rest, (ledger.complete first).isPending index = true := by
        intro index member
        have differs : index ≠ first := fun same => once.1 (same ▸ member)
        rw [isPending_complete, others index member]
        simp [differs]
      have less := pendingCount_complete waits
      have counted := ih once.2 still
      rw [completeAll_cons, List.length_cons]
      omega

theorem mem_marked_iff_mem_answers (operations : List Operation) (ledger : Ledger) (index : Nat) :
    index ∈ ledger.marked operations ↔ (index, true) ∈ ledger.answers operations := by
  simp [marked]

/-- Completed are those that waited when they entered and do not wait in the end. -/
theorem mem_marked_iff (operations : List Operation) (ledger : Ledger) (index : Nat) :
    index ∈ ledger.marked operations ↔ ∃ entered left,
      (ledger.recipients ++ pushed operations)[index]? = some entered ∧
        entered.progress = .pending ∧
        (ledger.performAll operations).get? index = some left ∧ left.progress = .completed := by
  rw [performAll_eq]
  constructor
  · intro among
    obtain ⟨entered, waits⟩ :=
      (isPending_eq_true _ _).mp (waits_of_mem_marked among)
    obtain ⟨stands, pending⟩ := (pending?_eq_some _ _ _).mp waits
    refine ⟨entered, entered.complete, stands, Recipient.isPending_iff.mp pending, ?_, rfl⟩
    rw [get?_completeAll, if_pos among, stands, Option.map_some]
  · intro ⟨entered, left, stands, pending, remains, completed⟩
    apply Decidable.byContradiction
    intro absent
    rw [get?_completeAll, if_neg absent] at remains
    have same : entered = left := Option.some.inj (stands.symm.trans remains)
    rw [same, completed] at pending
    cases pending

theorem mem_pending_iff (ledger : Ledger) (index : Nat) (recipient : Recipient) :
    (index, recipient) ∈ ledger.pending ↔
      ledger.get? index = some recipient ∧ recipient.progress = .pending := by
  rw [mem_pending, pending?_eq_some, Recipient.isPending_iff]

theorem isPending_iff (ledger : Ledger) (index : Nat) : ledger.isPending index = true ↔
    ∃ recipient, ledger.get? index = some recipient ∧ recipient.progress = .pending := by
  simp only [isPending_eq_true, ← mem_pending, mem_pending_iff]

end Ledger

/-- A ledger keeps account of its recipients whatever is done to it. It hands out those who wait, each
once and in the order of their indices, and by all other questions the same recipients wait. Each
index is answered at most once that its recipient was completed, and it is just when that recipient
waited when it entered the ledger and is completed in the end. A call that is answered otherwise
changes nothing. Those who were completed and those who still wait are as many as those who waited
in the beginning and those who were added waiting. -/
theorem ledger_keeps_account (ledger : Ledger) (operations : List Ledger.Operation) :
    let final := ledger.performAll operations
    let answers := ledger.answers operations
    let entrants := ledger.recipients ++ Ledger.pushed operations
    ((∀ index recipient, (index, recipient) ∈ final.pending ↔
        final.get? index = some recipient ∧ recipient.progress = .pending) ∧
      (final.pending.map Prod.fst).Pairwise (· < ·) ∧ (final.pending.map Prod.fst).Nodup ∧
      final.pendingCount = final.pending.length ∧
      ∀ index, (index ∈ final.pending.map Prod.fst ↔ final.isPending index = true) ∧
        (final.isPending index = true ↔
          ∃ recipient, final.get? index = some recipient ∧ recipient.progress = .pending)) ∧
    (∀ index, answers.count (index, true) ≤ 1 ∧
      ((index, true) ∈ answers ↔ ∃ entered left,
        entrants[index]? = some entered ∧ entered.progress = .pending ∧
          final.get? index = some left ∧ left.progress = .completed)) ∧
    (∀ earlier index later, operations = earlier ++ .mark index :: later →
      ((ledger.performAll earlier).markCompleted index).1 = false →
        ledger.performAll (earlier ++ [.mark index]) = ledger.performAll earlier) ∧
    answers.countP Prod.snd + final.pendingCount =
      ledger.pendingCount + (Ledger.pushed operations).countP Recipient.isPending := by
  intro final answers entrants
  refine ⟨⟨final.mem_pending_iff, final.pendingIndices_increasing, final.pendingIndices_nodup, rfl,
    ?_⟩, ?_, ?_, ?_⟩
  · intro index
    exact ⟨final.mem_pendingIndices index, final.isPending_iff index⟩
  · intro index
    constructor
    · have once : (answers.filter Prod.snd).Nodup :=
        List.Nodup.of_map Prod.fst (ledger.marked_nodup operations)
      rw [← List.count_filter (p := Prod.snd) rfl]
      exact List.nodup_iff_count_le_one.mp once (index, true)
    · rw [← Ledger.mem_marked_iff_mem_answers]
      exact Ledger.mem_marked_iff operations ledger index
  · intro earlier index later split idle
    rw [Ledger.performAll_append]
    cases waits : (ledger.performAll earlier).isPending index with
    | true =>
        rw [Ledger.markCompleted_waiting waits] at idle
        cases idle
    | false => exact congrArg Prod.snd (Ledger.markCompleted_idle waits)
  · have total := Ledger.pendingCount_completeAll (ledger.marked_nodup operations)
      fun index among => Ledger.waits_of_mem_marked among
    have completed : answers.countP Prod.snd = (ledger.marked operations).length := by
      rw [Ledger.marked, List.length_map, List.countP_eq_length_filter]
    have entered : (ledger.pushAll (Ledger.pushed operations)).pendingCount =
        ledger.pendingCount + (Ledger.pushed operations).countP Recipient.isPending := by
      rw [Ledger.pendingCount_eq, Ledger.pendingCount_eq, Ledger.pushAll, List.countP_append]
    rw [← Ledger.performAll_eq] at total
    rw [completed, ← entered, ← total]
    exact Nat.add_comm _ _

/-- One recipient is marked twice, one before and after it is added, and one has been completed from the
beginning. -/
theorem ledger_keeps_account_marked_too_early :
    let ledger : Ledger := ⟨[⟨"a", "a@x", 10, .completed⟩, ⟨"b", "b@x", 20, .pending⟩]⟩
    let late : Recipient := ⟨"c", "c@x", 30, .pending⟩
    let earlier : List Ledger.Operation := [.mark 1]
    let later : List Ledger.Operation := [.mark 2, .push late, .mark 2, .mark 0]
    let operations := earlier ++ .mark 1 :: later
    (2, true) ∈ ledger.answers operations ∧ (0, true) ∉ ledger.answers operations ∧
      (ledger.answers operations).countP Prod.snd = 2 ∧
      ledger.performAll (earlier ++ [.mark 1]) = ledger.performAll earlier := by
  intro ledger late earlier later operations
  obtain ⟨_, marks, idle, total⟩ := ledger_keeps_account ledger operations
  refine ⟨?_, ?_, ?_, ?_⟩
  · exact (marks 2).2.mpr ⟨late, late.complete, rfl, rfl, rfl, rfl⟩
  · intro among
    obtain ⟨entered, _, stands, pending, _⟩ := (marks 0).2.mp among
    cases stands
    cases pending
  · have nobody : (ledger.performAll operations).pendingCount = 0 := by decide
    rw [nobody, Nat.add_zero] at total
    exact total.trans (by decide)
  · exact idle earlier 1 later rfl (by decide)

end Nondelivery
