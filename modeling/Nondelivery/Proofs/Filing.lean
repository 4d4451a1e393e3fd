/-
This file says in closed form what a scene comes to when one outcome is put on record for several
waiting recipients. The steps through the recipients disappear: what is left is which of the records
the log accepts.
-/

import Nondelivery.Proofs.Acceptance
import Nondelivery.Proofs.Ledger
import Nondelivery.Scene

namespace Nondelivery

theorem Traced.value_foldlM {α β : Type} (step : β → α → Traced β) (items : List α) (start : β) :
    (items.foldlM step start).value =
      items.foldl (fun state item => (step state item).value) start := by
  induction items generalizing start with
  | nil => rfl
  | cons item rest ih => exact ih (step start item).value

theorem Shortfall.union_none (shortfall : Shortfall) : shortfall.union .none = shortfall := by
  simp [Shortfall.union, Shortfall.none]

theorem Shortfall.union_assoc (first second third : Shortfall) :
    (first.union second).union third = first.union (second.union third) := by
  simp [Shortfall.union, Bool.or_assoc]

@[simp] theorem AttemptState.add_none (state : AttemptState) : state.add .none = state := by
  simp [AttemptState.add, Shortfall.union_none]

theorem AttemptState.add_add (state : AttemptState) (first second : Shortfall) :
    (state.add first).add second = state.add (first.union second) := by
  simp [AttemptState.add, Shortfall.union_assoc]

/-- One outcome for several waiting recipients, which are given with their indices. -/
structure Filing where
  outcome : Outcome
  peer : String
  reason : String
  entries : List (Nat × Recipient)

namespace Filing

/-- The recipients whose record the log accepts. -/
def accepted (filing : Filing) (stores : Stores) : List (Nat × Recipient) :=
  stores.accepted filing.outcome filing.entries

/-- The record of one of the recipients. -/
def record (filing : Filing) (request : Request) (entry : Nat × Recipient) : Record :=
  request.record entry.2 filing.peer filing.reason

/-- What is left undone: a refused record leaves its recipient waiting, and a broken queue file
does not hear of those that were accepted. -/
def shortfall (filing : Filing) (stores : Stores) : Shortfall where
  logFailed := decide ((filing.accepted stores).length < filing.entries.length)
  queueFailed := !(filing.accepted stores).isEmpty && !stores.queueWorks

end Filing

/-- The scene after the outcome has been recorded for each of the recipients in turn. -/
def Scene.file (filing : Filing) (scene : Scene) : Scene where
  attempt := { scene.attempt with
    request := { scene.attempt.request with
      ledger := scene.attempt.request.ledger.completeAll
        ((filing.accepted scene.stores).map Prod.fst) }
    state := scene.attempt.state.add (filing.shortfall scene.stores) }
  stores := scene.stores.keepAll filing.outcome
    (filing.entries.map (filing.record scene.attempt.request))

namespace Scene

section Append

variable (outcome : Outcome) (peer reason : String) (first second : List (Nat × Recipient))
  (scene : Scene)

theorem accepted_append :
    Filing.accepted ⟨outcome, peer, reason, first ++ second⟩ scene.stores =
      Filing.accepted ⟨outcome, peer, reason, first⟩ scene.stores ++
        Filing.accepted ⟨outcome, peer, reason, second⟩
          (scene.file ⟨outcome, peer, reason, first⟩).stores :=
  scene.stores.accepted_append outcome first second _ (List.length_map _)

/-- What two filings one after the other leave undone is what one filing for all of their recipients
leaves undone. -/
theorem shortfall_append :
    Filing.shortfall ⟨outcome, peer, reason, first ++ second⟩ scene.stores =
      (Filing.shortfall ⟨outcome, peer, reason, first⟩ scene.stores).union
        (Filing.shortfall ⟨outcome, peer, reason, second⟩
          (scene.file ⟨outcome, peer, reason, first⟩).stores) := by
  have accepts := accepted_append outcome peer reason first second scene
  have works : (scene.file ⟨outcome, peer, reason, first⟩).stores.queueWorks =
      scene.stores.queueWorks := Stores.queueWorks_keepAll _ _ _
  have early : (Filing.accepted ⟨outcome, peer, reason, first⟩ scene.stores).length ≤
      first.length := (scene.stores.accepted_sublist outcome first).length_le
  have late : (Filing.accepted ⟨outcome, peer, reason, second⟩
      (scene.file ⟨outcome, peer, reason, first⟩).stores).length ≤ second.length :=
    (Stores.accepted_sublist _ outcome second).length_le
  unfold Filing.shortfall Shortfall.union
  rw [accepts, works]
  congr 1
  · simp only [List.length_append, ← Bool.decide_or]
    congr 1
    simp only [eq_iff_iff]
    omega
  · cases Filing.accepted ⟨outcome, peer, reason, first⟩ scene.stores <;>
      cases scene.stores.queueWorks <;> simp

/-- Filing for some recipients and then for others is filing for all of them. -/
theorem file_append :
    scene.file ⟨outcome, peer, reason, first ++ second⟩ =
      (scene.file ⟨outcome, peer, reason, first⟩).file ⟨outcome, peer, reason, second⟩ := by
  have accepts := accepted_append outcome peer reason first second scene
  have undone := shortfall_append outcome peer reason first second scene
  have kept := scene.stores.keepAll_append outcome
    (first.map (Filing.record ⟨outcome, peer, reason, first ++ second⟩ scene.attempt.request))
    (second.map (Filing.record ⟨outcome, peer, reason, first ++ second⟩ scene.attempt.request))
  simp only [file] at accepts undone ⊢
  rw [accepts, undone, List.map_append, List.map_append, Ledger.completeAll_append,
    ← AttemptState.add_add, kept]
  rfl

end Append

/-- Filing for nobody changes nothing. -/
theorem file_nil (outcome : Outcome) (peer reason : String) (scene : Scene) :
    scene.file ⟨outcome, peer, reason, []⟩ = scene := by
  have undone : Filing.shortfall ⟨outcome, peer, reason, []⟩ scene.stores = .none := by
    simp [Filing.shortfall, Filing.accepted, Shortfall.none]
  rw [file, undone]
  simp [Filing.accepted]

variable (softBounce : Bool) (outcome : Outcome) (peer reason : String)

/-- A recipient that does not wait is left alone. -/
theorem dispose_completed (scene : Scene) (index : Nat)
    (absent : scene.attempt.request.ledger.pending? index = none) :
    (scene.dispose softBounce outcome peer reason index).value = scene := by
  simp [dispose, Stores.dispose, absent]

/-- A recipient that waits is filed on its own. -/
theorem dispose_waiting (scene : Scene) (index : Nat) (recipient : Recipient)
    (waits : scene.attempt.request.ledger.pending? index = some recipient) :
    (scene.dispose softBounce outcome peer reason index).value =
      scene.file ⟨outcome.soften softBounce, peer, reason, [(index, recipient)]⟩ := by
  -- The log judges the record just as it judges the entry that the record is about.
  have judged := scene.stores.accepted_map (outcome.soften softBounce)
    (fun _ => scene.attempt.request.record recipient peer reason) [(index, recipient)]
  rcases scene.stores.append_cases (outcome.soften softBounce)
      (scene.attempt.request.record recipient peer reason) (index, recipient) with
    ⟨taken, appended⟩ | ⟨refused, error, appended⟩
  · rw [taken] at judged
    have kept := scene.stores.keepAll_taken _ _ judged
    rcases Stores.markDelivered_cases (scene.stores.withLog (outcome.soften softBounce)
        ((scene.stores.log (outcome.soften softBounce)).update
          (Logbook.appendAll [scene.attempt.request.record recipient peer reason])))
        scene.attempt.request.queueId recipient.offset with
      ⟨works, told⟩ | ⟨broken, error, told⟩
    · rw [Stores.queueWorks_withLog] at works
      simp [dispose, Stores.dispose, waits, appended, Stores.settle, told, file,
        Filing.accepted, Filing.shortfall, taken, works, kept, Filing.record]
      exact ⟨⟨rfl, scene.attempt.state.add_none.symm⟩, rfl⟩
    · rw [Stores.queueWorks_withLog] at broken
      simp [dispose, Stores.dispose, waits, appended, Stores.settle, told, file,
        Filing.accepted, Filing.shortfall, taken, broken, kept, Filing.record]
      exact ⟨⟨rfl, rfl⟩, rfl⟩
  · rw [refused] at judged
    have kept := scene.stores.keepAll_refused _ _ judged
    simp [dispose, Stores.dispose, waits, appended, file, Filing.accepted, Filing.shortfall,
      refused, kept, Filing.record]
    rfl

/-- The other recipients still wait after the first one of several has been filed. -/
theorem waiting_file (index : Nat) (recipient : Recipient) (rest : List (Nat × Recipient))
    (scene : Scene)
    (waiting : ∀ entry ∈ rest, scene.attempt.request.ledger.pending? entry.1 = some entry.2)
    (apart : index ∉ rest.map Prod.fst) :
    ∀ entry ∈ rest, (scene.file ⟨outcome, peer, reason, [(index, recipient)]⟩
      ).attempt.request.ledger.pending? entry.1 = some entry.2 := by
  intro other member
  have different : other.1 ≠ index := fun same => apart (same ▸ List.mem_map_of_mem member)
  -- Only the first recipient can have been completed.
  have among : other.1 ∉ (Filing.accepted ⟨outcome, peer, reason, [(index, recipient)]⟩
      scene.stores).map Prod.fst := by
    intro completed
    have here := ((scene.stores.accepted_sublist _ _).map Prod.fst).subset completed
    exact different (List.mem_singleton.mp here)
  rw [file, Ledger.pending?_completeAll, if_neg among]
  exact waiting other member

/-- The walk through recipients that wait is one filing for all of them. -/
theorem foldl_dispose (entries : List (Nat × Recipient)) (scene : Scene)
    (waiting : ∀ entry ∈ entries,
      scene.attempt.request.ledger.pending? entry.1 = some entry.2)
    (once : (entries.map Prod.fst).Nodup) :
    (entries.map Prod.fst).foldl
        (fun scene index => (scene.dispose softBounce outcome peer reason index).value) scene =
      scene.file ⟨outcome.soften softBounce, peer, reason, entries⟩ := by
  induction entries generalizing scene with
  | nil => exact (file_nil _ peer reason scene).symm
  | cons entry rest ih =>
      obtain ⟨index, recipient⟩ := entry
      simp only [List.map_cons, List.nodup_cons] at once
      have first := scene.dispose_waiting softBounce outcome peer reason index recipient
        (waiting (index, recipient) List.mem_cons_self)
      have others := scene.waiting_file (outcome.soften softBounce) peer reason index recipient rest
        (fun other member => waiting other (List.mem_cons_of_mem _ member)) once.1
      simp only [List.map_cons, List.foldl_cons]
      rw [first, ih _ others once.2]
      exact (file_append _ peer reason [(index, recipient)] rest scene).symm

/-- Going through all waiting recipients is one filing for all of them. -/
theorem disposeAll_value (scene : Scene) :
    (scene.disposeAll softBounce outcome peer reason).value =
      scene.file ⟨outcome.soften softBounce, peer, reason,
        scene.attempt.request.ledger.pending⟩ := by
  rw [disposeAll, Traced.value_foldlM]
  apply foldl_dispose
  · intro entry member
    exact (Ledger.mem_pending _ _ _).mp member
  · exact Ledger.pendingIndices_nodup _

end Scene

end Nondelivery
