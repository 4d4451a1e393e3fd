/-
This file shows that outcomes are put on record exactly once: over any number of attempts on a
request, the new records in the two logs are those of the recipients that were completed meanwhile.
-/

import Mathlib.Data.List.Nodup
import Mathlib.Data.List.Perm.Basic
import Nondelivery.Proofs.RequestRecord
import Nondelivery.Proofs.Run

namespace Nondelivery

/-- The fields by which a recipient is told apart from others, apart from its index. -/
abbrev Addressee := String × String × UInt64

def Recipient.addressee (recipient : Recipient) : Addressee :=
  (recipient.submitted, recipient.address, recipient.offset)

def Record.addressee (record : Record) : Addressee :=
  (record.submitted, record.address, record.offset)

/-- The recipients that waited in the earlier scene and are completed in the later one. -/
def Scene.settled (before after : Scene) : List (Nat × Recipient) :=
  before.attempt.request.ledger.pending.filter fun entry =>
    after.attempt.request.ledger.isCompleted entry.1

namespace Scene.Posts

variable {before after : Scene} {postings : List Posting}

theorem entries_nodup (posts : before.Posts after postings) :
    (postings.map fun posting => (posting.index, posting.record.addressee)).Nodup := by
  apply List.Nodup.of_map Prod.fst
  rw [List.map_map]
  exact posts.once

/-- The postings are about the recipients that were completed meanwhile, once about each. -/
theorem settled_perm (posts : before.Posts after postings) :
    (postings.map fun posting => (posting.index, posting.record.addressee)).Perm
      ((before.settled after).map fun entry => (entry.1, entry.2.addressee)) := by
  have onceSettled : ((before.settled after).map Prod.fst).Nodup :=
    before.attempt.request.ledger.pendingIndices_nodup.sublist (List.filter_sublist.map _)
  have right : ((before.settled after).map fun entry => (entry.1, entry.2.addressee)).Nodup := by
    apply List.Nodup.of_map Prod.fst
    rw [List.map_map]
    exact onceSettled
  rw [List.perm_ext_iff_of_nodup posts.entries_nodup right]
  rintro ⟨index, addressee⟩
  simp only [List.mem_map, Prod.mk.injEq, Scene.settled, List.mem_filter, Prod.exists,
    Ledger.mem_pending]
  constructor
  · rintro ⟨posting, member, rfl, rfl⟩
    obtain ⟨recipient, peer, reason, waits, record⟩ := posts.waited posting member
    have completed := ((posts.mem_index_iff _).mp (List.mem_map_of_mem member)).2
    exact ⟨posting.index, recipient, ⟨waits, completed⟩, rfl, by rw [record]; rfl⟩
  · rintro ⟨index, recipient, ⟨waits, completed⟩, rfl, rfl⟩
    have waited := (Ledger.isPending_eq_true _ _).mpr ⟨recipient, waits⟩
    obtain ⟨posting, member, rfl⟩ :=
      List.mem_map.mp ((posts.mem_index_iff index).mpr ⟨waited, completed⟩)
    obtain ⟨other, peer, reason, found, record⟩ := posts.waited posting member
    obtain rfl : other = recipient := Option.some.inj (found.symm.trans waits)
    exact ⟨posting, member, rfl, by rw [record]; rfl⟩

/-- When everybody waited at first, the postings are about the completed recipients. -/
theorem completed_perm (posts : before.Posts after postings)
    (waiting : ∀ recipient ∈ before.attempt.request.ledger.recipients, recipient.isPending = true) :
    (postings.map fun posting => (posting.index, posting.record.addressee)).Perm
      (after.attempt.request.ledger.completed.map fun entry => (entry.1, entry.2.addressee)) := by
  have right : (after.attempt.request.ledger.completed.map fun entry =>
      (entry.1, entry.2.addressee)).Nodup := by
    apply List.Nodup.of_map Prod.fst
    rw [List.map_map]
    exact (Ledger.select_increasing _ _).imp Nat.ne_of_lt
  rw [List.perm_ext_iff_of_nodup posts.entries_nodup right]
  rintro ⟨index, addressee⟩
  simp only [List.mem_map, Prod.mk.injEq, Prod.exists, Ledger.completed, Ledger.mem_select,
    posts.ledger, Ledger.get?_completeAll, beq_iff_eq]
  constructor
  · rintro ⟨posting, member, rfl, rfl⟩
    obtain ⟨recipient, peer, reason, waits, record⟩ := posts.waited posting member
    have found := ((Ledger.pending?_eq_some _ _ _).mp waits).1
    refine ⟨posting.index, recipient.complete, ⟨?_, rfl⟩, rfl, by rw [record]; rfl⟩
    rw [if_pos ⟨posting, member, rfl⟩, found, Option.map_some]
  · rintro ⟨index, recipient, ⟨found, completed⟩, rfl, rfl⟩
    split at found
    · obtain ⟨posting, member, rfl⟩ := ‹∃ _, _›
      obtain ⟨earlier, peer, reason, waits, record⟩ := posts.waited posting member
      rw [((Ledger.pending?_eq_some _ _ _).mp waits).1, Option.map_some] at found
      obtain rfl := Option.some.inj found
      exact ⟨posting, member, rfl, by rw [record]; rfl⟩
    · have waits := waiting recipient (List.mem_of_getElem? found)
      rw [Recipient.isPending, completed] at waits
      cases waits

end Scene.Posts

/-- The scene after its request was replaced by the copy that is read back from its record. A request
that cannot be written stays. -/
def Scene.reload (scene : Scene) : Scene :=
  match scene.attempt.request.copy? with
  | some copy => { scene with attempt.request := copy }
  | none => scene

/-- The copy of a request does not differ from the request. -/
theorem Scene.reload_eq (scene : Scene) : scene.reload = scene := by
  rw [reload, Request.copy?_eq]
  by_cases later : 0 ≤ scene.attempt.request.arrival.seconds
  · rw [if_pos later]
  · rw [if_neg later]

/-- A step in the life of a request. -/
inductive Step where
  | move (move : Move)
  /-- The request is written as a record and read back. -/
  | reload

namespace Policy

variable (policy : Policy)

/-- The scene after one step. -/
def advance (scene : Scene) : Step → Scene
  | .move move => policy.after scene move
  | .reload => scene.reload

/-- The scene after steps in the life of its request. -/
def live (steps : List Step) (scene : Scene) : Scene :=
  steps.foldl policy.advance scene

theorem advance_posts (step : Step) (scene : Scene) :
    ∃ postings, scene.Posts (policy.advance scene step) postings := by
  cases step with
  | move move => exact ⟨_, policy.after_posts move scene⟩
  | reload =>
      rw [advance, Scene.reload_eq]
      exact ⟨[], .refl scene⟩

theorem live_posts (steps : List Step) (scene : Scene) :
    ∃ postings, scene.Posts (policy.live steps scene) postings := by
  induction steps generalizing scene with
  | nil => exact ⟨[], .refl scene⟩
  | cons step rest ih =>
      obtain ⟨first, earlier⟩ := policy.advance_posts step scene
      obtain ⟨second, later⟩ := ih (policy.advance scene step)
      exact ⟨first ++ second, earlier.trans later⟩

end Policy

/-- Outcomes are put on record exactly once. Whatever steps are taken, the records that the logs gain
correspond to the recipients that waited at first and are completed in the end: each of them has one
record, which names it and its request, and nobody else has any. -/
theorem live_records_exactly_once (policy : Policy) (steps : List Step) (before : Scene) :
    let after := policy.live steps before
    let settled := before.settled after
    let request := before.attempt.request
    ∃ (deferrals bounces : List Record) (postings : List Posting),
      -- The logs gain the records of the postings and lose nothing.
      after.stores.records .deferred = before.stores.records .deferred ++ deferrals ∧
      after.stores.records .bounced = before.stores.records .bounced ++ bounces ∧
      deferrals = Outcome.deferred.posted postings ∧
      bounces = Outcome.bounced.posted postings ∧
      -- Each recipient that was completed meanwhile has one posting, and nobody else has one.
      (postings.map Posting.index).Nodup ∧
      (∀ index, index ∈ postings.map Posting.index ↔
        request.ledger.isPending index = true ∧
          after.attempt.request.ledger.isCompleted index = true) ∧
      (postings.map fun posting => (posting.index, posting.record.addressee)).Perm
        (settled.map fun entry => (entry.1, entry.2.addressee)) ∧
      ((deferrals ++ bounces).map Record.addressee).Perm
        (settled.map fun entry => entry.2.addressee) ∧
      (∀ record ∈ deferrals ++ bounces, record.queueId = request.queueId ∧
        record.purposes = request.purposes ∧ record.arrival = request.arrival) ∧
      -- Recipients only change by being completed.
      ∀ index, after.attempt.request.ledger.get? index =
        if index ∈ postings.map Posting.index then
          (request.ledger.get? index).map Recipient.complete
        else request.ledger.get? index := by
  intro after settled request
  obtain ⟨postings, posts⟩ := policy.live_posts steps before
  have settles := posts.settled_perm
  have gained := Outcome.posted_perm postings
  refine ⟨_, _, postings, posts.records .deferred, posts.records .bounced, rfl, rfl, posts.once,
    posts.mem_index_iff, settles, ?_, ?_, ?_⟩
  · have addressees := settles.map Prod.snd
    simp only [List.map_map, Function.comp_def] at addressees
    refine (gained.map Record.addressee).trans ?_
    simpa only [List.map_map, Function.comp_def] using addressees
  · intro record member
    obtain ⟨posting, posted, rfl⟩ := List.mem_map.mp (gained.subset member)
    obtain ⟨recipient, peer, reason, _, record⟩ := posts.waited posting posted
    rw [record]
    exact ⟨rfl, rfl, rfl⟩
  · intro index
    rw [posts.ledger, Ledger.get?_completeAll]

end Nondelivery
