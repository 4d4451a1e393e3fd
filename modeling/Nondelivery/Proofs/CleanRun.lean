/-
This file shows that an empty shortfall can be trusted. What is left undone stays on the record of an
attempt, so an attempt that ends without any shortfall has lost nothing on its way.
-/

import Nondelivery.Proofs.Accounting
import Nondelivery.Proofs.Undone

namespace Nondelivery

/-- The attempt has left nothing undone so far. -/
def Scene.isClean (scene : Scene) : Bool :=
  scene.attempt.state.shortfall.isEmpty

namespace Policy

variable (policy : Policy)

/-- Trouble that leaves an attempt clean finds it clean, and leaves nothing undone itself. -/
theorem handle_clean (trouble : Trouble) (scene : Scene)
    (clean : (policy.handle trouble scene).value.scene.isClean = true) :
    scene.isClean = true ∧ (policy.undone trouble scene).isEmpty = true := by
  rw [Scene.isClean, handle_shortfall] at clean
  exact (Shortfall.isEmpty_union _ _).mp clean

/-- Nothing is forgotten before another attempt begins. -/
theorem after_clean (move : Move) (scene : Scene) (same : ∀ session, Move.retry session ≠ move)
    (clean : (policy.after scene move).isClean = true) : scene.isClean = true := by
  cases move with
  | trouble trouble => exact (policy.handle_clean trouble scene clean).1
  | connect session => exact clean
  | markFinal => exact clean
  | retry session => exact absurd rfl (same session)
  | condition condition => exact clean

/-- In a clean attempt the queue file has heard of everything that is put on record. -/
theorem delivered_after_clean (move : Move) (scene : Scene)
    (clean : (policy.after scene move).isClean = true) :
    (policy.after scene move).stores.delivered = scene.stores.delivered ++
      (policy.postingsOf move scene).map fun posting => posting.record.place := by
  cases move with
  | trouble trouble =>
      exact policy.delivered_handle_clean trouble scene (policy.handle_clean trouble scene clean).2
  | connect session => exact (List.append_nil _).symm
  | markFinal => exact (List.append_nil _).symm
  | retry session => exact (List.append_nil _).symm
  | condition condition =>
      exact (Stores.delivered_apply scene.stores condition).trans (List.append_nil _).symm

/-- An attempt that ends clean was clean before, and the queue file has heard of everything that was
put on record meanwhile. -/
theorem run_clean (moves : List Move) (scene : Scene)
    (oneAttempt : ∀ session, Move.retry session ∉ moves)
    (clean : (policy.run moves scene).isClean = true) :
    scene.isClean = true ∧ ∃ postings, scene.Posts (policy.run moves scene) postings ∧
      (policy.run moves scene).stores.delivered = scene.stores.delivered ++
        postings.map fun posting => posting.record.place := by
  induction moves generalizing scene with
  | nil => exact ⟨clean, [], .refl scene, (List.append_nil _).symm⟩
  | cons move rest ih =>
      obtain ⟨same, restOfAttempt⟩ := Move.oneAttempt_cons oneAttempt
      obtain ⟨middle, postings, posts, delivered⟩ := ih (policy.after scene move) restOfAttempt clean
      refine ⟨policy.after_clean move scene same middle, policy.postingsOf move scene ++ postings,
        (policy.after_posts move scene).trans posts, ?_⟩
      rw [run_cons, delivered, policy.delivered_after_clean move scene middle, List.map_append,
        List.append_assoc]

/-- If an attempt ends clean, every recipient that a call without an error has concerned on the way
is completed in the end. -/
theorem run_completes (earlier later : List Move) (trouble : Trouble) (scene : Scene)
    (oneAttempt : ∀ session, Move.retry session ∉ earlier ++ .trouble trouble :: later)
    (clean : (policy.run (earlier ++ .trouble trouble :: later) scene).isClean = true)
    (verdict : Verdict)
    (answered : (policy.handle trouble (policy.run earlier scene)).value.result = .ok verdict)
    (index : Nat) (concerned : index ∈ trouble.scope scene.attempt.request.ledger.size) :
    (policy.run (earlier ++ .trouble trouble :: later) scene).attempt.request.ledger.isCompleted
      index = true := by
  have sameEarlier : ∀ session, Move.retry session ∉ earlier :=
    fun session member => oneAttempt session (List.mem_append_left _ member)
  have sameLater : ∀ session, Move.retry session ∉ later := fun session member =>
    oneAttempt session (List.mem_append_right _ (List.mem_cons_of_mem _ member))
  rw [run_append, run_cons] at clean ⊢
  obtain ⟨next, postings, posts, _⟩ := policy.run_clean later _ sameLater clean
  obtain ⟨found, undone⟩ := policy.handle_clean trouble _ next
  obtain ⟨_, _, reached, _⟩ := policy.run_clean earlier scene sameEarlier found
  have size : (policy.run earlier scene).attempt.request.ledger.size =
      scene.attempt.request.ledger.size := by
    rw [reached.ledger, Ledger.size_completeAll]
  have completes := policy.handle_completes trouble _ verdict answered undone index
    (by rw [size]; exact concerned)
  exact (posts.isCompleted_iff index).mpr (.inl completes)

end Policy

/-- An empty shortfall can be trusted. An attempt for which everybody waited at first, and which ends
without any shortfall, has completed every recipient that was concerned by a call without an error;
there are as many records as completed recipients, and the queue file has marked all of these. -/
theorem clean_run_settles (policy : Policy) (request : Request) (session : Option Session)
    (moves : List Move)
    (waiting : ∀ recipient ∈ request.ledger.recipients, recipient.isPending = true)
    (oneAttempt : ∀ other, Move.retry other ∉ moves)
    (clean : (policy.run moves ⟨⟨request, session, .fresh⟩, .empty⟩).isClean = true) :
    let start : Scene := ⟨⟨request, session, .fresh⟩, .empty⟩
    let final := policy.run moves start
    let completed := final.attempt.request.ledger.recipients.filter fun recipient =>
      recipient.progress == .completed
    (∀ earlier trouble later verdict, moves = earlier ++ .trouble trouble :: later →
      (policy.handle trouble (policy.run earlier start)).value.result = .ok verdict →
        ∀ index ∈ trouble.scope request.ledger.size,
          final.attempt.request.ledger.isCompleted index = true) ∧
      (final.stores.records .deferred).length + (final.stores.records .bounced).length =
        completed.length ∧
      final.stores.delivered.Perm
        (completed.map fun recipient => (request.queueId, recipient.offset)) := by
  intro start final completed
  obtain ⟨_, postings, posts, delivered⟩ := policy.run_clean moves start oneAttempt clean
  have settles := posts.completed_perm waiting
  have recipients : final.attempt.request.ledger.completed.map Prod.snd = completed :=
    Ledger.select_map_snd _ _
  refine ⟨?_, ?_, ?_⟩
  · rintro earlier trouble later verdict rfl answered index concerned
    exact policy.run_completes earlier later trouble start oneAttempt clean verdict answered index
      concerned
  · have all := (Outcome.posted_perm postings).length_eq
    have count := settles.length_eq
    have empty : ∀ outcome, start.stores.records outcome = [] := fun outcome => by
      cases outcome <;> rfl
    rw [posts.records, posts.records, empty, empty, List.nil_append, List.nil_append,
      ← List.length_append, all, ← recipients, List.length_map, List.length_map]
    simpa only [List.length_map] using count
  · have places : postings.map (fun posting => posting.record.place) =
        (postings.map fun posting => (posting.index, posting.record.addressee)).map
          fun entry => (request.queueId, entry.2.2.2) := by
      rw [List.map_map]
      apply List.map_congr_left
      intro posting member
      obtain ⟨_, _, _, _, record⟩ := posts.waited posting member
      simp only [Function.comp_apply, record]
      rfl
    have marked : completed.map (fun recipient => (request.queueId, recipient.offset)) =
        (final.attempt.request.ledger.completed.map fun entry =>
          (entry.1, entry.2.addressee)).map fun entry => (request.queueId, entry.2.2.2) := by
      rw [← recipients, List.map_map, List.map_map]
      rfl
    have empty : start.stores.delivered = [] := rfl
    rw [delivered, empty, List.nil_append, places, marked]
    exact settles.map _

/-- One recipient is rejected and the exchanger then fails for good, both without any shortfall. -/
theorem clean_run_settles_rejection_and_failure :
    let request : Request := ⟨⟨"4F"⟩, ⟨0, 0, by decide, by decide, by decide⟩, ⟨0⟩,
      ⟨[⟨"a", "a@x", 10, .pending⟩, ⟨"b", "b@x", 20, .pending⟩]⟩, none⟩
    let moves : List Move := [.trouble (.recipient 550 1 "unknown"), .connect none, .markFinal,
      .trouble (.host 450 "later")]
    let final := Policy.standard.run moves ⟨⟨request, some ⟨"mx", "192.0.2.1"⟩, .fresh⟩, .empty⟩
    final.isClean = true ∧
      (∀ index ∈ [0, 1], final.attempt.request.ledger.isCompleted index = true) ∧
      (final.stores.records .deferred).length + (final.stores.records .bounced).length = 2 ∧
      final.stores.delivered.Perm [(⟨"4F"⟩, 10), (⟨"4F"⟩, 20)] := by
  intro request moves final
  have clean : final.isClean = true := by decide
  have retries : ∀ other, Move.retry other ∉ moves := by
    intro other
    simp [moves]
  obtain ⟨completes, count, marked⟩ := clean_run_settles .standard request
    (some ⟨"mx", "192.0.2.1"⟩) moves (by decide) retries clean
  refine ⟨clean, ?_, count, marked⟩
  exact completes (moves.take 3) (.host 450 "later") [] .attemptOver rfl rfl

end Nondelivery
