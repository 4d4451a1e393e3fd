/-
This file says that nothing is ever taken back. The logs and the queue file only gain entries at their
ends, a request changes only in that recipients are completed and a hop status is set, and what an
attempt has come to stays until another attempt begins.
-/

import Nondelivery.Proofs.Accounting
import Nondelivery.Proofs.Latches
import Nondelivery.Proofs.Notices
import Nondelivery.Proofs.Undone

namespace Nondelivery

/-- Everything that the earlier stores hold stands at the beginning of what the later ones hold. -/
structure Stores.KeptIn (earlier later : Stores) : Prop where
  records : ∀ outcome, earlier.records outcome <+: later.records outcome
  delivered : earlier.delivered <+: later.delivered

/-- The later request is the earlier one, except that more recipients may be completed and that there
may be a hop status where there was none. -/
structure Request.KeptIn (earlier later : Request) : Prop where
  queueId : later.queueId = earlier.queueId
  arrival : later.arrival = earlier.arrival
  purposes : later.purposes = earlier.purposes
  size : later.ledger.size = earlier.ledger.size
  /-- Each recipient keeps the address that was submitted, the one that the mail goes to, and its
  place in the queue file. -/
  addressees : later.ledger.recipients.map Recipient.addressee =
    earlier.ledger.recipients.map Recipient.addressee
  completed : ∀ index, earlier.ledger.isCompleted index = true →
    later.ledger.isCompleted index = true
  hopStatus : ∀ reason, earlier.hopStatus = some reason → later.hopStatus = some reason

/-- The later state names everything that the earlier one names, and the last exchanger stays the
last one. -/
structure AttemptState.KeptIn (earlier later : AttemptState) : Prop where
  shortfall : later.shortfall.contains earlier.shortfall = true
  concerns : later.concerns.contains earlier.concerns = true
  finalServer : earlier.finalServer = true → later.finalServer = true

theorem Shortfall.contains_union (shortfall added : Shortfall) :
    (shortfall.union added).contains shortfall = true := by
  rcases shortfall with ⟨incomplete, logFailed, queueFailed⟩
  cases incomplete <;> cases logFailed <;> cases queueFailed <;> simp [contains, union]

theorem Concerns.contains_iff (concerns other : Concerns) :
    concerns.contains other = true ↔ (other.protocol = true → concerns.protocol = true) := by
  rcases concerns with ⟨protocol⟩
  rcases other with ⟨otherProtocol⟩
  cases protocol <;> cases otherProtocol <;> decide

/-- Completing recipients changes nothing else about them. -/
theorem Ledger.addressees_completeAll (ledger : Ledger) (indices : List Nat) :
    (ledger.completeAll indices).recipients.map Recipient.addressee =
      ledger.recipients.map Recipient.addressee := by
  apply List.ext_getElem?
  intro index
  have found := ledger.get?_completeAll indices index
  simp only [get?] at found
  rw [List.getElem?_map, List.getElem?_map, found]
  split
  · cases ledger.recipients[index]? <;> rfl
  · rfl

namespace Policy

variable (policy : Policy) (moves : List Move) (scene : Scene)

theorem run_delivered :
    scene.stores.delivered <+: (policy.run moves scene).stores.delivered := by
  induction moves generalizing scene with
  | nil => exact List.prefix_refl _
  | cons move rest ih =>
      have first : scene.stores.delivered <+: (policy.after scene move).stores.delivered := by
        rw [policy.delivered_after]
        exact List.prefix_append _ _
      exact first.trans (ih (policy.after scene move))

theorem stores_run : scene.stores.KeptIn (policy.run moves scene).stores where
  records outcome := by
    rw [(policy.run_posts moves scene).records]
    exact List.prefix_append _ _
  delivered := policy.run_delivered moves scene

theorem request_run : scene.attempt.request.KeptIn (policy.run moves scene).attempt.request := by
  have posts := policy.run_posts moves scene
  refine ⟨posts.queueId, posts.arrival, posts.purposes, ?_, ?_, fun index done => ?_,
    fun reason kept => ?_⟩
  · rw [posts.ledger, Ledger.size_completeAll]
  · rw [posts.ledger, Ledger.addressees_completeAll]
  · exact (posts.isCompleted_iff index).mpr (.inl done)
  · rw [policy.run_hopStatus, kept]
    rfl

theorem state_run (oneAttempt : ∀ session, Move.retry session ∉ moves) :
    scene.attempt.state.KeptIn (policy.run moves scene).attempt.state where
  shortfall := by
    rw [policy.run_shortfall moves scene oneAttempt]
    exact Shortfall.contains_union _ _
  concerns := by
    rw [Concerns.contains_iff, policy.run_concerns moves scene oneAttempt]
    exact fun raised => Bool.or_eq_true_iff.mpr (.inl raised)
  finalServer final := (policy.run_finalServer moves scene oneAttempt).mpr (.inl final)

end Policy

/-- Nothing is ever taken back. Whatever moves are made, the logs and the queue file keep what they
hold and gain entries only at their ends; the request stays the same, its completed recipients stay
completed and its hop status stays once there is one. As long as no other attempt begins, nothing that
was left undone or taken note of is forgotten, and the last exchanger stays the last one. -/
theorem nothing_is_taken_back (policy : Policy) (moves : List Move) (start : Scene) :
    let final := policy.run moves start
    start.stores.KeptIn final.stores ∧ start.attempt.request.KeptIn final.attempt.request ∧
      ((∀ session, Move.retry session ∉ moves) →
        start.attempt.state.KeptIn final.attempt.state) :=
  ⟨policy.stores_run moves start, policy.request_run moves start, policy.state_run moves start⟩

end Nondelivery
