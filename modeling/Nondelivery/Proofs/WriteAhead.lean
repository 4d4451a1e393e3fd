/-
This file shows that the queue file never runs ahead of the logs. However many attempts share the
stores, and in whatever order they take turns, no recipient is marked as done more often than
outcomes are on record for it.
-/

import Nondelivery.Proofs.Run
import Nondelivery.Traffic

namespace Nondelivery

/-- How many records there are for the recipient at a place of the queue file. -/
def Stores.recorded (stores : Stores) (place : QueuePlace) : Nat :=
  ((stores.records .deferred ++ stores.records .bounced).map Record.place).count place

/-- The records that a scene gains are those of its postings. -/
theorem Scene.Posts.recorded {before after : Scene} {postings : List Posting}
    (posts : before.Posts after postings) (place : QueuePlace) :
    after.stores.recorded place = before.stores.recorded place +
      (postings.map fun posting => posting.record.place).count place := by
  have gained := ((Outcome.posted_perm postings).map Record.place).count_eq place
  rw [List.map_map] at gained
  change _ = (postings.map fun posting => posting.record.place).count place at gained
  unfold Stores.recorded
  rw [posts.records, posts.records, ← gained]
  simp only [List.map_append, List.count_append]
  omega

namespace Policy

variable (policy : Policy)

/-- A turn leaves the stores as they are, or as one of the attempts leaves them. -/
theorem turn_stores (traffic : Traffic) (turn : Turn) :
    (traffic.attempts.length ≤ turn.number ∧ policy.turn traffic turn = traffic) ∨
      ∃ scene : Scene, scene.stores = traffic.stores ∧ turn.number < traffic.attempts.length ∧
        (policy.turn traffic turn).stores = (policy.after scene turn.move).stores := by
  unfold Policy.turn Traffic.scene?
  cases found : traffic.attempts[turn.number]? with
  | none => exact .inl ⟨List.getElem?_eq_none_iff.mp found, rfl⟩
  | some attempt =>
      have inside : turn.number < traffic.attempts.length :=
        (List.getElem?_eq_some_iff.mp found).1
      exact .inr ⟨⟨attempt, traffic.stores⟩, rfl, inside, rfl⟩

theorem turn_attempts_length (traffic : Traffic) (turn : Turn) :
    (policy.turn traffic turn).attempts.length = traffic.attempts.length := by
  unfold Policy.turn
  cases traffic.scene? turn.number with
  | none => rfl
  | some scene => exact List.length_set

end Policy

/-- The queue file is not ahead of the logs. -/
def Stores.Behind (stores : Stores) : Prop :=
  ∀ place, stores.delivered.count place ≤ stores.recorded place

/-- The queue file is level with the logs. -/
def Stores.Level (stores : Stores) : Prop :=
  ∀ place, stores.delivered.count place = stores.recorded place

namespace Policy

variable (policy : Policy)

/-- A move lets the queue file hear at most of the records that it makes. -/
theorem after_behind (move : Move) (scene : Scene) (behind : scene.stores.Behind) :
    (policy.after scene move).stores.Behind := by
  intro place
  have earlier := behind place
  rw [(policy.after_posts move scene).recorded, delivered_after, List.count_append]
  split
  · omega
  · rw [List.count_nil]
    omega

/-- While the queue file works it hears of all records. -/
theorem after_level (move : Move) (scene : Scene) (level : scene.stores.Level)
    (works : ∀ trouble, move = .trouble trouble → scene.stores.queueWorks = true) :
    (policy.after scene move).stores.Level := by
  intro place
  have earlier := level place
  rw [(policy.after_posts move scene).recorded, delivered_after, List.count_append]
  cases move with
  | trouble trouble =>
      rw [works trouble rfl, if_pos rfl]
      omega
  | connect session => simpa [postingsOf] using earlier
  | markFinal => simpa [postingsOf] using earlier
  | retry session => simpa [postingsOf] using earlier
  | condition condition => simpa [postingsOf] using earlier

theorem turn_behind (traffic : Traffic) (turn : Turn) (behind : traffic.stores.Behind) :
    (policy.turn traffic turn).stores.Behind := by
  rcases policy.turn_stores traffic turn with ⟨_, same⟩ | ⟨scene, stores, _, moved⟩
  · rw [same]
    exact behind
  · rw [moved]
    exact policy.after_behind turn.move scene (stores ▸ behind)

theorem turn_level (traffic : Traffic) (turn : Turn) (level : traffic.stores.Level)
    (works : ∀ trouble, turn.move = .trouble trouble → turn.number < traffic.attempts.length →
      traffic.stores.queueWorks = true) : (policy.turn traffic turn).stores.Level := by
  rcases policy.turn_stores traffic turn with ⟨_, same⟩ | ⟨scene, stores, inside, moved⟩
  · rw [same]
    exact level
  · rw [moved]
    apply policy.after_level turn.move scene (stores ▸ level)
    intro trouble isTrouble
    rw [stores]
    exact works trouble isTrouble inside

theorem takeTurns_behind (turns : List Turn) (traffic : Traffic) (behind : traffic.stores.Behind) :
    (policy.takeTurns turns traffic).stores.Behind := by
  induction turns generalizing traffic with
  | nil => exact behind
  | cons turn rest ih => exact ih _ (policy.turn_behind traffic turn behind)

theorem takeTurns_level (turns : List Turn) (traffic : Traffic) (level : traffic.stores.Level)
    (works : ∀ earlier number trouble later,
      turns = earlier ++ ⟨number, .trouble trouble⟩ :: later → number < traffic.attempts.length →
        (policy.takeTurns earlier traffic).stores.queueWorks = true) :
    (policy.takeTurns turns traffic).stores.Level := by
  induction turns generalizing traffic with
  | nil => exact level
  | cons turn rest ih =>
      obtain ⟨number, move⟩ := turn
      apply ih
      · apply policy.turn_level traffic ⟨number, move⟩ level
        rintro trouble rfl inside
        exact works [] number trouble rest rfl inside
      · rintro earlier other trouble later rfl inside
        rw [turn_attempts_length] at inside
        exact works (⟨number, move⟩ :: earlier) other trouble later rfl inside

end Policy

/-- The queue file never runs ahead of the logs. Every place is marked at most as often as there are
records for it, and exactly as often if the queue file was working at every call. -/
theorem queue_never_ahead (policy : Policy) (attempts : List Attempt) (turns : List Turn) :
    let start := Traffic.start attempts
    let stores := (policy.takeTurns turns start).stores
    (∀ place, stores.delivered.count place ≤ stores.recorded place) ∧
      ((∀ earlier number trouble later,
        turns = earlier ++ ⟨number, .trouble trouble⟩ :: later → number < attempts.length →
          (policy.takeTurns earlier start).stores.queueWorks = true) →
        ∀ place, stores.delivered.count place = stores.recorded place) := by
  intro start stores
  refine ⟨policy.takeTurns_behind turns start fun place => ?_, fun works => ?_⟩
  · exact Nat.zero_le _
  · exact policy.takeTurns_level turns start (fun place => rfl) works

/-- Two attempts on the same place of the queue file, between which the queue file fails for a
while, come out level. -/
theorem queue_never_ahead_shared_place :
    let request : Request := ⟨⟨"4F"⟩, ⟨0, 0, by decide, by decide, by decide⟩, ⟨0⟩,
      ⟨[⟨"a", "a@x", 10, .pending⟩]⟩, none⟩
    let turns : List Turn := [⟨0, .trouble (.host 550 "no")⟩, ⟨1, .condition (.failing .queue true)⟩,
      ⟨0, .condition (.failing .queue false)⟩, ⟨1, .trouble (.host 554 "never")⟩]
    let stores :=
      (Policy.standard.takeTurns turns (.start [.start request, .start request])).stores
    stores.recorded (⟨"4F"⟩, 10) = 2 ∧
      ∀ place, stores.delivered.count place = stores.recorded place := by
  intro request turns stores
  refine ⟨by decide, (queue_never_ahead .standard [.start request, .start request] turns).2 ?_⟩
  intro earlier number trouble later split _
  rcases earlier with _ | ⟨first, _ | ⟨second, _ | ⟨third, _ | ⟨fourth, rest⟩⟩⟩⟩ <;>
    simp [turns] at split
  · decide
  · obtain ⟨rfl, rfl, rfl, _⟩ := split
    decide

end Nondelivery
