/-
This file says what single moves and whole courses of an attempt leave behind. A course has a
history: the calls that are made, the answers to them, and what they put in the logs.
-/

import Nondelivery.Proofs.Posting

namespace Nondelivery

namespace Policy

variable (policy : Policy)

/-- What a move puts in the logs. -/
def postingsOf (move : Move) (scene : Scene) : List Posting :=
  match move with
  | .trouble trouble => policy.postings trouble scene
  | .connect _ => []
  | .markFinal => []
  | .retry _ => []
  | .condition _ => []

/-- Only trouble puts anything on record. -/
theorem after_posts (move : Move) (scene : Scene) :
    scene.Posts (policy.after scene move) (policy.postingsOf move scene) := by
  cases move with
  | trouble trouble => exact policy.handle_posts trouble scene
  | connect session => exact .unchanged (fun _ => rfl) rfl rfl rfl rfl
  | markFinal => exact .unchanged (fun _ => rfl) rfl rfl rfl rfl
  | retry session => exact .unchanged (fun _ => rfl) rfl rfl rfl rfl
  | condition condition =>
      exact .unchanged (Stores.records_apply scene.stores condition) rfl rfl rfl rfl

/-- Only trouble reaches the queue file. -/
theorem delivered_after (move : Move) (scene : Scene) :
    (policy.after scene move).stores.delivered = scene.stores.delivered ++
      if scene.stores.queueWorks then
        (policy.postingsOf move scene).map fun posting => posting.record.place
      else [] := by
  cases move with
  | trouble trouble => exact policy.delivered_handle trouble scene
  | connect session => simp [after, play, Scene.connect, postingsOf]
  | markFinal => simp [after, play, Scene.markFinal, postingsOf]
  | retry session => simp [after, play, Scene.retry, postingsOf]
  | condition condition => simp [after, play, postingsOf]

end Policy

/-- A course within one attempt begins with a move within it and goes on within it. -/
theorem Move.oneAttempt_cons {move : Move} {moves : List Move}
    (oneAttempt : ∀ session, Move.retry session ∉ move :: moves) :
    (∀ session, Move.retry session ≠ move) ∧ ∀ session, Move.retry session ∉ moves :=
  ⟨fun session same => oneAttempt session (same ▸ List.mem_cons_self),
    fun session member => oneAttempt session (List.mem_cons_of_mem move member)⟩

/-- A call in the course of an attempt: trouble, and the scene in which it is handled. -/
structure Call where
  trouble : Trouble
  scene : Scene

/-- The call that a move makes. -/
def Scene.calls (scene : Scene) : Move → List Call
  | .trouble trouble => [⟨trouble, scene⟩]
  | .connect _ => []
  | .markFinal => []
  | .retry _ => []
  | .condition _ => []

namespace Policy

variable (policy : Policy)

/-- The calls that are made in a course of moves, in order. -/
def calls : List Move → Scene → List Call
  | [], _ => []
  | move :: moves, scene => scene.calls move ++ calls moves (policy.after scene move)

/-- The answer to a call. -/
def answer (call : Call) : Except Misuse Verdict :=
  (policy.handle call.trouble call.scene).value.result

/-- The answers that are given in a course of moves. -/
def answers (moves : List Move) (scene : Scene) : List (Except Misuse Verdict) :=
  (policy.calls moves scene).map policy.answer

/-- What the calls in a course of moves put in the logs. -/
def history (moves : List Move) (scene : Scene) : List Posting :=
  (policy.calls moves scene).flatMap fun call => policy.postings call.trouble call.scene

@[simp] theorem calls_cons (move : Move) (moves : List Move) (scene : Scene) :
    policy.calls (move :: moves) scene =
      scene.calls move ++ policy.calls moves (policy.after scene move) := rfl

@[simp] theorem answers_nil (scene : Scene) : policy.answers [] scene = [] := rfl

@[simp] theorem history_nil (scene : Scene) : policy.history [] scene = [] := rfl

theorem answers_cons (move : Move) (moves : List Move) (scene : Scene) :
    policy.answers (move :: moves) scene =
      (scene.calls move).map policy.answer ++ policy.answers moves (policy.after scene move) :=
  List.map_append

theorem answers_trouble (trouble : Trouble) (moves : List Move) (scene : Scene) :
    policy.answers (.trouble trouble :: moves) scene =
      policy.answer ⟨trouble, scene⟩ ::
        policy.answers moves (policy.after scene (.trouble trouble)) := rfl

theorem calls_append (earlier later : List Move) (scene : Scene) :
    policy.calls (earlier ++ later) scene =
      policy.calls earlier scene ++ policy.calls later (policy.run earlier scene) := by
  induction earlier generalizing scene with
  | nil => rfl
  | cons move rest ih =>
      rw [List.cons_append, calls_cons, calls_cons, ih, List.append_assoc, run_cons]

theorem answers_append (earlier later : List Move) (scene : Scene) :
    policy.answers (earlier ++ later) scene =
      policy.answers earlier scene ++ policy.answers later (policy.run earlier scene) := by
  rw [answers, calls_append, List.map_append]
  rfl

/-- Nobody is called while only the condition of the stores changes. -/
theorem answers_conditions (conditions : List Condition) (scene : Scene) :
    policy.answers (conditions.map Move.condition) scene = [] := by
  induction conditions generalizing scene with
  | nil => rfl
  | cons condition rest ih => exact ih (policy.after scene (.condition condition))

theorem history_cons (move : Move) (moves : List Move) (scene : Scene) :
    policy.history (move :: moves) scene =
      policy.postingsOf move scene ++ policy.history moves (policy.after scene move) := by
  rw [history, calls_cons, List.flatMap_append]
  congr 1
  cases move with
  | trouble trouble => exact List.append_nil _
  | connect session => rfl
  | markFinal => rfl
  | retry session => rfl
  | condition condition => rfl

/-- A course of moves puts in the logs what its calls put there, and nothing else. -/
theorem run_posts (moves : List Move) (scene : Scene) :
    scene.Posts (policy.run moves scene) (policy.history moves scene) := by
  induction moves generalizing scene with
  | nil => exact .refl scene
  | cons move rest ih =>
      rw [run_cons, history_cons]
      exact (policy.after_posts move scene).trans (ih (policy.after scene move))

end Policy

end Nondelivery
