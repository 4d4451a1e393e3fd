/-
This file defines the traffic of a delivery client: attempts that go on side by side, take turns and
share the stores in which their outcomes are kept.
-/

import Nondelivery.Course

namespace Nondelivery

/-- Attempts that share their stores. -/
structure Traffic where
  attempts : List Attempt
  stores : Stores
  deriving DecidableEq

namespace Traffic

/-- Attempts whose stores are empty and in good order. -/
def start (attempts : List Attempt) : Traffic :=
  ⟨attempts, .empty⟩

/-- The scene of the attempt with this number, if there is one. -/
def scene? (traffic : Traffic) (number : Nat) : Option Scene :=
  traffic.attempts[number]?.map fun attempt => ⟨attempt, traffic.stores⟩

/-- The traffic after the attempt with this number has come to another scene. The other attempts
stay where they are, and the stores are the ones that this attempt has left behind. -/
def withScene (traffic : Traffic) (number : Nat) (scene : Scene) : Traffic :=
  ⟨traffic.attempts.set number scene.attempt, scene.stores⟩

end Traffic

/-- A turn of one of several attempts. -/
structure Turn where
  /-- The number of the attempt that makes the move. -/
  number : Nat
  move : Move

namespace Policy

variable (policy : Policy)

/-- The traffic after a turn. -/
def turn (traffic : Traffic) (turn : Turn) : Traffic :=
  match traffic.scene? turn.number with
  | some scene => traffic.withScene turn.number (policy.after scene turn.move)
  | none => traffic

/-- The traffic after several turns. -/
def takeTurns (turns : List Turn) (traffic : Traffic) : Traffic :=
  turns.foldl policy.turn traffic

@[simp] theorem takeTurns_nil (traffic : Traffic) : policy.takeTurns [] traffic = traffic := rfl

@[simp] theorem takeTurns_cons (turn : Turn) (turns : List Turn) (traffic : Traffic) :
    policy.takeTurns (turn :: turns) traffic = policy.takeTurns turns (policy.turn traffic turn) :=
  rfl

end Policy

end Nondelivery
