/-
This file defines the course of an attempt, move after move: trouble that is handled, steps of the
delivery client between two exchangers, and changes in the condition of the stores.
-/

import Nondelivery.Trouble

namespace Nondelivery

/-- The places that can refuse to keep an outcome. -/
inductive Place where
  | log (outcome : Outcome)
  | queue
  deriving DecidableEq, Repr

/-- A change in the condition of the stores. -/
inductive Condition where
  /-- From now on the place refuses everything, or does so no longer. -/
  | failing (place : Place) (failing : Bool)
  /-- A log refuses the append with this number. -/
  | refused (outcome : Outcome) (number : Nat)
  /-- From now on a log is cut off and answers with this error, or is connected again. -/
  | logOutage (outcome : Outcome) (outage : Option LogError)
  /-- From now on the queue file is cut off and answers with this error, or is connected again. -/
  | queueOutage (outage : Option QueueError)
  deriving DecidableEq, Repr

/-- One move in the course of an attempt. -/
inductive Move where
  | trouble (trouble : Trouble)
  /-- The connection is replaced, or closed. -/
  | connect (session : Option Session)
  /-- The present exchanger becomes the last one. -/
  | markFinal
  /-- A new attempt on the same request begins. -/
  | retry (session : Option Session)
  | condition (condition : Condition)
  deriving DecidableEq

namespace Stores

/-- Changes the backend behind the connection to a log. -/
def modifyLogbook (stores : Stores) (outcome : Outcome) (change : Logbook → Logbook) : Stores :=
  let log := stores.log outcome
  stores.withLog outcome { log with backend := change log.backend }

/-- The stores in a changed condition. -/
def apply (stores : Stores) : Condition → Stores
  | .failing (.log outcome) failing =>
      stores.modifyLogbook outcome fun logbook => logbook.setFailing failing
  | .failing .queue failing =>
      { stores with queue.backend := stores.queue.backend.setFailing failing }
  | .refused outcome number => stores.modifyLogbook outcome fun logbook => logbook.refuse number
  | .logOutage outcome outage => stores.withLog outcome { stores.log outcome with outage }
  | .queueOutage outage => { stores with queue.outage := outage }

end Stores

namespace Scene

def connect (session : Option Session) (scene : Scene) : Scene :=
  { scene with attempt.session := session }

/-- A new attempt on the same request knows nothing of what earlier ones have come to. -/
def retry (session : Option Session) (scene : Scene) : Scene :=
  { scene with attempt := ⟨scene.attempt.request, session, .fresh⟩ }

end Scene

namespace Policy

/-- Makes one move. Moves other than trouble always succeed. -/
def play (policy : Policy) : Move → Scene → Traced Ruling
  | .trouble trouble, scene => policy.handle trouble scene
  | .connect session, scene => pure ⟨.ok .carryOn, scene.connect session⟩
  | .markFinal, scene => pure ⟨.ok .carryOn, scene.markFinal⟩
  | .retry session, scene => pure ⟨.ok .carryOn, scene.retry session⟩
  | .condition condition, scene =>
      pure ⟨.ok .carryOn, { scene with stores := scene.stores.apply condition }⟩

variable (policy : Policy)

/-- The scene after one move. -/
def after (scene : Scene) (move : Move) : Scene :=
  (policy.play move scene).value.scene

/-- The scene after a course of moves. -/
def run (moves : List Move) (scene : Scene) : Scene :=
  moves.foldl policy.after scene

@[simp] theorem run_nil (scene : Scene) : policy.run [] scene = scene := rfl

@[simp] theorem run_cons (move : Move) (moves : List Move) (scene : Scene) :
    policy.run (move :: moves) scene = policy.run moves (policy.after scene move) := rfl

theorem run_append (earlier later : List Move) (scene : Scene) :
    policy.run (earlier ++ later) scene = policy.run later (policy.run earlier scene) :=
  List.foldl_append

end Policy

end Nondelivery
