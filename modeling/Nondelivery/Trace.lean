/-
This file defines what a computation reports while it runs: spans that it opens and events that
it emits.
-/

namespace Nondelivery

/-- How urgent a span or an event is, the most urgent first. -/
inductive Level where
  | error
  | warn
  | info
  | debug
  | trace
  deriving DecidableEq, Repr

namespace Level

def all : List Level :=
  [error, warn, info, debug, trace]

/-- How much is shown when everything up to this level is. -/
def verbosity : Level → Nat
  | error => 1
  | warn => 2
  | info => 3
  | debug => 4
  | trace => 5

def name : Level → String
  | error => "ERROR"
  | warn => "WARN"
  | info => "INFO"
  | debug => "DEBUG"
  | trace => "TRACE"

end Level

/-- Named values that accompany a span or an event. -/
abbrev Fields := List (String × String)

/-- One line of a trace. -/
inductive Entry where
  | span (level : Level) (name : String) (fields : Fields)
  | event (level : Level) (message : String) (fields : Fields)
  deriving DecidableEq, Repr

/-- A value together with what was reported while it was computed, the oldest entry first. -/
structure Traced (α : Type) where
  value : α
  trace : List Entry

namespace Traced

instance : Monad Traced where
  pure value := ⟨value, []⟩
  bind first next :=
    ⟨(next first.value).value, first.trace ++ (next first.value).trace⟩

@[simp] theorem value_pure {α : Type} (value : α) : (pure value : Traced α).value = value := rfl

@[simp] theorem trace_pure {α : Type} (value : α) : (pure value : Traced α).trace = [] := rfl

@[simp] theorem value_bind {α β : Type} (first : Traced α) (next : α → Traced β) :
    (first >>= next).value = (next first.value).value := rfl

@[simp] theorem trace_bind {α β : Type} (first : Traced α) (next : α → Traced β) :
    (first >>= next).trace = first.trace ++ (next first.value).trace := rfl

/-- Reports one entry. -/
def report (entry : Entry) : Traced Unit :=
  ⟨(), [entry]⟩

/-- Opens a span. -/
def span (level : Level) (name : String) (fields : Fields) : Traced Unit :=
  report (.span level name fields)

/-- Emits an event. -/
def event (level : Level) (message : String) (fields : Fields) : Traced Unit :=
  report (.event level message fields)

/-- Emits an event in a span of its own, at the level of the event. -/
def eventWithin (spanName : String) (level : Level) (message : String) (fields : Fields) :
    Traced Unit := do
  span level spanName []
  event level message fields

/-- Reports about the bookkeeping of the delivery client itself. -/
def internal (level : Level) (message : String) (fields : Fields) : Traced Unit :=
  eventWithin "internal" level message fields

/-- Reports about how the answer of a remote exchanger was handled. -/
def remote (level : Level) (message : String) (fields : Fields) : Traced Unit :=
  eventWithin "remote" level message fields

end Traced

end Nondelivery
