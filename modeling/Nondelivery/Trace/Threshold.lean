/-
This file decides which events reach the operator: a threshold on their level, read from a setting,
and a test on the part of the system that they come from.
-/

import Nondelivery.Trace
import Nondelivery.Text.Reader
import Nondelivery.Text.Words

namespace Nondelivery

/-- How much is shown: nothing, or everything up to a level. -/
inductive Threshold where
  | off
  | upTo (level : Level)
  deriving DecidableEq, Repr

namespace Threshold

/-- The thresholds with the words for them. -/
def named : List (String × Threshold) :=
  [("off", off), ("error", upTo .error), ("warn", upTo .warn), ("info", upTo .info),
    ("debug", upTo .debug), ("trace", upTo .trace)]

/-- How many levels are shown. -/
def verbosity : Threshold → Nat
  | off => 0
  | upTo level => level.verbosity

/-- The word for a threshold. -/
def word : Threshold → String
  | off => "off"
  | upTo .error => "error"
  | upTo .warn => "warn"
  | upTo .info => "info"
  | upTo .debug => "debug"
  | upTo .trace => "trace"

/-- The threshold that shows this many levels. -/
def ofNumber? (number : Nat) : Option Threshold :=
  (named.map Prod.snd).find? fun threshold => threshold.verbosity == number

/-- A threshold is written as a number, with or without a plus sign, or as a word in any case; the
empty text stands for errors only. -/
def ofText? (text : String) : Option Threshold :=
  match Text.numeral? (Text.unsigned text.toList) with
  | some number => ofNumber? number
  | none =>
      if text.toList.isEmpty then some (upTo .error)
      else named.lookup (String.ofList (Text.lower text.toList))

/-- The threshold for a setting, and the warning that the setting gives rise to. The fallback holds
without a setting, and in place of one that makes no sense. -/
def selectOr (fallback : Threshold) : Option String → Threshold × Option String
  | none => (fallback, none)
  | some setting =>
      match ofText? setting with
      | some threshold => (threshold, none)
      | none =>
          (fallback, some ("Invalid log level specified " ++ setting ++ ", defaulting to " ++
            fallback.word ++ "\n"))

/-- The fallback while the system is being developed. -/
def standard : Threshold := upTo .trace

/-- The threshold for a setting, and the warning, with the standard fallback. -/
def select : Option String → Threshold × Option String :=
  selectOr standard

def admits (threshold : Threshold) (level : Level) : Bool :=
  level.verbosity ≤ threshold.verbosity

end Threshold

/-- Events of this system have targets that start with its name. -/
def isOwnTarget (target : String) : Bool :=
  "ferry".toList.isPrefixOf target.toList

/-- An event is shown when it is one of this system and the threshold admits its level. -/
def isShown (threshold : Threshold) (target : String) (level : Level) : Bool :=
  isOwnTarget target && threshold.admits level

end Nondelivery
