/-
This file defines the policy of a site for mail that cannot be delivered.
-/

import Nondelivery.AttemptState

namespace Nondelivery

/-- The kinds of problems that a site can have reported to its postmaster. -/
inductive ProblemClass where
  | bounce
  | delay
  | policy
  | protocol
  | resource
  | software
  deriving DecidableEq, Repr

/-- What a site wants to happen when mail cannot be delivered. -/
structure Policy where
  /-- Bounces are turned into deferrals, so that nothing is returned to the sender. -/
  softBounce : Bool := false
  /-- The problems that are reported to the postmaster. -/
  notifyClasses : List ProblemClass := [.resource, .software]
  deriving DecidableEq, Repr

namespace ProblemClass

def all : List ProblemClass :=
  [bounce, delay, policy, protocol, resource, software]

def name : ProblemClass → String
  | bounce => "Bounce"
  | delay => "Delay"
  | policy => "Policy"
  | protocol => "Protocol"
  | resource => "Resource"
  | software => "Software"

end ProblemClass

namespace Policy

/-- The policy of a site that does not say otherwise. -/
def standard : Policy := {}

def notifies (policy : Policy) (problem : ProblemClass) : Bool :=
  policy.notifyClasses.contains problem

end Policy

/-- The postmaster gets a notice when a protocol error was seen and the policy asks for notices of
that class. -/
def AttemptState.notifiesPostmaster (state : AttemptState) (policy : Policy) : Bool :=
  state.concerns.contains .protocolOnly && policy.notifies .protocol

end Nondelivery
