/-
This file judges reply codes: how serious a failure is, what is put on record for a recipient
because of it, and whether the code hints that the two ends misunderstood each other.
-/

import Nondelivery.Reply

namespace Nondelivery

/-- What is put on record for a recipient. -/
inductive Outcome where
  | deferred
  | bounced
  deriving DecidableEq, Repr

namespace Outcome

/-- The word for an outcome in events. -/
def text : Outcome → String
  | deferred => "deferred"
  | bounced => "bounced"

/-- While bounces are softened, every outcome is a deferral. -/
def soften (softBounce : Bool) : Outcome → Outcome
  | deferred => deferred
  | bounced => if softBounce then deferred else bounced

end Outcome

/-- How serious a failed exchange is, judged by the first digit of its code. -/
inductive Severity where
  /-- The 4xx codes: the exchanger may accept the mail later. -/
  | soft
  /-- The 5xx codes: the exchanger will not accept the mail. -/
  | hard
  /-- Any other code where a failure was expected. -/
  | other
  deriving DecidableEq, Repr

namespace Severity

/-- The severity of a code. -/
def ofCode (code : Nat) : Severity :=
  match code / 100 with
  | 4 => soft
  | 5 => hard
  | _ => other

/-- The severity of a reply is that of its code. -/
def ofReply (reply : Reply) : Severity :=
  ofCode reply.code

def isSoft : Severity → Bool
  | soft => true
  | hard => false
  | other => false

/-- Only soft failures are deferred: a code that is neither 4xx nor 5xx is as final as a 5xx. -/
def outcome : Severity → Outcome
  | soft => .deferred
  | hard => .bounced
  | other => .bounced

end Severity

/-- A code is anomalous when it is no failure at all, when it reports a syntax error or an
unimplemented command (50z), or when it rejects the parameters of a command (555). -/
def isAnomalous (code : Nat) : Bool :=
  Severity.ofCode code == .other || code == 555 || (500 ≤ code && code < 510)

end Nondelivery
