/-
This file defines attempts to deliver a request, and the connections to remote exchangers over which
they are made.
-/

import Nondelivery.AttemptState
import Nondelivery.Request

namespace Nondelivery

/-- A connection to a remote exchanger. -/
structure Session where
  /-- The name of the exchanger. -/
  host : String
  /-- The network address that was connected to. -/
  address : String
  deriving DecidableEq

namespace Session

/-- The peer as records name it. -/
def label (session : Session) : String :=
  session.host ++ "[" ++ session.address ++ "]"

def toJson (session : Session) : Json :=
  .object [("address", .text session.address), ("host", .text session.host)]

def shape : String := "struct SmtpSession with 2 elements"

def ofJson : Json → Json.Decoded Session
  | .object members => do
      let address ← Json.member? members "address" Json.toText
      let host ← Json.member? members "host" Json.toText
      let host ← Json.required "host" host
      let address ← Json.required "address" address
      .ok ⟨host, address⟩
  | .array items => do
      let host ← Json.item items 0 shape Json.toText
      let address ← Json.item items 1 shape Json.toText
      Json.noFurther items 2
      .ok ⟨host, address⟩
  | other => .error (.wrongType other "struct SmtpSession")

end Session

/-- A request, the connection that is open for it, and what its delivery has come to. -/
structure Attempt where
  request : Request
  session : Option Session
  state : AttemptState
  deriving DecidableEq

namespace Attempt

/-- The first attempt on a request, without a connection. -/
def start (request : Request) : Attempt :=
  ⟨request, none, .fresh⟩

/-- The peer as records name it, also when no connection was made. -/
def peerLabel (attempt : Attempt) : String :=
  (attempt.session.map Session.label).getD "none"

end Attempt

end Nondelivery
