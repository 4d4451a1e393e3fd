/-
This file names the faults that no reply tells of: those of the connection to a remote exchanger,
and the ways in which the delivery client can misuse the decisions of this library. Misuse is no
trouble with the exchanger, so nothing is put on record for it.
-/

namespace Nondelivery

/-- How a call was misused. -/
inductive Misuse where
  /-- The peer is to be named, but there is no connection. -/
  | noSession
  /-- The request has no recipient at this index. -/
  | unknownRecipient (index : Nat)
  /-- The connection layer has no fault with this code. -/
  | unknownStreamFault (code : Int)
  deriving DecidableEq, Repr

namespace Misuse

def message : Misuse → String
  | noSession => "No SMTP session is established"
  | unknownRecipient index => "No recipient at index " ++ toString index
  | unknownStreamFault code => "Unknown stream exception " ++ toString code

/-- After a fatal misuse there is no outcome that could be put on record. -/
def isFatal : Misuse → Bool
  | noSession => false
  | unknownRecipient _ => false
  | unknownStreamFault _ => true

end Misuse

/-- What went wrong with a connection. -/
inductive StreamFault where
  /-- The exchanger closed the connection, or reading from it failed. -/
  | lost
  /-- The exchanger did not answer in time. -/
  | timedOut
  deriving DecidableEq, Repr

namespace StreamFault

/-- The fault for a code of the connection layer, which has no other codes than these. -/
def ofCode (code : Int) : Except Misuse StreamFault :=
  if code = 1 then .ok lost
  else if code = 2 then .ok timedOut
  else .error (.unknownStreamFault code)

/-- The word for a fault in events. -/
def text : StreamFault → String
  | lost => "EOF"
  | timedOut => "TIME"

/-- The reason that is put on record for the recipients that the fault defers. -/
def reason (fault : StreamFault) (peer stage : String) : String :=
  match fault with
  | lost => "lost connection with " ++ peer ++ " while " ++ stage
  | timedOut => "conversation with " ++ peer ++ " timed out while " ++ stage

end StreamFault

end Nondelivery
