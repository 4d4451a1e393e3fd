/-
This file names the ways in which keeping an outcome can fail.
-/

namespace Nondelivery

/-- Why a log did not take a record. -/
inductive LogError where
  /-- The log could not be reached. -/
  | unavailable (detail : String)
  /-- The log refused the record. -/
  | rejected (detail : String)
  /-- Writing the record failed. -/
  | io (detail : String)
  deriving DecidableEq, Repr

/-- Why the queue file was not updated. -/
inductive QueueError where
  /-- The queue file has no recipient at this offset. -/
  | notFound (offset : UInt64)
  /-- Updating the file failed. -/
  | io (detail : String)
  | internal (detail : String)
  deriving DecidableEq, Repr

/-- Why an outcome was not kept in full. -/
inductive RecordingError where
  | log (error : LogError)
  | queue (error : QueueError)
  deriving DecidableEq, Repr

namespace LogError

def message : LogError → String
  | unavailable detail => "Log service unavailable: " ++ detail
  | rejected detail => "Record rejected: " ++ detail
  | io detail => "I/O error: " ++ detail

/-- The text of the failure below this one, if there is one. -/
def cause? : LogError → Option String
  | unavailable _ => none
  | rejected _ => none
  | io detail => some detail

end LogError

namespace QueueError

def message : QueueError → String
  | notFound offset => "No recipient record at offset " ++ toString offset
  | io detail => "I/O error: " ++ detail
  | internal detail => "Internal error: " ++ detail

/-- The text of the failure below this one, if there is one. -/
def cause? : QueueError → Option String
  | notFound _ => none
  | io detail => some detail
  | internal _ => none

end QueueError

namespace RecordingError

def message : RecordingError → String
  | log error => "Status log error: " ++ error.message
  | queue error => "Queue error: " ++ error.message

/-- The text of the failure below this one. -/
def cause : RecordingError → String
  | log error => error.message
  | queue error => error.message

end RecordingError

end Nondelivery
