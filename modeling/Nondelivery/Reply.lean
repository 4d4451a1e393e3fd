/-
This file names the SMTP replies that matter to outbound delivery and relates them to their codes.
A code without a name of its own is kept as a number, so nothing that an exchanger says is lost.
-/

namespace Nondelivery

/-- A reply of a remote exchanger. -/
inductive Reply where
  | serviceReady
  | goodBye
  | ok
  | startMailInput
  | unavailable
  | mailboxBusy
  | actionUnavailable
  | insufficientStorage
  | syntaxError
  | parameterSyntaxError
  | notImplemented
  | invalidCommandSequence
  | parameterNotImplemented
  | error
  | userNotLocal
  | exceededStorage
  | mailboxNameInvalid
  | transactionFailed
  | parametersNotRecognised
  | unlisted (code : Nat)
  deriving DecidableEq, Repr

namespace Reply

/-- The replies with a name, in the order in which they are compared. -/
def named : List Reply :=
  [serviceReady, goodBye, ok, startMailInput, unavailable, mailboxBusy, actionUnavailable,
    insufficientStorage, syntaxError, parameterSyntaxError, notImplemented,
    invalidCommandSequence, parameterNotImplemented, error, userNotLocal, exceededStorage,
    mailboxNameInvalid, transactionFailed, parametersNotRecognised]

/-- The number that the exchanger sends for this reply. -/
def code : Reply → Nat
  | serviceReady => 220
  | goodBye => 221
  | ok => 250
  | startMailInput => 354
  | unavailable => 421
  | mailboxBusy => 450
  | actionUnavailable => 451
  | insufficientStorage => 452
  | syntaxError => 500
  | parameterSyntaxError => 501
  | notImplemented => 502
  | invalidCommandSequence => 503
  | parameterNotImplemented => 504
  | error => 550
  | userNotLocal => 551
  | exceededStorage => 552
  | mailboxNameInvalid => 553
  | transactionFailed => 554
  | parametersNotRecognised => 555
  | unlisted code => code

/-- The reply that an exchanger means by a number, which is kept as it is when no reply has it. -/
def ofCode : Nat → Reply
  | 220 => serviceReady
  | 221 => goodBye
  | 250 => ok
  | 354 => startMailInput
  | 421 => unavailable
  | 450 => mailboxBusy
  | 451 => actionUnavailable
  | 452 => insufficientStorage
  | 500 => syntaxError
  | 501 => parameterSyntaxError
  | 502 => notImplemented
  | 503 => invalidCommandSequence
  | 504 => parameterNotImplemented
  | 550 => error
  | 551 => userNotLocal
  | 552 => exceededStorage
  | 553 => mailboxNameInvalid
  | 554 => transactionFailed
  | 555 => parametersNotRecognised
  | code => unlisted code

/-- The text of a reply is its decimal code. -/
def text (reply : Reply) : String :=
  toString reply.code

/-- The name under which a reply appears in event fields. -/
def name : Reply → String
  | serviceReady => "ServiceReady"
  | goodBye => "GoodBye"
  | ok => "Ok"
  | startMailInput => "StartMailInput"
  | unavailable => "Unavailable"
  | mailboxBusy => "MailboxBusy"
  | actionUnavailable => "ActionUnavailable"
  | insufficientStorage => "InsufficientStorage"
  | syntaxError => "SyntaxError"
  | parameterSyntaxError => "ParameterSyntaxError"
  | notImplemented => "NotImplemented"
  | invalidCommandSequence => "InvalidCommandSequence"
  | parameterNotImplemented => "ParameterNotImplemented"
  | error => "Error"
  | userNotLocal => "UserNotLocal"
  | exceededStorage => "ExceededStorage"
  | mailboxNameInvalid => "MailboxNameInvalid"
  | transactionFailed => "TransactionFailed"
  | parametersNotRecognised => "ParametersNotRecognised"
  | unlisted code => "Unknown(" ++ toString code ++ ")"

/-- A reply in the 5xx range rejects for good. -/
def isPermanent (reply : Reply) : Bool :=
  reply.code / 100 == 5

/-- A reply in the 4xx range asks to try again later. -/
def isTemporary (reply : Reply) : Bool :=
  reply.code / 100 == 4

/-- The place of a reply among the named ones; unlisted replies come after all of them. -/
def rank (reply : Reply) : Nat :=
  named.findIdx fun other => other == reply

/-- Named replies compare by rank and precede unlisted ones, which compare by code. -/
instance : Ord Reply where
  compare left right := (compare left.rank right.rank).then (compare left.code right.code)

end Reply

end Nondelivery
