import Nondelivery.Course
import Nondelivery.Json.Reader
import Nondelivery.Json.Writer
import Nondelivery.Policy.Notation
import Nondelivery.Policy.Registry
import Nondelivery.Proofs.Aftermath
import Nondelivery.Proofs.Anomalies
import Nondelivery.Proofs.CleanRun
import Nondelivery.Proofs.Convergence
import Nondelivery.Proofs.DisposingCall
import Nondelivery.Proofs.Exchange
import Nondelivery.Proofs.FailureScopes
import Nondelivery.Proofs.FaultyConnection
import Nondelivery.Proofs.FrontEnds
import Nondelivery.Proofs.HopStatus
import Nondelivery.Proofs.Independence
import Nondelivery.Proofs.InertRecipients
import Nondelivery.Proofs.Latches
import Nondelivery.Proofs.LedgerHistory
import Nondelivery.Proofs.ListReading
import Nondelivery.Proofs.LogHistory
import Nondelivery.Proofs.MisusedCalls
import Nondelivery.Proofs.Notices
import Nondelivery.Proofs.OneByOne
import Nondelivery.Proofs.ParameterFaults
import Nondelivery.Proofs.PassingOver
import Nondelivery.Proofs.Permanence
import Nondelivery.Proofs.RecordForms
import Nondelivery.Proofs.Reordering
import Nondelivery.Proofs.Repetition
import Nondelivery.Proofs.ReplyCodes
import Nondelivery.Proofs.Routing
import Nondelivery.Proofs.ShownEvents
import Nondelivery.Proofs.SingleRejection
import Nondelivery.Proofs.Softening
import Nondelivery.Proofs.WriteAhead
import Nondelivery.Trace.Threshold
import Nondelivery.Traffic
