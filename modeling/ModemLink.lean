import ModemLink.Auth
import ModemLink.Bearer
import ModemLink.Bench.Host
import ModemLink.Bench.Line
import ModemLink.Bench.PortRun
import ModemLink.Bench.Script
import ModemLink.Bench.Session
import ModemLink.Charset
import ModemLink.Command
import ModemLink.Connection
import ModemLink.Daemon
import ModemLink.Drive
import ModemLink.Duration
import ModemLink.Fault
import ModemLink.Log
import ModemLink.Main
import ModemLink.Modem
import ModemLink.Operation
import ModemLink.Port
import ModemLink.Port.Exchange
import ModemLink.Port.Intake
import ModemLink.Port.Listening
import ModemLink.Profile
import ModemLink.Proofs.Command.Credentials
import ModemLink.Proofs.Command.Ucs2Credentials
import ModemLink.Proofs.Operation.Connecting
import ModemLink.Proofs.Operation.Play
import ModemLink.Proofs.Operation.Purpose
import ModemLink.Proofs.Operation.Requests
import ModemLink.Proofs.Operation.Stages
import ModemLink.Proofs.Operation.Telling
import ModemLink.Proofs.Operation.WellFormed
import ModemLink.Proofs.Port.Agreement
import ModemLink.Proofs.Port.Answers
import ModemLink.Proofs.Port.Backlog
import ModemLink.Proofs.Port.CallEnds
import ModemLink.Proofs.Port.CallOrder
import ModemLink.Proofs.Port.Commands
import ModemLink.Proofs.Port.CredentialEchoes
import ModemLink.Proofs.Port.Discretion
import ModemLink.Proofs.Port.Draining
import ModemLink.Proofs.Port.Echo
import ModemLink.Proofs.Port.GoingOn
import ModemLink.Proofs.Port.Halting
import ModemLink.Proofs.Port.Hearing
import ModemLink.Proofs.Port.Interruptions
import ModemLink.Proofs.Port.LateAnswer
import ModemLink.Proofs.Port.LateEcho
import ModemLink.Proofs.Port.Leftovers
import ModemLink.Proofs.Port.Lines
import ModemLink.Proofs.Port.Milestones
import ModemLink.Proofs.Port.Overlap
import ModemLink.Proofs.Port.Pairing
import ModemLink.Proofs.Port.Passing
import ModemLink.Proofs.Port.Punctuality
import ModemLink.Proofs.Port.Reads
import ModemLink.Proofs.Port.Records
import ModemLink.Proofs.Port.Resynchronisation
import ModemLink.Proofs.Port.Runs
import ModemLink.Proofs.Port.Schedule
import ModemLink.Proofs.Port.Serving
import ModemLink.Proofs.Port.Succession
import ModemLink.Proofs.Port.Turns
import ModemLink.Proofs.Port.TwoRuns
import ModemLink.Proofs.Profile.AllowedMethods
import ModemLink.Proofs.Reply.Activations
import ModemLink.Proofs.Reply.AddressRecord
import ModemLink.Proofs.Reply.BrokenRows
import ModemLink.Proofs.Reply.EmptyTexts
import ModemLink.Proofs.Reply.Fields
import ModemLink.Proofs.Reply.OtherContexts
import ModemLink.Proofs.Reply.Readings
import ModemLink.Proofs.Reply.RecordLines
import ModemLink.Proofs.Reply.ServerRecords
import ModemLink.Proofs.Reply.Spacing
import ModemLink.Proofs.Reply.Unsolicited
import ModemLink.Proofs.Reply.Usable
import ModemLink.Proofs.Sequence.ActivationCheck
import ModemLink.Proofs.Sequence.DialPath
import ModemLink.Proofs.Sequence.DialTrace
import ModemLink.Proofs.Sequence.Loop
import ModemLink.Proofs.Settings.SameTexts
import ModemLink.Proofs.Station.Cancellation
import ModemLink.Proofs.Station.Connections
import ModemLink.Proofs.Station.ContextIds
import ModemLink.Proofs.Station.Deactivation
import ModemLink.Proofs.Station.Disconnection
import ModemLink.Proofs.Station.Driving
import ModemLink.Proofs.Station.FirstRecord
import ModemLink.Proofs.Station.Independence
import ModemLink.Proofs.Station.ListedBearers
import ModemLink.Proofs.Station.Moves
import ModemLink.Proofs.Station.Orderly
import ModemLink.Proofs.Station.Reachable
import ModemLink.Proofs.Station.Restoration
import ModemLink.Proofs.Station.SerialConnect
import ModemLink.Proofs.Station.SingleBearer
import ModemLink.Proofs.Station.SingleFlight
import ModemLink.Proofs.Station.Sources
import ModemLink.Proofs.Station.Steps
import ModemLink.Proofs.Station.Underway
import ModemLink.Proofs.Station.Unheeded
import ModemLink.Proofs.Station.Unwinding
import ModemLink.Proofs.Station.WellFormed
import ModemLink.Proofs.Text.Lines
import ModemLink.Proofs.Text.Numbers
import ModemLink.Proofs.Text.Ucs2
import ModemLink.Proofs.Text.Utf8
import ModemLink.Reply.Activation
import ModemLink.Reply.Address
import ModemLink.Reply.Field
import ModemLink.Reply.NameServer
import ModemLink.Reply.Record
import ModemLink.Request
import ModemLink.Sequence.Basic
import ModemLink.Sequence.Dial
import ModemLink.Sequence.Inspect
import ModemLink.Sequence.Teardown
import ModemLink.Settings.Basic
import ModemLink.Settings.EnvFile
import ModemLink.Settings.EnvFile.Entry
import ModemLink.Settings.EnvFile.Value
import ModemLink.Settings.Variables
import ModemLink.Station
import ModemLink.Text.Alphanumeric
import ModemLink.Text.Blank
import ModemLink.Text.Extender
import ModemLink.Text.Lines
import ModemLink.Text.Number
import ModemLink.Text.Quoted
import ModemLink.Text.Ranges
import ModemLink.Text.Unprintable
import ModemLink.Text.Utf8
