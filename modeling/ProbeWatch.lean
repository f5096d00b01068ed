import ProbeWatch.Api
import ProbeWatch.ApiError
import ProbeWatch.BaseUrl
import ProbeWatch.Client.Basic
import ProbeWatch.Client.Exchange
import ProbeWatch.Client.Polling
import ProbeWatch.CommandLine
import ProbeWatch.Config
import ProbeWatch.Credential
import ProbeWatch.Credential.Store
import ProbeWatch.Decimal.Binary
import ProbeWatch.Decimal.Shortest
import ProbeWatch.Dict
import ProbeWatch.Disk.Basic
import ProbeWatch.Disk.Path
import ProbeWatch.Duration
import ProbeWatch.Engine.Basic
import ProbeWatch.Engine.Call
import ProbeWatch.Engine.Event
import ProbeWatch.Engine.Session
import ProbeWatch.Failure
import ProbeWatch.Http.Charset
import ProbeWatch.Http.Gateway
import ProbeWatch.Http.Request
import ProbeWatch.Http.Script
import ProbeWatch.Http.Transport
import ProbeWatch.Json.Basic
import ProbeWatch.Json.Lexeme
import ProbeWatch.Json.Node
import ProbeWatch.Json.Numeral
import ProbeWatch.Json.Printer
import ProbeWatch.Json.Record
import ProbeWatch.Log
import ProbeWatch.Main
import ProbeWatch.Moment
import ProbeWatch.Moment.Reader
import ProbeWatch.Payload
import ProbeWatch.Proofs.Dict
import ProbeWatch.Proofs.Engine.CallRun
import ProbeWatch.Proofs.Engine.Operation
import ProbeWatch.Proofs.Engine.Ownership
import ProbeWatch.Proofs.Engine.Punctuality
import ProbeWatch.Proofs.Engine.Race
import ProbeWatch.Proofs.Engine.Timetable
import ProbeWatch.Proofs.Json.Printed
import ProbeWatch.Proofs.Json.Record
import ProbeWatch.Proofs.Json.Spelling
import ProbeWatch.Proofs.Payload
import ProbeWatch.Proofs.Session.Restoration
import ProbeWatch.Proofs.Session.Tree
import ProbeWatch.Proofs.Store.Faithful
import ProbeWatch.Proofs.Text.Blank
import ProbeWatch.Proofs.Watch.Overlap
import ProbeWatch.Reconcile
import ProbeWatch.Session.Basic
import ProbeWatch.Session.Snapshot
import ProbeWatch.Store.Basic
import ProbeWatch.Store.File.Basic
import ProbeWatch.Store.File.Call
import ProbeWatch.Store.File.Format
import ProbeWatch.Store.Memory
import ProbeWatch.Text.Blank
import ProbeWatch.Text.Canonical
import ProbeWatch.Text.CanonicalTable
import ProbeWatch.Text.CaseTable
import ProbeWatch.Text.Hex
import ProbeWatch.Text.Lowercase
import ProbeWatch.Text.Mark
import ProbeWatch.Text.MarkTable
import ProbeWatch.Text.Percent
import ProbeWatch.Text.PrintTable
import ProbeWatch.Text.Quoted
import ProbeWatch.Text.Utf8
import ProbeWatch.Timer.Advance
import ProbeWatch.Timer.Basic
import ProbeWatch.Timer.Paced
import ProbeWatch.Timer.Plan
import ProbeWatch.Timer.Scheduler
import ProbeWatch.Token
import ProbeWatch.Url.Address
import ProbeWatch.Url.Basic
import ProbeWatch.Url.Direction
import ProbeWatch.Url.DirectionTable
import ProbeWatch.Url.FoldingTable
import ProbeWatch.Url.Host
import ProbeWatch.Url.Joiner
import ProbeWatch.Url.JoiningTable
import ProbeWatch.Url.Label
import ProbeWatch.Url.NameTable
import ProbeWatch.Url.Punycode
import ProbeWatch.Watch.Poll
import ProbeWatch.Watch.Report
import ProbeWatch.Watcher.Basic
import ProbeWatch.Watcher.Program
import ProbeWatch.Proofs.Moment.Calendar
import ProbeWatch.Proofs.Session.Isolation
import ProbeWatch.Proofs.Moment.Reading
import ProbeWatch.Proofs.Json.Indented
import ProbeWatch.Proofs.Disk.Path
import ProbeWatch.Proofs.Store.Format
import ProbeWatch.Proofs.Disk.Files
import ProbeWatch.Proofs.Store.Opening
import ProbeWatch.Proofs.Store.Writing
import ProbeWatch.Proofs.Store.Usage
import ProbeWatch.Proofs.Store.Traffic
import ProbeWatch.Proofs.Store.Clean
import ProbeWatch.Proofs.Store.Landing
import ProbeWatch.Proofs.Client.Operation
import ProbeWatch.Proofs.Credential.Store
import ProbeWatch.Proofs.Session.Credential
import ProbeWatch.Proofs.Client.Guise
import ProbeWatch.Proofs.Client.Wire
import ProbeWatch.Proofs.Credential.Agreement
import ProbeWatch.Proofs.Http.Envelope
import ProbeWatch.Proofs.Client.Switchboard
import ProbeWatch.Proofs.Watch.Submission
import ProbeWatch.Proofs.Engine.Lifecycle
import ProbeWatch.Proofs.Store.Recovery
import ProbeWatch.Proofs.Engine.Budget
import ProbeWatch.Proofs.Credential.Overlap
import ProbeWatch.Proofs.Timer.Tasks
import ProbeWatch.Proofs.Timer.Contract
import ProbeWatch.Proofs.Engine.Clockwork
import ProbeWatch.Proofs.Engine.TaskRun
import ProbeWatch.Proofs.Engine.Production
import ProbeWatch.Proofs.Client.Secrecy
import ProbeWatch.Proofs.Credential.Discard
import ProbeWatch.Proofs.Credential.Rekeying
import ProbeWatch.Proofs.Watch.Verdict
import ProbeWatch.Proofs.Watch.Reporting
import ProbeWatch.Proofs.Timer.Ticks
import ProbeWatch.Proofs.Timer.Slices
import ProbeWatch.Proofs.Engine.Interval
import ProbeWatch.Proofs.BaseUrl
import ProbeWatch.Proofs.Json.Ordered
import ProbeWatch.Proofs.Session.Merge
import ProbeWatch.Proofs.Store.Backup
import ProbeWatch.Proofs.Engine.Rearming
import ProbeWatch.Proofs.Client.Setup
import ProbeWatch.Proofs.Watch.Requests
import ProbeWatch.Proofs.Store.Neighbours
import ProbeWatch.Proofs.Token
import ProbeWatch.Proofs.Text.Percent
import ProbeWatch.Proofs.Config
import ProbeWatch.Proofs.Payload.Drift
