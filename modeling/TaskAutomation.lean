import TaskAutomation.Automation.Call
import TaskAutomation.Automation.Codec
import TaskAutomation.Automation.Comparison
import TaskAutomation.Automation.Params
import TaskAutomation.Automation.RuleFile
import TaskAutomation.Automation.Step
import TaskAutomation.Automation.Store
import TaskAutomation.Automation.Trigger
import TaskAutomation.CommandLine.Arguments
import TaskAutomation.CommandLine.Command
import TaskAutomation.CommandLine.Directory
import TaskAutomation.CommandLine.Execution
import TaskAutomation.CommandLine.HelpPage
import TaskAutomation.CommandLine.Host
import TaskAutomation.CommandLine.Push
import TaskAutomation.CommandLine.Report
import TaskAutomation.Config.Basic
import TaskAutomation.Config.Codec
import TaskAutomation.Config.Document
import TaskAutomation.Engine.Assembly
import TaskAutomation.Engine.Dispatcher
import TaskAutomation.Engine.Program
import TaskAutomation.Engine.Reaper
import TaskAutomation.Engine.Registry
import TaskAutomation.Engine.Request
import TaskAutomation.Engine.Rules
import TaskAutomation.Engine.Scripted
import TaskAutomation.Engine.Service
import TaskAutomation.Engine.Simulated
import TaskAutomation.Engine.Steps
import TaskAutomation.Engine.Tick
import TaskAutomation.Engine.Transaction
import TaskAutomation.Engine.TriggerRun
import TaskAutomation.Engine.Workers
import TaskAutomation.Engine.World
import TaskAutomation.Id.Basic
import TaskAutomation.Id.Codec
import TaskAutomation.Id.Ulid
import TaskAutomation.Json.Basic
import TaskAutomation.Json.Decode
import TaskAutomation.Json.Printer
import TaskAutomation.Json.Reader
import TaskAutomation.Main
import TaskAutomation.Number.Double
import TaskAutomation.Number.Shortest
import TaskAutomation.Number.Word
import TaskAutomation.Proofs.Id.Text
import TaskAutomation.Proofs.Queue.Change
import TaskAutomation.Proofs.Queue.CollisionSign
import TaskAutomation.Proofs.Queue.Effect
import TaskAutomation.Proofs.Queue.Groups
import TaskAutomation.Proofs.Queue.History
import TaskAutomation.Proofs.Queue.KeptRow
import TaskAutomation.Proofs.Queue.MemoryEffect
import TaskAutomation.Proofs.Queue.Record
import TaskAutomation.Proofs.Queue.TableEffect
import TaskAutomation.Proofs.Task.Origin
import TaskAutomation.Queue.Backend
import TaskAutomation.Queue.Cell
import TaskAutomation.Queue.Memory
import TaskAutomation.Queue.Row
import TaskAutomation.Queue.Table
import TaskAutomation.Queue.TableText
import TaskAutomation.Schedule.Basic
import TaskAutomation.Schedule.Boundary
import TaskAutomation.Schedule.Codec
import TaskAutomation.Schedule.Field
import TaskAutomation.Task.Basic
import TaskAutomation.Task.Codec
import TaskAutomation.Task.Decision
import TaskAutomation.Task.Failure
import TaskAutomation.Task.Kind
import TaskAutomation.Task.Outcome
import TaskAutomation.Task.Retry
import TaskAutomation.Text.Blank
import TaskAutomation.Text.CaseTable
import TaskAutomation.Text.LowerCase
import TaskAutomation.Text.Quoted
import TaskAutomation.Text.Split
import TaskAutomation.Text.Visible
import TaskAutomation.Time.Calendar
import TaskAutomation.Time.Codec
import TaskAutomation.Time.Instant
import TaskAutomation.Time.Rfc3339
import TaskAutomation.Time.Span
import TaskAutomation.Time.Zone
import TaskAutomation.Time.ZoneTable
import TaskAutomation.Toml.Number
import TaskAutomation.Toml.Reader
import TaskAutomation.Toml.Table
import TaskAutomation.Toml.Text
import TaskAutomation.Validation
import TaskAutomation.Proofs.Queue.Lifecycle
import TaskAutomation.Proofs.Queue.Holders
import TaskAutomation.Proofs.Json.NumberScale
import TaskAutomation.Proofs.Json.NumberText
import TaskAutomation.Proofs.Json.DoubleText
import TaskAutomation.Proofs.Json.Text
import TaskAutomation.Proofs.Json.Valid
import TaskAutomation.Proofs.Json.RoundTrip
import TaskAutomation.Proofs.Queue.Limits
import TaskAutomation.Proofs.Queue.RowOfTask
import TaskAutomation.Proofs.Queue.Readable
import TaskAutomation.Proofs.Queue.Claiming
import TaskAutomation.Proofs.Queue.Draining
import TaskAutomation.Proofs.Queue.Placement
import TaskAutomation.Proofs.Queue.Mirror
import TaskAutomation.Proofs.Queue.Equivalence
import TaskAutomation.Proofs.Json.Depth
import TaskAutomation.Proofs.Queue.Fault
import TaskAutomation.Proofs.Queue.StartTime
import TaskAutomation.Proofs.Queue.Fencing
import TaskAutomation.Proofs.Time.Forward
import TaskAutomation.Proofs.Queue.Precedence
import TaskAutomation.Proofs.Engine.Running
import TaskAutomation.Proofs.Task.Decision
import TaskAutomation.Proofs.Engine.Course
import TaskAutomation.Proofs.Engine.Dispatch
import TaskAutomation.Proofs.Engine.Attempts
import TaskAutomation.Proofs.Automation.Store
import TaskAutomation.Proofs.Engine.AutomateHost
import TaskAutomation.Proofs.Engine.TriggerSteps
import TaskAutomation.Proofs.Engine.TriggerRun
import TaskAutomation.Proofs.Engine.Others
import TaskAutomation.Proofs.Engine.TriggerRecord
import TaskAutomation.Proofs.Engine.TriggerWriteBack
import TaskAutomation.Proofs.Engine.TriggerOutcome
import TaskAutomation.Proofs.Schedule.Hours
import TaskAutomation.Proofs.Engine.Underway
import TaskAutomation.Proofs.Engine.Tick
import TaskAutomation.Proofs.Engine.ServiceCalls
import TaskAutomation.Proofs.Engine.TriggerChange
import TaskAutomation.Proofs.Engine.RetryCeiling
import TaskAutomation.Proofs.Queue.Content
import TaskAutomation.Proofs.Queue.Orderly
import TaskAutomation.Proofs.Queue.Watcher
import TaskAutomation.Proofs.Engine.Ensures
import TaskAutomation.Proofs.Engine.WorldQueue
import TaskAutomation.Proofs.Engine.Watcher
import TaskAutomation.Proofs.Engine.RunLedger
import TaskAutomation.Proofs.Engine.OwnSteps
import TaskAutomation.Proofs.Engine.RunKeeping
import TaskAutomation.Proofs.Engine.HourlyRuns
import TaskAutomation.Proofs.Engine.ServiceBook
import TaskAutomation.Proofs.Engine.Subscriptions
import TaskAutomation.Proofs.Engine.FailedCalls
import TaskAutomation.Proofs.Engine.StoredRules
import TaskAutomation.Proofs.Engine.SoundRules
import TaskAutomation.Proofs.Automation.Params
import TaskAutomation.Proofs.Automation.Signs
import TaskAutomation.Proofs.Engine.OwnHandlers
import TaskAutomation.Proofs.Engine.Protocol
import TaskAutomation.Proofs.Engine.TransactionRounds
import TaskAutomation.Proofs.Engine.Pursuit
import TaskAutomation.Proofs.Engine.Transactions
import TaskAutomation.Proofs.Results
import TaskAutomation.Proofs.Text.Pieces
import TaskAutomation.Proofs.Schedule.Grammar
import TaskAutomation.Proofs.Time.Ages
import TaskAutomation.Proofs.Engine.LiveRuns
import TaskAutomation.Proofs.Engine.Moments
import TaskAutomation.Proofs.Engine.EventRuns
import TaskAutomation.Proofs.Engine.RunPushes
import TaskAutomation.Proofs.Engine.HeldRuns
import TaskAutomation.Proofs.Engine.CalledTriggers
import TaskAutomation.Proofs.Engine.TickRuns
import TaskAutomation.Proofs.Engine.EventDeliveries
import TaskAutomation.Proofs.Engine.TransactionEndings
import TaskAutomation.Proofs.Engine.TransactionCustody
import TaskAutomation.Proofs.Engine.ContractSends
import TaskAutomation.Proofs.Time.Calendar
import TaskAutomation.Proofs.Schedule.LocalHours
import TaskAutomation.Proofs.Schedule.Printing
import TaskAutomation.Proofs.Schedule.Kinds
import TaskAutomation.Proofs.Schedule.Boundaries
import TaskAutomation.Proofs.CommandLine.DelayedPush
import TaskAutomation.Proofs.Queue.RowRoundTrip
import TaskAutomation.Proofs.Engine.StoreHistory
import TaskAutomation.Proofs.Engine.Proceeding
import TaskAutomation.Proofs.Engine.InstalledRules
import TaskAutomation.Proofs.Id.Issuing
import TaskAutomation.Proofs.Time.Rfc3339
import TaskAutomation.Proofs.Json.Records
import TaskAutomation.Proofs.Task.Codec
import TaskAutomation.Proofs.Automation.Codec
