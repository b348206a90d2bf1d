import CodeHints.Analysis.Answering
import CodeHints.Analysis.Engine
import CodeHints.Analysis.Environment
import CodeHints.Analysis.Request
import CodeHints.Completion.Listener
import CodeHints.Completion.Parameters
import CodeHints.Completion.State
import CodeHints.Decimal.Shortest
import CodeHints.Editor.Command
import CodeHints.Editor.View
import CodeHints.Json.Fault
import CodeHints.Json.Reader
import CodeHints.Json.Token
import CodeHints.Json.Value
import CodeHints.Logging
import CodeHints.Path
import CodeHints.Pattern.CharSet
import CodeHints.Pattern.Reader
import CodeHints.Pattern.Regex
import CodeHints.Pipeline.Ask
import CodeHints.Pipeline.Basic
import CodeHints.Pipeline.Registry
import CodeHints.Pipeline.Router
import CodeHints.Proofs.Activity.Ahead
import CodeHints.Proofs.Activity.Basic
import CodeHints.Proofs.Activity.Closing
import CodeHints.Proofs.Activity.Shutdown
import CodeHints.Proofs.Activity.Sound
import CodeHints.Proofs.Announcing
import CodeHints.Proofs.Answering
import CodeHints.Proofs.Caching
import CodeHints.Proofs.Completion.History
import CodeHints.Proofs.Completion.Popup
import CodeHints.Proofs.Debouncing
import CodeHints.Proofs.Deduplication
import CodeHints.Proofs.Dispatch.Agreement
import CodeHints.Proofs.Dispatch.Basic
import CodeHints.Proofs.Dispatch.Errands
import CodeHints.Proofs.Dispatch.Flows
import CodeHints.Proofs.Dispatch.Sound
import CodeHints.Proofs.Freshness.Basic
import CodeHints.Proofs.Freshness.Renewal
import CodeHints.Proofs.Freshness.Settled
import CodeHints.Proofs.Jobs
import CodeHints.Proofs.Json.Grammar
import CodeHints.Proofs.Json.Positions
import CodeHints.Proofs.Json.Reading
import CodeHints.Proofs.Json.Records
import CodeHints.Proofs.Json.Running
import CodeHints.Proofs.Json.Shape
import CodeHints.Proofs.Json.Skipping
import CodeHints.Proofs.Json.Tokens
import CodeHints.Proofs.Json.Writing
import CodeHints.Proofs.Listening.Basic
import CodeHints.Proofs.Listening.Moves
import CodeHints.Proofs.Listening.Queries
import CodeHints.Proofs.Listening.Sound
import CodeHints.Proofs.Listening.Waiting
import CodeHints.Proofs.Logging
import CodeHints.Proofs.Parameters
import CodeHints.Proofs.Placeholders
import CodeHints.Proofs.Pool.Links
import CodeHints.Proofs.Pool.Queue
import CodeHints.Proofs.Pool.Station
import CodeHints.Proofs.Pool.Tasks
import CodeHints.Proofs.Registry
import CodeHints.Proofs.Resolving
import CodeHints.Proofs.Resumption
import CodeHints.Proofs.Router
import CodeHints.Proofs.Routing
import CodeHints.Proofs.Settings.Changes
import CodeHints.Proofs.Settings.Fields
import CodeHints.Proofs.Settings.Meaning
import CodeHints.Proofs.Settings.Positions
import CodeHints.Proofs.Settings.RoundTrip
import CodeHints.Proofs.Substitution
import CodeHints.Proofs.Succession.Basic
import CodeHints.Proofs.Succession.Order
import CodeHints.Proofs.Succession.Overlap
import CodeHints.Proofs.Succession.Sound
import CodeHints.Proofs.Traffic
import CodeHints.Proofs.Updating
import CodeHints.Proofs.Workbench.Backlog
import CodeHints.Proofs.Workbench.Basic
import CodeHints.Proofs.Workbench.Contract
import CodeHints.Proofs.Workbench.Sound
import CodeHints.Proofs.Workforce.Basic
import CodeHints.Proofs.Workforce.Fairness
import CodeHints.Proofs.Workforce.Lines
import CodeHints.Proofs.Workforce.Overlap
import CodeHints.Proofs.Workforce.Progress
import CodeHints.Proofs.Workforce.Service
import CodeHints.Proofs.Workforce.Sound
import CodeHints.Proofs.Workforce.Stopping
import CodeHints.Scenario.Completion
import CodeHints.Scenario.Debounce
import CodeHints.Scenario.Engine
import CodeHints.Scenario.Session.Run
import CodeHints.Scenario.Session.Step
import CodeHints.Scenario.Session.World
import CodeHints.Scenario.Store
import CodeHints.Scenario.Worker
import CodeHints.Settings.Basic
import CodeHints.Settings.Error
import CodeHints.Settings.Platform
import CodeHints.Settings.Reader
import CodeHints.Settings.Store
import CodeHints.Settings.Value
import CodeHints.Settings.Writer
import CodeHints.Text.Quoted
import CodeHints.Unicode.Category
import CodeHints.Unicode.Folding
import CodeHints.Unicode.Property
import CodeHints.Unicode.Runs
import CodeHints.Unicode.Script
import CodeHints.Variables
import CodeHints.Worker.Debouncer
import CodeHints.Worker.Pool
import CodeHints.Worker.Promise
import CodeHints.Worker.Serial
import CodeHints.Worker.Task
