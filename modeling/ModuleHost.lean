import ModuleHost.Settings.Check
import ModuleHost.Settings.Override
import ModuleHost.Settings.Reader
import ModuleHost.Settings.Writer
import ModuleHost.Toml.Document
import ModuleHost.Http.Workers
import ModuleHost.Logging.Appender
import ModuleHost.Logging.Tree
import ModuleHost.Logging.Logbook
import ModuleHost.Http.Pipeline
import ModuleHost.Net.Listener
import ModuleHost.Lifecycle.Reaction
import ModuleHost.Lifecycle.Startup
import ModuleHost.Program.Launch
import ModuleHost.Main
import ModuleHost.Proofs.Registry.Course
import ModuleHost.Proofs.Registry.Claims
import ModuleHost.Proofs.Registry.Tree
import ModuleHost.Proofs.Registry.Ownership
import ModuleHost.Proofs.Registry.Rejection
import ModuleHost.Proofs.Registry.Replay
import ModuleHost.Proofs.Text.Digits
import ModuleHost.Proofs.Logging.ArchiveName
import ModuleHost.Proofs.Storage.Calls
import ModuleHost.Proofs.Logging.Shelf
import ModuleHost.Proofs.Logging.Track
import ModuleHost.Proofs.Logging.Stand
import ModuleHost.Proofs.Logging.Conservation
import ModuleHost.Proofs.Logging.Lifespan
import ModuleHost.Proofs.Logging.Neighbours
import ModuleHost.Proofs.Registry.Generations
import ModuleHost.Proofs.Registry.Stream
import ModuleHost.Proofs.Logging.Bounded
import ModuleHost.Proofs.Registry.SizeLimit
import ModuleHost.Proofs.Logging.Unbroken
import ModuleHost.Proofs.Registry.Continuity
import ModuleHost.Proofs.Storage.Granted
import ModuleHost.Proofs.Logging.Directory
import ModuleHost.Proofs.Logging.Recovery
import ModuleHost.Proofs.Logging.Footing
import ModuleHost.Proofs.Logging.Ledger
import ModuleHost.Proofs.Logging.PeriodOrder
import ModuleHost.Proofs.Logging.Succession
import ModuleHost.Proofs.Logging.Traffic
import ModuleHost.Proofs.Logging.Delivery
import ModuleHost.Proofs.Logging.Settlement
import ModuleHost.Proofs.Settings.InEffect
import ModuleHost.Proofs.Settings.Restart
import ModuleHost.Proofs.Logging.Plan
import ModuleHost.Proofs.Registry.Pending
import ModuleHost.Proofs.Steps
import ModuleHost.Proofs.Http.Crowd
import ModuleHost.Proofs.Http.Drain
import ModuleHost.Proofs.Http.Slots
import ModuleHost.Proofs.Http.Binding
import ModuleHost.Proofs.Lifecycle.Frame
import ModuleHost.Proofs.Framework.Acts
import ModuleHost.Proofs.Framework.Claims
import ModuleHost.Proofs.Lifecycle.Round
import ModuleHost.Proofs.Lifecycle.Order
import ModuleHost.Proofs.Framework.Balance
import ModuleHost.Proofs.Lifecycle.Teardown
import ModuleHost.Proofs.Http.Verdict
import ModuleHost.Proofs.Registry.Reloading
import ModuleHost.Proofs.Http.Service
import ModuleHost.Proofs.Logging.Ancestry
import ModuleHost.Proofs.Registry.Isolation
import ModuleHost.Proofs.Logging.Filing
import ModuleHost.Proofs.Logging.Hierarchy
import ModuleHost.Proofs.Settings.Agreement
import ModuleHost.Proofs.Logging.Shedding
import ModuleHost.Proofs.Settings.Updates
import ModuleHost.Proofs.Settings.WrittenOut
import ModuleHost.Proofs.Http.Listening
import ModuleHost.Proofs.Logging.Numbering
import ModuleHost.Proofs.Lifecycle.Minutes
import ModuleHost.Proofs.Lifecycle.Audience
import ModuleHost.Proofs.Lifecycle.Vigil
import ModuleHost.Proofs.Http.Console
import ModuleHost.Proofs.Http.Report
import ModuleHost.Proofs.Text.Blank
import ModuleHost.Proofs.Logging.FileSize
import ModuleHost.Proofs.Logging.ActiveName
