import PinnedRun.Keyed
import PinnedRun.Text.Blank
import PinnedRun.Text.DecimalDigit
import PinnedRun.Text.Quoted
import PinnedRun.Numeric.FixedPlaces
import PinnedRun.Numeric.DecimalLiteral
import PinnedRun.Fault
import PinnedRun.Path
import PinnedRun.Volume.Write
import PinnedRun.Settings.Environment
import PinnedRun.Options.Reading
import PinnedRun.Options.Help
import PinnedRun.Settings.Override
import PinnedRun.Telemetry.Span
import PinnedRun.Telemetry.Ledger
import PinnedRun.Action
import PinnedRun.Fetch
import PinnedRun.Launch
import PinnedRun.Telemetry.Activity
import PinnedRun.Summary
import PinnedRun.Invocation
import PinnedRun.Main
import PinnedRun.Proofs.Action.Lockstep
import PinnedRun.Proofs.Action.Delegation
import PinnedRun.Proofs.World.Outside
import PinnedRun.Proofs.Path.NormalForm
import PinnedRun.Proofs.Volume.Resolution
import PinnedRun.Proofs.Fetch.Course
import PinnedRun.Proofs.Fetch.Overwrite
import PinnedRun.Proofs.Fetch.BareName
import PinnedRun.Proofs.Telemetry.Lifecycle
import PinnedRun.Proofs.Telemetry.Spans
import PinnedRun.Proofs.Telemetry.Startup
import PinnedRun.Proofs.Telemetry.Entries
import PinnedRun.Proofs.Telemetry.Release
import PinnedRun.Proofs.Telemetry.Lifetime
import PinnedRun.Proofs.Telemetry.Consistency
import PinnedRun.Proofs.Telemetry.Metrics
import PinnedRun.Proofs.Telemetry.Exporting
import PinnedRun.Proofs.Telemetry.Traces
import PinnedRun.Proofs.Telemetry.Bracketing
import PinnedRun.Proofs.Telemetry.Board
import PinnedRun.Proofs.Telemetry.Restart
import PinnedRun.Proofs.Telemetry.Counting
import PinnedRun.Proofs.Settings.Completeness
import PinnedRun.Proofs.Settings.DerivedNames
import PinnedRun.Proofs.Settings.Precedence
import PinnedRun.Proofs.Run.Coupling
import PinnedRun.Proofs.Run.Course
import PinnedRun.Proofs.Run.Ending
import PinnedRun.Proofs.Run.Leniency
import PinnedRun.Proofs.Run.Order
import PinnedRun.Proofs.Invocation.ExitCode
import PinnedRun.Proofs.Invocation.Misconfiguration
import PinnedRun.Proofs.Invocation.Confinement
import PinnedRun.Proofs.Settings.Spelling
import PinnedRun.Proofs.Run.Bare
import PinnedRun.Proofs.Run.Journal
import PinnedRun.Proofs.Run.Reported
import PinnedRun.Proofs.Run.Truthfulness
import PinnedRun.Proofs.Settings.Verbatim
import PinnedRun.Proofs.Shell.Grammar
import PinnedRun.Proofs.Shell.Joining
import PinnedRun.Proofs.Settings.CommandText
import PinnedRun.Proofs.Options.Ambiguity
import PinnedRun.Proofs.Settings.FirstWord
import PinnedRun.Proofs.Fetch.Destination
import PinnedRun.Proofs.Fetch.Diagnosis
import PinnedRun.Proofs.Run.StepReports
import PinnedRun.Proofs.Run.Footprint
import PinnedRun.Proofs.Run.Agreement
import PinnedRun.Proofs.Run.Strictness
import PinnedRun.Proofs.Invocation.Unobtrusive
import PinnedRun.Proofs.Invocation.Verbosity
import PinnedRun.Proofs.Invocation.Reported
import PinnedRun.Proofs.Launch.History
import PinnedRun.Proofs.Telemetry.Resource
import PinnedRun.Proofs.Numeric.Magnitude
import PinnedRun.Proofs.Numeric.Nearest
import PinnedRun.Proofs.Numeric.DecimalLiteral
import PinnedRun.Proofs.Numeric.Grammar
import PinnedRun.Proofs.Settings.Timeout
