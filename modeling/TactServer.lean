import TactServer.Compile.Rule
import TactServer.Main
import TactServer.Proofs.Schedule.Delivery
import TactServer.Proofs.Schedule.Freshness
import TactServer.Proofs.Schedule.Reopening
import TactServer.Proofs.Session.Run
import TactServer.Proofs.Schedule.Closing
import TactServer.Proofs.Schedule.Progress
import TactServer.Proofs.Schedule.LiveCheck
import TactServer.Proofs.Frame.Stream
import TactServer.Proofs.Text.Utf8
import TactServer.Proofs.Frame.RoundTrip
import TactServer.Proofs.Message
import TactServer.Proofs.Session.Answers
import TactServer.Proofs.Collection.Attribution
import TactServer.Proofs.Schedule.Heeding
import TactServer.Proofs.Schedule.Debounce
import TactServer.Proofs.Collection.Unread
import TactServer.Proofs.Collection.Failures
import TactServer.Proofs.Diagnostic
import TactServer.Proofs.Schedule.View
import TactServer.Proofs.Schedule.Generation
import TactServer.Proofs.Schedule.Fairness
import TactServer.Proofs.Schedule.Sweep
import TactServer.Proofs.Schedule.Independence
import TactServer.Proofs.Settings.Layers
import TactServer.Proofs.Settings.Payload
import TactServer.Proofs.Session.Handling
import TactServer.Proofs.Session.Reach
import TactServer.Proofs.Session.Failure
import TactServer.Proofs.Session.LifeCycle
import TactServer.Proofs.Session.Configuration
import TactServer.Proofs.Frame.Truncation
import TactServer.Proofs.Path.Spelling
import TactServer.Proofs.Command.Layout
import TactServer.Proofs.Command.Location
import TactServer.Proofs.Compile.Trace
import TactServer.Proofs.Text.Trim
import TactServer.Proofs.Frame.HeaderBlock
import TactServer.Proofs.Text.Utf16
import TactServer.Proofs.Import.Comment
import TactServer.Proofs.Import.Grammar
import TactServer.Proofs.Import.Position
import TactServer.Proofs.Import.Target
import TactServer.Proofs.Document.History
import TactServer.Proofs.Session.StaleChange
import TactServer.Proofs.Text.Span
import TactServer.Proofs.Text.Return
import TactServer.Proofs.Compile.Report
import TactServer.Proofs.Path.Join
import TactServer.Proofs.Import.Stretch
import TactServer.Proofs.Completion
import TactServer.Proofs.Range
