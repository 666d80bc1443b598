import BrowserPilot.Browser.Basic
import BrowserPilot.Browser.Call
import BrowserPilot.Browser.Countermeasures
import BrowserPilot.Browser.Extract
import BrowserPilot.Browser.InitScript
import BrowserPilot.Browser.Launch
import BrowserPilot.Browser.Lifecycle
import BrowserPilot.Browser.Pacer
import BrowserPilot.Browser.Pointer
import BrowserPilot.Browser.Primitives
import BrowserPilot.Browser.Profile
import BrowserPilot.Browser.ProfilePool
import BrowserPilot.Browser.Proxy
import BrowserPilot.Cli.Arguments
import BrowserPilot.Cli.Basic
import BrowserPilot.Cli.Command
import BrowserPilot.Cli.Listing
import BrowserPilot.Cli.Overview
import BrowserPilot.Cli.Perform
import BrowserPilot.Cli.Sessions
import BrowserPilot.Clock
import BrowserPilot.Console.Markup
import BrowserPilot.Console.Panel
import BrowserPilot.Console.Table
import BrowserPilot.Console.Wrap
import BrowserPilot.Control
import BrowserPilot.Event.Basic
import BrowserPilot.Event.Bus
import BrowserPilot.Fault
import BrowserPilot.Json.Basic
import BrowserPilot.Json.Literal
import BrowserPilot.Json.Printer
import BrowserPilot.Json.Reader
import BrowserPilot.Main
import BrowserPilot.Monitor.Basic
import BrowserPilot.Monitor.Broadcast
import BrowserPilot.Monitor.Ending
import BrowserPilot.Monitor.Signal
import BrowserPilot.Monitor.Stepping
import BrowserPilot.Numeric.Amount
import BrowserPilot.Numeric.Binary64
import BrowserPilot.Numeric.Power
import BrowserPilot.Numeric.Shortest
import BrowserPilot.Path
import BrowserPilot.Proofs.Browser.Asking
import BrowserPilot.Proofs.Browser.Handles
import BrowserPilot.Proofs.Browser.InitScript
import BrowserPilot.Proofs.Browser.Languages
import BrowserPilot.Proofs.Browser.Lifecycle
import BrowserPilot.Proofs.Browser.Overriding
import BrowserPilot.Proofs.Browser.Pace
import BrowserPilot.Proofs.Browser.Refusals
import BrowserPilot.Proofs.Browser.Typing
import BrowserPilot.Proofs.Clock
import BrowserPilot.Proofs.Control
import BrowserPilot.Proofs.Event.Attribution
import BrowserPilot.Proofs.Event.FanOut
import BrowserPilot.Proofs.Event.Framing
import BrowserPilot.Proofs.Json.Members
import BrowserPilot.Proofs.Json.Numbers
import BrowserPilot.Proofs.Json.OneLine
import BrowserPilot.Proofs.Json.Quotes
import BrowserPilot.Proofs.Json.RoundTrip
import BrowserPilot.Proofs.Monitor.Advance
import BrowserPilot.Proofs.Monitor.Bare
import BrowserPilot.Proofs.Monitor.Effects
import BrowserPilot.Proofs.Monitor.Ends
import BrowserPilot.Proofs.Monitor.Failing
import BrowserPilot.Proofs.Monitor.LastError
import BrowserPilot.Proofs.Monitor.Lasting
import BrowserPilot.Proofs.Monitor.Mirror
import BrowserPilot.Proofs.Monitor.Pausing
import BrowserPilot.Proofs.Monitor.Performed
import BrowserPilot.Proofs.Monitor.Progress
import BrowserPilot.Proofs.Monitor.Protocol
import BrowserPilot.Proofs.Monitor.Reference
import BrowserPilot.Proofs.Monitor.Rest
import BrowserPilot.Proofs.Monitor.Retried
import BrowserPilot.Proofs.Monitor.Settlement
import BrowserPilot.Proofs.Monitor.Stopping
import BrowserPilot.Proofs.Monitor.Tally
import BrowserPilot.Proofs.Monitor.Timeline
import BrowserPilot.Proofs.Monitor.Transparent
import BrowserPilot.Proofs.Monitor.Undisturbed
import BrowserPilot.Proofs.Numeric.Nearest
import BrowserPilot.Proofs.Numeric.Order
import BrowserPilot.Proofs.Numeric.Power
import BrowserPilot.Proofs.Numeric.Range
import BrowserPilot.Proofs.Numeric.Shortest
import BrowserPilot.Proofs.Rehearsal.Alike
import BrowserPilot.Proofs.Rehearsal.Batch
import BrowserPilot.Proofs.Rehearsal.Forward
import BrowserPilot.Proofs.Rehearsal.LaunchFailure
import BrowserPilot.Proofs.Rehearsal.Pace
import BrowserPilot.Proofs.Rehearsal.Proxies
import BrowserPilot.Proofs.Retry
import BrowserPilot.Proofs.Schema.Refusal
import BrowserPilot.Proofs.Script.Blocks
import BrowserPilot.Proofs.Script.Blockwise
import BrowserPilot.Proofs.Script.Calls
import BrowserPilot.Proofs.Script.Compiled
import BrowserPilot.Proofs.Script.Faithful
import BrowserPilot.Proofs.Script.File
import BrowserPilot.Proofs.Script.Isolated
import BrowserPilot.Proofs.Script.Joined
import BrowserPilot.Proofs.Script.Layout
import BrowserPilot.Proofs.Script.Literals
import BrowserPilot.Proofs.Script.Marks
import BrowserPilot.Proofs.Script.Numbers
import BrowserPilot.Proofs.Script.Recorded
import BrowserPilot.Proofs.Script.Rendered
import BrowserPilot.Proofs.Script.RoundTrip
import BrowserPilot.Proofs.Script.Steps
import BrowserPilot.Proofs.Script.Warned
import BrowserPilot.Proofs.Session.History
import BrowserPilot.Proofs.Session.Operation
import BrowserPilot.Proofs.Settings.Issues
import BrowserPilot.Proofs.Settings.Layers
import BrowserPilot.Proofs.Step.Fallbacks
import BrowserPilot.Proofs.Step.Parameters
import BrowserPilot.Proofs.Step.Records
import BrowserPilot.Proofs.Text.Lines
import BrowserPilot.Proofs.Text.Place
import BrowserPilot.Proofs.Text.Replace
import BrowserPilot.Proofs.Text.Search
import BrowserPilot.Random.Draw
import BrowserPilot.Random.Twister
import BrowserPilot.Rehearsal.Batch
import BrowserPilot.Rehearsal.Performance
import BrowserPilot.Rehearsal.Primitives
import BrowserPilot.Rehearsal.Run
import BrowserPilot.Rehearsal.Screenplay
import BrowserPilot.Rehearsal.Stage
import BrowserPilot.Retry
import BrowserPilot.Schema.Problem
import BrowserPilot.Schema.Reader
import BrowserPilot.Script.Compile
import BrowserPilot.Script.Compiler
import BrowserPilot.Script.File
import BrowserPilot.Script.Idiom
import BrowserPilot.Script.Render
import BrowserPilot.Session.Basic
import BrowserPilot.Session.Job
import BrowserPilot.Session.Outcome
import BrowserPilot.Session.State
import BrowserPilot.Session.StepStatus
import BrowserPilot.Settings.Address
import BrowserPilot.Settings.Basic
import BrowserPilot.Settings.Bundled
import BrowserPilot.Settings.Environment
import BrowserPilot.Settings.Issues
import BrowserPilot.Settings.Layers
import BrowserPilot.Step.Action
import BrowserPilot.Step.Basic
import BrowserPilot.Step.Reading
import BrowserPilot.Text.Base64
import BrowserPilot.Text.Blank
import BrowserPilot.Text.CellWidth
import BrowserPilot.Text.Digit
import BrowserPilot.Text.Lines
import BrowserPilot.Text.Printable
import BrowserPilot.Text.Replace
import BrowserPilot.Text.Search
import BrowserPilot.Text.Split
import BrowserPilot.Text.Utf8
import BrowserPilot.Text.WordChar
import BrowserPilot.Toml.Document
import BrowserPilot.Toml.Fault
import BrowserPilot.Toml.Number
import BrowserPilot.Toml.Reader
import BrowserPilot.Toml.Text
