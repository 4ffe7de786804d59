import FleetWatch.Binary64
import FleetWatch.Binary64.Decimal
import FleetWatch.Binary64.Shortest
import FleetWatch.Chart
import FleetWatch.Clock
import FleetWatch.Cluster
import FleetWatch.Cluster.Wire
import FleetWatch.Collation
import FleetWatch.Collation.Table
import FleetWatch.Collation.Weights
import FleetWatch.CommandLine
import FleetWatch.Console
import FleetWatch.Console.Keyboard
import FleetWatch.Console.Prompt
import FleetWatch.Dashboard
import FleetWatch.Dashboard.Export
import FleetWatch.Duration
import FleetWatch.Fault
import FleetWatch.Feed
import FleetWatch.Gateway
import FleetWatch.Gateway.HttpMessage
import FleetWatch.Json
import FleetWatch.Json.Quoted
import FleetWatch.Json.Reader
import FleetWatch.Json.Token
import FleetWatch.Json.Writer
import FleetWatch.Main
import FleetWatch.Poller
import FleetWatch.Poller.Rehearsal
import FleetWatch.Proofs.Binary64.Counts
import FleetWatch.Proofs.Binary64.Digits
import FleetWatch.Proofs.Binary64.Literals
import FleetWatch.Proofs.Binary64.Nearest
import FleetWatch.Proofs.Binary64.Order
import FleetWatch.Proofs.Binary64.Rounding
import FleetWatch.Proofs.Binary64.Whole
import FleetWatch.Proofs.Chart.XAxis
import FleetWatch.Proofs.Chart.YAxis
import FleetWatch.Proofs.Cluster.Counts
import FleetWatch.Proofs.Cluster.Members
import FleetWatch.Proofs.Cluster.Sorting
import FleetWatch.Proofs.Cluster.Ties
import FleetWatch.Proofs.Cluster.Wire
import FleetWatch.Proofs.Collation.Ascii
import FleetWatch.Proofs.Collation.Order
import FleetWatch.Proofs.Collation.Printable
import FleetWatch.Proofs.CommandLine.Saving
import FleetWatch.Proofs.Console.Actions
import FleetWatch.Proofs.Console.Finding
import FleetWatch.Proofs.Console.Following
import FleetWatch.Proofs.Console.Heard
import FleetWatch.Proofs.Console.Interleaving
import FleetWatch.Proofs.Console.Lasting
import FleetWatch.Proofs.Console.Modes
import FleetWatch.Proofs.Console.Narrowing
import FleetWatch.Proofs.Console.Prompting
import FleetWatch.Proofs.Console.Refusals
import FleetWatch.Proofs.Console.Requests
import FleetWatch.Proofs.Console.Runs
import FleetWatch.Proofs.Console.Selection
import FleetWatch.Proofs.Console.Session
import FleetWatch.Proofs.Dashboard.After
import FleetWatch.Proofs.Dashboard.History
import FleetWatch.Proofs.Dashboard.Snapshot
import FleetWatch.Proofs.Duration.Elapsed
import FleetWatch.Proofs.Duration.Seconds
import FleetWatch.Proofs.Duration.Units
import FleetWatch.Proofs.Duration.Whole
import FleetWatch.Proofs.Gateway.Toggles
import FleetWatch.Proofs.Interleaving
import FleetWatch.Proofs.Json.Documents
import FleetWatch.Proofs.Json.Floats
import FleetWatch.Proofs.Json.Layout
import FleetWatch.Proofs.Json.Literals
import FleetWatch.Proofs.Json.Runs
import FleetWatch.Proofs.Json.Spellings
import FleetWatch.Proofs.Json.Texts
import FleetWatch.Proofs.Poller.Accounts
import FleetWatch.Proofs.Poller.Draining
import FleetWatch.Proofs.Poller.Runs
import FleetWatch.Proofs.Refresh.Alone
import FleetWatch.Proofs.Refresh.Clocked
import FleetWatch.Proofs.Refresh.Delivery
import FleetWatch.Proofs.Refresh.Pace
import FleetWatch.Proofs.Refresh.Runs
import FleetWatch.Proofs.Refresh.Schedule
import FleetWatch.Proofs.Refresh.Stopping
import FleetWatch.Proofs.Refresh.Waking
import FleetWatch.Proofs.Relay.Delivery
import FleetWatch.Proofs.Run
import FleetWatch.Proofs.Screen.Clicks
import FleetWatch.Proofs.Screen.Entries
import FleetWatch.Proofs.Screen.Lines
import FleetWatch.Proofs.Screen.Overlay
import FleetWatch.Proofs.Screen.Placement
import FleetWatch.Proofs.Screen.Scrolling
import FleetWatch.Proofs.Series.Extremes
import FleetWatch.Proofs.Series.Window
import FleetWatch.Proofs.Settings.Masking
import FleetWatch.Proofs.Settings.Precedence
import FleetWatch.Proofs.Text.Blanks
import FleetWatch.Proofs.Text.LowerCase
import FleetWatch.Proofs.Text.Utf8
import FleetWatch.Proofs.Timestamp.Calendar
import FleetWatch.Proofs.Timestamp.Rfc3339
import FleetWatch.Proofs.Toml.Keys
import FleetWatch.Proofs.Url.Endpoints
import FleetWatch.Proofs.Url.Paths
import FleetWatch.Proofs.Url.Percent
import FleetWatch.Proofs.Url.Segments
import FleetWatch.Refresh
import FleetWatch.Relay
import FleetWatch.Screen
import FleetWatch.Screen.Area
import FleetWatch.Screen.Bars
import FleetWatch.Screen.Boxes
import FleetWatch.Screen.ClusterTable
import FleetWatch.Screen.Dots
import FleetWatch.Screen.Frame
import FleetWatch.Screen.Overview
import FleetWatch.Screen.Picture
import FleetWatch.Screen.QueryChart
import FleetWatch.Screen.Selection
import FleetWatch.Screen.Style
import FleetWatch.Screen.Theme
import FleetWatch.Series
import FleetWatch.Settings
import FleetWatch.Text.Blank
import FleetWatch.Text.Case
import FleetWatch.Text.Case.Table
import FleetWatch.Text.CharTable
import FleetWatch.Text.Composition
import FleetWatch.Text.Decomposition
import FleetWatch.Text.Decomposition.Table
import FleetWatch.Text.Direction
import FleetWatch.Text.Direction.Table
import FleetWatch.Text.Glyph
import FleetWatch.Text.Grapheme
import FleetWatch.Text.Grapheme.Table
import FleetWatch.Text.Joining
import FleetWatch.Text.Joining.Table
import FleetWatch.Text.Lines
import FleetWatch.Text.Parts
import FleetWatch.Text.Search
import FleetWatch.Text.Utf8
import FleetWatch.Text.Width
import FleetWatch.Text.Width.Table
import FleetWatch.Timestamp
import FleetWatch.Toml
import FleetWatch.Toml.Reader
import FleetWatch.Toml.Scalar
import FleetWatch.Toml.Tree
import FleetWatch.Url
import FleetWatch.Url.Host
import FleetWatch.Url.Name
import FleetWatch.Url.Name.Table
import FleetWatch.Url.Percent
import FleetWatch.Url.Punycode
