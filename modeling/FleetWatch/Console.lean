import FleetWatch.Chart
import FleetWatch.Console.Prompt
import FleetWatch.Dashboard.Export
import FleetWatch.Text.Case
import FleetWatch.Text.Search

/-! # The operator's console

What the operator sees and has typed: the view, the filter and the selected row over the clusters
that match it, the prompt for a new cluster, and a notice that fades after two seconds. A console
asks nothing of the gateway itself: what it wants is handed back as a request.
-/

namespace FleetWatch

/-- The views, each with its tab. -/
inductive View where
  /-- Cards, the query chart and a short list of clusters. -/
  | overview
  /-- The table of clusters. -/
  | clusters
  deriving Repr, DecidableEq, Inhabited

namespace View

/-- The view of the next tab, which with two tabs is also the one before. -/
def next : View → View
  | overview => clusters
  | clusters => overview

def label : View → String
  | overview => "Overview"
  | clusters => "Clusters"

end View

/-- What typing goes into. -/
inductive InputMode where
  /-- Keys are commands. -/
  | normal
  /-- The filter. -/
  | filter
  /-- The prompt for a new cluster. -/
  | add
  deriving Repr, DecidableEq, Inhabited

/-- Where the dashboard's events come from. -/
structure SourceInfo where
  /-- How the status bar names the source. -/
  description : String
  /-- The gateway behind the source, if there is one. -/
  endpoint : Option String
  deriving Repr, DecidableEq, Inhabited

structure Console where
  /-- False once the operator has quit. -/
  isRunning : Bool
  view : View
  /-- Whether the help box is open. -/
  showsHelp : Bool
  source : SourceInfo
  dashboard : Dashboard
  /-- The selected row among the visible clusters. -/
  selected : Nat
  /-- The first row of the cluster table on the screen, as of the last drawing. -/
  scroll : Nat
  mode : InputMode
  /-- What the clusters are filtered by. -/
  filter : List Char
  /-- What the prompt holds. -/
  input : List Char
  chart : AxisOptions
  /-- The last notice, with when it was posted on the steady clock. -/
  posted : Option (Notice × Nat)

namespace Console

def start (source : SourceInfo) : Console :=
  { isRunning := true, view := .overview, showsHelp := false, source := source,
    dashboard := .empty, selected := 0, scroll := 0, mode := .normal, filter := [], input := [],
    chart := {}, posted := none }

/-! ## Notices -/

/-- How long a notice is shown. -/
def noticeSpan : Duration := Duration.ofSeconds 2

/-- Shows a notice from now on, in place of any other. -/
def post (c : Console) (notice : Notice) (now : Moment) : Console :=
  { c with posted := some (notice, now.steady) }

/-- The notice that is shown at a time on the steady clock. -/
def notice? (c : Console) (steady : Nat) : Option Notice :=
  c.posted.bind fun (notice, since) =>
    if steady < since + noticeSpan.nanos then some notice else none

/-! ## Clusters on view -/

/-- Whether a filter lets a cluster through: it is empty, or the name or the host holds it when case
does not count. -/
def matchesFilter (filter : List Char) (cluster : Cluster) : Bool :=
  filter.isEmpty || Text.holds (Text.lower filter) (Text.lower cluster.name.toList) ||
    Text.holds (Text.lower filter) (Text.lower cluster.host.toList)

/-- The clusters that the filter lets through, in the order of the dashboard. -/
def visible (c : Console) : List Cluster := c.dashboard.clusters.filter (matchesFilter c.filter)

def selected? (c : Console) : Option Cluster := c.visible[c.selected]?

/-- Brings the selection back into the visible rows. -/
def clamp (c : Console) : Console := { c with selected := min c.selected (c.visible.length - 1) }

def selectNext (c : Console) (n : Nat) : Console :=
  { c with selected := min (c.selected + n) (c.visible.length - 1) }

def selectPrevious (c : Console) (n : Nat) : Console := { c with selected := c.selected - n }

def selectFirst (c : Console) : Console := { c with selected := 0 }

def selectLast (c : Console) : Console := { c with selected := c.visible.length - 1 }

/-! ## Events -/

/-- Selects the first visible cluster with a name, if there is one. -/
def follow (c : Console) (name : String) : Console :=
  match c.visible.findIdx? (·.name = name) with
  | some row => { c with selected := row }
  | none => c

/-- Takes in one event. When a new list of clusters comes, the selection follows the name of the
cluster that was selected. -/
def take (c : Console) (event : FeedEvent) (now : Moment) : Console :=
  let kept := match event with
    | .clusters (.ok _) => c.selected?.map Cluster.name
    | _ => none
  let (dashboard, notice) := c.dashboard.apply event now
  let taken := { c with dashboard := dashboard }
  let told := match notice with
    | some notice => taken.post notice now
    | none => taken
  (match kept with
    | some name => told.follow name
    | none => told).clamp

/-- Takes in all events that are waiting, the clocks read anew for each of them. -/
def drain (c : Console) (arrivals : List (FeedEvent × Moment)) : Console :=
  arrivals.foldl (fun c (event, now) => c.take event now) c

/-- Takes in all events that are waiting, at one reading of the clocks. -/
def reload (c : Console) (events : List FeedEvent) (now : Moment) : Console :=
  c.drain (events.map fun event => (event, now))

/-! ## Actions -/

/-- A console after an action and what the action asks of the world. -/
structure Reaction where
  console : Console
  /-- What is asked of the source. -/
  request : Option SourceRequest := none
  /-- A document to be saved. -/
  document : Option Bytes := none

/-- Starts a command unless one is under way. -/
def run (c : Console) (command : Command) (now : Moment) : Reaction :=
  match c.dashboard.begin? with
  | some dashboard => ⟨{ c with dashboard := dashboard }, some (.dispatch command), none⟩
  | none => ⟨c.post ⟨.info, "busy: waiting for the previous update"⟩ now, none, none⟩

/-- Enables the selected cluster if it is disabled, and disables it if it is enabled. -/
def toggleSelected (c : Console) (now : Moment) : Reaction :=
  match c.selected? with
  | some cluster => c.run (.setEnabled cluster.name !cluster.enabled) now
  | none => ⟨c, none, none⟩

def showView (c : Console) (view : View) : Console := { c with view := view }

def nextView (c : Console) : Console := c.showView c.view.next

def toggleHelp (c : Console) : Console := { c with showsHelp := !c.showsHelp }

/-- Lets typing go into the filter. -/
def startFilter (c : Console) : Console := { c with mode := .filter }

/-- Empties the filter and leaves it. -/
def clearFilter (c : Console) : Console := { c with filter := [], mode := .normal : Console }.clamp

def pushFilter (c : Console) (typed : Char) : Console :=
  { c with filter := c.filter ++ [typed] : Console }.clamp

def popFilter (c : Console) : Console := { c with filter := c.filter.dropLast : Console }.clamp

def startAdd (c : Console) : Console := { c with input := [], mode := .add }

/-- Closes the prompt for a new cluster and forgets what was typed. -/
def cancelAdd (c : Console) : Console := { c with input := [], mode := .normal }

/-- Asks for the cluster that was typed. What is no request stays in the prompt. -/
def submitAdd (c : Console) (now : Moment) : Reaction :=
  match AddRequest.parse? c.input with
  | some request => c.cancelAdd.run (.add request) now
  | none => ⟨c.post ⟨.error, "usage: <name> <url>"⟩ now, none, none⟩

/-- Steps back: out of the help box, out of the prompt, out of the filter, or to the overview. -/
def goBack (c : Console) : Console :=
  if c.showsHelp then { c with showsHelp := false }
  else match c.mode with
    | .add => c.cancelAdd
    | .filter => { c with mode := .normal }
    | .normal => c.showView .overview

def quit (c : Console) : Console := { c with isRunning := false }

/-! ## Saving -/

/-- Why nothing can be saved. -/
def noData : String := "No data to export"

/-- The file that the export key saves to. -/
def exportFile : String := "trino_dash_export.json"

/-- The document to be saved; nothing before any data has arrived. -/
def exportDocument? (c : Console) (time : Timestamp) : Option Bytes :=
  if c.dashboard.hasData then some (c.dashboard.exportDocument c.source.endpoint time) else none

/-- Tells how saving ended: well, or with the reason why not. -/
def postSaved (c : Console) (outcome : Except String Unit) (now : Moment) : Console :=
  c.post (match outcome with
    | .ok _ => ⟨.info, "Exported to " ++ exportFile⟩
    | .error reason => ⟨.error, "Export failed: " ++ reason⟩) now

/-- Asks for the dashboard to be saved, or tells that there is nothing to save. -/
def save (c : Console) (now : Moment) : Reaction :=
  match c.exportDocument? now.time with
  | some document => ⟨c, none, some document⟩
  | none => ⟨c.postSaved (.error noData) now, none, none⟩

end Console

end FleetWatch
