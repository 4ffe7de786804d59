import FleetWatch.Console
import FleetWatch.Screen.Frame
import FleetWatch.Screen.Selection
import FleetWatch.Text.Lines

/-! # The cluster table

All that is known of the clusters that the filter lets through, one row to a cluster. The columns
share the width of the table, the name, the host and the tags more of it than the two flags.
-/

namespace FleetWatch

namespace ClusterTable

def titles : List String := ["Name", "Host", "Available", "Enabled", "Tags"]

/-- The widths of columns in parts, of which each column of the screen has so many. -/
structure Shares where
  perColumn : Nat
  widths : List Nat
  deriving Repr, DecidableEq

/-- How the columns share the room that there is for them. Of ten shares the name has two, the host
and the tags have three, and each flag has one. A flag whose share is too small for its title has
the columns that the title takes, and the others share the rest; where there is no room for both
titles the flags have half of it each. -/
def shares (room : Nat) : Shares :=
  if 90 ≤ room then ⟨10, [2 * room, 3 * room, room, room, 3 * room]⟩
  else if 81 ≤ room then
    let rest := room - 9
    ⟨9, [2 * rest, 3 * rest, 9 * 9, rest, 3 * rest]⟩
  else if 17 ≤ room then
    let rest := room - 17
    ⟨8, [2 * rest, 3 * rest, 9 * 8, 8 * 8, 3 * rest]⟩
  else ⟨2, [0, 0, room, room, 0]⟩

/-- The column nearest to a place that so many parts are in front of; a half goes to the right. -/
def nearest (perColumn parts : Nat) : Nat := (2 * parts + perColumn) / (2 * perColumn)

/-- Widths in whole columns, of columns that start so many parts from the left and have one blank
between them: each ends at the column nearest to where it should end. -/
def wholesFrom (perColumn : Nat) : Nat → List Nat → List Nat
  | _, [] => []
  | start, width :: rest =>
    (nearest perColumn (start + width) - nearest perColumn start) ::
      wholesFrom perColumn (start + width + perColumn) rest

/-- The widths of the columns in a table of a width, in which four columns stay blank. -/
def columnWidths (width : Nat) : List Nat :=
  let shares := shares (width - 4)
  wholesFrom shares.perColumn 0 shares.widths

/-- What stands in a column: a text, and the style of the whole column. -/
structure Entry where
  text : List Char
  style : Style := .plain
  deriving Repr

/-- An entry in its column; of several lines the first is shown. -/
def Entry.row (entry : Entry) (width : Nat) : Row :=
  Row.writeLabel (Label.ofText .plain ((Text.lines entry.text).head?.getD []))
    (Row.blank width entry.style)

def entriesRow (entries : List Entry) (width : Nat) : Row :=
  (List.zipWith Entry.row entries (columnWidths width)).intersperse (Row.blank 1 .plain) |>.flatten

def entries (theme : Theme) (cluster : Cluster) : List Entry :=
  [⟨cluster.name.toList, .plain⟩,
    ⟨cluster.host.toList, .plain⟩,
    ⟨(if cluster.available then "yes" else "no").toList, theme.availability cluster.available⟩,
    ⟨(if cluster.enabled then "enabled" else "disabled").toList,
      theme.enablement cluster.enabled⟩,
    ⟨cluster.tags.summary.toList, .plain⟩]

def clusterRow (theme : Theme) (isSelected : Bool) (cluster : Cluster) (width : Nat) : Row :=
  Selection.row theme.selected isSelected width (entriesRow (entries theme cluster))

def header (theme : Theme) (hasRows : Bool) (width : Nat) : Row :=
  let titles := titles.map fun title => (⟨title.toList, .plain⟩ : Entry)
  let gutter := if hasRows then Selection.gutter else 0
  Row.fit width
    (Row.blank gutter .plain ++ entriesRow titles (width - gutter)) |>.map (·.on theme.header)

/-- The rows that a table of a height inside its frame has for clusters, below its header. -/
def space (height : Nat) : Nat := height - 3

/-- The row that is selected, as far as there are rows. -/
def selected (c : Console) : Nat := min c.selected (c.visible.length - 1)

/-- The first cluster that a table of a size shows: the one that was first the last time, unless the
selected one is not in sight then. -/
def first (c : Console) (width height : Nat) : Nat :=
  let last := min c.scroll (c.visible.length - 1)
  if width ≤ 2 ∨ height ≤ 2 ∨ c.visible.isEmpty then last
  else Selection.scroll last (selected c) (space height)

def title (c : Console) : List Char :=
  let visible := c.visible
  let filter :=
    if c.mode = .filter then " /".toList ++ c.filter ++ ['_']
    else if c.filter.isEmpty then []
    else " /".toList ++ c.filter ++ "/ [c:clear]".toList
  let place :=
    if visible.isEmpty then ""
    else " [" ++ (selected c + 1).repr ++ "/" ++ visible.length.repr ++ "]"
  let busy := if c.dashboard.isUpdating then " updating…" else ""
  (" Clusters (" ++ visible.length.repr ++ "/" ++ c.dashboard.clusters.length.repr ++ ")").toList ++
    filter ++ (place ++ busy ++ " ").toList

/-- The rows of the clusters from one on, in a table of a width inside its frame. -/
def body (theme : Theme) (c : Console) (start width space : Nat) : Picture :=
  ((c.visible.zipIdx.drop start).take space).map fun (cluster, i) =>
    clusterRow theme (i = selected c) cluster width

/-- The mark is not cut in a table whose frame is narrower than it: its blank covers the side. -/
def covered (c : Console) (width height : Nat) (framed : Picture) : Picture :=
  if width = 3 ∧ !c.visible.isEmpty ∧ 0 < space height then
    framed.modify (selected c - first c width height + 2) fun row =>
      row.modify 2 (·.write .plain [' '])
  else framed

def picture (theme : Theme) (c : Console) (width height : Nat) : Picture :=
  covered c width height
    (.framed theme.frame (.inked theme.border) (Frame.title (title c)) width height
      fun inner rows =>
        .fit inner rows
          (header theme (!c.visible.isEmpty) inner ::
            body theme c (first c width height) inner (space height)))

end ClusterTable

end FleetWatch
