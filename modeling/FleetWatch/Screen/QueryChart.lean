import FleetWatch.Console
import FleetWatch.Screen.Dots
import FleetWatch.Screen.Frame

/-! # The query chart

Running and blocked queries over time. The labels of the y axis stand to its left and those of the
x axis below it; the graph has the rest, with a legend over its corner when there is room.
-/

namespace FleetWatch

namespace QueryChart

/-- A series as it is drawn. -/
structure Curve where
  name : String
  color : Color
  points : List Point
  deriving Repr

/-- What a chart shows. -/
structure Content where
  x : Bounds
  y : Bounds
  xLabels : List String
  yLabels : List String
  curves : List Curve
  deriving Repr

def label (text : String) : Label := .ofText .plain text.toList

/-- How a chart parts its columns and rows. -/
structure Layout where
  /-- Columns of the labels to the left of the y axis. -/
  labels : Nat
  /-- Columns of the y axis: one, or none if there is no room. -/
  axis : Nat
  /-- Columns of the graph. -/
  graphWidth : Nat
  /-- Rows of the graph. -/
  graphHeight : Nat
  deriving Repr, DecidableEq

/-- The layout of a chart. The labels to the left take as much as the longest label of the y axis,
or the first one of the x axis up to its last column, but no more than a third of the width; the two
rows at the bottom are the x axis and its labels. -/
def layout (content : Content) (width height : Nat) : Layout :=
  let longest := (content.yLabels.map fun text => (label text).width).foldl max 0
  let first := ((content.xLabels.map fun text => (label text).width).head?.getD 0) - 1
  let labels := min (max longest first) (width / 3)
  let axis := if labels + 1 < width then 1 else 0
  ⟨labels, axis, width - labels - axis, max (height - 2) (min height 1)⟩

/-- The columns of free space, or of what does not fit, that are in front of a label. -/
def inFront (excess : Nat) : Alignment → Nat
  | .left => 0
  | .center => excess / 2
  | .right => excess

/-- A label laid over a row in an area of it. What does not fit is cut off at the end that the label
is not aligned to, and at both ends of a centred one. All characters of a label take one column. -/
def write (alignment : Alignment) (column room : Nat) (text : String) (row : Row) : Row :=
  let whole := text.toList.map (Cell.ofChar .plain)
  let kept := (whole.drop (inFront (whole.length - room) alignment)).take room
  Row.lay (column + inFront (room - whole.length) alignment) kept row

/-- The columns to the left of a row of the graph so many rows above its lowest: the label that
falls there, the last one if there are several, and the y axis. -/
def leftOf (content : Content) (style : Style) (l : Layout) (above : Nat) : Row :=
  let last := content.yLabels.length - 1
  let labels := content.yLabels.zipIdx.foldl (fun row (text, i) =>
    if i * (l.graphHeight - 1) / last = above then
      write .left 0 (l.labels + l.axis - 1) text row
    else row) (Row.blank l.labels .plain)
  labels ++ List.replicate l.axis (.ofChar style '│')

def axisRow (style : Style) (l : Layout) : Row :=
  Row.blank l.labels .plain ++ List.replicate l.axis (.ofChar style '└') ++
    List.replicate l.graphWidth (.ofChar style '─')

/-- The labels of the x axis: the first one ends at the y axis, the middle one is in the middle
third of the graph, and the last one ends where the graph ends. -/
def labelRow (content : Content) (l : Layout) : Row :=
  let third := l.graphWidth / 3
  let left := l.labels + l.axis
  let blank := Row.blank (left + l.graphWidth) .plain
  match content.xLabels with
  | [first, middle, last] =>
    write .right (left + l.graphWidth - third) third last
      (write .center (left + third + 1) (third - 1) middle (write .right 0 left first blank))
  | _ => blank

/-- The legend: the names of the curves in a frame. -/
def legend (border : Style) (curves : List Curve) (width height : Nat) : Picture :=
  .framed .square border [] width height fun width height =>
    .ofLabels border .left width height
      (curves.map fun curve => .ofText (.inked curve.color) curve.name.toList)

/-- A quarter of a length, to the nearest whole number. -/
def quarter (n : Nat) : Nat := (n + 2) / 4

/-- The graph: the curves one after the other, and the legend over its upper right corner if it is
neither wider nor higher than a quarter of the graph. -/
def graph (content : Content) (border : Style) (l : Layout) : Picture :=
  let grid : DotGrid := ⟨content.x, content.y, l.graphWidth, l.graphHeight⟩
  let drawn := content.curves.foldl (fun below curve => grid.draw curve.color curve.points below)
    (Picture.blank l.graphWidth l.graphHeight)
  let names := content.curves.map fun curve => (label curve.name).width
  let width := names.foldl max 0 + 2
  let height := names.length + 2
  if width ≤ quarter l.graphWidth ∧ height ≤ quarter l.graphHeight then
    Picture.lay (l.graphWidth - width) 0 (legend border content.curves width height) drawn
  else drawn

def plot (content : Content) (axis border : Style) (width height : Nat) : Picture :=
  let l := layout content width height
  let left := (List.range l.graphHeight).map fun row =>
    leftOf content axis l (l.graphHeight - 1 - row)
  Picture.fit width height (Picture.beside left (graph content border l) ++
    (if 2 < height then [axisRow axis l] else []) ++
    (if 1 < height then [labelRow content l] else []))

/-- What the chart of a console shows; nothing before any counts have arrived. -/
def content? (c : Console) (colors : ChartColors) : Option Content :=
  let series := [c.dashboard.running, c.dashboard.blocked]
  (Chart.origin? series).map fun origin =>
    let running := Chart.points origin c.dashboard.running
    let blocked := Chart.points origin c.dashboard.blocked
    let x := Chart.xBounds [running.map Point.x, blocked.map Point.x]
    let y := Chart.yBounds c.chart series
    { x := x, y := y, xLabels := (Chart.xLabels? origin x.high).getD [],
      yLabels := Chart.yLabels c.chart y,
      curves := [⟨"running", colors.running, running⟩, ⟨"blocked", colors.blocked, blocked⟩] }

/-- The chart of a console in a frame. While nothing has arrived the frame is as faint as the
message in it. -/
def picture (theme : Theme) (colors : ChartColors) (c : Console) (width height : Nat) : Picture :=
  let border := Style.inked theme.border
  let title := Label.ofText .plain " Queries ".toList
  match content? c colors with
  | some content =>
    .framed theme.frame border title width height (plot content (.inked colors.axis) border)
  | none =>
    .framed theme.frame (Style.faint.patch border) title width height fun width height =>
      .ofLabels .faint .center width height
        [.ofText .plain "Waiting for statistics...".toList]

end QueryChart

end FleetWatch
