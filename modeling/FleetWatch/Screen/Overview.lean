import FleetWatch.Screen.QueryChart
import FleetWatch.Screen.Selection
import FleetWatch.Text.Lines

/-! # The overview

Cards with the current counts above the query chart and a short list of the clusters.
-/

namespace FleetWatch

namespace Overview

/-- The cards: a title, a count and its colour. -/
def cards (theme : Theme) (colors : ChartColors) (stats : Stats) : List (String × UInt32 × Color) :=
  [("Workers", stats.totalWorkers, theme.highlight),
    ("Running", stats.runningQueries, colors.running),
    ("Blocked", stats.blockedQueries, colors.blocked),
    ("Queued", stats.queuedQueries, theme.muted)]

def card (theme : Theme) (title : String) (count : UInt32) (color : Color) (width height : Nat) :
    Picture :=
  .framed theme.frame (.inked theme.border)
    (Label.ofText .plain (" " ++ title ++ " ").toList) width height fun width height =>
      .ofLabels .plain .center width height
        [.ofText (.boldIn color) count.toNat.repr.toList]

/-- Where the card with an index starts in a row of cards of a width: at so many quarters of it, to
the nearest column. -/
def cardStart (width index : Nat) : Nat := (index * width + 2) / 4

def cardRow (theme : Theme) (colors : ChartColors) (stats : Stats) (width height : Nat) : Picture :=
  ((cards theme colors stats).zipIdx.map fun ((title, count, color), i) =>
    card theme title count color (cardStart width (i + 1) - cardStart width i) height).foldl
    Picture.beside (List.replicate height [])

/-- How a cluster is written in the list. -/
def listLabel (theme : Theme) (cluster : Cluster) : Label :=
  [⟨"● ".toList, theme.availability cluster.available⟩,
    ⟨cluster.name.toList, .plain⟩,
    ⟨[' '], .plain⟩,
    ⟨(if cluster.enabled then "on" else "off").toList, theme.enablement cluster.enabled⟩]

def listTitle (c : Console) : List Char :=
  if c.filter.isEmpty then (" Clusters (" ++ c.visible.length.repr ++ ") ").toList
  else
    (" Clusters (" ++ c.visible.length.repr ++ "/" ++ c.dashboard.clusters.length.repr ++
      ") /").toList ++ c.filter ++ "/ ".toList

/-- The list of clusters in a size. It is scrolled from its start to the selected cluster. -/
def clusterList (theme : Theme) (c : Console) (width height : Nat) : Picture :=
  let selected := min c.selected (c.visible.length - 1)
  .framed theme.frame (.inked theme.border) (Frame.title (listTitle c)) width height
    fun width height =>
      let start := Selection.scroll 0 selected height
      .fit width height
        (((c.visible.zipIdx.drop start).take height).map fun (cluster, i) =>
          Selection.row theme.selected (i = selected) width fun width =>
            Row.writeLabel (listLabel theme cluster) (Row.blank width .plain))

/-- The rows of the cards in a height: four, but the rest keeps six as long as it can. -/
def cardHeight (height : Nat) : Nat := min 4 (height - 6)

/-- The columns of the chart in a width: 65 of a hundred, to the nearest column. -/
def chartWidth (width : Nat) : Nat := (65 * width + 50) / 100

def picture (theme : Theme) (colors : ChartColors) (c : Console) (width height : Nat) : Picture :=
  let above := cardHeight height
  cardRow theme colors c.dashboard.stats width above ++
    Picture.beside (QueryChart.picture theme colors c (chartWidth width) (height - above))
      (clusterList theme c (width - chartWidth width) (height - above))

end Overview

end FleetWatch
