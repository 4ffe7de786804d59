import FleetWatch.Console
import FleetWatch.Screen.Area
import FleetWatch.Screen.Theme
import FleetWatch.Text.Lines

/-! # Bars

The lines at the edges of the screen: the header with the state of the fleet, the tabs, and the
status line, which is a prompt while the operator is typing and shows a notice as long as there is
one.
-/

namespace FleetWatch

namespace Bars

def part (style : Style) (text : String) : Label := Label.ofText style text.toList

def name : String := "TRINO DASH "

/-- The header: how many clusters are enabled and how many cannot be reached, how many queries run
and wait, and whether a command is under way. -/
def headerLabel (theme : Theme) (d : Dashboard) : Label :=
  if d.hasData then
    part (theme.availability (d.unavailableCount = 0)) " ● " ++ part .strong name ++
      part .plain "│ " ++
      part .strong (d.enabledCount.repr ++ "/" ++ d.clusters.length.repr) ++
      part .plain " clusters enabled " ++
      (if d.unavailableCount = 0 then part .faint "0"
        else part (theme.availability false) d.unavailableCount.repr) ++
      part .plain " unavailable │ " ++
      part .plain
        (d.stats.runningQueries.toNat.repr ++ " running " ++ d.stats.queuedQueries.toNat.repr ++
          " queued") ++
      (if d.isUpdating then part .plain " │ " ++ part (.boldIn theme.muted) "updating…" else [])
  else part .strong (" " ++ name) ++ part .plain "| Loading..."

def header (theme : Theme) (d : Dashboard) (width height : Nat) : Picture :=
  .ofLabels .plain .left width height [headerLabel theme d]

def tabTitle : View → String
  | .overview => " 1:" ++ View.label .overview ++ " "
  | .clusters => " 2:" ++ View.label .clusters ++ " "

/-- The tab of a view, with the style of the active one if the view is shown. -/
def tab (theme : Theme) (shown view : View) : Label :=
  part .plain " " ++ part (if shown = view then theme.tabActive else .plain) (tabTitle view) ++
    part .plain " "

def tabs (theme : Theme) (shown : View) (width height : Nat) : Picture :=
  .ofLabels theme.tabInactive .left width height
    [tab theme shown .overview ++ part .plain "|" ++ tab theme shown .clusters]

/-- The keys that the status line reminds of. -/
def controls : String := "Space:toggle d:discover a:add r:refresh /:search ?:help q:quit"

/-- The status line at a time on the steady clock: its style and its text. -/
def statusText (theme : Theme) (c : Console) (steady : Nat) : Style × List Char :=
  match c.mode, c.notice? steady with
  | .add, _ =>
    (.inked theme.highlight,
      " Add cluster <name> <url>: ".toList ++ c.input ++ "_ | Enter:add Esc:cancel".toList)
  | .filter, _ =>
    (.inked theme.highlight, " /".toList ++ c.filter ++ "_ | Enter:apply Esc:done".toList)
  | .normal, some notice => (theme.notice notice.level, (" " ++ notice.message ++ " ").toList)
  | .normal, none =>
    let state := match c.dashboard.age? steady with
      | some age => "Updated " ++ age.elapsed ++ " ago"
      | none => "Waiting for data..."
    (.faint, (" " ++ c.source.description ++ " | " ++ state ++ " | " ++ controls).toList)

def status (theme : Theme) (c : Console) (steady : Nat) (width height : Nat) : Picture :=
  let (style, text) := statusText theme c steady
  .ofLabels style .left width height ((Text.lines text).map (Label.ofText .plain))

end Bars

end FleetWatch
