import FleetWatch.Dashboard
import FleetWatch.Screen.Style

/-! # Themes

The colours and styles that the screen is drawn in, one theme for dark terminals and one for light
ones, and how they tell good from bad.
-/

namespace FleetWatch

/-- The lines that frames are drawn with. -/
inductive FrameKind where
  /-- With rounded corners. -/
  | rounded
  /-- With square corners. -/
  | square
  deriving Repr, DecidableEq, Inhabited

structure Theme where
  /-- What is active or stands out. -/
  highlight : Color
  /-- Clusters that can be reached. -/
  good : Color
  /-- Disabled clusters and a command that is under way. -/
  muted : Color
  /-- Clusters that cannot be reached, and errors. -/
  bad : Color
  /-- Frames. -/
  border : Color
  /-- The header of a table. -/
  header : Style
  /-- The selected row. -/
  selected : Style
  /-- The tab of the view that is shown. -/
  tabActive : Style
  /-- The other tabs. -/
  tabInactive : Style
  frame : FrameKind
  deriving Repr, DecidableEq

namespace Theme

def dark : Theme where
  highlight := .cyan
  good := .green
  muted := .yellow
  bad := .red
  border := .gray
  header := .boldIn .cyan
  selected := { back := some .darkGray, bold := true }
  tabActive := .boldIn .cyan
  tabInactive := .inked .gray
  frame := .rounded

def light : Theme where
  highlight := .blue
  good := .green
  muted := .magenta
  bad := .red
  border := .darkGray
  header := .boldIn .blue
  selected := { back := some .lightBlue, bold := true }
  tabActive := .boldIn .blue
  tabInactive := .inked .darkGray
  frame := .rounded

/-- How it is shown whether a cluster can be reached. -/
def availability (theme : Theme) (available : Bool) : Style :=
  if available then .inked theme.good else .boldIn theme.bad

def enablement (theme : Theme) (enabled : Bool) : Style :=
  .inked (if enabled then theme.good else theme.muted)

def notice (theme : Theme) : NoticeLevel → Style
  | .info => .inked theme.highlight
  | .error => .boldIn theme.bad

end Theme

structure ChartColors where
  running : Color := .rgb 0x6B 0xD0 0x98
  blocked : Color := .rgb 0xF1 0x7E 0x5D
  /-- The axes. -/
  axis : Color := .rgb 0x9F 0x9F 0x9F
  deriving Repr, DecidableEq, Inhabited

end FleetWatch
