import FleetWatch.Screen.Bars
import FleetWatch.Screen.Boxes
import FleetWatch.Screen.ClusterTable
import FleetWatch.Screen.Overview

/-! # The screen

A console as it is seen: the header, the tabs, the view that is shown and the status line, with the
help box over them when it is open. A screen that is too small shows only a message about that.
-/

namespace FleetWatch

/-- How a console is drawn: in a theme and colours, at a time on the steady clock. -/
structure Look where
  theme : Theme
  colors : ChartColors := {}
  steady : Nat

namespace Screen

/-- Whether everything fits on a screen of a size. -/
def isLargeEnough (width height : Nat) : Bool :=
  SizeMessage.minWidth ≤ width && SizeMessage.minHeight ≤ height

/-- The rows that the view has on a screen of a height: all but the header, the tabs and the status
line. -/
def viewHeight (height : Nat) : Nat := height - 3

def view (look : Look) (c : Console) (width height : Nat) : Picture :=
  match c.view with
  | .overview => Overview.picture look.theme look.colors c width height
  | .clusters => ClusterTable.picture look.theme c width height

/-- The whole screen without the help box. -/
def behind (look : Look) (c : Console) (width height : Nat) : Picture :=
  Bars.header look.theme c.dashboard width 1 ++ Bars.tabs look.theme c.view width 1 ++
    view look c width (viewHeight height) ++ Bars.status look.theme c look.steady width 1

/-- A console on a screen of a size. -/
def picture (look : Look) (c : Console) (width height : Nat) : Picture :=
  if isLargeEnough width height then
    if c.showsHelp then
      Picture.place (HelpBox.area (.ofSize width height)) (HelpBox.picture look.theme)
        (behind look c width height)
    else behind look c width height
  else SizeMessage.picture width height

end Screen

namespace Console

/-- The console after its cluster table was drawn in a size: it remembers which row came first. -/
def afterTable (c : Console) (width height : Nat) : Console :=
  { c with scroll := ClusterTable.first c width height }

/-- The console after it was drawn on a screen of a size. Only the cluster table remembers anything.
-/
def afterDrawing (c : Console) (width height : Nat) : Console :=
  if Screen.isLargeEnough width height && c.view = .clusters then
    c.afterTable width (Screen.viewHeight height)
  else c

end Console

end FleetWatch
