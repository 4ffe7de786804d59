import FleetWatch.Screen.Area
import FleetWatch.Screen.Frame

/-! # Boxes

What is laid over the screen: the help box with the keys, and the message that stands in for the
screen when the terminal is too small.
-/

namespace FleetWatch

namespace HelpBox

def group (title : String) : Label := .ofText .strong title.toList

def line (text : String) : Label := .ofText .plain text.toList

def lines (theme : Theme) : List Label :=
  [.ofText theme.header "Keyboard Shortcuts".toList,
    line "",
    group " Navigation",
    line "  ←/→ Tab 1/2  Switch views",
    line "  ↑/↓ j/k      Select cluster",
    line "  PgUp/PgDn    Jump 10 clusters",
    line "  Home/End     Jump to first/last",
    line "  Esc          Go back",
    line "",
    group " Clusters",
    line "  Space/Enter  Enable/disable",
    line "  d            Run discovery",
    line "  a            Add cluster",
    line "  /            Filter by name/host",
    line "  c            Clear filter",
    line "",
    group " General",
    line "  r            Refresh now",
    line "  e            Export to JSON",
    line "  q            Quit",
    line "",
    .ofText .faint "Press any key to close".toList]

/-- Where the box goes on a screen. -/
def area (screen : Area) : Area := screen.centered 42 25

def picture (theme : Theme) (width height : Nat) : Picture :=
  .framed theme.frame (.inked theme.highlight) (.ofText .plain " Help ".toList) width height
    fun width height => .ofLabels .plain .left width height (lines theme)

end HelpBox

namespace SizeMessage

/-- The narrowest screen that everything fits on. -/
def minWidth : Nat := 60

/-- The lowest screen that everything fits on. -/
def minHeight : Nat := 16

/-- Where the message goes on a screen of a size. -/
def area (width height : Nat) : Area := ⟨0, height / 2 - 2, width, min 5 height⟩

/-- The lines of the message about a screen of a size. -/
def lines (width height : Nat) : List Label :=
  ["Terminal too small: " ++ width.repr ++ "x" ++ height.repr,
    "Minimum: " ++ minWidth.repr ++ "x" ++ minHeight.repr,
    "",
    "Resize to continue"].map fun text => .ofText .plain text.toList

/-- A screen of a size that shows nothing but the message. -/
def picture (width height : Nat) : Picture :=
  Picture.place (area width height)
    (fun w h => .ofLabels (.inked .yellow) .center w h (lines width height))
    (.blank width height)

end SizeMessage

end FleetWatch
