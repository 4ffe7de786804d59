import FleetWatch.Screen.Picture
import FleetWatch.Screen.Theme
import FleetWatch.Text.Lines

/-! # Frames

A picture in a frame. The frame takes the outermost rows and columns, the title stands in its top
row behind the corner, and what is inside is drawn to the size that is left.
-/

namespace FleetWatch

structure FrameLines where
  topLeft : Char
  topRight : Char
  bottomLeft : Char
  bottomRight : Char
  deriving Repr, DecidableEq

namespace FrameKind

def lines : FrameKind → FrameLines
  | rounded => ⟨'╭', '╮', '╰', '╯'⟩
  | square => ⟨'┌', '┐', '└', '┘'⟩

def horizontal : Char := '─'

def vertical : Char := '│'

end FrameKind

namespace Frame

/-- A text as a title; the ends of its lines are left out. -/
def title (text : List Char) : Label := (Text.lines text).map (⟨·, .plain⟩)

/-- A row between the sides of a frame; a frame of one column has only its left side. -/
def edged (style : Style) (left right : Char) (width : Nat) (inside : Row) : Row :=
  match width with
  | 0 => []
  | 1 => [.ofChar style left]
  | _ => .ofChar style left :: inside ++ [.ofChar style right]

/-- The side at the top, with a title. The title has as much of it as it takes. -/
def top (kind : FrameKind) (style : Style) (title : Label) (width : Nat) : Row :=
  let line := List.replicate (width - 2) (Cell.ofChar style FrameKind.horizontal)
  edged style kind.lines.topLeft kind.lines.topRight width
    (Row.writeLabel title (line.take title.width) ++ line.drop title.width)

def bottom (kind : FrameKind) (style : Style) (width : Nat) : Row :=
  edged style kind.lines.bottomLeft kind.lines.bottomRight width
    (List.replicate (width - 2) (.ofChar style FrameKind.horizontal))

def middle (style : Style) (width : Nat) (inside : Row) : Row :=
  edged style FrameKind.vertical FrameKind.vertical width inside

end Frame

/-- A frame of a size around a picture, which is given as it is drawn to a size. A frame of one row
has only its top. -/
def Picture.framed (kind : FrameKind) (style : Style) (title : Label) (width height : Nat)
    (inside : Nat → Nat → Picture) : Picture :=
  match height with
  | 0 => []
  | 1 => [Frame.top kind style title width]
  | rest + 2 =>
    Frame.top kind style title width :: (inside (width - 2) rest).map (Frame.middle style width) ++
      [Frame.bottom kind style width]

end FleetWatch
