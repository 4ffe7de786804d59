import FleetWatch.Chart
import FleetWatch.Screen.Picture

/-! # Dot graphs

A graph is drawn with braille patterns: every cell has two columns and four rows of dots. A point
lights the dot that it falls into, and two points are joined by the straight run of dots between
theirs.
-/

namespace FleetWatch

/-- A dot of a graph: its column from the left and its row from the top. -/
structure Dot where
  column : Nat
  row : Nat
  deriving Repr, DecidableEq, Inhabited

/-- What part of the plane a graph shows, and on how many cells. -/
structure DotGrid where
  x : Bounds
  y : Bounds
  width : Nat
  height : Nat
  deriving Repr, DecidableEq

namespace DotGrid

/-- Where a distance falls on an axis of a length and so many dots. -/
def index (distance length : Binary64) (dots : Nat) : Nat :=
  let place := distance * (Binary64.ofNat dots - Binary64.ofNat 1) / length
  (place.truncate 0 0xFFFFFFFFFFFFFFFF).toNat

/-- The dot of a point; none for a point that the graph does not show. -/
def dot? (grid : DotGrid) (p : Point) : Option Dot :=
  let width := grid.x.high - grid.x.low
  let height := grid.y.high - grid.y.low
  if p.x.lt grid.x.low || grid.x.high.lt p.x || p.y.lt grid.y.low || grid.y.high.lt p.y then none
  else if width.rank = 0 ∨ height.rank = 0 then none
  else some ⟨index (p.x - grid.x.low) width (2 * grid.width),
    index (grid.y.high - p.y) height (4 * grid.height)⟩

end DotGrid

/-- So many steps of a slanting run along its longer axis, from a place on each axis. Of an error
that has become positive the place on the shorter axis moves by one, up or down. -/
def slant (long short : Nat) (rising : Bool) : Nat → Nat → Nat → Int → List (Nat × Nat)
  | 0, at0, at1, _ => [(at0, at1)]
  | steps + 1, at0, at1, error =>
    let moved := if rising then at1 + 1 else at1 - 1
    (at0, at1) ::
      if 0 < error then
        slant long short rising steps (at0 + 1) moved (error - 2 * (long : Int) + 2 * (short : Int))
      else slant long short rising steps (at0 + 1) at1 (error + 2 * (short : Int))

/-- A slanting run between two places, given along the longer axis first and with the lower place
there first. -/
def slantBetween (p q : Nat × Nat) : List (Nat × Nat) :=
  let long := q.1 - p.1
  let short := if p.2 ≤ q.2 then q.2 - p.2 else p.2 - q.2
  slant long short (p.2 ≤ q.2) long p.1 p.2 (2 * (short : Int) - long)

namespace Dot

/-- The dots of the straight run from one dot to another one. -/
def line (p q : Dot) : List Dot :=
  let width := max p.column q.column - min p.column q.column
  let height := max p.row q.row - min p.row q.row
  if width = 0 then (List.range (height + 1)).map fun i => ⟨p.column, min p.row q.row + i⟩
  else if height = 0 then (List.range (width + 1)).map fun i => ⟨min p.column q.column + i, p.row⟩
  else if height < width then
    let (first, last) := if q.column < p.column then (q, p) else (p, q)
    (slantBetween (first.column, first.row) (last.column, last.row)).map fun (c, r) => ⟨c, r⟩
  else
    let (first, last) := if q.row < p.row then (q, p) else (p, q)
    (slantBetween (first.row, first.column) (last.row, last.column)).map fun (r, c) => ⟨c, r⟩

/-- The bit of a dot in the number of its braille pattern. -/
def bit (d : Dot) : Nat :=
  match d.row % 4, d.column % 2 with
  | 0, 0 => 0x01
  | 1, 0 => 0x02
  | 2, 0 => 0x04
  | 0, _ => 0x08
  | 1, _ => 0x10
  | 2, _ => 0x20
  | _, 0 => 0x40
  | _, _ => 0x80

end Dot

namespace DotGrid

/-- The dots of points and of the lines between neighbours; a line with an end that the graph does
not show is left out. -/
def dots (grid : DotGrid) (points : List Point) : List Dot :=
  let places := points.map grid.dot?
  places.filterMap id ++ (List.zipWith (fun p q => match p, q with
    | some p, some q => p.line q
    | _, _ => []) places (places.drop 1)).flatten

/-- The patterns of all cells, row after row. -/
def patterns (grid : DotGrid) (dots : List Dot) : Array Nat :=
  dots.foldl (fun cells d =>
    if d.column < 2 * grid.width then
      cells.modify (d.row / 4 * grid.width + d.column / 2) (· ||| d.bit)
    else cells) (.replicate (grid.width * grid.height) 0)

/-- Draws the points of a series in a colour over what the graph shows already. Cells without dots
are left alone. -/
def draw (grid : DotGrid) (color : Color) (points : List Point) (below : Picture) : Picture :=
  let patterns := grid.patterns (grid.dots points)
  below.mapIdx fun r row => row.mapIdx fun c cell =>
    match patterns[r * grid.width + c]? with
    | some pattern =>
      if pattern = 0 then cell
      else cell.write (.inked color) [.ofNat (0x2800 + pattern)]
    | none => cell

end DotGrid

end FleetWatch
