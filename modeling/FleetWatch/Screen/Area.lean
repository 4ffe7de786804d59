import FleetWatch.Screen.Picture

/-! # Areas

Rectangles of the screen, and where the boxes go that are laid over it.
-/

namespace FleetWatch

structure Area where
  left : Nat
  top : Nat
  width : Nat
  height : Nat
  deriving Repr, DecidableEq, Inhabited

namespace Area

/-- The column behind the last one. -/
def right (a : Area) : Nat := a.left + a.width

/-- The row below the last one. -/
def bottom (a : Area) : Nat := a.top + a.height

def ofSize (width height : Nat) : Area := ⟨0, 0, width, height⟩

/-- Whether one area lies within another. -/
def Within (a b : Area) : Prop :=
  b.left ≤ a.left ∧ b.top ≤ a.top ∧ a.right ≤ b.right ∧ a.bottom ≤ b.bottom

instance (a b : Area) : Decidable (Within a b) := inferInstanceAs (Decidable (_ ∧ _))

/-- A box in the middle of an area, of a size or smaller: two columns stay free on either side, and
a row above and below. -/
def centered (area : Area) (width height : Nat) : Area :=
  let width := min width (area.width - 4)
  let height := min height (area.height - 2)
  ⟨area.left + (area.width - width) / 2, area.top + (area.height - height) / 2, width, height⟩

end Area

/-- A picture that is drawn to the size of an area, laid over another one there. -/
def Picture.place (area : Area) (drawing : Nat → Nat → Picture) (base : Picture) : Picture :=
  Picture.lay area.left area.top (drawing area.width area.height) base

end FleetWatch
