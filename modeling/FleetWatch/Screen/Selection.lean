import FleetWatch.Screen.Picture

/-! # Selected rows

Lists and tables mark one of their rows as selected. The mark stands in a gutter that all rows
have, and a list that is longer than its space is scrolled only as far as it takes to show the
selected row.
-/

namespace FleetWatch

namespace Selection

def mark : Row := [.ofChar .plain '▶', .blank .plain]

def gutter : Nat := 2

/-- A row with its gutter, in a width; the selected one has a style laid over it. -/
def row (style : Style) (isSelected : Bool) (width : Nat) (inside : Nat → Row) : Row :=
  if isSelected then
    Row.patch style (Row.fit width (mark ++ inside (width - gutter)))
  else Row.fit width (Row.blank gutter .plain ++ inside (width - gutter))

/-- The first row that is shown of those from `first` on, so that the selected one is shown in so
many rows of space. -/
def scroll (first selected space : Nat) : Nat := min selected (max first (selected + 1 - space))

theorem scroll_le (first selected space : Nat) : scroll first selected space ≤ selected :=
  Nat.min_le_left ..

theorem lt_scroll_add (first selected space : Nat) (h : 0 < space) :
    selected < scroll first selected space + space := by
  unfold scroll
  omega

theorem scroll_eq_first {first selected space : Nat} (above : first ≤ selected)
    (below : selected < first + space) : scroll first selected space = first := by
  unfold scroll
  omega

end Selection

end FleetWatch
