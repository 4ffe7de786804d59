import FleetWatch.Proofs.Console.Runs

/-! # The selection stays among the visible rows

The clusters on view change under the selection from many sides. Nothing but the end of an event and
a change of the filter may shorten them, and both bring the selection back; whatever else moves it
looks at the rows first.
-/

namespace FleetWatch.Console

/-- The selected row is one of the visible ones, or the first when there are none. -/
def InRange (c : Console) : Prop :=
  c.selected < c.visible.length ∨ (c.visible = [] ∧ c.selected = 0)

theorem inRange_iff {c : Console} : InRange c ↔ c.selected ≤ c.visible.length - 1 := by
  unfold InRange
  rw [← List.length_eq_zero_iff]
  omega

theorem clamp_inRange (c : Console) : InRange c.clamp :=
  inRange_iff.mpr (Nat.min_le_right _ _)

theorem visible_congr {c c' : Console} (dashboard : c'.dashboard = c.dashboard)
    (filter : c'.filter = c.filter) : c'.visible = c.visible := by
  simp only [visible, dashboard, filter]

theorem Quiet.inRange {c c' : Console} (h : Quiet c c') (before : InRange c) : InRange c' := by
  induction h with
  | aside dashboard filter selected =>
      rw [inRange_iff, visible_congr dashboard filter, selected]
      exact inRange_iff.mp before
  | select c row inside =>
      have last : c.selected ≤ c.visible.length - 1 := inRange_iff.mp before
      exact inRange_iff.mpr (Nat.le_trans inside (Nat.max_le.mpr ⟨last, Nat.le_refl _⟩))
  -- Whatever the filter leaves, the selection was brought back after it.
  | refilter c filter => exact clamp_inRange _
  | trans _ _ first second => exact second (first before)

theorem inRange_kept : Kept InRange where
  start source := .inr ⟨rfl, rfl⟩
  quiet before change := change.inRange before
  give before := before
  take {c} _ event now := by
    obtain ⟨selected, posted, taken⟩ := take_eq_clamp c event now
    rw [taken]
    exact clamp_inRange _

theorem selected?_eq_none_iff {c : Console} (inside : InRange c) :
    c.selected? = none ↔ c.visible = [] := by
  rw [selected?, List.getElem?_eq_none_iff, ← List.length_eq_zero_iff]
  have row := inRange_iff.mp inside
  omega

/-! ## On words -/

/-- Addition of 64-bit words, where it does not overflow. -/
def addWords? (a b : Nat) : Option Nat := if a + b < 2 ^ 64 then some (a + b) else none

/-- Subtraction of words, where it does not underflow. -/
def subWords? (a b : Nat) : Option Nat := if b ≤ a then some (a - b) else none

/-- `selectNext` on words. -/
def selectNext? (c : Console) (n : Nat) : Option Console :=
  (addWords? c.selected n).map fun row => { c with selected := min row (c.visible.length - 1) }

/-- `clickRow` with its subtractions on words. -/
def clickRow? (c : Console) (row tableHeader : Nat) : Option Console :=
  if c.view = .clusters && tableHeader < row then do
    let line ← subWords? (← subWords? row tableHeader) 1
    some (if c.scroll + line < c.visible.length then { c with selected := c.scroll + line } else c)
  else some c

theorem addWords?_eq {a b : Nat} (fits : a + b < 2 ^ 64) : addWords? a b = some (a + b) :=
  if_pos fits

theorem subWords?_eq {a b : Nat} (fits : b ≤ a) : subWords? a b = some (a - b) := if_pos fits

/-- No list in memory is as long as `2 ^ 63`, so from a visible row on there is room to move. -/
theorem selectNext?_eq {c : Console} (inside : InRange c)
    (bounded : c.dashboard.clusters.length < 2 ^ 63) {n : Nat} (small : n < 2 ^ 63) :
    c.selectNext? n = some (c.selectNext n) := by
  have row : c.selected ≤ c.visible.length - 1 := inRange_iff.mp inside
  have shown : c.visible.length ≤ c.dashboard.clusters.length := List.length_filter_le _ _
  rw [selectNext?, addWords?_eq (by omega), Option.map_some, selectNext]

theorem clickRow?_eq (c : Console) (row tableHeader : Nat) :
    c.clickRow? row tableHeader = some (c.clickRow row tableHeader) := by
  by_cases below : tableHeader < row
  · have first : subWords? row tableHeader = some (row - tableHeader) :=
      subWords?_eq (Nat.le_of_lt below)
    have second : subWords? (row - tableHeader) 1 = some (row - tableHeader - 1) :=
      subWords?_eq (Nat.sub_pos_of_lt below)
    by_cases table : c.view = .clusters
    · simp [clickRow?, clickRow, below, table, first, second]
    · simp [clickRow?, clickRow, table]
  · simp [clickRow?, clickRow, below]

/-- Wherever a run gets to, the selected row is a visible one unless there is none, a cluster is
selected unless none is visible, and moving down and clicking stay within their words. -/
theorem reachable_selection_inRange {c : Console} (h : Reachable c) :
    InRange c ∧ (c.selected? = none ↔ c.visible = []) ∧
      (c.dashboard.clusters.length < 2 ^ 63 →
        ∀ n < 2 ^ 63, c.selectNext? n = some (c.selectNext n)) ∧
      ∀ row tableHeader, c.clickRow? row tableHeader = some (c.clickRow row tableHeader) := by
  have inside : InRange c := inRange_kept.reachable h
  exact ⟨inside, selected?_eq_none_iff inside,
    fun bounded n small => selectNext?_eq inside bounded small, clickRow?_eq c⟩

/-- Two clusters arrived, and the key for the next row was struck. -/
def secondOfTwo : Console :=
  (((start default).drain [(.clusters (.ok [default, default]), default)]).strike
    ⟨.down, false, false, false⟩ (.ok ()) default).console

theorem secondOfTwo_inRange :
    Reachable secondOfTwo ∧ secondOfTwo.visible.length = 2 ∧ secondOfTwo.selected = 1 ∧
      InRange secondOfTwo ∧ secondOfTwo.selected? ≠ none ∧
      secondOfTwo.selectNext? 10 = some (secondOfTwo.selectNext 10) := by
  have reached : Reachable secondOfTwo :=
    (Reachable.step (.start _) (.reload _ _)).step (.key _ _ _ _)
  have listed : secondOfTwo.dashboard.clusters = Cluster.sort [default, default] := rfl
  have shown : secondOfTwo.visible = Cluster.sort [default, default] :=
    List.filter_eq_self.mpr fun _ _ => rfl
  have moved : secondOfTwo.selected = min 1 (secondOfTwo.visible.length - 1) := rfl
  have two : (Cluster.sort [default, default]).length = 2 := List.length_mergeSort _
  rw [shown, two] at moved
  obtain ⟨inside, selects, next, -⟩ := reachable_selection_inRange reached
  refine ⟨reached, by rw [shown, two], moved, inside, ?_, ?_⟩
  · rw [ne_eq, selects, shown, ← List.length_eq_zero_iff, two]
    decide
  · exact next (by rw [listed, two]; decide) 10 (by decide)

end FleetWatch.Console
