import FleetWatch.Proofs.Console.Selection
import FleetWatch.Proofs.Screen.Clicks

/-! # The table scrolls with the selection

Drawing starts from whatever row came first the last time, on a screen of another size perhaps and
with other clusters on view. It moves no further than it takes to have the selected row in sight, so
one drawing is enough: the next one finds the row in sight and shows the same screen.
-/

namespace FleetWatch

namespace Selection

variable {first selected space : Nat}

theorem scroll_scroll (inside : 0 < space) :
    scroll (scroll first selected space) selected space = scroll first selected space :=
  scroll_eq_first (scroll_le ..) (lt_scroll_add _ _ _ inside)

end Selection

namespace Console

def scrolledTo (c : Console) (row : Nat) : Console := { c with scroll := row }

variable (c : Console) (row : Nat)

@[simp] theorem visible_scrolledTo : (c.scrolledTo row).visible = c.visible := rfl

@[simp] theorem selected_scrolledTo : (c.scrolledTo row).selected = c.selected := rfl

@[simp] theorem view_scrolledTo : (c.scrolledTo row).view = c.view := rfl

@[simp] theorem showsHelp_scrolledTo : (c.scrolledTo row).showsHelp = c.showsHelp := rfl

@[simp] theorem scroll_scrolledTo : (c.scrolledTo row).scroll = row := rfl

end Console

namespace ClusterTable

variable {c : Console} {width height : Nat}

theorem selected_eq (inside : c.InRange) : selected c = c.selected :=
  Nat.min_eq_left (Console.inRange_iff.mp inside)

@[simp] theorem selected_scrolledTo (c : Console) (row : Nat) :
    selected (c.scrolledTo row) = selected c := rfl

theorem first_eq_scroll (shown : c.visible ≠ []) (wide : 2 < width) (tall : 2 < height) :
    first c width height =
      Selection.scroll (min c.scroll (c.visible.length - 1)) (selected c) (space height) := by
  have filled : c.visible.isEmpty ≠ true := by simpa using shown
  refine if_neg ?_
  rintro (narrow | low | none)
  · omega
  · omega
  · exact filled none

theorem first_scrolledTo_first (shown : c.visible ≠ []) (wide : 2 < width) (tall : 3 < height) :
    first (c.scrolledTo (first c width height)) width height = first c width height := by
  have low : 2 < height := Nat.lt_of_succ_lt tall
  have inside : 0 < space height := Nat.sub_pos_of_lt tall
  have last : first c width height ≤ c.visible.length - 1 := by
    rw [first_eq_scroll shown wide low]
    exact Nat.le_trans (Selection.scroll_le ..) (Nat.min_le_right ..)
  rw [first_eq_scroll (c := c.scrolledTo (first c width height)) shown wide low,
    Console.scroll_scrolledTo, Console.visible_scrolledTo, selected_scrolledTo,
    Nat.min_eq_left last, first_eq_scroll shown wide low]
  exact Selection.scroll_scroll inside

theorem picture_scrolledTo (theme : Theme) {row : Nat}
    (same : first (c.scrolledTo row) width height = first c width height) :
    picture theme (c.scrolledTo row) width height = picture theme c width height := by
  simp only [picture, covered, same, Console.visible_scrolledTo, selected_scrolledTo]
  rfl

end ClusterTable

namespace Console

variable {c : Console} {width height : Nat}

theorem afterDrawing_eq (table : c.view = .clusters)
    (large : Screen.isLargeEnough width height = true) :
    c.afterDrawing width height =
      c.scrolledTo (ClusterTable.first c width (Screen.viewHeight height)) := by
  rw [afterDrawing, large, table]
  rfl

theorem afterDrawing_eq_self
    (aside : c.view = .overview ∨ Screen.isLargeEnough width height = false) :
    c.afterDrawing width height = c := by
  rcases aside with overview | small
  · rw [afterDrawing, overview]
    simp
  · rw [afterDrawing, small]
    rfl

/-- A second drawing finds the table where it leaves it. -/
theorem first_afterDrawing (table : c.view = .clusters) (shown : c.visible ≠ [])
    (large : Screen.isLargeEnough width height = true) :
    ClusterTable.first (c.afterDrawing width height) width (Screen.viewHeight height) =
      ClusterTable.first c width (Screen.viewHeight height) := by
  obtain ⟨wide, tall⟩ := Screen.isLargeEnough_iff.mp large
  have tableTall : 3 < Screen.viewHeight height := by
    unfold Screen.viewHeight
    omega
  rw [afterDrawing_eq table large]
  exact ClusterTable.first_scrolledTo_first shown (by omega) tableTall

theorem afterDrawing_afterDrawing (table : c.view = .clusters) (shown : c.visible ≠ [])
    (large : Screen.isLargeEnough width height = true) :
    (c.afterDrawing width height).afterDrawing width height = c.afterDrawing width height := by
  have view : (c.afterDrawing width height).view = c.view := (afterDrawing_frame ..).1
  rw [afterDrawing_eq (view.trans table) large, first_afterDrawing table shown large,
    afterDrawing_eq table large]
  rfl

theorem picture_afterDrawing (look : Look) (table : c.view = .clusters) (shown : c.visible ≠ [])
    (large : Screen.isLargeEnough width height = true) :
    Screen.picture look (c.afterDrawing width height) width height =
      Screen.picture look c width height := by
  have still := first_afterDrawing table shown large
  rw [afterDrawing_eq table large] at still ⊢
  have behind : Screen.behind look (c.scrolledTo (ClusterTable.first c width
      (Screen.viewHeight height))) width height = Screen.behind look c width height := by
    simp only [Screen.behind, Screen.view, view_scrolledTo, table,
      ClusterTable.picture_scrolledTo look.theme still]
    rfl
  rw [Screen.picture, Screen.picture, behind, showsHelp_scrolledTo]

/-- A drawing of the table has the selected row in sight, and the line where it stands shows it. -/
theorem line_of_selected (inside : c.InRange) (table : c.view = .clusters) (shown : c.visible ≠ [])
    (large : Screen.isLargeEnough width height = true) :
    (c.afterDrawing width height).scroll ≤ c.selected ∧
      c.selected < (c.afterDrawing width height).scroll + (height - 6) ∧
      ∃ cluster, c.selected? = some cluster ∧
        Screen.line c width height (4 + (c.selected - (c.afterDrawing width height).scroll)) =
          .cluster c.selected cluster := by
  obtain ⟨wide, tall⟩ := Screen.isLargeEnough_iff.mp large
  have rows : ClusterTable.space (Screen.viewHeight height) = height - 6 := by
    unfold ClusterTable.space Screen.viewHeight
    omega
  have tableTall : 2 < Screen.viewHeight height := by
    unfold Screen.viewHeight
    omega
  have start := ClusterTable.first_eq_scroll shown (by omega : 2 < width) tableTall
  rw [ClusterTable.selected_eq inside, rows, ← scroll_afterDrawing table large] at start
  have above : (c.afterDrawing width height).scroll ≤ c.selected := by
    rw [start]
    exact Selection.scroll_le ..
  have below : c.selected < (c.afterDrawing width height).scroll + (height - 6) := by
    rw [start]
    exact Selection.lt_scroll_add _ _ _ (by omega)
  obtain ⟨cluster, held⟩ : ∃ cluster, c.selected? = some cluster :=
    Option.ne_none_iff_exists'.mp (mt (selected?_eq_none_iff inside).mp shown)
  refine ⟨above, below, cluster, held, ?_⟩
  have place : (c.afterDrawing width height).scroll +
      (4 + (c.selected - (c.afterDrawing width height).scroll) - 4) = c.selected := by omega
  have left : c.visible[(c.afterDrawing width height).scroll +
      (4 + (c.selected - (c.afterDrawing width height).scroll) - 4)]? = some cluster := by
    rwa [place]
  have line := line_afterDrawing table large (by omega) (by omega) left
  rwa [place] at line

/-- Wherever a run gets to and wherever its table was scrolled to, drawing the table puts the row of
the selected cluster on one of its lines, and drawing it again changes nothing, neither on the
screen nor in what is remembered. Drawing anything else does not touch where the table was. -/
theorem reachable_selection_drawn {c : Console} (h : Reachable c) (row : Nat) {width height : Nat} :
    let scrolled := c.scrolledTo row
    let drawn := scrolled.afterDrawing width height
    (c.view = .clusters → c.visible ≠ [] → 60 ≤ width → 16 ≤ height →
      (drawn.scroll ≤ drawn.selected ∧ drawn.selected < drawn.scroll + (height - 6) ∧
        drawn.scroll < drawn.visible.length) ∧
      (∃ cluster, drawn.selected? = some cluster ∧
        Screen.line scrolled width height (4 + (drawn.selected - drawn.scroll)) =
          .cluster drawn.selected cluster) ∧
      (drawn.afterDrawing width height).scroll = drawn.scroll ∧
      ∀ look, Screen.picture look drawn width height =
        Screen.picture look scrolled width height) ∧
    (c.view = .overview ∨ width < 60 ∨ height < 16 → drawn.scroll = row) := by
  intro scrolled drawn
  constructor
  · intro table shown wide tall
    have large : Screen.isLargeEnough width height = true :=
      Screen.isLargeEnough_iff.mpr ⟨wide, tall⟩
    have inside : scrolled.InRange := inRange_kept.reachable (h.step (.draw c row))
    obtain ⟨above, below, cluster, held, line⟩ :=
      line_of_selected (c := scrolled) inside table shown large
    obtain ⟨-, visible, selected⟩ := afterDrawing_frame scrolled width height
    have last : c.selected ≤ c.visible.length - 1 := inRange_iff.mp inside
    have filled : 0 < c.visible.length := List.length_pos_iff.mpr shown
    refine ⟨⟨?_, ?_, ?_⟩, ⟨cluster, ?_, ?_⟩, ?_, ?_⟩
    · rwa [selected]
    · rwa [selected]
    · rw [visible]
      exact Nat.lt_of_le_of_lt above (show c.selected < c.visible.length by omega)
    · rwa [selected?, visible, selected]
    · rwa [selected]
    · exact congrArg scroll (afterDrawing_afterDrawing table shown large)
    · exact fun look => picture_afterDrawing look table shown large
  · intro aside
    have still : c.view = .overview ∨ Screen.isLargeEnough width height = false := by
      refine aside.imp_right fun small => ?_
      rw [Bool.eq_false_iff, ne_eq, Screen.isLargeEnough_iff]
      omega
    rw [show drawn = scrolled from afterDrawing_eq_self still]
    rfl

/-- Twelve clusters arrived, and the keys for the table and for its last row were struck. -/
def lastOfTwelve : Console :=
  let loaded := (start default).drain [(.clusters (.ok (List.replicate 12 default)), default)]
  let table := (loaded.strike ⟨.character '2', false, false, false⟩ (.ok ()) default).console
  (table.strike ⟨.toEnd, false, false, false⟩ (.ok ()) default).console

/-- The table was left at its first row, from where the last one is out of sight. -/
theorem lastOfTwelve_drawn :
    let drawn := (lastOfTwelve.scrolledTo 0).afterDrawing 60 16
    Reachable lastOfTwelve ∧ lastOfTwelve.view = .clusters ∧ lastOfTwelve.visible ≠ [] ∧
      drawn.selected = 11 ∧ drawn.scroll ≤ 11 ∧ 11 < drawn.scroll + 10 ∧
      (drawn.afterDrawing 60 16).scroll = drawn.scroll := by
  intro drawn
  have reached : Reachable lastOfTwelve :=
    (((Reachable.start _).step (.reload _ _)).step (.key _ _ _ _)).step (.key _ _ _ _)
  have listed : lastOfTwelve.visible = Cluster.sort (List.replicate 12 default) :=
    List.filter_eq_self.mpr fun _ _ => rfl
  have twelve : lastOfTwelve.visible.length = 12 := by
    rw [listed]
    exact List.length_mergeSort _
  have last : lastOfTwelve.selected = lastOfTwelve.visible.length - 1 := rfl
  have shown : lastOfTwelve.visible ≠ [] := by
    rw [← List.length_pos_iff, twelve]
    decide
  have selected : drawn.selected = 11 := by
    rw [(afterDrawing_frame ..).2.2, selected_scrolledTo, last, twelve]
  obtain ⟨⟨above, below, -⟩, -, still, -⟩ :=
    (reachable_selection_drawn reached 0).1 rfl shown (by decide : 60 ≤ 60) (by decide : 16 ≤ 16)
  rw [selected] at above below
  exact ⟨reached, rfl, shown, selected, above, below, still⟩

end Console

end FleetWatch
