import FleetWatch.Console.Keyboard
import FleetWatch.Proofs.Screen.Entries

/-! # Clicks and what is drawn

A click is told by the line it is on, counted from the titles of the table, and by the row that came
first when the screen was last drawn. On a line that shows a cluster this is the cluster that is
shown. The click does not know where the table ends, though: below its rows, on a screen that shows
no table and on the help box it selects the cluster that would stand there if the table went on.
-/

namespace FleetWatch

namespace Screen

/-- The line that the titles of the table stand on. -/
def titlesLine : Nat := 3

/-- Whether the help box covers a place. -/
def IsCovered (c : Console) (width height column row : Nat) : Prop :=
  c.showsHelp = true ∧ (HelpBox.area (.ofSize width height)).Holds column row

instance (c : Console) (width height column row : Nat) :
    Decidable (IsCovered c width height column row) := inferInstanceAs (Decidable (_ ∧ _))

/-- The cluster whose row is drawn at a place, by its row among those that the filter lets
through. -/
def clusterAt? (c : Console) (width height column row : Nat) : Option Nat :=
  if isLargeEnough width height = true ∧ ¬ IsCovered c width height column row then
    match line c width height row with
    | .cluster i _ => some i
    | _ => none
  else none

theorem clusterAt?_of_line {c : Console} {width height : Nat}
    (large : isLargeEnough width height = true) {column row : Nat}
    (uncovered : ¬ IsCovered c width height column row) {i : Nat} {cluster : Cluster}
    (shown : line c width height row = .cluster i cluster) :
    clusterAt? c width height column row = some i := by
  rw [clusterAt?, if_pos ⟨large, uncovered⟩, shown]

theorem line_of_clusterAt? {c : Console} {width height column row i : Nat}
    (drawn : clusterAt? c width height column row = some i) :
    isLargeEnough width height = true ∧ ¬ IsCovered c width height column row ∧
      ∃ cluster, line c width height row = .cluster i cluster := by
  unfold clusterAt? at drawn
  split at drawn
  case isFalse => cases drawn
  case isTrue seen =>
    split at drawn
    case h_1 i' cluster shown =>
      cases drawn
      exact ⟨seen.1, seen.2, cluster, shown⟩
    case h_2 => cases drawn

/-- Where a cluster's row is drawn, the cells of that row are seen. -/
theorem cell?_of_clusterAt? (look : Look) {c : Console} (table : c.view = .clusters)
    {width height column row i : Nat} (drawn : clusterAt? c width height column row = some i) :
    ∃ cluster, c.visible[i]? = some cluster ∧
      (picture look c width height).cell? column row =
        ((Line.cluster i cluster).draw look c width)[column]? := by
  obtain ⟨large, uncovered, cluster, shown⟩ := line_of_clusterAt? drawn
  obtain ⟨-, onScreen, -, held⟩ := bounds_of_line shown
  refine ⟨cluster, held, ?_⟩
  have behindBox : (behind look c width height).cell? column row =
      ((Line.cluster i cluster).draw look c width)[column]? := by
    rw [Picture.cell?, behind_line look table large (by omega), shown, Option.bind_some]
  rw [picture, if_pos large]
  split
  case isTrue help =>
    have besideBox : ¬ (HelpBox.area (.ofSize width height)).Holds column row := fun inBox =>
      uncovered ⟨help, inBox⟩
    rw [Picture.cell?_place_of_outside (HelpBox.hasSize_picture ..)
      (hasSize_behind look table large) (HelpBox.area_within width height) besideBox, behindBox]
  case isFalse => exact behindBox

end Screen

namespace Console

variable {c : Console}

theorem scroll_afterDrawing (table : c.view = .clusters) {width height : Nat}
    (large : Screen.isLargeEnough width height = true) :
    (c.afterDrawing width height).scroll =
      ClusterTable.first c width (Screen.viewHeight height) := by
  rw [afterDrawing, large, table]
  rfl

/-- Where a click looks for a cluster, its row is drawn, as long as the line is in the table. -/
theorem line_afterDrawing (table : c.view = .clusters) {width height row : Nat}
    (large : Screen.isLargeEnough width height = true) (below : 4 ≤ row) (above : row + 2 < height)
    {cluster : Cluster}
    (left : c.visible[(c.afterDrawing width height).scroll + (row - 4)]? = some cluster) :
    Screen.line c width height row =
      .cluster ((c.afterDrawing width height).scroll + (row - 4)) cluster := by
  obtain ⟨place, rfl⟩ := Nat.exists_eq_add_of_le' below
  have inside : place + 6 < height := above
  rw [scroll_afterDrawing table large, Nat.add_sub_cancel] at left ⊢
  rw [Screen.line_of_place c width inside, left, Option.elim_some]

theorem afterDrawing_frame (c : Console) (width height : Nat) :
    (c.afterDrawing width height).view = c.view ∧
      (c.afterDrawing width height).visible = c.visible ∧
      (c.afterDrawing width height).selected = c.selected := by
  unfold afterDrawing
  split <;> exact ⟨rfl, rfl, rfl⟩

theorem clickTab_frame (c : Console) (column row : Nat) :
    (c.clickTab column row).selected = c.selected ∧
      (c.clickTab column row).visible = c.visible := by
  unfold clickTab
  repeat' split
  all_goals exact ⟨rfl, rfl⟩

theorem clickRow_eq (table : c.view = .clusters) (row : Nat) :
    c.clickRow row Screen.titlesLine =
      if 4 ≤ row ∧ c.scroll + (row - 4) < c.visible.length then
        { c with selected := c.scroll + (row - 4) }
      else c := by
  have place : row - Screen.titlesLine - 1 = row - 4 := Nat.sub_sub row 3 1
  have below : Screen.titlesLine < row ↔ 4 ≤ row := Iff.rfl
  simp only [clickRow, table, place, below, decide_true, Bool.true_and, Bool.and_eq_true,
    decide_eq_true_eq]

/-- What a click comes to in the cluster table, wherever it is. -/
theorem selected_click (table : c.view = .clusters) (column row : Nat) :
    (c.mouse ⟨.press .left, column, row⟩ Screen.titlesLine).selected =
      if 4 ≤ row ∧ c.scroll + (row - 4) < c.visible.length then c.scroll + (row - 4)
      else c.selected := by
  calc (c.mouse ⟨.press .left, column, row⟩ Screen.titlesLine).selected
    _ = (c.clickRow row Screen.titlesLine).selected := (clickTab_frame ..).1
    _ = _ := by
      rw [clickRow_eq table]
      split <;> rfl

theorem visible_click (table : c.view = .clusters) (column row : Nat) :
    (c.mouse ⟨.press .left, column, row⟩ Screen.titlesLine).visible = c.visible := by
  calc (c.mouse ⟨.press .left, column, row⟩ Screen.titlesLine).visible
    _ = (c.clickRow row Screen.titlesLine).visible := (clickTab_frame ..).2
    _ = c.visible := by
      rw [clickRow_eq table]
      split <;> rfl

theorem row_picture (look : Look) (table : c.view = .clusters) (noHelp : c.showsHelp = false)
    {width height row : Nat} (large : Screen.isLargeEnough width height = true) (below : 4 ≤ row)
    (above : row + 2 < height) {cluster : Cluster}
    (left : c.visible[(c.afterDrawing width height).scroll + (row - 4)]? = some cluster) :
    (Screen.picture look c width height)[row]? =
      some (Frame.middle (.inked look.theme.border) width
        (ClusterTable.clusterRow look.theme
          ((c.afterDrawing width height).scroll + (row - 4) = ClusterTable.selected c) cluster
          (width - 2))) := by
  have onScreen : row < height := Nat.lt_of_add_right_lt above
  rw [Screen.picture, if_pos large, noHelp, if_neg Bool.false_ne_true,
    Screen.behind_line look table large onScreen,
    line_afterDrawing table large below above left]
  rfl

/-- After drawing, every line of the table with a cluster left for it shows the row of that cluster,
where its name can be read if it fits into its column, and a click on the line selects this cluster.
-/
theorem click_selects_drawn_row (look : Look) (table : c.view = .clusters)
    (noHelp : c.showsHelp = false) {width height : Nat} (wide : 60 ≤ width) (tall : 16 ≤ height)
    {row : Nat} (below : 4 ≤ row) (above : row ≤ height - 3) {cluster : Cluster}
    (left : c.visible[(c.afterDrawing width height).scroll + (row - 4)]? = some cluster) :
    let drawn := c.afterDrawing width height
    let i := drawn.scroll + (row - 4)
    let columns := ClusterTable.nameWidth (width - 2)
    (Screen.picture look c width height)[row]? =
      some (Frame.middle (.inked look.theme.border) width
        (ClusterTable.clusterRow look.theme (i = ClusterTable.selected c) cluster (width - 2))) ∧
    (Text.FitsIn cluster.name.toList columns →
      ((Screen.picture look c width height)[row]?.map fun shown =>
        Row.text ((shown.drop (Selection.gutter + 1)).take columns)) =
          some (cluster.name.toList ++
            List.replicate (columns - (Text.glyphs cluster.name.toList).length) ' ')) ∧
    ∀ column,
      let clicked := drawn.mouse ⟨.press .left, column, row⟩ Screen.titlesLine
      clicked.selected = i ∧ clicked.selected? = some cluster := by
  intro drawn i columns
  have large : Screen.isLargeEnough width height = true := Screen.isLargeEnough_iff.mpr ⟨wide, tall⟩
  have inTable : row + 2 < height := by omega
  have shown := row_picture look table noHelp large below inTable left
  refine ⟨shown, fun fits => ?_, ?_⟩
  · rw [shown, Option.map_some]
    exact congrArg some (ClusterTable.text_name_middle _ _ _ (by omega) fits)
  · intro column clicked
    obtain ⟨view, visible, -⟩ := afterDrawing_frame c width height
    have hit : i < drawn.visible.length := by
      rw [visible]
      exact (List.getElem?_eq_some_iff.mp left).1
    have selected : clicked.selected = i := by
      rw [selected_click (view.trans table), if_pos ⟨below, hit⟩]
    refine ⟨selected, ?_⟩
    rw [selected?, selected, visible_click (view.trans table), visible]
    exact left

/-- Twelve clusters are on view, each with a letter for its name, and the first one is selected. -/
def twelve : Console :=
  let opened := start default
  let clusters := "abcdefghijkl".toList.map fun c =>
    { (default : Cluster) with name := .singleton c }
  { opened with view := .clusters, dashboard := { opened.dashboard with clusters := clusters } }

/-- The table was scrolled by two rows, so that its fifth line shows the seventh cluster. -/
theorem twelve_click_on_fifth :
    let c := { twelve with scroll := 2, selected := 5 }
    let seventh : Cluster := { (default : Cluster) with name := "g" }
    c.view = .clusters ∧ c.showsHelp = false ∧ (c.afterDrawing 60 16).scroll = 2 ∧
      c.visible[(c.afterDrawing 60 16).scroll + (8 - 4)]? = some seventh ∧
      ((Screen.picture ⟨.dark, {}, 0⟩ c 60 16)[8]?.map fun shown =>
        Row.text ((shown.drop 3).take 9)) = some "g        ".toList ∧
      ∀ column,
        let clicked := (c.afterDrawing 60 16).mouse ⟨.press .left, column, 8⟩ Screen.titlesLine
        clicked.selected = 6 ∧ clicked.selected? = some seventh := by
  intro c seventh
  have scroll : (c.afterDrawing 60 16).scroll = 2 := by decide
  have left : c.visible[(c.afterDrawing 60 16).scroll + (8 - 4)]? = some seventh := by
    decide
  obtain ⟨-, named, selects⟩ := click_selects_drawn_row ⟨.dark, {}, 0⟩ rfl rfl (by decide)
    (by decide) (by decide) (by decide) left
  have columns : ClusterTable.nameWidth (60 - 2) = 9 := by decide
  have blanks : seventh.name.toList ++
      List.replicate (9 - (Text.glyphs seventh.name.toList).length) ' ' = "g        ".toList := by
    decide
  have letter : seventh.name.toList = ['g'] := by decide
  have printable : ∀ c ∈ seventh.name.toList, Text.IsPrintable c :=
    letter ▸ List.forall_mem_singleton.mpr (by decide)
  rw [columns] at named
  refine ⟨rfl, rfl, scroll, left, ?_, fun column => ?_⟩
  · exact (named (Text.fitsIn_of_printable printable (by decide))).trans (congrArg some blanks)
  · exact ⟨(selects column).1.trans (congrArg (· + 4) scroll), (selects column).2⟩

theorem clusterAt?_ne_next (table : c.view = .clusters) {width height row : Nat} (below : 4 ≤ row)
    (off : Screen.isLargeEnough width height = false ∨ height ≤ row + 2) (column line : Nat) :
    Screen.clusterAt? c width height column line ≠
      some ((c.afterDrawing width height).scroll + (row - 4)) := by
  intro drawn
  obtain ⟨large, -, cluster, shown⟩ := Screen.line_of_clusterAt? drawn
  obtain ⟨belowTitles, onScreen, same, -⟩ := Screen.bounds_of_line shown
  rw [scroll_afterDrawing table large] at same
  rcases off with small | under
  · rw [large] at small
    cases small
  · omega

/-- Beside the rows that are drawn a click selects the cluster that would stand on its line if the
table went on, if there is one. Above the lower side of a table that is drawn and not covered there
is none, and the selection stays. Elsewhere but on the help box the cluster is out of sight. -/
theorem click_beside_rows (table : c.view = .clusters) {width height column row : Nat}
    (beside : Screen.clusterAt? c width height column row = none) :
    let drawn := c.afterDrawing width height
    let next := drawn.scroll + (row - 4)
    let clicked := drawn.mouse ⟨.press .left, column, row⟩ Screen.titlesLine
    clicked.selected = (if 4 ≤ row ∧ next < c.visible.length then next else c.selected) ∧
      (Screen.isLargeEnough width height = true → ¬ Screen.IsCovered c width height column row →
        row + 2 < height → clicked.selected = c.selected) ∧
      (4 ≤ row → Screen.isLargeEnough width height = false ∨ height ≤ row + 2 →
        ∀ x y, Screen.clusterAt? c width height x y ≠ some next) := by
  intro drawn next clicked
  obtain ⟨view, visible, selected⟩ := afterDrawing_frame c width height
  have selects : clicked.selected =
      if 4 ≤ row ∧ next < c.visible.length then next else c.selected := by
    rw [selected_click (view.trans table), visible, selected]
  refine ⟨selects, fun large uncovered above => ?_, clusterAt?_ne_next table⟩
  rw [selects]
  refine if_neg ?_
  rintro ⟨below, left⟩
  have line := line_afterDrawing table large below above (List.getElem?_eq_getElem left)
  rw [Screen.clusterAt?_of_line large uncovered line] at beside
  cases beside

theorem twelve_click_on_titles :
    twelve.view = .clusters ∧ Screen.clusterAt? twelve 60 16 5 3 = none ∧
      ((twelve.afterDrawing 60 16).mouse ⟨.press .left, 5, 3⟩ Screen.titlesLine).selected = 0 := by
  have beside : Screen.clusterAt? twelve 60 16 5 3 = none := by decide
  exact ⟨rfl, beside, (click_beside_rows rfl beside).2.1 (by decide) (by decide) (by decide)⟩

/-- A click on the lower side of the frame selects a cluster that no place shows. -/
theorem twelve_click_on_frame :
    Screen.clusterAt? twelve 60 16 5 14 = none ∧ twelve.selected = 0 ∧
      ((twelve.afterDrawing 60 16).mouse ⟨.press .left, 5, 14⟩ Screen.titlesLine).selected =
        10 := by
  decide

end Console
end FleetWatch
