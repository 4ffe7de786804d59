import FleetWatch.Proofs.Screen.Overlay
import FleetWatch.Screen

/-! # The lines of the cluster table's screen

On a screen that is large enough the bars, the sides of the frame and the titles have fixed lines.
Each line between the titles and the lower side shows the cluster behind the one above it, or
nothing when no cluster is left. A table of any size is drawn line by line in this way.
-/

namespace FleetWatch

/-! ## Pictures by their rows -/

namespace Picture

theorem framed_of_tall (kind : FrameKind) (style : Style) (title : Label) (width : Nat)
    {height : Nat} (tall : 2 ≤ height) (inside : Nat → Nat → Picture) :
    framed kind style title width height inside =
      Frame.top kind style title width ::
        (inside (width - 2) (height - 2)).map (Frame.middle style width) ++
          [Frame.bottom kind style width] := by
  obtain ⟨rest, rfl⟩ := Nat.exists_eq_add_of_le' tall
  rfl

theorem fit_of_short (width : Nat) {height : Nat} {rows : Picture} (short : rows.length ≤ height) :
    fit width height rows = rows ++ blank width (height - rows.length) := by
  rw [fit, List.take_of_length_le short]

theorem eq_singleton {picture : Picture} (single : picture.length = 1) :
    picture = [picture.headD []] := by
  obtain ⟨row, rfl⟩ := List.length_eq_one_iff.mp single
  rfl

end Picture

/-! ## The table -/

namespace ClusterTable

theorem covered_of_wide {c : Console} {width : Nat} (wide : width ≠ 3) (height : Nat)
    (framed : Picture) : covered c width height framed = framed := by
  rw [covered, if_neg fun narrow => wide narrow.1]

/-- The rows below the titles of a table: those of its clusters, and blank ones behind them. -/
def rows (theme : Theme) (c : Console) (start width space : Nat) : Picture :=
  let body := body theme c start width space
  body ++ .blank width (space - body.length)

theorem length_body_le (theme : Theme) (c : Console) (start width space : Nat) :
    (body theme c start width space).length ≤ space := by
  rw [body, List.length_map]
  exact List.length_take_le ..

theorem length_rows (theme : Theme) (c : Console) (start width space : Nat) :
    (rows theme c start width space).length = space := by
  have short := length_body_le theme c start width space
  rw [rows, List.length_append, Picture.length_blank]
  omega

theorem getElem?_body (theme : Theme) (c : Console) (start width : Nat) {space place : Nat}
    (inside : place < space) :
    (body theme c start width space)[place]? =
      c.visible[start + place]?.map fun cluster =>
        clusterRow theme (start + place = selected c) cluster width := by
  simp [body, List.getElem?_take_of_lt inside, List.getElem?_drop, List.getElem?_zipIdx,
    Function.comp_def]

theorem getElem?_rows_of_some (theme : Theme) {c : Console} {start place : Nat} {cluster : Cluster}
    (shown : c.visible[start + place]? = some cluster) (width : Nat) {space : Nat}
    (inside : place < space) :
    (rows theme c start width space)[place]? =
      some (clusterRow theme (start + place = selected c) cluster width) := by
  have drawn := getElem?_body theme c start width inside
  rw [shown, Option.map_some] at drawn
  rw [rows, List.getElem?_append_left (List.getElem?_eq_some_iff.mp drawn).1, drawn]

theorem getElem?_rows_of_none (theme : Theme) {c : Console} {start place : Nat}
    (none : c.visible[start + place]? = none) (width : Nat) {space : Nat}
    (inside : place < space) :
    (rows theme c start width space)[place]? = some (.blank width .plain) := by
  have drawn := getElem?_body theme c start width inside
  rw [none, Option.map_none, List.getElem?_eq_none_iff] at drawn
  rw [rows, List.getElem?_append_right drawn, Picture.blank,
    List.getElem?_replicate_of_lt (by omega)]

theorem picture_eq (theme : Theme) (c : Console) {width height : Nat} (wide : width ≠ 3)
    (tall : 3 ≤ height) :
    picture theme c width height =
      Frame.top theme.frame (.inked theme.border) (Frame.title (title c)) width ::
        Frame.middle (.inked theme.border) width
          (header theme (!c.visible.isEmpty) (width - 2)) ::
        ((rows theme c (first c width height) (width - 2) (space height)).map
          (Frame.middle (.inked theme.border) width) ++
          [Frame.bottom theme.frame (.inked theme.border) width]) := by
  have short := length_body_le theme c (first c width height) (width - 2) (space height)
  have fits : (body theme c (first c width height) (width - 2) (space height)).length + 1 ≤
      height - 2 := by
    unfold space at short ⊢
    omega
  have left : ∀ n, height - 2 - (n + 1) = space height - n := by
    intro n
    unfold space
    omega
  rw [picture, covered_of_wide wide, Picture.framed_of_tall _ _ _ _ (by omega),
    Picture.fit_of_short _ (by simpa using fits), List.length_cons, left]
  rfl

theorem length_clusterRow (theme : Theme) (isSelected : Bool) (cluster : Cluster) (width : Nat) :
    (clusterRow theme isSelected cluster width).length = width := by
  unfold clusterRow Selection.row
  split <;> simp

theorem length_header (theme : Theme) (hasRows : Bool) (width : Nat) :
    (header theme hasRows width).length = width := by
  simp [header]

theorem hasSize_picture (theme : Theme) (c : Console) {width : Nat} (wide : width ≠ 3)
    (height : Nat) : (picture theme c width height).HasSize width height := by
  rw [picture, covered_of_wide wide]
  refine Picture.hasSize_framed _ _ _ fun inner rows => Picture.hasSize_fit rows ?_
  intro row listed
  rcases List.mem_cons.mp listed with rfl | drawn
  · exact length_header ..
  · obtain ⟨⟨cluster, i⟩, -, rfl⟩ := List.mem_map.mp drawn
    exact length_clusterRow ..

end ClusterTable

/-! ## The screen -/

namespace Screen

/-- What a line of the screen shows while the clusters are on view. -/
inductive Line where
  | header
  | tabs
  | tableTop
  | titles
  /-- A cluster, by its row among those that the filter lets through. -/
  | cluster (row : Nat) (cluster : Cluster)
  | empty
  | tableBottom
  | status

/-- What a line of a screen that is large enough shows. -/
def line (c : Console) (width height : Nat) : Nat → Line
  | 0 => .header
  | 1 => .tabs
  | 2 => .tableTop
  | 3 => .titles
  | place + 4 =>
    if place < ClusterTable.space (viewHeight height) then
      let row := ClusterTable.first c width (viewHeight height) + place
      c.visible[row]?.elim .empty (.cluster row)
    else if place = ClusterTable.space (viewHeight height) then .tableBottom
    else .status

def Line.draw (look : Look) (c : Console) (width : Nat) : Line → Row
  | .header => (Bars.header look.theme c.dashboard width 1).headD []
  | .tabs => (Bars.tabs look.theme c.view width 1).headD []
  | .tableTop =>
    Frame.top look.theme.frame (.inked look.theme.border) (Frame.title (ClusterTable.title c)) width
  | .titles =>
    Frame.middle (.inked look.theme.border) width
      (ClusterTable.header look.theme (!c.visible.isEmpty) (width - 2))
  | .cluster row shown =>
    Frame.middle (.inked look.theme.border) width
      (ClusterTable.clusterRow look.theme (row = ClusterTable.selected c) shown (width - 2))
  | .empty => Frame.middle (.inked look.theme.border) width (.blank (width - 2) .plain)
  | .tableBottom => Frame.bottom look.theme.frame (.inked look.theme.border) width
  | .status => (Bars.status look.theme c look.steady width 1).headD []

theorem isLargeEnough_iff {width height : Nat} :
    isLargeEnough width height = true ↔ 60 ≤ width ∧ 16 ≤ height := by
  rw [isLargeEnough, Bool.and_eq_true, decide_eq_true_iff, decide_eq_true_iff]
  rfl

theorem hasSize_behind (look : Look) {c : Console} (table : c.view = .clusters) {width height : Nat}
    (large : isLargeEnough width height = true) :
    (behind look c width height).HasSize width height := by
  obtain ⟨wide, tall⟩ := isLargeEnough_iff.mp large
  have shown : (view look c width (viewHeight height)).HasSize width (viewHeight height) := by
    rw [view, table]
    exact ClusterTable.hasSize_picture look.theme c (by omega) _
  have whole : 1 + 1 + viewHeight height + 1 = height := by
    unfold viewHeight
    omega
  have header : (Bars.header look.theme c.dashboard width 1).HasSize width 1 :=
    Picture.hasSize_ofLabels ..
  have tabs : (Bars.tabs look.theme c.view width 1).HasSize width 1 := Picture.hasSize_ofLabels ..
  have status : (Bars.status look.theme c look.steady width 1).HasSize width 1 :=
    Picture.hasSize_ofLabels ..
  have sized := ((header.append tabs).append shown).append status
  rwa [whole] at sized

theorem line_of_place (c : Console) (width : Nat) {height place : Nat}
    (inside : place + 6 < height) :
    line c width height (place + 4) =
      c.visible[ClusterTable.first c width (viewHeight height) + place]?.elim .empty
        (.cluster (ClusterTable.first c width (viewHeight height) + place)) := by
  have inTable : place < ClusterTable.space (viewHeight height) := by
    unfold ClusterTable.space viewHeight
    omega
  rw [line, if_pos inTable]

theorem bounds_of_line {c : Console} {width height row i : Nat} {cluster : Cluster}
    (shown : line c width height row = .cluster i cluster) :
    4 ≤ row ∧ row + 2 < height ∧
      i = ClusterTable.first c width (viewHeight height) + (row - 4) ∧
      c.visible[i]? = some cluster := by
  match row with
  | 0 | 1 | 2 | 3 => cases shown
  | place + 4 =>
    have inTable : place + 6 < height := by
      refine Decidable.byContradiction fun outside => ?_
      -- Only the lower side of the frame and the status line are left there.
      have below : ¬ place < ClusterTable.space (viewHeight height) := by
        unfold ClusterTable.space viewHeight
        omega
      rw [line, if_neg below] at shown
      split at shown <;> cases shown
    rw [line_of_place c width inTable] at shown
    cases held : c.visible[ClusterTable.first c width (viewHeight height) + place]? with
    | none =>
        rw [held] at shown
        cases shown
    | some other =>
        rw [held] at shown
        cases shown
        exact ⟨Nat.le_add_left .., by omega, rfl, held⟩

theorem draw_line_below_titles (look : Look) (c : Console) (width height place : Nat)
    (inside : place < ClusterTable.space (viewHeight height) + 2) :
    ((ClusterTable.rows look.theme c (ClusterTable.first c width (viewHeight height)) (width - 2)
        (ClusterTable.space (viewHeight height))).map
      (Frame.middle (.inked look.theme.border) width) ++
        [Line.draw look c width .tableBottom, Line.draw look c width .status])[place]? =
      some ((line c width height (place + 4)).draw look c width) := by
  have length := ClusterTable.length_rows look.theme c
    (ClusterTable.first c width (viewHeight height)) (width - 2)
    (ClusterTable.space (viewHeight height))
  by_cases body : place < ClusterTable.space (viewHeight height)
  · rw [List.getElem?_append_left (by simpa [length] using body), List.getElem?_map, line,
      if_pos body]
    cases shown : c.visible[ClusterTable.first c width (viewHeight height) + place]? with
    | some cluster =>
        rw [ClusterTable.getElem?_rows_of_some look.theme shown _ body]
        simp only [shown]
        rfl
    | none =>
        rw [ClusterTable.getElem?_rows_of_none look.theme shown _ body]
        simp only [shown]
        rfl
  · rw [List.getElem?_append_right (by simpa [length] using body), List.length_map, length, line,
      if_neg body]
    by_cases bottom : place = ClusterTable.space (viewHeight height)
    · rw [if_pos bottom, bottom, Nat.sub_self]
      rfl
    · have last : place - ClusterTable.space (viewHeight height) = 1 := by omega
      rw [if_neg bottom, last]
      rfl

/-- The screen without the help box, line by line. -/
theorem behind_line (look : Look) {c : Console} (table : c.view = .clusters) {width height : Nat}
    (large : isLargeEnough width height = true) {row : Nat} (inside : row < height) :
    (behind look c width height)[row]? = some ((line c width height row).draw look c width) := by
  obtain ⟨wide, tall⟩ := isLargeEnough_iff.mp large
  have tableTall : 3 ≤ viewHeight height := by
    unfold viewHeight
    omega
  have space : ClusterTable.space (viewHeight height) + 6 = height := by
    unfold ClusterTable.space viewHeight
    omega
  have header : Bars.header look.theme c.dashboard width 1 = [Line.draw look c width .header] :=
    Picture.eq_singleton (Picture.length_ofLabels ..)
  have tabs : Bars.tabs look.theme c.view width 1 = [Line.draw look c width .tabs] :=
    Picture.eq_singleton (Picture.length_ofLabels ..)
  have status : Bars.status look.theme c look.steady width 1 = [Line.draw look c width .status] :=
    Picture.eq_singleton (Picture.length_ofLabels ..)
  have shown : view look c width (viewHeight height) =
      ClusterTable.picture look.theme c width (viewHeight height) := by
    rw [view, table]
  rw [behind, header, tabs, status, shown, ClusterTable.picture_eq _ _ (by omega) tableTall]
  match row with
  | 0 | 1 | 2 | 3 => rfl
  | place + 4 =>
    have below := draw_line_below_titles look c width height place (by omega)
    rw [← below]
    simp only [List.cons_append, List.nil_append, List.getElem?_cons_succ, List.append_assoc]
    rfl

end Screen
end FleetWatch
