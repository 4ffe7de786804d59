import FleetWatch.Screen.Boxes

/-! # What a box covers

A line, a frame and a box are drawn exactly as wide and as high as they are asked to be. A box that
is laid over a picture therefore covers its area and leaves every other place as it was.
-/

namespace FleetWatch

def Area.Holds (a : Area) (column row : Nat) : Prop :=
  a.left ≤ column ∧ column < a.right ∧ a.top ≤ row ∧ row < a.bottom

instance (a : Area) (column row : Nat) : Decidable (a.Holds column row) :=
  inferInstanceAs (Decidable (_ ∧ _))

/-! ## Widths -/

namespace Row

theorem glyphsWidth_glyphsWithin_le (lineWidth room : Nat) (glyphs : List (Text.Glyph × Style)) :
    glyphsWidth (glyphsWithin lineWidth room glyphs) ≤ room := by
  induction glyphs generalizing room with
  | nil => exact Nat.zero_le _
  | cons first rest ih =>
      obtain ⟨glyph, style⟩ := first
      unfold glyphsWithin
      split
      · exact ih room
      · split
        · rename_i fits
          have others := ih (room - glyph.width)
          simp only [glyphsWidth]
          omega
        · exact Nat.zero_le _

theorem length_flatMap_glyphsWithin (lineWidth room : Nat) (glyphs : List (Text.Glyph × Style))
    (cell : Text.Glyph → Style → Cell) (style : Style) :
    ((glyphsWithin lineWidth room glyphs).flatMap fun (glyph, upper) =>
      cell glyph upper :: blank (glyph.width - 1) style).length =
        glyphsWidth (glyphsWithin lineWidth room glyphs) := by
  induction glyphs generalizing room with
  | nil => rfl
  | cons first rest ih =>
      obtain ⟨glyph, upper⟩ := first
      unfold glyphsWithin
      split
      · exact ih room
      · rename_i kept
        split
        · have others := ih (room - glyph.width)
          simp only [List.flatMap_cons, List.length_append, List.length_cons, length_blank,
            glyphsWidth, others]
          omega
        · rfl

@[simp] theorem length_ofLabel (style : Style) (alignment : Alignment) (width : Nat)
    (label : Label) : (ofLabel style alignment width label).length = width := by
  let glyphs := label.flatMap fun part =>
    (Text.glyphs part.text).map fun glyph => (glyph, part.style)
  have within := glyphsWidth_glyphsWithin_le width width glyphs
  have before := alignment.before_le within
  have cells := length_flatMap_glyphsWithin width width glyphs
    (fun glyph upper => (Cell.blank style).write upper glyph.text) style
  simp only [ofLabel, List.length_append, length_blank]
  simp only [glyphs] at within before cells
  rw [cells]
  omega

end Row

namespace Frame

theorem length_edged (style : Style) (left right : Char) {width : Nat} {inside : Row}
    (fits : inside.length = width - 2) : (edged style left right width inside).length = width := by
  match width with
  | 0 | 1 => rfl
  | width + 2 =>
    simp only [edged, List.length_append, List.length_cons, List.length_nil, fits]
    omega

theorem length_top (kind : FrameKind) (style : Style) (title : Label) (width : Nat) :
    (top kind style title width).length = width := by
  refine length_edged style _ _ ?_
  simp only [List.length_append, Row.length_writeLabel, List.length_take, List.length_drop,
    List.length_replicate]
  omega

theorem length_bottom (kind : FrameKind) (style : Style) (width : Nat) :
    (bottom kind style width).length = width :=
  length_edged style _ _ List.length_replicate

theorem length_middle (style : Style) {width : Nat} {inside : Row}
    (fits : inside.length = width - 2) : (middle style width inside).length = width :=
  length_edged style _ _ fits

end Frame

namespace Picture

/-- A picture of a size: so many rows, each of them so wide. -/
structure HasSize (picture : Picture) (width height : Nat) : Prop where
  rows : picture.length = height
  columns : ∀ row ∈ picture, row.length = width

theorem hasSize_ofLabels (style : Style) (alignment : Alignment) (width height : Nat)
    (labels : List Label) :
    (ofLabels style alignment width height labels).HasSize width height where
  rows := length_ofLabels ..
  columns := by
    intro row listed
    rcases List.mem_append.mp listed with line | blank
    · obtain ⟨label, -, rfl⟩ := List.mem_map.mp line
      exact Row.length_ofLabel ..
    · rw [List.eq_of_mem_replicate blank]
      exact Row.length_blank ..

theorem HasSize.append {upper lower : Picture} {width height below : Nat}
    (first : upper.HasSize width height) (second : lower.HasSize width below) :
    (upper ++ lower).HasSize width (height + below) where
  rows := by rw [List.length_append, first.rows, second.rows]
  columns row listed := (List.mem_append.mp listed).elim (first.columns row) (second.columns row)

theorem hasSize_fit {width : Nat} (height : Nat) {rows : Picture}
    (columns : ∀ row ∈ rows, row.length = width) :
    (fit width height rows).HasSize width height where
  rows := length_fit ..
  columns := by
    intro row listed
    rcases List.mem_append.mp listed with given | added
    · exact columns row (List.mem_of_mem_take given)
    · rw [List.eq_of_mem_replicate added]
      exact Row.length_blank ..

theorem hasSize_framed (kind : FrameKind) (style : Style) (title : Label) {width height : Nat}
    {inside : Nat → Nat → Picture} (sized : ∀ w h, (inside w h).HasSize w h) :
    (framed kind style title width height inside).HasSize width height := by
  match height with
  | 0 => exact ⟨rfl, fun _ listed => nomatch listed⟩
  | 1 => exact ⟨rfl, fun row listed => by
      rw [List.mem_singleton.mp listed]
      exact Frame.length_top ..⟩
  | rest + 2 =>
    refine ⟨by simp [framed, (sized (width - 2) rest).rows], ?_⟩
    intro row listed
    rcases List.mem_append.mp listed with upper | lower
    · rcases List.mem_cons.mp upper with rfl | middle
      · exact Frame.length_top ..
      · obtain ⟨line, drawn, rfl⟩ := List.mem_map.mp middle
        exact Frame.length_middle style ((sized (width - 2) rest).columns line drawn)
    · rw [List.mem_singleton.mp lower]
      exact Frame.length_bottom ..

end Picture

theorem HelpBox.hasSize_picture (theme : Theme) (width height : Nat) :
    (HelpBox.picture theme width height).HasSize width height :=
  Picture.hasSize_framed _ _ _ fun _ _ => Picture.hasSize_ofLabels ..

theorem Area.centered_within (area : Area) (width height : Nat) :
    (area.centered width height).Within area := by
  simp only [centered, Within, right, bottom]
  omega

theorem HelpBox.area_within (width height : Nat) :
    (HelpBox.area (.ofSize width height)).Within (.ofSize width height) :=
  Area.centered_within ..

/-! ## Laying over -/

theorem getElem?_splice_of_outside {α : Type} {front : Nat} {middle base : List α}
    (fits : front ≤ base.length) {place : Nat}
    (outside : place < front ∨ front + middle.length ≤ place) :
    (base.take front ++ middle ++ base.drop (front + middle.length))[place]? = base[place]? := by
  have start : (base.take front).length = front := by
    rw [List.length_take]
    omega
  rcases outside with before | behind
  · rw [List.append_assoc, List.getElem?_append_left (by omega), List.getElem?_take_of_lt before]
  · have covered : (base.take front ++ middle).length = front + middle.length := by
      rw [List.length_append, start]
    rw [List.getElem?_append_right (by omega), covered, List.getElem?_drop]
    congr 1
    omega

theorem Row.getElem?_lay_of_outside {column : Nat} {top base : Row} (fits : column ≤ base.length)
    {place : Nat} (outside : place < column ∨ column + top.length ≤ place) :
    (lay column top base)[place]? = base[place]? :=
  getElem?_splice_of_outside fits outside

namespace Picture

def cell? (picture : Picture) (column row : Nat) : Option Cell :=
  picture[row]?.bind (·[column]?)

theorem getElem?_lay_of_outside {column start : Nat} {top base : Picture}
    (fits : start + top.length ≤ base.length) {row : Nat}
    (outside : row < start ∨ start + top.length ≤ row) :
    (lay column start top base)[row]? = base[row]? := by
  have laid : (List.zipWith (Row.lay column) top (base.drop start)).length = top.length := by
    rw [List.length_zipWith, List.length_drop]
    omega
  rw [← laid] at outside
  rw [lay, ← laid]
  exact getElem?_splice_of_outside (by omega) outside

theorem getElem?_lay_of_inside {column start : Nat} {top base : Picture} {place : Nat}
    {upper lower : Row} (above : top[place]? = some upper)
    (below : base[start + place]? = some lower) :
    (lay column start top base)[start + place]? = some (Row.lay column upper lower) := by
  have front : (base.take start).length = start := by
    have inside := (List.getElem?_eq_some_iff.mp below).1
    rw [List.length_take]
    omega
  have drawn : (List.zipWith (Row.lay column) top (base.drop start))[place]? =
      some (Row.lay column upper lower) := by
    rw [List.getElem?_zipWith_eq_some]
    exact ⟨upper, lower, above, by rw [List.getElem?_drop, below], rfl⟩
  have inside := (List.getElem?_eq_some_iff.mp drawn).1
  rw [lay, List.append_assoc, List.getElem?_append_right (by omega), front,
    Nat.add_sub_cancel_left, List.getElem?_append_left inside, drawn]

/-- A box that is laid over a picture leaves every place outside its area as it was. -/
theorem cell?_place_of_outside {area : Area} {drawing : Nat → Nat → Picture} {base : Picture}
    {width height : Nat} (box : (drawing area.width area.height).HasSize area.width area.height)
    (whole : base.HasSize width height) (within : area.Within (.ofSize width height))
    {column row : Nat} (outside : ¬ area.Holds column row) :
    (place area drawing base).cell? column row = base.cell? column row := by
  obtain ⟨-, -, right, bottom⟩ := within
  simp only [Area.right, Area.bottom, Area.ofSize, Nat.zero_add] at right bottom
  have fits : area.top + (drawing area.width area.height).length ≤ base.length := by
    rw [box.rows, whole.rows]
    exact bottom
  -- Beside the box a row is kept by `Row.lay`, above it and below it by `Picture.lay`.
  by_cases crossed : area.top ≤ row ∧ row < area.bottom
  · obtain ⟨beneath, below⟩ := crossed
    obtain ⟨line, rfl⟩ := Nat.exists_eq_add_of_le beneath
    have inBox : line < (drawing area.width area.height).length := by
      rw [box.rows]
      simpa [Area.bottom] using below
    have inBase : area.top + line < base.length := by omega
    have upper := List.getElem?_eq_getElem inBox
    have lower := List.getElem?_eq_getElem inBase
    have wide := whole.columns _ (List.getElem_mem inBase)
    have boxWide := box.columns _ (List.getElem_mem inBox)
    have beside : column < area.left ∨ area.left + area.width ≤ column := by
      simp only [Area.Holds, Area.right] at outside
      omega
    rw [cell?, cell?, place, getElem?_lay_of_inside upper lower, lower, Option.bind_some,
      Option.bind_some]
    refine Row.getElem?_lay_of_outside (by omega) ?_
    rwa [boxWide]
  · rw [cell?, cell?, place, getElem?_lay_of_outside fits]
    rw [box.rows]
    simp only [Area.bottom] at crossed
    omega

end Picture
end FleetWatch
