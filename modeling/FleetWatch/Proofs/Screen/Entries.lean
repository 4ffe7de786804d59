import FleetWatch.Proofs.Screen.Lines

/-! # What a row of the table shows

The entries of a cluster stand in their columns, the name in the first one behind the gutter. A text
that fits into its column, in glyphs of one column each, can be read there as it is, with blanks
behind it. Names of printable ASCII characters fit if they are not too long.
-/

namespace FleetWatch

namespace Text

/-- A text of one line, in glyphs of one column each, for which there are columns enough. -/
structure FitsIn (text : List Char) (columns : Nat) : Prop where
  line : '\n' ∉ text
  narrow : ∀ glyph ∈ glyphs text, glyph.width = 1
  whole : width text = (glyphs text).length
  room : (glyphs text).length ≤ columns

theorem glyphs_of_line {text : List Char} (line : '\n' ∉ text) :
    glyphs text = (graphemes text).map Glyph.ofGrapheme := by
  have kept : (graphemes text).filter (· ≠ ['\n']) = graphemes text := by
    refine List.filter_eq_self.mpr fun grapheme listed => ?_
    rw [decide_eq_true_iff]
    rintro rfl
    refine line ?_
    rw [← flatten_graphemes text]
    exact List.mem_flatten.mpr ⟨_, listed, List.mem_singleton_self _⟩
  rw [glyphs, kept]

theorem flatMap_glyphs {text : List Char} (line : '\n' ∉ text) :
    (glyphs text).flatMap (·.text) = text := by
  rw [glyphs_of_line line, List.flatMap_map]
  exact List.flatMap_id.trans (flatten_graphemes text)

/-! ## Printable texts -/

/-- Whether a character is a printable one of ASCII. -/
def IsPrintable (c : Char) : Prop := 0x20 ≤ c.toNat ∧ c.toNat < 0x7F

instance (c : Char) : Decidable (IsPrintable c) := inferInstanceAs (Decidable (_ ∧ _))

theorem IsPrintable.ne_of_lt {c other : Char} (printable : IsPrintable c)
    (control : other.toNat < 0x20) : c ≠ other := by
  rintro rfl
  exact Nat.not_lt.mpr printable.1 control

theorem breakClass_of_printable {c : Char} (printable : IsPrintable c) : breakClass c = .other := by
  rw [breakClass, if_neg (printable.ne_of_lt (by decide)), if_neg (printable.ne_of_lt (by decide))]
  exact if_pos printable

/-- A printable character takes one column, and matters to no other one. -/
theorem before_of_printable {c : Char} (printable : IsPrintable c) :
    Surroundings.none.before c = (1, .none) := by
  have early : c.toNat < 0xA0 := Nat.lt_trans printable.2 (by decide)
  have one : charWidth c = 1 := if_pos early
  have plain : Follower.ofChar c = .plain := by
    rw [Follower.ofChar, if_neg (printable.ne_of_lt (by decide)), if_pos (Nat.le_of_lt early)]
  have alone : Surroundings.none.before c = Surroundings.alone c := by
    refine (if_pos (Nat.le_of_lt early)).trans (if_neg ?_)
    simp [Surroundings.none]
  rw [alone, Surroundings.alone, one, plain]
  rfl

section Printable

variable {text : List Char} (printable : ∀ c ∈ text, IsPrintable c)
include printable

theorem graphemesFrom_of_printable (reading : List Char) :
    graphemesFrom reading (.start .other) text = reading.reverse :: text.map ([·]) := by
  induction text generalizing reading with
  | nil => rfl
  | cons c rest ih =>
      have other := breakClass_of_printable (printable c (List.mem_cons_self ..))
      have apart : ¬(GraphemeEnd.start .other).joins .other = true := by decide
      rw [graphemesFrom, other, if_neg apart,
        ih fun next listed => printable next (List.mem_cons_of_mem _ listed)]
      rfl

theorem graphemes_of_printable : graphemes text = text.map ([·]) := by
  cases text with
  | nil => rfl
  | cons c rest =>
      rw [graphemes, breakClass_of_printable (printable c (List.mem_cons_self ..)),
        graphemesFrom_of_printable fun next listed =>
          printable next (List.mem_cons_of_mem _ listed)]
      rfl

theorem measure_of_printable : measure text = ((text.length : Int), Surroundings.none) := by
  induction text with
  | nil => rfl
  | cons c rest ih =>
      rw [measure, ih fun next listed => printable next (List.mem_cons_of_mem _ listed)]
      simp only [before_of_printable (printable c (List.mem_cons_self ..)), List.length_cons]
      rfl

theorem fitsIn_of_printable {columns : Nat} (room : text.length ≤ columns) :
    FitsIn text columns := by
  have line : '\n' ∉ text := fun listed => absurd (printable _ listed) (by decide)
  have single : ∀ c ∈ text, Glyph.ofGrapheme [c] = ⟨[c], 1⟩ := by
    intro c listed
    have measured : measure [c] = (1, Surroundings.none) :=
      measure_of_printable (by simpa using printable c listed)
    rw [Glyph.ofGrapheme, width, measured]
    rfl
  have kept : glyphs text = text.map fun c => ⟨[c], 1⟩ := by
    rw [glyphs_of_line line, graphemes_of_printable printable, List.map_map]
    exact List.map_congr_left single
  refine ⟨line, ?_, ?_, ?_⟩
  · rw [kept]
    intro glyph listed
    obtain ⟨c, -, rfl⟩ := List.mem_map.mp listed
    rfl
  · rw [width, measure_of_printable printable, kept, List.length_map]
    rfl
  · rwa [kept, List.length_map]

end Printable

end Text

namespace Row

variable {style : Style} {glyphs : List Text.Glyph}

theorem shareStart_of_narrow (narrow : ∀ glyph ∈ glyphs, glyph.width = 1) (room : Nat) :
    shareStart room glyphs = glyphs := by
  cases glyphs with
  | nil => rfl
  | cons glyph rest =>
      have one := narrow glyph (List.mem_cons_self ..)
      rw [shareStart, if_neg (by omega)]

/-- Glyphs of one column each go into one cell after the other. -/
theorem writeGlyphsBehind_of_narrow (narrow : ∀ glyph ∈ glyphs, glyph.width = 1) {rest : Row}
    (room : glyphs.length ≤ rest.length) (written : Row) :
    writeGlyphsBehind style written glyphs rest =
      written.reverse ++ List.zipWith (fun glyph cell => cell.write style glyph.text) glyphs rest ++
        rest.drop glyphs.length := by
  induction glyphs generalizing written rest with
  | nil => simp [writeGlyphsBehind]
  | cons glyph glyphs ih =>
      have one := narrow glyph (List.mem_cons_self ..)
      cases rest with
      | nil => simp at room
      | cons cell rest =>
          have behind := ih (fun next listed => narrow next (List.mem_cons_of_mem _ listed))
            (Nat.le_of_succ_le_succ room) (cell.write style glyph.text :: written)
          cases written with
          | nil => simp_all [writeGlyphsBehind, blank]
          | cons last before => simp_all [writeGlyphsBehind, blank]

theorem text_append (left right : Row) : text (left ++ right) = left.text ++ right.text :=
  List.flatMap_append

theorem text_patch (style : Style) (row : Row) : (patch style row).text = row.text := by
  rw [patch, text, text, List.flatMap_map]
  rfl

theorem text_zipWith_write {row : Row} (room : glyphs.length ≤ row.length) :
    text (List.zipWith (fun glyph cell => cell.write style glyph.text) glyphs row) =
      glyphs.flatMap (·.text) := by
  induction glyphs generalizing row with
  | nil => rfl
  | cons glyph glyphs ih =>
      cases row with
      | nil => simp at room
      | cons cell row =>
          have rest := ih (Nat.le_of_succ_le_succ room)
          simp_all [text, Cell.write]

theorem text_writeLabel {written : List Char} {row : Row} (fits : Text.FitsIn written row.length) :
    (writeLabel (.ofText style written) row).text =
      written ++ text (row.drop (Text.glyphs written).length) := by
  have whole : (writeText style written row).text =
      written ++ text (row.drop (Text.glyphs written).length) := by
    rw [writeText, shareStart_of_narrow fits.narrow,
      writeGlyphsBehind_of_narrow fits.narrow fits.room, List.reverse_nil, List.nil_append,
      text_append, text_zipWith_write fits.room, Text.flatMap_glyphs fits.line]
  rw [Label.ofText, writeLabel]
  split
  · rename_i none
    have empty : Text.glyphs written = [] :=
      List.length_eq_zero_iff.mp (fits.whole.symm.trans none)
    have nothing := Text.flatMap_glyphs fits.line
    rw [empty] at nothing
    rw [empty, ← nothing]
    rfl
  · exact (congrArg text (List.take_append_drop ..)).trans whole

theorem text_blank (columns : Nat) (style : Style) :
    (blank columns style).text = List.replicate columns ' ' := by
  induction columns with
  | zero => rfl
  | succ columns ih =>
      rw [blank, List.replicate_succ, List.replicate_succ, ← ih]
      rfl

end Row

namespace ClusterTable

theorem Entry.text_row {entry : Entry} {columns : Nat} (fits : Text.FitsIn entry.text columns) :
    (entry.row columns).text =
      entry.text ++ List.replicate (columns - (Text.glyphs entry.text).length) ' ' := by
  have line : (Text.lines entry.text).head?.getD [] = entry.text := by
    cases filled : entry.text with
    | nil => rfl
    | cons c rest => rw [Text.lines_of_not_mem (filled ▸ fits.line) (by simp)]; rfl
  have room : Text.FitsIn entry.text (Row.blank columns entry.style).length := by
    rwa [Row.length_blank]
  have left : (Row.blank columns entry.style).drop (Text.glyphs entry.text).length =
      Row.blank (columns - (Text.glyphs entry.text).length) entry.style := List.drop_replicate
  rw [Entry.row, line, Row.text_writeLabel room, left, Row.text_blank]

/-- How many columns a table of a width has for the names. -/
def nameWidth (width : Nat) : Nat := (columnWidths (width - Selection.gutter)).headD 0

theorem nameWidth_le (width : Nat) : nameWidth width ≤ width - Selection.gutter := by
  simp only [nameWidth, columnWidths, shares]
  repeat' split
  all_goals simp only [wholesFrom, nearest, List.headD_cons]
  all_goals omega

theorem columnWidths_eq_cons (width : Nat) :
    ∃ others, columnWidths width = (columnWidths width).headD 0 :: others := by
  simp only [columnWidths, shares]
  repeat' split
  all_goals exact ⟨_, rfl⟩

theorem entriesRow_eq (theme : Theme) (cluster : Cluster) (width : Nat) :
    ∃ others, entriesRow (entries theme cluster) width =
      Entry.row ⟨cluster.name.toList, .plain⟩ ((columnWidths width).headD 0) ++ others := by
  obtain ⟨others, widths⟩ := columnWidths_eq_cons width
  rw [entriesRow, entries, widths, List.zipWith_cons_cons]
  cases List.zipWith Entry.row _ others with
  | nil => exact ⟨[], by simp⟩
  | cons next rest => exact ⟨_, rfl⟩

/-- A name is not cut where its row is brought to the width of the table. -/
theorem take_drop_fit {front name : Row} {width : Nat} (room : name.length ≤ width - front.length)
    (others : Row) :
    ((Row.fit width (front ++ (name ++ others))).drop front.length).take name.length = name := by
  cases name with
  | nil => exact List.take_zero
  | cons cell rest =>
      have within : front.length ≤ width := by
        rw [List.length_cons] at room
        omega
      rw [Row.fit, List.take_append, List.take_of_length_le within, List.take_append,
        List.take_of_length_le room, List.append_assoc, List.append_assoc, List.drop_left,
        List.take_left]

/-- The name of a cluster is read back from its column. -/
theorem text_name (theme : Theme) (isSelected : Bool) {cluster : Cluster} {width : Nat}
    (fits : Text.FitsIn cluster.name.toList (nameWidth width)) :
    Row.text (((clusterRow theme isSelected cluster width).drop Selection.gutter).take
        (nameWidth width)) =
      cluster.name.toList ++
        List.replicate (nameWidth width - (Text.glyphs cluster.name.toList).length) ' ' := by
  let name : Row := Entry.row ⟨cluster.name.toList, .plain⟩ (nameWidth width)
  have column : name.length = nameWidth width := by simp [name, Entry.row]
  have shown : name.text = _ := Entry.text_row fits
  obtain ⟨others, (entries : entriesRow _ (width - Selection.gutter) = name ++ others)⟩ :=
    entriesRow_eq theme cluster (width - Selection.gutter)
  have cut (front : Row) (taken : front.length = Selection.gutter) :
      ((Row.fit width (front ++ (name ++ others))).drop Selection.gutter).take (nameWidth width) =
        name := by
    have room : name.length ≤ width - front.length := by
      rw [column, taken]
      exact nameWidth_le width
    rw [← taken, ← column]
    exact take_drop_fit room others
  rw [clusterRow, Selection.row, entries]
  split
  · rw [Row.patch, ← List.map_drop, ← List.map_take, cut Selection.mark rfl]
    exact (Row.text_patch ..).trans shown
  · rw [cut _ (Row.length_blank ..)]
    exact shown

theorem take_drop_middle (style : Style) {width gutter columns : Nat} {inside : Row}
    (fits : inside.length + 2 = width) (room : gutter + columns ≤ inside.length) :
    ((Frame.middle style width inside).drop (gutter + 1)).take columns =
      (inside.drop gutter).take columns := by
  subst fits
  have framed : (Frame.middle style (inside.length + 2) inside).drop (gutter + 1) =
      (inside ++ [Cell.ofChar style FrameKind.vertical]).drop gutter := rfl
  have left : columns ≤ (inside.drop gutter).length := by
    rw [List.length_drop]
    exact Nat.le_sub_of_add_le' room
  rw [framed, List.drop_append_of_le_length (Nat.le_of_add_right_le room),
    List.take_append_of_le_length left]

theorem text_name_middle (theme : Theme) (isSelected : Bool) {cluster : Cluster} (style : Style)
    {width : Nat} (wide : 5 ≤ width)
    (fits : Text.FitsIn cluster.name.toList (nameWidth (width - 2))) :
    Row.text (((Frame.middle style width (clusterRow theme isSelected cluster (width - 2))).drop
        (Selection.gutter + 1)).take (nameWidth (width - 2))) =
      cluster.name.toList ++
        List.replicate (nameWidth (width - 2) - (Text.glyphs cluster.name.toList).length) ' ' := by
  have whole := length_clusterRow theme isSelected cluster (width - 2)
  have narrow := nameWidth_le (width - 2)
  simp only [Selection.gutter] at narrow
  have inside : (clusterRow theme isSelected cluster (width - 2)).length + 2 = width := by omega
  have room : Selection.gutter + nameWidth (width - 2) ≤
      (clusterRow theme isSelected cluster (width - 2)).length := by
    simp only [Selection.gutter]
    omega
  rw [take_drop_middle style inside room]
  exact text_name theme isSelected fits

end ClusterTable

end FleetWatch
