import FleetWatch.Screen.Style
import FleetWatch.Text.Glyph

/-! # Pictures

A picture is a list of rows and a row a list of cells, one for each column. Pictures are put
together from smaller ones of known size: rows behind one another, pictures above or beside one
another, or one laid over a part of another. A wide glyph stands in its first cell; what is in the
cell behind it is not seen.
-/

namespace FleetWatch

open Text (Glyph)

/-- A place on the screen: what stands there and how. -/
structure Cell where
  text : List Char
  style : Style
  deriving Repr, DecidableEq, Inhabited

/-- The cells of one line of the screen. -/
abbrev Row := List Cell

/-- Rows from top to bottom. -/
abbrev Picture := List Row

namespace Cell

def blank (style : Style) : Cell := ⟨[' '], style⟩

def ofChar (style : Style) (c : Char) : Cell := ⟨[c], style⟩

/-- The cell with its style laid over another one. -/
def on (cell : Cell) (lower : Style) : Cell := { cell with style := lower.patch cell.style }

def patch (cell : Cell) (upper : Style) : Cell := { cell with style := cell.style.patch upper }

/-- The cell with another text, in a style that is laid over its own. -/
def write (cell : Cell) (style : Style) (text : List Char) : Cell :=
  ⟨text, cell.style.patch style⟩

/-- The cell with more text behind its own. -/
def append (cell : Cell) (style : Style) (text : List Char) : Cell :=
  cell.write style (cell.text ++ text)

def width (cell : Cell) : Nat := Text.width cell.text

end Cell

/-! ## Labels -/

/-- A text in one style. -/
structure Part where
  text : List Char
  style : Style
  deriving Repr, DecidableEq

/-- Texts one behind the other. -/
abbrev Label := List Part

namespace Part

def width (part : Part) : Nat := Text.width part.text

end Part

namespace Label

def ofText (style : Style) (text : List Char) : Label := [⟨text, style⟩]

def width : Label → Nat
  | [] => 0
  | part :: rest => part.width + width rest

end Label

/-! ## Rows -/

/-- Where a text goes in a wider space. -/
inductive Alignment where
  | left
  | center
  | right
  deriving Repr, DecidableEq, Inhabited

/-- How many columns stand in front of a text that takes so many columns of a space. The middle
column of a centred text is the middle one of the space. -/
def Alignment.before (space taken : Nat) : Alignment → Nat
  | left => 0
  | center => space / 2 - taken / 2
  | right => space - taken

theorem Alignment.before_le {space taken : Nat} (h : taken ≤ space) (a : Alignment) :
    a.before space taken ≤ space - taken := by
  cases a <;> simp only [before] <;> omega

namespace Row

def blank (width : Nat) (style : Style) : Row := List.replicate width (.blank style)

/-- A row laid over another one from a column on. -/
def lay (column : Nat) (top base : Row) : Row :=
  base.take column ++ top ++ base.drop (column + top.length)

def patch (style : Style) (row : Row) : Row := row.map (·.patch style)

def fit (width : Nat) (row : Row) : Row := row.take width ++ blank (width - row.length) .plain

/-! ### Writing into a row -/

/-- Writes glyphs into cells behind others, which are given in reverse. A glyph without width goes
into the last cell; the cells behind the first one of a wide glyph are cleared. Nothing is written
from the first glyph on for which there is no room. -/
def writeGlyphsBehind (style : Style) : Row → List Glyph → Row → Row
  | written, [], rest => written.reverse ++ rest
  | written, glyph :: glyphs, rest =>
    match written, rest with
    | last :: before, rest =>
      if glyph.width = 0 then
        writeGlyphsBehind style (last.append style glyph.text :: before) glyphs rest
      else
        match rest with
        | [] => written.reverse
        | cell :: cells =>
          if glyph.width ≤ cells.length + 1 then
            writeGlyphsBehind style
              (blank (glyph.width - 1) .plain ++ cell.write style glyph.text :: written) glyphs
              (cells.drop (glyph.width - 1))
          else written.reverse ++ cell :: cells
    | [], [] => []
    | [], cell :: cells =>
      if glyph.width ≤ cells.length + 1 then
        writeGlyphsBehind style
          (blank (glyph.width - 1) .plain ++ [cell.write style glyph.text]) glyphs
          (cells.drop (glyph.width - 1))
      else cell :: cells

/-- Glyphs without width at the start of others share the cell of the first that has one, if there
is room for it. -/
def shareStart (room : Nat) : List Glyph → List Glyph
  | [] => []
  | glyph :: rest =>
    if glyph.width = 0 then
      match shareStart room rest with
      | [] => [glyph]
      | next :: others =>
        if next.width ≤ room then ⟨glyph.text ++ next.text, next.width⟩ :: others
        else glyph :: next :: others
    else glyph :: rest

/-- Writes a text into a row from its start. -/
def writeText (style : Style) (text : List Char) (row : Row) : Row :=
  writeGlyphsBehind style [] (shareStart row.length (Text.glyphs text)) row

/-- Writes a label into a row from its start. Each part begins as many columns behind the one in
front of it as that one takes, though it may have been drawn wider; a part that takes none is left
out. -/
def writeLabel : Label → Row → Row
  | [], row => row
  | part :: rest, row =>
    if part.width = 0 then writeLabel rest row
    else
      let written := writeText part.style part.text row
      written.take part.width ++ writeLabel rest (written.drop part.width)

/-! ### Paragraphs -/

/-- The glyphs of a line that there is room for. Those that have no width or are wider than the
whole line are left out. -/
def glyphsWithin (lineWidth room : Nat) : List (Glyph × Style) → List (Glyph × Style)
  | [] => []
  | (glyph, style) :: rest =>
    if glyph.width = 0 ∨ lineWidth < glyph.width then glyphsWithin lineWidth room rest
    else if glyph.width ≤ room then
      (glyph, style) :: glyphsWithin lineWidth (room - glyph.width) rest
    else []

def glyphsWidth : List (Glyph × Style) → Nat
  | [] => 0
  | (glyph, _) :: rest => glyph.width + glyphsWidth rest

/-- A label as a line of a paragraph of a width and a style: glyph by glyph, aligned, and cut if it
is too long. -/
def ofLabel (style : Style) (alignment : Alignment) (width : Nat) (label : Label) : Row :=
  let kept := glyphsWithin width width
    (label.flatMap fun part => (Text.glyphs part.text).map fun glyph => (glyph, part.style))
  let before := alignment.before width (glyphsWidth kept)
  blank before style ++
    (kept.flatMap fun (glyph, upper) =>
      (Cell.blank style).write upper glyph.text :: blank (glyph.width - 1) style) ++
    blank (width - glyphsWidth kept - before) style

/-! ### What is seen -/

/-- What is seen of a row behind a cell whose text has a width: nothing of the cell that a wide text
runs into. -/
def seenBehind (width : Nat) : Row → Row
  | [] => []
  | cell :: rest =>
    (if 1 < width then .blank .plain else cell) :: seenBehind cell.width rest

def seen (row : Row) : Row := seenBehind 1 row

def text (row : Row) : List Char := row.flatMap (·.text)

@[simp] theorem length_blank (width : Nat) (style : Style) : (blank width style).length = width :=
  List.length_replicate

@[simp] theorem length_patch (style : Style) (row : Row) : (patch style row).length = row.length :=
  List.length_map _

@[simp] theorem length_fit (width : Nat) (row : Row) : (fit width row).length = width := by
  simp only [fit, List.length_append, List.length_take, length_blank]
  omega

theorem length_writeGlyphsBehind (style : Style) (written : Row) (glyphs : List Glyph)
    (rest : Row) :
    (writeGlyphsBehind style written glyphs rest).length = written.length + rest.length := by
  induction glyphs generalizing written rest with
  | nil => simp [writeGlyphsBehind]
  | cons glyph glyphs ih =>
    unfold writeGlyphsBehind
    split
    · split
      · simp [ih]
      · split
        · simp
        · split
          · rename_i fits
            simp only [ih, List.length_append, length_blank, List.length_cons, List.length_drop]
            omega
          · simp only [List.length_append, List.length_reverse, List.length_cons]
    · rfl
    · split
      · simp only [ih, List.length_append, length_blank, List.length_cons, List.length_drop,
          List.length_nil]
        omega
      · simp

@[simp] theorem length_writeText (style : Style) (text : List Char) (row : Row) :
    (writeText style text row).length = row.length := by
  simp [writeText, length_writeGlyphsBehind]

@[simp] theorem length_writeLabel (label : Label) (row : Row) :
    (writeLabel label row).length = row.length := by
  induction label generalizing row with
  | nil => rfl
  | cons part rest ih =>
    unfold writeLabel
    split
    · exact ih row
    · simp only [List.length_append, List.length_take, ih, List.length_drop, length_writeText]
      omega

theorem length_seenBehind (width : Nat) (row : Row) :
    (seenBehind width row).length = row.length := by
  induction row generalizing width with
  | nil => rfl
  | cons cell rest ih => simp [seenBehind, ih]

@[simp] theorem length_seen (row : Row) : row.seen.length = row.length := length_seenBehind 1 row

end Row

/-! ## Whole pictures -/

namespace Picture

def blank (width height : Nat) : Picture := List.replicate height (Row.blank width .plain)

def fit (width height : Nat) (rows : Picture) : Picture :=
  rows.take height ++ blank width (height - rows.length)

def ofLabels (style : Style) (alignment : Alignment) (width height : Nat) (labels : List Label) :
    Picture :=
  (labels.take height).map (Row.ofLabel style alignment width) ++
    List.replicate (height - labels.length) (Row.blank width style)

def beside (left right : Picture) : Picture := List.zipWith (· ++ ·) left right

/-- A picture laid over another one from a column and a row on. -/
def lay (column row : Nat) (top base : Picture) : Picture :=
  base.take row ++ List.zipWith (Row.lay column) top (base.drop row) ++
    base.drop (row + top.length)

def seen (picture : Picture) : Picture := picture.map Row.seen

@[simp] theorem length_blank (width height : Nat) : (blank width height).length = height :=
  List.length_replicate

@[simp] theorem length_fit (width height : Nat) (rows : Picture) :
    (fit width height rows).length = height := by
  simp only [fit, List.length_append, List.length_take, length_blank]
  omega

@[simp] theorem length_ofLabels (style : Style) (alignment : Alignment) (width height : Nat)
    (labels : List Label) : (ofLabels style alignment width height labels).length = height := by
  simp only [ofLabels, List.length_append, List.length_map, List.length_take, List.length_replicate]
  omega

@[simp] theorem length_seen (picture : Picture) : picture.seen.length = picture.length :=
  List.length_map _

end Picture

end FleetWatch
