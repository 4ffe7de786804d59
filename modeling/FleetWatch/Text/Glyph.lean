import FleetWatch.Text.Grapheme
import FleetWatch.Text.Width

/-! # Glyphs

A text is drawn grapheme by grapheme, each with the columns that it takes by itself. Together they
can take more columns than the text does, where letters form a ligature across graphemes.
-/

namespace FleetWatch.Text

/-- A grapheme and how many columns it takes. -/
structure Glyph where
  text : List Char
  width : Nat
  deriving Repr, DecidableEq, Inhabited

def Glyph.ofGrapheme (grapheme : List Char) : Glyph := ⟨grapheme, Text.width grapheme⟩

/-- The glyphs that a text is drawn with. A line feed is not drawn. -/
def glyphs (text : List Char) : List Glyph :=
  ((graphemes text).filter (· ≠ ['\n'])).map Glyph.ofGrapheme

end FleetWatch.Text
