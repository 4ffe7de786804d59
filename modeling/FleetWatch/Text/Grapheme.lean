import FleetWatch.Text.CharTable
import FleetWatch.Text.Grapheme.Table

/-! # Graphemes

A text is read as graphemes: a base character with its marks, a syllable of Hangul, a flag, a
sequence of joined pictographs. Where a grapheme ends is told by the class of the next character
and a little of what the grapheme holds already.
-/

namespace FleetWatch.Text

/-- How a character joins the characters next to it. -/
inductive BreakClass where
  | carriageReturn
  | lineFeed
  | control
  | extend
  /-- An extending mark that links consonants. -/
  | linker
  /-- The zero-width joiner. -/
  | joiner
  /-- The zero-width non-joiner, a mark that keeps consonants apart. -/
  | nonJoiner
  | regional
  /-- A mark that stands before its character. -/
  | before
  | spacing
  | leading
  | vowel
  | trailing
  /-- A Hangul syllable without trailing consonant. -/
  | openSyllable
  /-- A Hangul syllable with trailing consonant. -/
  | closedSyllable
  | pictograph
  /-- A consonant that may be linked. -/
  | consonant
  | other
  deriving Repr, DecidableEq, Inhabited

namespace BreakClass

def ofLetter : List Char → BreakClass
  | ['C'] => control
  | ['E'] => extend
  | ['K'] => linker
  | ['J'] => joiner
  | ['Z'] => nonJoiner
  | ['R'] => regional
  | ['B'] => before
  | ['S'] => spacing
  | ['L'] => leading
  | ['V'] => vowel
  | ['T'] => trailing
  | ['X'] => pictograph
  | ['N'] => consonant
  | _ => other

/-- Whether characters of a class stand alone. -/
def isControl : BreakClass → Bool
  | carriageReturn | lineFeed | control => true
  | _ => false

/-- Whether characters of a class join every character in front of them. -/
def isMark : BreakClass → Bool
  | extend | linker | joiner | nonJoiner | spacing => true
  | _ => false

/-- Whether two parts of a Hangul syllable join. -/
def joinsSyllable : BreakClass → BreakClass → Bool
  | leading, leading | leading, vowel | leading, openSyllable | leading, closedSyllable => true
  | openSyllable, vowel | openSyllable, trailing | vowel, vowel | vowel, trailing => true
  | closedSyllable, trailing | trailing, trailing => true
  | _, _ => false

end BreakClass

/-- The classes of the characters that do not join by themselves alone. -/
def breakClasses : CharTable BreakClass := .ofText BreakClass.ofLetter breakClassText

def breakClass (c : Char) : BreakClass :=
  if c = '\r' then .carriageReturn
  else if c = '\n' then .lineFeed
  else if 0x20 ≤ c.toNat ∧ c.toNat < 0x7F then .other
  else if 0xAC00 ≤ c.toNat ∧ c.toNat ≤ 0xD7A3 then
    if (c.toNat - 0xAC00) % 28 = 0 then .openSyllable else .closedSyllable
  else (breakClasses.value? c).getD .other

/-- How far a grapheme has come towards joining a pictograph or a consonant. -/
inductive Reach where
  | none
  /-- It holds one with nothing but marks behind it. -/
  | base
  /-- And what joins the next one as well. -/
  | joined
  deriving Repr, DecidableEq, Inhabited

/-- What a grapheme ends in. -/
structure GraphemeEnd where
  last : BreakClass
  /-- Whether it ends in an odd number of regional indicators. -/
  oddRegional : Bool
  pictograph : Reach
  consonant : Reach
  deriving Repr, DecidableEq

namespace GraphemeEnd

/-- The end of a grapheme of one character. -/
def start (c : BreakClass) : GraphemeEnd :=
  ⟨c, c = .regional, if c = .pictograph then .base else .none,
    if c = .consonant then .base else .none⟩

/-- Whether a character of a class belongs to the grapheme. -/
def joins (e : GraphemeEnd) (next : BreakClass) : Bool :=
  if e.last = .carriageReturn && next = .lineFeed then true
  else if e.last.isControl || next.isControl then false
  else e.last.joinsSyllable next || next.isMark || e.last = .before ||
    (e.consonant = .joined && next = .consonant) ||
    (e.pictograph = .joined && next = .pictograph) || (e.oddRegional && next = .regional)

/-- The end of the grapheme with one more character. -/
def add (e : GraphemeEnd) (c : BreakClass) : GraphemeEnd where
  last := c
  oddRegional := c = .regional && !e.oddRegional
  pictograph :=
    if c = .pictograph then .base
    else match e.pictograph, c with
      | .base, .extend | .base, .linker | .base, .nonJoiner => .base
      | .base, .joiner => .joined
      | _, _ => .none
  consonant :=
    if c = .consonant then .base
    else match e.consonant, c with
      | .none, _ => .none
      | _, .linker => .joined
      | reach, .extend | reach, .joiner => reach
      | _, _ => .none

end GraphemeEnd

/-- The graphemes of a text behind the one that is being read, which is given in reverse. -/
def graphemesFrom (reading : List Char) (e : GraphemeEnd) : List Char → List (List Char)
  | [] => [reading.reverse]
  | c :: rest =>
    if e.joins (breakClass c) then graphemesFrom (c :: reading) (e.add (breakClass c)) rest
    else reading.reverse :: graphemesFrom [c] (.start (breakClass c)) rest

def graphemes : List Char → List (List Char)
  | [] => []
  | c :: rest => graphemesFrom [c] (.start (breakClass c)) rest

theorem flatten_graphemesFrom (reading : List Char) (e : GraphemeEnd) (text : List Char) :
    (graphemesFrom reading e text).flatten = reading.reverse ++ text := by
  induction text generalizing reading e with
  | nil => simp [graphemesFrom]
  | cons c rest ih =>
    rw [graphemesFrom]
    split <;> simp [ih]

/-- Graphemes hold all of a text, in its order. -/
theorem flatten_graphemes (text : List Char) : (graphemes text).flatten = text := by
  cases text with
  | nil => rfl
  | cons c rest => simp [graphemes, flatten_graphemesFrom]

end FleetWatch.Text
