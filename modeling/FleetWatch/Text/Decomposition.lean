import FleetWatch.Text.CharTable
import FleetWatch.Text.Decomposition.Table

/-! # Canonical decomposition

Texts that look the same may be written with composed characters or with base characters and
marks. Decomposing gives them one form: each character is taken apart as far as it goes, and
neighbouring marks are put in the order of their combining classes, marks of one class staying in
the order in which they were written.
-/

namespace FleetWatch.Text

/-- Decompositions other than those of Hangul syllables. -/
def decompositions : CharTable (List Char) :=
  .ofText (fun cs => (parts '.' cs).map fun digits => .ofNat (CharTable.hex digits))
    decompositionText

def combiningClasses : CharTable Nat := .ofText CharTable.hex combiningClassText

def combiningClass (c : Char) : Nat :=
  if c.toNat < 0x300 then 0 else (combiningClasses.value? c).getD 0

/-- The letters of the Hangul syllable with an index: a leading consonant, a vowel and perhaps a
trailing consonant. -/
def syllableLetters (index : Nat) : List Char :=
  let trailing := index % 28
  .ofNat (0x1100 + index / 588) :: .ofNat (0x1161 + index % 588 / 28) ::
    if trailing = 0 then [] else [.ofNat (0x11A7 + trailing)]

/-- A character taken apart. -/
def decomposedChar (c : Char) : List Char :=
  if c.toNat < 0x80 then [c]
  else if 0xAC00 ≤ c.toNat ∧ c.toNat ≤ 0xD7A3 then syllableLetters (c.toNat - 0xAC00)
  else (decompositions.value? c).getD [c]

/-- Puts a character in front of an ordered text: behind the marks of lower class that the text
begins with if it is a mark itself. -/
def insertMark (c : Char) : List Char → List Char
  | [] => [c]
  | d :: rest =>
    if combiningClass d ≠ 0 ∧ combiningClass d < combiningClass c then d :: insertMark c rest
    else c :: d :: rest

def decomposed (text : List Char) : List Char :=
  (text.flatMap decomposedChar).foldr insertMark []

theorem decomposed_of_ascii {text : List Char} (h : ∀ c ∈ text, c.toNat < 0x80) :
    decomposed text = text := by
  have apart : text.flatMap decomposedChar = text := by
    induction text with
    | nil => rfl
    | cons c rest ih =>
      simp [decomposedChar, h c (by simp), ih fun d hd => h d (List.mem_cons_of_mem _ hd)]
  unfold decomposed
  rw [apart]
  clear apart
  induction text with
  | nil => rfl
  | cons c rest ih =>
    rw [List.foldr_cons, ih fun d hd => h d (List.mem_cons_of_mem _ hd)]
    have low : c.toNat < 0x300 := Nat.lt_trans (h c (by simp)) (by decide)
    cases rest <;> simp [insertMark, combiningClass, low]

end FleetWatch.Text
