import FleetWatch.Collation.Table
import FleetWatch.Text.CharTable

/-! # Collation elements

A character is weighed by elements of three levels: the primary weight tells letters apart, the
secondary one accents, the tertiary one upper and lower case and other variants. A weight of zero
says nothing at its level, and a character without elements is passed over. Characters that the
table does not know are weighed by their code point, ideographs before all others.
-/

namespace FleetWatch.Collation

/-- One step of a comparison. -/
structure Element where
  primary : Nat
  secondary : Nat
  tertiary : Nat
  deriving Repr, DecidableEq, Inhabited

/-- The secondary weight of what bears no accent. -/
def plain : Nat := 0x20

/-- The tertiary weight of what is no variant. -/
def common : Nat := 2

/-- The tertiary weight of a capital letter. -/
def capital : Nat := 8

/-- The ASCII characters with a primary weight, capitals left out, in ascending order. -/
def asciiPrimaries : List (Char × Nat) :=
  [('\t', 0x201), ('\n', 0x202), ('\x0b', 0x203), ('\x0c', 0x204), ('\r', 0x205), (' ', 0x209),
    ('_', 0x20B), ('-', 0x20D), (',', 0x224), (';', 0x23B), (':', 0x241), ('!', 0x268),
    ('?', 0x26F), ('.', 0x281), ('\'', 0x32F), ('"', 0x332), ('(', 0x335), (')', 0x336),
    ('[', 0x337), (']', 0x338), ('{', 0x339), ('}', 0x33A), ('@', 0x3B5), ('*', 0x3B6),
    ('/', 0x3BB), ('\\', 0x3BC), ('&', 0x3BE), ('#', 0x3C1), ('%', 0x3C2), ('`', 0x4D3),
    ('^', 0x4D6), ('+', 0x6A7), ('<', 0x6AB), ('=', 0x6AC), ('>', 0x6AD), ('|', 0x6AF),
    ('~', 0x6B1), ('$', 0x1E6D), ('0', 0x209C), ('1', 0x209D), ('2', 0x209E), ('3', 0x209F),
    ('4', 0x20A0), ('5', 0x20A1), ('6', 0x20A2), ('7', 0x20A3), ('8', 0x20A4), ('9', 0x20A5),
    ('a', 0x20A6), ('b', 0x20B4), ('c', 0x20BF), ('d', 0x20C9), ('e', 0x20D7), ('f', 0x20EE),
    ('g', 0x20F7), ('h', 0x2106), ('i', 0x2112), ('j', 0x211F), ('k', 0x2126), ('l', 0x2131),
    ('m', 0x214C), ('n', 0x2155), ('o', 0x2167), ('p', 0x2185), ('q', 0x2191), ('r', 0x2198),
    ('s', 0x21B9), ('t', 0x21CE), ('u', 0x21DC), ('v', 0x21F4), ('w', 0x21FD), ('x', 0x2201),
    ('y', 0x220A), ('z', 0x2211)]

def asciiElements (c : Char) : List Element :=
  let tertiary := if 'A' ≤ c ∧ c ≤ 'Z' then capital else common
  match asciiPrimaries.lookup c.toLower with
  | some primary => [⟨primary, plain, tertiary⟩]
  | none => []

/-- An element as the table writes it. -/
def element (text : List Char) : Element :=
  match (Text.parts '.' text).map Text.CharTable.hex with
  | [p] => ⟨p, plain, common⟩
  | [p, s] => ⟨p, s, common⟩
  | [p, s, t] => ⟨p, s, t⟩
  | _ => default

/-- A sequence of elements as the table writes it. -/
def elementList (text : List Char) : List Element :=
  if text.isEmpty then [] else (Text.parts ';' text).map element

/-- What the characters of a run have in common. -/
structure Weighing where
  /-- The elements of the first character. -/
  elements : List Element
  /-- By how much the leading primary weight grows from one character to the next. -/
  step : Nat
  deriving Inhabited

def Weighing.at (w : Weighing) (place : Nat) : List Element :=
  match w.elements with
  | [] => []
  | e :: rest => { e with primary := e.primary + place * w.step } :: rest

def weights : Text.CharTable Weighing :=
  .ofText (fun cs =>
    match Text.parts '+' cs with
    | [elements, step] => ⟨elementList elements, Text.CharTable.hex step⟩
    | _ => ⟨elementList cs, 0⟩) weightText

/-- Sequences that are weighed as one, by their first character: the characters that follow it and
the elements of the whole. -/
abbrev Contractions := List (List Char × List Element)

def addContraction (runs : Array (Text.CharRun Contractions)) (entry : List Char × List Char) :
    Array (Text.CharRun Contractions) :=
  match (Text.parts '.' entry.1).map Text.CharTable.hex with
  | [] => runs
  | first :: more =>
    let contraction := (more.map Char.ofNat, elementList entry.2)
    match runs.back? with
    | some run =>
      if run.first = first then runs.pop.push { run with value := contraction :: run.value }
      else runs.push ⟨first, first, [contraction]⟩
    | none => runs.push ⟨first, first, [contraction]⟩

def contractionTable : Text.CharTable Contractions :=
  ⟨(Text.CharTable.entries contractionText).foldl addContraction #[]⟩

def contractions (c : Char) : Contractions := (contractionTable.value? c).getD []

/-- The compatibility ideographs that are unified ideographs all the same. -/
def unifiedExceptions : List Nat :=
  [0xFA0E, 0xFA0F, 0xFA11, 0xFA13, 0xFA14, 0xFA1F, 0xFA21, 0xFA23, 0xFA24, 0xFA27, 0xFA28, 0xFA29]

/-- The ideographs beyond the first block. -/
def extensions : List (Nat × Nat) :=
  [(0x3400, 0x4DBF), (0x20000, 0x2A6DF), (0x2A700, 0x2B739), (0x2B740, 0x2B81D),
    (0x2B820, 0x2CEA1), (0x2CEB0, 0x2EBE0), (0x2EBF0, 0x2EE5D), (0x30000, 0x3134A),
    (0x31350, 0x323AF)]

/-- The elements of a character with a place in a block that is weighed as a whole. -/
def placeElements (block place : Nat) : List Element :=
  [⟨block, plain, common⟩, ⟨0x8000 + place, 0, 0⟩]

/-- The scripts that are weighed as a whole: the weight of each and the runs of characters that it
has, in their order. They are Tangut, whose components come last, Nushu and Khitan. -/
def scripts : List (Nat × List (Nat × Nat)) :=
  [(0xFB00, [(0x17000, 0x187F7), (0x18D00, 0x18D08), (0x18800, 0x18AFF)]),
    (0xFB01, [(0x1B170, 0x1B2FB)]), (0xFB02, [(0x18B00, 0x18CD5)])]

/-- The place of a character in runs, if it is in one of them. -/
def placeIn? (n : Nat) : List (Nat × Nat) → Option Nat
  | [] => none
  | (first, last) :: more =>
    if first ≤ n ∧ n ≤ last then some (n - first)
    else (placeIn? n more).map (· + (last + 1 - first))

/-- The elements of a character that the table does not know: the weight of its block, then its
place in it. Behind the scripts that have a block each come the unified ideographs, their
extensions and everything else. -/
def implicitElements (n : Nat) : List Element :=
  match scripts.findSome? fun (block, runs) => (placeIn? n runs).map (block, ·) with
  | some (block, place) => placeElements block place
  | none =>
    let block :=
      if (0x4E00 ≤ n ∧ n ≤ 0x9FFF) ∨ n ∈ unifiedExceptions then 0xFB40
      else if extensions.any fun (first, last) => first ≤ n && n ≤ last then 0xFB80
      else 0xFBC0
    placeElements (block + n / 0x8000) (n % 0x8000)

def charElements (c : Char) : List Element :=
  if c.toNat < 0x80 then asciiElements c
  else match weights.find? c with
    | some run => run.value.at (c.toNat - run.first)
    | none => implicitElements c.toNat

end FleetWatch.Collation
