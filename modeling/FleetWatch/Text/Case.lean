import FleetWatch.Text.Case.Table

/-! # Lower case

The lower case of a text. Every character goes by itself but the capital sigma, which becomes a
final sigma at the end of a word: behind a cased character and not before one, where characters
such as marks and apostrophes are passed over. One character, the dotted capital I, becomes two.
-/

namespace FleetWatch.Text

def CaseRun.holds (run : CaseRun) (n : Nat) : Bool :=
  run.first ≤ n && n ≤ run.last && (n - run.first) % run.stride == 0

/-- The lower case of a character whose lower case is one character. -/
def lowerChar (c : Char) : Char :=
  match lowerRuns.find? (·.holds c.toNat) with
  | some run => .ofNat (c.toNat + run.shift).toNat
  | none => c

def inRuns (runs : List (Nat × Nat)) (c : Char) : Bool :=
  runs.any fun (first, last) => first ≤ c.toNat && c.toNat ≤ last

/-- Whether a character is upper, lower or title case. -/
def isCased (c : Char) : Bool := inRuns casedRuns c

/-- Whether a character is passed over when case is looked for. -/
def isCaseIgnorable (c : Char) : Bool := inRuns caseIgnorableRuns c

/-- Whether the first character of a text that is not passed over is cased. -/
def meetsCased (text : List Char) : Bool :=
  match text.dropWhile isCaseIgnorable with
  | [] => false
  | c :: _ => isCased c

/-- The lower case of a text that stands behind another one, which is given in reverse. -/
def lowerBehind (before : List Char) : List Char → List Char
  | [] => []
  | c :: rest =>
    (if c = 'Σ' then [if meetsCased before && !meetsCased rest then 'ς' else 'σ']
      else if c = 'İ' then ['i', '\u0307']
      else [lowerChar c]) ++ lowerBehind (c :: before) rest

def lower (text : List Char) : List Char := lowerBehind [] text

end FleetWatch.Text
