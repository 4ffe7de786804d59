import FleetWatch.Text.Parts

/-! # Tables of character properties

A property of characters is kept as runs of neighbours that share it, in ascending order, and
looked up by halving. Long tables are written as text: entries parted by blanks, in each a
character or a run of characters (`41` or `41-5A`, in base sixteen), a colon and the property.
-/

namespace FleetWatch.Text

/-- Neighbouring characters, by their code points, with what they share. -/
structure CharRun (α : Type) where
  first : Nat
  last : Nat
  value : α
  deriving Repr, Inhabited

/-- Runs in ascending order. -/
structure CharTable (α : Type) where
  runs : Array (CharRun α)
  deriving Inhabited

namespace CharTable

variable {α : Type}

/-- The run that holds a code point, among those from `low` on and before `high`. -/
def findBetween? (runs : Array (CharRun α)) (n low high : Nat) : Option (CharRun α) :=
  if _ : low < high then
    let middle := low + (high - low) / 2
    match runs[middle]? with
    | none => none
    | some run =>
      if n < run.first then findBetween? runs n low middle
      else if run.last < n then findBetween? runs n (middle + 1) high
      else some run
  else none
termination_by high - low

def find? (table : CharTable α) (c : Char) : Option (CharRun α) :=
  findBetween? table.runs c.toNat 0 table.runs.size

/-- What the run that holds a character shares. -/
def value? (table : CharTable α) (c : Char) : Option α := (table.find? c).map CharRun.value

def contains (table : CharTable α) (c : Char) : Bool := (table.find? c).isSome

def hexDigit (c : Char) : Nat :=
  if c.toNat < 65 then c.toNat - 48 else c.toNat - 55

/-- The natural number that a run of digits of base sixteen denotes. -/
def hex (digits : List Char) : Nat := digits.foldl (fun n c => 16 * n + hexDigit c) 0

/-- The entries of a table's text, the entry being read given in reverse. -/
def entriesFrom : List Char → List Char → List (List Char)
  | entry, [] => [entry.reverse]
  | entry, c :: rest =>
    if c = ' ' ∨ c = '\n' then entry.reverse :: entriesFrom [] rest
    else entriesFrom (c :: entry) rest

/-- The entries of a table's text, each parted into what stands before and behind its colon. -/
def entries (text : String) : List (List Char × List Char) :=
  (entriesFrom [] text.toList).map fun entry =>
    (entry.takeWhile (· ≠ ':'), (entry.dropWhile (· ≠ ':')).drop 1)

/-- The table that a text describes, its properties read by the given function. -/
def ofText (property : List Char → α) (text : String) : CharTable α :=
  ⟨((entries text).map fun (run, value) =>
    match parts '-' run with
    | [first, last] => ⟨hex first, hex last, property value⟩
    | _ => ⟨hex run, hex run, property value⟩).toArray⟩

end CharTable

end FleetWatch.Text
