/-! # Lines

A text parted at its line feeds. A carriage return in front of a line feed belongs to it, and a text
that ends in a line feed has no empty line behind it.
-/

namespace FleetWatch.Text

/-- The lines of a text behind the one that is being read, which is given in reverse. -/
def linesFrom : List Char → List Char → List (List Char)
  | line, [] => if line.isEmpty then [] else [line.reverse]
  | line, c :: rest =>
    if c = '\n' then
      (match line with
        | '\r' :: before => before.reverse
        | _ => line.reverse) :: linesFrom [] rest
    else linesFrom (c :: line) rest

def lines (text : List Char) : List (List Char) := linesFrom [] text

theorem linesFrom_of_not_mem {line rest : List Char} (h : '\n' ∉ rest)
    (filled : line ++ rest ≠ []) : linesFrom line rest = [line.reverse ++ rest] := by
  induction rest generalizing line with
  | nil => simpa [linesFrom] using filled
  | cons c rest ih =>
    rw [List.mem_cons, not_or] at h
    unfold linesFrom
    rw [if_neg (Ne.symm h.1), ih h.2 (by simp)]
    simp

theorem lines_of_not_mem {text : List Char} (h : '\n' ∉ text) (filled : text ≠ []) :
    lines text = [text] := by
  unfold lines
  rw [linesFrom_of_not_mem h (by simpa using filled)]
  rfl

end FleetWatch.Text
