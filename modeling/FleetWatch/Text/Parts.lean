/-! # Parts of a text

A text falls into parts at a mark. There is always one part more than there are marks.
-/

namespace FleetWatch.Text

/-- The parts of a text between marks. -/
def parts (mark : Char) : List Char → List (List Char)
  | [] => [[]]
  | c :: rest =>
    if c = mark then [] :: parts mark rest
    else match parts mark rest with
      | [] => [[c]]
      | part :: more => (c :: part) :: more

end FleetWatch.Text
