import FleetWatch.Text.CharTable
import FleetWatch.Text.Direction.Table

/-! # Direction of writing

Letters are written from left to right or from right to left, and what stands between them follows.
A word reads one way only when it begins and ends with letters or numbers of one direction and holds
none of the other.
-/

namespace FleetWatch.Text

/-- The directional class of a character. -/
inductive Direction where
  /-- A letter written from left to right. -/
  | rightward
  /-- A letter written from right to left. -/
  | leftward
  /-- A digit of the Arabic script. -/
  | arabicNumber
  /-- Any other digit. -/
  | number
  /-- What goes with either direction. -/
  | neutral
  /-- A mark, which goes with the character before it. -/
  | mark
  deriving Repr, DecidableEq, Inhabited

namespace Direction

def ofLetter : List Char → Direction
  | ['R'] => leftward
  | ['A'] => arabicNumber
  | ['E'] => number
  | ['N'] => neutral
  | ['M'] => mark
  | _ => rightward

/-- The classes of characters beyond ASCII that are not written from left to right. -/
def table : CharTable Direction := .ofText ofLetter directionText

def ofChar (c : Char) : Direction :=
  if c.toNat < 0x80 then
    if c.isAlpha then rightward else if c.isDigit then number else neutral
  else (table.value? c).getD rightward

/-- Whether a character makes the text around it one that is written from right to left. -/
def isLeftward : Direction → Bool
  | leftward | arabicNumber => true
  | _ => false

/-- Whether a word whose characters have the given classes reads one way only. Marks at its end do
not count as its end. -/
def readsOneWay : List Direction → Bool
  | [] => true
  | first :: rest =>
    let core := (rest.reverse.dropWhile (· = mark)).reverse
    let endsWith (kinds : List Direction) : Bool :=
      match core.getLast? with
      | none => true
      | some last => kinds.contains last
    match first with
    | rightward =>
      core.all [rightward, number, neutral, mark].contains && endsWith [rightward, number]
    | leftward =>
      core.all [leftward, arabicNumber, number, neutral, mark].contains &&
        endsWith [leftward, arabicNumber, number] &&
        !(core.contains arabicNumber && core.contains number)
    | _ => false

end Direction

/-- Whether some character of a text is written from right to left. -/
def hasLeftward (text : List Char) : Bool := text.any fun c => (Direction.ofChar c).isLeftward

/-- Whether a word reads one way only. -/
def readsOneWay (word : List Char) : Bool := Direction.readsOneWay (word.map Direction.ofChar)

end FleetWatch.Text
