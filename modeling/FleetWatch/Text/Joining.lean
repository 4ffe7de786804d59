import FleetWatch.Text.Decomposition
import FleetWatch.Text.Joining.Table

/-! # Joiners

Two invisible characters tell whether the letters beside them join. They make a difference only
behind a virama, and the one that keeps letters apart also between letters that would join.
-/

namespace FleetWatch.Text

/-- How a character joins the letters beside it. -/
inductive Joining where
  /-- On both sides. -/
  | both
  /-- To the letter that follows. -/
  | left
  /-- To the letter before. -/
  | right
  /-- Not at all, and the letters on its sides join as though it were not there. -/
  | transparent
  deriving Repr, DecidableEq, Inhabited

/-- How the characters that take part in joining do so. -/
def joinings : CharTable Joining :=
  .ofText (fun
    | ['D'] => .both
    | ['L'] => .left
    | ['R'] => .right
    | _ => .transparent) joiningText

def marks : CharTable Unit := .ofText (fun _ => ()) markText

/-- Whether a character combines with the one before it. -/
def isMark (c : Char) : Bool := marks.contains c

/-- Whether a character keeps letters apart. -/
def isNonJoiner (c : Char) : Bool := c = '\u200C'

/-- Whether a character tells whether letters join. -/
def isJoiner (c : Char) : Bool := isNonJoiner c || c = '\u200D'

def isVirama (c : Char) : Bool := combiningClass c = 9

/-- Whether the first of some characters that is not looked through joins in one of the ways. -/
def meetsJoining (kinds : List Joining) (text : List Char) : Bool :=
  match text.dropWhile fun c => joinings.value? c = some .transparent with
  | [] => false
  | c :: _ =>
    match joinings.value? c with
    | some kind => kinds.contains kind
    | none => false

/-- Whether every joiner of a word makes a difference, given what stands before it in reverse. -/
def joinersMatterBehind (before : List Char) : List Char → Bool
  | [] => true
  | c :: rest =>
    (!isJoiner c || before.head?.any isVirama ||
        (isNonJoiner c && meetsJoining [.left, .both] before &&
          meetsJoining [.right, .both] rest)) &&
      joinersMatterBehind (c :: before) rest

/-- Whether every joiner of a word makes a difference. -/
def joinersMatter (word : List Char) : Bool := joinersMatterBehind [] word

end FleetWatch.Text
