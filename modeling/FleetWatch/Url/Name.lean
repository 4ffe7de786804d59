import FleetWatch.Text.Case
import FleetWatch.Text.Composition
import FleetWatch.Text.Direction
import FleetWatch.Text.Joining
import FleetWatch.Url.Name.Table
import FleetWatch.Url.Punycode

/-! # Names of hosts

A name may be written in any script. Its characters are first brought to one form: capitals become
small letters, variants the characters that they stand for, some characters are left out, and what
can be composed is composed. Labels that are not in ASCII are then written in ASCII, behind a mark
that tells so. A label that is already written so has to be the form of one that could have been
written plainly. Some characters no name holds, and words that mix directions of writing, begin with
a mark or hold joiners to no effect are no labels.
-/

namespace FleetWatch.Name

/-- What stands for the characters of a run. -/
def standing : Text.CharTable (List Char) :=
  .ofText (fun cs =>
    if cs.isEmpty then []
    else (Text.parts '.' cs).map fun digits => .ofNat (Text.CharTable.hex digits))
    standingText

/-- The characters that no name holds. -/
def refused : Text.CharTable Unit := .ofText (fun _ => ()) refusedText

/-- What stands for a character beyond ASCII, if a name may hold it. -/
def standingFor? (c : Char) : Option (List Char) :=
  if refused.contains c then none
  else
    match standing.find? c with
    | some run =>
      match run.value with
      | [first] => some [.ofNat (first.toNat + (c.toNat - run.first))]
      | several => some several
    | none => some [Text.lowerChar c]

/-- What stands for a character, if a name may hold it. -/
def mapped? (c : Char) : Option (List Char) :=
  if c.toNat < 0x80 then some [c.toLower] else standingFor? c

/-- A text in the form in which names are compared, if a name may hold its characters. -/
def settled? (text : List Char) : Option (List Char) :=
  (text.mapM mapped?).map fun parts => Text.composed parts.flatten

def isAscii (text : List Char) : Bool := text.all fun c => c.toNat < 0x80

/-- What a label begins with that is written in ASCII and means another one. -/
def codeMark : List Char := "xn--".toList

/-- The greatest number of characters of a label in another script; the work of writing it in ASCII
grows with its square. -/
def maxCharacters : Nat := 1000

/-- The greatest length of what is behind the mark of a label in ASCII. -/
def maxCode : Nat := 2000

/-- The label that a settled label means: itself, or the one that it is the ASCII form of. -/
def meaning? (label : List Char) : Option (List Char) :=
  if codeMark.isPrefixOf label then
    let code := label.drop codeMark.length
    if maxCode < code.length then none
    else
      match Punycode.decode? code with
      | none => none
      | some meant =>
        if isAscii meant || codeMark.isPrefixOf meant || settled? meant ≠ some meant then none
        else some meant
  else some label

def written? (label : List Char) : Option (List Char) :=
  if isAscii label then some label
  else if maxCharacters < label.length then none
  else some (codeMark ++ Punycode.encode label)

/-- Whether a label is well formed by itself. -/
def isWellFormed (label : List Char) : Bool :=
  !(label.head?.any Text.isMark) && Text.joinersMatter label

/-- A name in small letters and in ASCII. When any of its labels is written from right to left,
every one of them has to read one way. -/
def inAscii? (name : List Char) : Option (List Char) := do
  let labels ← (Text.parts '.' (← settled? name)).mapM meaning?
  if !labels.all isWellFormed then none
  else if labels.any Text.hasLeftward && !labels.all Text.readsOneWay then none
  else return ['.'].intercalate (← labels.mapM written?)

end FleetWatch.Name
