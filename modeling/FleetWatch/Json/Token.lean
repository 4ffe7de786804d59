import FleetWatch.Json

/-! # JSON tokens

The bytes of a document parted into tokens by a machine that takes one byte at a time. Strings and
numbers are checked against the format's grammar and kept as they are written; blanks are the
space, the tab, the line feed and the carriage return.
-/

namespace FleetWatch.Json

/-- The smallest parts of a document. -/
inductive Token where
  | openArray
  | closeArray
  | openObject
  | closeObject
  | comma
  | colon
  | null
  | bool (b : Bool)
  | number (literal : Bytes)
  | string (body : Bytes)
  deriving Repr, DecidableEq, Inhabited

namespace Token

/-- Where in a number the machine is; the name tells what was read last. -/
inductive NumberPart where
  | sign
  | zero
  | whole
  | point
  | places
  | mark
  | markSign
  | power
  deriving Repr, DecidableEq

def isDigit (b : UInt8) : Bool := 48 ≤ b && b ≤ 57

/-- Whether a number may end here. -/
def NumberPart.isComplete : NumberPart → Bool
  | zero | whole | places | power => true
  | sign | point | mark | markSign => false

/-- The part of the number that one more byte leads to, if it belongs to the number. -/
def NumberPart.next? (part : NumberPart) (b : UInt8) : Option NumberPart :=
  match part with
  | sign => if b = 48 then some zero else if isDigit b then some whole else none
  | zero => if b = 46 then some point else if b = 101 ∨ b = 69 then some mark else none
  | whole =>
    if isDigit b then some whole
    else if b = 46 then some point
    else if b = 101 ∨ b = 69 then some mark else none
  | point => if isDigit b then some places else none
  | places => if isDigit b then some places else if b = 101 ∨ b = 69 then some mark else none
  | mark => if b = 43 ∨ b = 45 then some markSign else if isDigit b then some power else none
  | markSign => if isDigit b then some power else none
  | power => if isDigit b then some power else none

/-- What the machine is in the middle of; bytes read so far are kept in reverse. -/
inductive Scan where
  /-- Between tokens. -/
  | idle
  /-- In a number. -/
  | number (part : NumberPart) (read : Bytes)
  /-- In a string. -/
  | string (read : Bytes)
  /-- Behind a backslash in a string. -/
  | escape (read : Bytes)
  /-- In the digits of an escape, with so many of them to come. -/
  | digits (missing : Nat) (read : Bytes)
  /-- In a word, with these bytes to come before it stands for the token. -/
  | word (missing : Bytes) (token : Token)
  deriving Repr, DecidableEq

/-- Whether a byte is a blank between tokens. -/
def isSpace (b : UInt8) : Bool := b == 0x20 || b == 0x09 || b == 0x0a || b == 0x0d

/-- Whether a byte may follow a backslash by itself. -/
def isEscape (b : UInt8) : Bool :=
  b == 0x22 || b == 0x5c || b == 0x2f || b == 0x62 || b == 0x66 || b == 0x6e || b == 0x72 ||
    b == 0x74

def isHex (b : UInt8) : Bool :=
  isDigit b || (97 ≤ b && b ≤ 102) || (65 ≤ b && b ≤ 70)

/-- A byte between tokens: what the machine is in now and the token that the byte is. -/
def start? (b : UInt8) : Option (Scan × List Token) :=
  match b with
  | 0x5b => some (.idle, [openArray])
  | 0x5d => some (.idle, [closeArray])
  | 0x7b => some (.idle, [openObject])
  | 0x7d => some (.idle, [closeObject])
  | 0x2c => some (.idle, [comma])
  | 0x3a => some (.idle, [colon])
  | 0x22 => some (.string [], [])
  | 0x6e => some (.word [0x75, 0x6c, 0x6c] null, [])
  | 0x74 => some (.word [0x72, 0x75, 0x65] (bool true), [])
  | 0x66 => some (.word [0x61, 0x6c, 0x73, 0x65] (bool false), [])
  | 0x2d => some (.number .sign [b], [])
  | 0x30 => some (.number .zero [b], [])
  | _ =>
    if isSpace b then some (.idle, [])
    else if isDigit b then some (.number .whole [b], [])
    else none

/-- One byte: what the machine is in now and the tokens that end with or at the byte. -/
def step? (scan : Scan) (b : UInt8) : Option (Scan × List Token) :=
  match scan with
  | .idle => start? b
  | .number part read =>
    match part.next? b with
    | some part' => some (.number part' (b :: read), [])
    | none =>
      if part.isComplete then
        (start? b).map fun (scan, tokens) => (scan, number read.reverse :: tokens)
      else none
  | .string read =>
    if b = 0x22 then some (.idle, [string read.reverse])
    else if b = 0x5c then some (.escape (b :: read), [])
    else if b < 0x20 then none
    else some (.string (b :: read), [])
  | .escape read =>
    if b = 0x75 then some (.digits 4 (b :: read), [])
    else if isEscape b then some (.string (b :: read), [])
    else none
  | .digits missing read =>
    if isHex b then
      some (if missing ≤ 1 then .string (b :: read) else .digits (missing - 1) (b :: read), [])
    else none
  | .word missing token =>
    match missing with
    | [] => none
    | [last] => if b = last then some (.idle, [token]) else none
    | next :: more => if b = next then some (.word more token, []) else none

/-- The tokens that end with the last byte; nothing if the machine is inside one. -/
def finish? : Scan → Option (List Token)
  | .idle => some []
  | .number part read => if part.isComplete then some [number read.reverse] else none
  | _ => none

/-- The tokens of a document from a state of the machine on, behind the ones already found, which
are given in reverse. -/
def scanFrom? (scan : Scan) (found : List Token) : Bytes → Option (List Token)
  | [] => (finish? scan).map fun last => (last.reverse ++ found).reverse
  | b :: rest =>
    match step? scan b with
    | none => none
    | some (scan', tokens) => scanFrom? scan' (tokens.reverse ++ found) rest

def scan? (document : Bytes) : Option (List Token) := scanFrom? .idle [] document

end Token

end FleetWatch.Json
