import FleetWatch.Text.Utf8

/-! # Percent-encoding

A text is written in ASCII by replacing bytes of its UTF-8 form by a percent sign and two digits
of base sixteen. Which bytes stand as they are hangs on the place where the text is to stand.
-/

namespace FleetWatch.Percent

/-- A digit of base sixteen, in capitals. -/
def hexDigit (n : Nat) : Char := .ofNat (if n < 10 then 48 + n else 55 + n)

def hexValue? (c : Char) : Option Nat :=
  if '0' ≤ c ∧ c ≤ '9' then some (c.toNat - 48)
  else if 'A' ≤ c ∧ c ≤ 'F' then some (c.toNat - 55)
  else if 'a' ≤ c ∧ c ≤ 'f' then some (c.toNat - 87)
  else none

/-- A byte as a percent sign and two digits. -/
def triple (b : UInt8) : List Char :=
  ['%', hexDigit (b.toNat / 16), hexDigit (b.toNat % 16)]

/-- Bytes as text: those that are kept as the ASCII characters they are, all others as triples. -/
def encode (keeps : UInt8 → Bool) (bytes : Bytes) : List Char :=
  bytes.flatMap fun b => if keeps b then [.ofNat b.toNat] else triple b

/-- The bytes of a text whose triples are undone. A percent sign without two digits behind it
stands for itself. -/
def decode : List Char → Bytes
  | '%' :: a :: b :: rest =>
    match hexValue? a, hexValue? b with
    | some high, some low => .ofNat (16 * high + low) :: decode rest
    | _, _ => 0x25 :: decode (a :: b :: rest)
  | c :: rest => Utf8.ofChars [c] ++ decode rest
  | [] => []

/-- The bytes that stand for themselves wherever they stand: ASCII letters and digits, `-`, `.`,
`_` and `~`. -/
def isUnreserved (b : UInt8) : Bool :=
  (0x41 ≤ b && b ≤ 0x5A) || (0x61 ≤ b && b ≤ 0x7A) || (0x30 ≤ b && b ≤ 0x39) || b == 0x2D ||
    b == 0x5F || b == 0x2E || b == 0x7E

def segment (s : String) : List Char := encode isUnreserved (Utf8.bytes s)

/-- Whether a byte is a printable ASCII character other than the given ones. -/
def isPrintableBut (marks : List Char) (b : UInt8) : Bool :=
  0x20 ≤ b && b < 0x7F && !marks.contains (.ofNat b.toNat)

def inFragment : UInt8 → Bool := isPrintableBut [' ', '"', '<', '>', '\x60']

def inPath : UInt8 → Bool :=
  isPrintableBut [' ', '"', '<', '>', '\x60', '#', '?', '{', '}']

def inCredentials (b : UInt8) : Bool :=
  inPath b && isPrintableBut ['/', ':', ';', '=', '@', '[', '\\', ']', '^', '|'] b

def inQuery : UInt8 → Bool := isPrintableBut [' ', '"', '#', '<', '>']

def inWebQuery : UInt8 → Bool := isPrintableBut [' ', '"', '#', '<', '>', '\'']

/-- What is kept where only control characters are not. -/
def inPlain : UInt8 → Bool := isPrintableBut []

end FleetWatch.Percent
