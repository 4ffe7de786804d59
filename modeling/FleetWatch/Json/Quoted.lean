import FleetWatch.Json

/-! # JSON strings

What stands between the quotes of a string, and the text that it means. Writing escapes the
quote, the backslash and the control characters below U+0020 and nothing else. Reading knows
every escape of the format; a surrogate is read only as the first half of a pair.
-/

namespace FleetWatch.Json

def hexDigit (n : Nat) : UInt8 := if n < 10 then (48 + n).toUInt8 else (87 + n).toUInt8

/-- The value of a digit of base sixteen, in either case. -/
def hexValue? (b : UInt8) : Option Nat :=
  if 48 ≤ b ∧ b ≤ 57 then some (b.toNat - 48)
  else if 97 ≤ b ∧ b ≤ 102 then some (b.toNat - 87)
  else if 65 ≤ b ∧ b ≤ 70 then some (b.toNat - 55)
  else none

/-- How a byte is written between quotes. -/
def escapeByte (b : UInt8) : Bytes :=
  match b with
  | 0x22 => [0x5c, 0x22]
  | 0x5c => [0x5c, 0x5c]
  | 0x08 => [0x5c, 0x62]
  | 0x09 => [0x5c, 0x74]
  | 0x0a => [0x5c, 0x6e]
  | 0x0c => [0x5c, 0x66]
  | 0x0d => [0x5c, 0x72]
  | _ =>
    if b < 0x20 then
      [0x5c, 0x75, 0x30, 0x30, hexDigit (b.toNat / 16), hexDigit (b.toNat % 16)]
    else [b]

/-- What stands between the quotes of a text. -/
def quoted (s : String) : Bytes := (Utf8.bytes s).flatMap escapeByte

def text (s : String) : Json := .string (quoted s)

def hexQuad? (a b c d : UInt8) : Option Nat := do
  let w ← hexValue? a
  let x ← hexValue? b
  let y ← hexValue? c
  let z ← hexValue? d
  some (4096 * w + 256 * x + 16 * y + z)

/-- The UTF-8 form of a scalar value. -/
def scalarBytes (n : Nat) : Bytes := Utf8.ofChars [Char.ofNat n]

/-- The bytes that the bytes between quotes mean: escapes are resolved, all else stands for
itself. A first half of a surrogate pair needs its second half right behind it. -/
def resolve? : Bytes → Option Bytes
  | [] => some []
  | 0x5c :: 0x75 :: a :: b :: c :: d :: rest =>
    match hexQuad? a b c d with
    | none => none
    | some n =>
      if 0xDC00 ≤ n ∧ n ≤ 0xDFFF then none
      else if 0xD800 ≤ n ∧ n ≤ 0xDBFF then
        match rest with
        | 0x5c :: 0x75 :: e :: f :: g :: h :: rest' =>
          match hexQuad? e f g h with
          | some m =>
            if 0xDC00 ≤ m ∧ m ≤ 0xDFFF then
              (resolve? rest').map
                (scalarBytes (0x10000 + (n - 0xD800) * 0x400 + (m - 0xDC00)) ++ ·)
            else none
          | none => none
        | _ => none
      else (resolve? rest).map (scalarBytes n ++ ·)
  | 0x5c :: e :: rest =>
    match e with
    | 0x22 => (resolve? rest).map (0x22 :: ·)
    | 0x5c => (resolve? rest).map (0x5c :: ·)
    | 0x2f => (resolve? rest).map (0x2f :: ·)
    | 0x62 => (resolve? rest).map (0x08 :: ·)
    | 0x66 => (resolve? rest).map (0x0c :: ·)
    | 0x6e => (resolve? rest).map (0x0a :: ·)
    | 0x72 => (resolve? rest).map (0x0d :: ·)
    | 0x74 => (resolve? rest).map (0x09 :: ·)
    | _ => none
  | b :: rest => if b = 0x5c then none else (resolve? rest).map (b :: ·)

/-- The text that the bytes between quotes mean, if they mean one. -/
def unquoted? (body : Bytes) : Option String := (resolve? body).bind Utf8.text?

end FleetWatch.Json
