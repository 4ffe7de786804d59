import FleetWatch.Binary64

/-! # Binary64 numbers and decimal text

Reading takes a decimal to the nearest number. Writing comes in two forms: with a fixed count of
decimal places, rounded from the exact value, and with the fewest digits that read back as the
same number.
-/

namespace FleetWatch

namespace Digits

/-- The value of one decimal digit. -/
def value? (c : Char) : Option Nat :=
  if '0' ≤ c ∧ c ≤ '9' then some (c.toNat - '0'.toNat) else none

def isDigit (c : Char) : Bool := (value? c).isSome

/-- The natural number that a run of digits denotes, most significant first. -/
def toNat (digits : List Char) : Nat :=
  digits.foldl (fun n c => 10 * n + (value? c).getD 0) 0

def ofNat (n : Nat) : List Char := Nat.toDigits 10 n

/-- The digits of a natural number with zeros in front, at least `width` of them. -/
def padded (width n : Nat) : List Char :=
  let digits := ofNat n
  List.replicate (width - digits.length) '0' ++ digits

end Digits

namespace Binary64

/-- The number nearest to `± digits · 10^exponent`. Far beyond either end of the range the
power of ten is not computed: a decimal above `10^400` is infinite and one below `10^-400` zero. -/
def ofDecimal (negative : Bool) (digits : Nat) (exponent : Int) : Binary64 :=
  if digits = 0 then finite negative 0
  else if 400 < exponent then infinite negative
  else if (digits.log2 : Int) + 1 + exponent < -400 then finite negative 0
  else match exponent with
    | .ofNat e => round negative (digits * Nat.pow 10 e * one) 1
    | .negSucc e => round negative (digits * one) (Nat.pow 10 (e + 1))

/-- Why a text is no number. -/
inductive LiteralError where
  /-- There is no text. -/
  | empty
  /-- The text is not of the form of a number. -/
  | malformed
  deriving Repr, DecidableEq

/-- The words that name numbers without digits, in lower case. -/
def named? (word : List Char) : Option (Bool → Binary64) :=
  match String.ofList (word.map Char.toLower) with
  | "inf" => some infinite
  | "infinity" => some infinite
  | "nan" => some fun _ => nan
  | _ => none

/-- A sign in front of a text, `+` unless it is written, and the text after it. -/
def splitSign : List Char → Bool × List Char
  | '-' :: rest => (true, rest)
  | '+' :: rest => (false, rest)
  | text => (false, text)

/-- The exponent behind the digits: nothing, or a mark, a sign and at least one digit. -/
def exponent? : List Char → Option Int
  | [] => some 0
  | mark :: rest =>
    if mark = 'e' ∨ mark = 'E' then
      let (negative, digits) := splitSign rest
      if digits.isEmpty || !digits.all Digits.isDigit then none
      else some (if negative then -(Digits.toNat digits : Int) else Digits.toNat digits)
    else none

/-- A decimal without its sign: digits with at most one point among them, at least one digit, and
an exponent. -/
def unsigned? (negative : Bool) (text : List Char) : Option Binary64 :=
  let whole := text.takeWhile Digits.isDigit
  let rest := text.dropWhile Digits.isDigit
  let (places, tail) := match rest with
    | '.' :: more => (more.takeWhile Digits.isDigit, more.dropWhile Digits.isDigit)
    | _ => ([], rest)
  if whole.isEmpty && places.isEmpty then none
  else (exponent? tail).map fun e =>
    ofDecimal negative (Digits.toNat (whole ++ places)) (e - places.length)

/-- Reads a number: a sign, then `inf`, `infinity` or `nan` in any case or a decimal. -/
def parse (text : List Char) : Except LiteralError Binary64 :=
  if text.isEmpty then .error .empty
  else
    let (negative, body) := splitSign text
    match named? body with
    | some number => .ok (number negative)
    | none => match unsigned? negative body with
      | some number => .ok number
      | none => .error .malformed

/-- The text of a number with a fixed count of decimal places: the exact value rounded to the
nearest, a half to the even neighbour. A negative zero keeps its sign. -/
def fixed (places : Nat) : Binary64 → List Char
  | nan => "NaN".toList
  | infinite s => (if s then "-inf" else "inf").toList
  | finite s u =>
    let scaled := divNearest (u * Nat.pow 10 places) one
    let whole := Digits.ofNat (scaled / Nat.pow 10 places)
    let fraction :=
      if places = 0 then [] else '.' :: Digits.padded places (scaled % Nat.pow 10 places)
    (if s then ['-'] else []) ++ whole ++ fraction

end Binary64

end FleetWatch
