import FleetWatch.Binary64.Decimal

/-! # The fewest digits that read back

Every magnitude has an interval of reals that round to it. On the decimal grid of one, two, … and
at last seventeen significant digits its two neighbours are tried; the first grid with one of them
inside the interval gives the digits, and of two inside the nearer one is taken.
-/

namespace FleetWatch

namespace Binary64

/-- A positive decimal: a natural number of steps of `10^exponent`. -/
structure Decimal where
  digits : Nat
  exponent : Int
  deriving Repr, DecidableEq

/-- The exponent of the leading digit of `num / den`, both positive. -/
def decade (num den : Nat) : Int :=
  if den ≤ num then (Digits.ofNat (num / den)).length - 1
  else Int.neg (Digits.ofNat ((den + num - 1) / num - 1)).length

/-- Whether `digits · 10^exponent` lies in the interval of the magnitude `units`. Everything is
doubled, so that the midpoints to both neighbours are whole; they belong to the interval when the
significand is even. -/
def readsBack (units : Nat) (d : Decimal) : Bool :=
  let up := spacing units
  let down := if units = Nat.pow 2 units.log2 ∧ Nat.pow 2 53 ≤ units then up / 2 else up
  let (num, den) : Nat × Nat := match d.exponent with
    | .ofNat e => (2 * d.digits * Nat.pow 10 e * one, 1)
    | .negSucc e => (2 * d.digits * one, Nat.pow 10 (e + 1))
  let low := (2 * units - down) * den
  let high := (2 * units + up) * den
  if units / up % 2 = 0 then decide (low ≤ num ∧ num ≤ high) else decide (low < num ∧ num < high)

/-- The neighbours of a magnitude on the grid of `10^exponent`, the nearer first. -/
def neighbours (units : Nat) (exponent : Int) : List Decimal :=
  let (num, den) : Nat × Nat := match exponent with
    | .ofNat e => (units, one * Nat.pow 10 e)
    | .negSucc e => (units * Nat.pow 10 (e + 1), one)
  let below : Decimal := ⟨num / den, exponent⟩
  let above : Decimal := ⟨num / den + 1, exponent⟩
  if 2 * (num % den) ≤ den then [below, above] else [above, below]

/-- The shortest decimal of a positive magnitude, tried from `tried` digits on with `fuel` more
grids left. -/
def shortestFrom (units : Nat) (lead : Int) (tried : Nat) : Nat → Decimal
  | 0 => ⟨0, 0⟩
  | fuel + 1 =>
    match (neighbours units (lead - tried)).find? (readsBack units) with
    | some d => d
    | none => shortestFrom units lead (tried + 1) fuel

/-- The shortest decimal of a positive magnitude; seventeen digits always read back. -/
def shortest (units : Nat) : Decimal := shortestFrom units (decade units one) 0 18

/-- A decimal without trailing zeros in its digits, dropping at most `fuel` of them. -/
def Decimal.stripped (d : Decimal) : Nat → Decimal
  | 0 => d
  | fuel + 1 =>
    if d.digits ≠ 0 ∧ d.digits % 10 = 0 then
      Decimal.stripped ⟨d.digits / 10, d.exponent + 1⟩ fuel
    else d

/-- Digits with a point at the place that the exponent gives, zeros filled in on either side. -/
def Decimal.positional (d : Decimal) (wholeMark : List Char) : List Char :=
  let digits := Digits.ofNat d.digits
  match d.exponent with
  | .ofNat e => digits ++ List.replicate e '0' ++ wholeMark
  | .negSucc e =>
    let places := e + 1
    if places < digits.length then
      digits.take (digits.length - places) ++ '.' :: digits.drop (digits.length - places)
    else ['0', '.'] ++ List.replicate (places - digits.length) '0' ++ digits

/-- The digits with a point behind the first one, then `e` and the exponent. -/
def Decimal.scientific (d : Decimal) : List Char :=
  let digits := Digits.ofNat d.digits
  let lead := d.exponent + (digits.length : Int) - 1
  let mark := (if lead < 0 then ['-'] else []) ++ Digits.ofNat lead.natAbs
  match digits with
  | [] => []
  | [first] => first :: 'e' :: mark
  | first :: rest => first :: '.' :: rest ++ 'e' :: mark

/-- How a format writes the shortest decimal of a finite number. -/
structure Style where
  /-- What follows a whole number. -/
  wholeMark : List Char
  /-- Leading digits of these places are written positionally, all others with an exponent. -/
  isPositional : Int → Bool

def Style.write (style : Style) : Binary64 → List Char
  | nan => "NaN".toList
  | infinite s => (if s then "-inf" else "inf").toList
  | finite s u =>
    let sign := if s then ['-'] else []
    if u = 0 then sign ++ '0' :: style.wholeMark
    else
      let d := (shortest u).stripped 400
      let lead := d.exponent + ((Digits.ofNat d.digits).length : Int) - 1
      sign ++ if style.isPositional lead then d.positional style.wholeMark else d.scientific

end Binary64

end FleetWatch
