/-! # Binary64 numbers

A number of IEEE 754's double format. All its finite magnitudes are whole multiples of the least
positive one, `2^-1074`, so a magnitude is kept as that multiple: comparing is comparing natural
numbers, and each operation computes its exact result and rounds it once, to the nearest number
and on a tie to the one with an even significand.
-/

namespace FleetWatch

/-- A binary64 number. A finite one is a sign and a count of units of `2^-1074`. -/
inductive Binary64 where
  /-- Not a number; its payload is of no account. -/
  | nan
  /-- An infinity and whether it is the negative one. -/
  | infinite (negative : Bool)
  /-- A finite number; zero has both signs. -/
  | finite (negative : Bool) (units : Nat)
  deriving Repr, DecidableEq, Inhabited

namespace Binary64

/-- How many units make one: `1 = 2^1074 · 2^-1074`. -/
def one : Nat := Nat.pow 2 1074

/-- Magnitudes from here on (`2^1024`) are infinite. -/
def overflow : Nat := Nat.pow 2 2098

/-- The whole number nearest to `num / den`; a half goes to the even neighbour. -/
def divNearest (num den : Nat) : Nat :=
  let below := num / den
  let rest := 2 * (num % den)
  if rest < den then below
  else if den < rest then below + 1
  else if below % 2 = 0 then below else below + 1

/-- Distance from a magnitude to the next larger one: significands have 53 bits. -/
def spacing (units : Nat) : Nat := Nat.pow 2 (units.log2 - 52)

/-- The magnitude nearest to `num / den` units. -/
def roundUnits (num den : Nat) : Nat :=
  let step := spacing (num / den)
  divNearest num (den * step) * step

/-- The number nearest to `± num / den` units. -/
def round (negative : Bool) (num den : Nat) : Binary64 :=
  let units := roundUnits num den
  if units < overflow then .finite negative units else .infinite negative

def zero : Binary64 := .finite false 0

def ofNat (n : Nat) : Binary64 := round false (n * one) 1

def ofInt (i : Int) : Binary64 := round (decide (i < 0)) (i.natAbs * one) 1

/-- The same magnitude with the other sign. -/
def neg : Binary64 → Binary64
  | nan => nan
  | infinite s => infinite (!s)
  | finite s u => finite (!s) u

def signedUnits (negative : Bool) (units : Nat) : Int :=
  if negative then -(units : Int) else units

/-- Sum; opposite infinities have none, and an exact zero is negative only when both operands are.
-/
def add : Binary64 → Binary64 → Binary64
  | nan, _ => nan
  | _, nan => nan
  | infinite s, infinite t => if s = t then infinite s else nan
  | infinite s, finite _ _ => infinite s
  | finite _ _, infinite t => infinite t
  | finite s a, finite t b =>
    let sum := signedUnits s a + signedUnits t b
    if sum = 0 then finite (s && t) 0 else round (decide (sum < 0)) sum.natAbs 1

def sub (x y : Binary64) : Binary64 := add x (neg y)

/-- Product; zero times infinity has none. -/
def mul : Binary64 → Binary64 → Binary64
  | nan, _ => nan
  | _, nan => nan
  | infinite s, infinite t => infinite (s != t)
  | infinite s, finite t b => if b = 0 then nan else infinite (s != t)
  | finite s a, infinite t => if a = 0 then nan else infinite (s != t)
  | finite s a, finite t b => round (s != t) (a * b) one

/-- Quotient; a nonzero number over zero is infinite, zero over zero has none. -/
def div : Binary64 → Binary64 → Binary64
  | nan, _ => nan
  | _, nan => nan
  | infinite _, infinite _ => nan
  | infinite s, finite t _ => infinite (s != t)
  | finite s _, infinite t => finite (s != t) 0
  | finite s a, finite t b =>
    if b = 0 then (if a = 0 then nan else infinite (s != t))
    else round (s != t) (a * one) b

instance : Neg Binary64 := ⟨neg⟩
instance : Add Binary64 := ⟨add⟩
instance : Sub Binary64 := ⟨sub⟩
instance : Mul Binary64 := ⟨mul⟩
instance : Div Binary64 := ⟨div⟩

/-- Where a number other than NaN stands on the line, as an integer that grows with it. -/
def rank : Binary64 → Int
  | nan => 0
  | infinite s => signedUnits s overflow
  | finite s u => signedUnits s u

def isNan : Binary64 → Bool
  | nan => true
  | _ => false

def isFinite : Binary64 → Bool
  | finite _ _ => true
  | _ => false

/-- Strictly less; false when either is NaN. -/
def lt (x y : Binary64) : Bool := !x.isNan && !y.isNan && decide (x.rank < y.rank)

/-- At most; false when either is NaN. -/
def le (x y : Binary64) : Bool := !x.isNan && !y.isNan && decide (x.rank ≤ y.rank)

/-- The larger number, or the one that is not NaN; of equal ones the first. -/
def max (x y : Binary64) : Binary64 :=
  if x.isNan then y else if lt x y then y else x

/-- The smaller number, or the one that is not NaN; of equal ones the first. -/
def min (x y : Binary64) : Binary64 :=
  if x.isNan then y else if lt y x then y else x

/-- The integer part, brought into `lo … hi`; NaN gives zero. -/
def truncate (lo hi : Int) : Binary64 → Int
  | nan => 0
  | infinite s => if s then lo else hi
  | finite s u => Max.max lo (Min.min hi (signedUnits s (u / one)))

/-- The 64-bit word of the interchange format. -/
def toBits : Binary64 → Nat
  | nan => 0x7ff8000000000000
  | infinite s => (if s then Nat.pow 2 63 else 0) + 0x7ff0000000000000
  | finite s u =>
    let shift := u.log2 - 52
    (if s then Nat.pow 2 63 else 0) +
      (if u < Nat.pow 2 52 then u
        else (shift + 1) * Nat.pow 2 52 + (u / Nat.pow 2 shift - Nat.pow 2 52))

end Binary64

end FleetWatch
