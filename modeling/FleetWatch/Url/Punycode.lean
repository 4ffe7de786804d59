/-! # Punycode

Labels of host names are written in ASCII: first the ASCII characters, then where the others stand
and what they are, as a sequence of numbers to the base thirty-six with digits whose range adapts
to the numbers written so far.
-/

namespace FleetWatch.Punycode

/-- A digit of base thirty-six: letters come before figures. -/
def digit (d : Nat) : Char := .ofNat (if d < 26 then 97 + d else 22 + d)

/-- The lowest value that the digit at a place does not go beyond while more follow. -/
def threshold (place bias : Nat) : Nat := max 1 (min 26 (place - bias))

/-- A number in digits of the ranges that a bias gives, from a place on. -/
def number (bias place n : Nat) : List Char :=
  let t := threshold place bias
  if n < t then [digit n]
  else digit (t + (n - t) % (36 - t)) :: number bias (place + 36) ((n - t) / (36 - t))
termination_by n
decreasing_by
  have : 1 ≤ threshold place bias := Nat.le_max_left ..
  have : threshold place bias ≤ 26 := Nat.max_le.2 ⟨by decide, Nat.min_le_left ..⟩
  exact Nat.lt_of_le_of_lt (Nat.div_le_self ..) (by omega)

/-- Divides a number by thirty-five until it is small, counting by thirty-six. -/
def shrink (n count : Nat) : Nat :=
  if 455 < n then shrink (n / 35) (count + 36) else count + 36 * n / (n + 38)
termination_by n
decreasing_by exact Nat.div_lt_self (by omega) (by decide)

/-- The bias behind a number, of so many characters written by then. -/
def adapted (n written : Nat) (isFirst : Bool) : Nat :=
  let scaled := if isFirst then n / 700 else n / 2
  shrink (scaled + scaled / written) 0

/-- What has been written, and what the next number counts from. -/
structure State where
  output : List Char
  delta : Nat
  bias : Nat
  written : Nat

/-- Goes past one character of the label while the ones with a code point are written. -/
def pass (basic point : Nat) (s : State) (c : Char) : State :=
  if c.toNat < point then { s with delta := s.delta + 1 }
  else if c.toNat = point then
    ⟨s.output ++ number s.bias 36 s.delta, 0, adapted s.delta (s.written + 1) (s.written = basic),
      s.written + 1⟩
  else s

/-- Writes the characters with each of the given code points, in ascending order; `next` is the
least code point that may still come. -/
def writeFrom (label : List Char) (basic : Nat) : Nat → State → List Nat → State
  | _, s, [] => s
  | next, s, point :: points =>
    let reached := { s with delta := s.delta + (point - next) * (s.written + 1) }
    let passed := label.foldl (pass basic point) reached
    writeFrom label basic (point + 1) { passed with delta := passed.delta + 1 } points

/-- A label in ASCII, without the mark that tells that it is written so. -/
def encode (label : List Char) : List Char :=
  let basic := label.filter fun c => c.toNat < 0x80
  let points := ((label.filter fun c => 0x80 ≤ c.toNat).map Char.toNat).mergeSort
    (fun a b => decide (a ≤ b))
  let start : State := ⟨[], 0, 72, basic.length⟩
  basic ++ (if basic.isEmpty then [] else ['-']) ++
    (writeFrom label basic.length 0x80 start points.eraseDups).output

/-! ## Reading -/

def digitValue? (c : Char) : Option Nat :=
  if 'a' ≤ c ∧ c ≤ 'z' then some (c.toNat - 97)
  else if '0' ≤ c ∧ c ≤ '9' then some (c.toNat - 22)
  else none

/-- Reads a number that begins at a place, each digit counting by a weight, and gives it with the
text behind it. -/
def readNumber? (bias : Nat) : Nat → Nat → List Char → Option (Nat × List Char)
  | _, _, [] => none
  | place, weight, c :: rest => do
    let d ← digitValue? c
    let t := threshold place bias
    if d < t then return (d * weight, rest)
    let (n, rest') ← readNumber? bias (place + 36) (weight * (36 - t)) rest
    return (d * weight + n, rest')

theorem length_readNumber?_lt {bias place weight n : Nat} {text rest : List Char}
    (h : readNumber? bias place weight text = some (n, rest)) : rest.length < text.length := by
  induction text generalizing place weight n with
  | nil => simp [readNumber?] at h
  | cons c text ih =>
    simp only [readNumber?, Option.bind_eq_bind, Option.bind_eq_some_iff] at h
    obtain ⟨d, -, h⟩ := h
    split at h
    · simp only [Option.pure_def, Option.some.injEq, Prod.mk.injEq] at h
      simp [← h.2]
    · simp only [Option.bind_eq_some_iff, Prod.exists, Option.pure_def, Option.some.injEq,
        Prod.mk.injEq] at h
      obtain ⟨m, rest', h, -, rfl⟩ := h
      exact Nat.lt_succ_of_lt (ih h)

/-- Puts characters into what has been read: each number tells how many places further on, counted
through the label again for every greater code point, the next one goes. -/
def insertFrom (bias point place : Nat) (label : List Char) (text : List Char) :
    Option (List Char) :=
  match text with
  | [] => some label
  | c :: more =>
    match h : readNumber? bias 36 1 (c :: more) with
    | none => none
    | some (n, rest) =>
      let room := label.length + 1
      let point' := point + (place + n) / room
      let place' := (place + n) % room
      if Nat.isValidChar point' then
        insertFrom (adapted n room (place = 0)) point' (place' + 1)
          (label.insertIdx place' (.ofNat point')) rest
      else none
termination_by text.length
decreasing_by exact length_readNumber?_lt h

/-- The label that is written in ASCII so: what stands before the last hyphen are its ASCII
characters, and a hyphen without any before it parts nothing. -/
def decode? (text : List Char) : Option (List Char) :=
  let digits := (text.reverse.takeWhile (· ≠ '-')).reverse
  match text.take (text.length - digits.length) with
  | [] => insertFrom 72 0x80 0 [] text
  | ['-'] => none
  | basic => insertFrom 72 0x80 0 basic.dropLast digits

end FleetWatch.Punycode
