import FleetWatch.Text.Decomposition

/-! # Canonical composition

The other way round from decomposition: a text is taken apart and put together again as far as it
goes. A mark joins the base character before it when the two make up a character and no mark of
the same or a higher class stands between them; Hangul letters join into syllables.
-/

namespace FleetWatch.Text

/-- Characters that are taken apart but not put together again. -/
def apartForGood : List (Nat × Nat) :=
  [(0x344, 0x344), (0x958, 0x95F), (0x9DC, 0x9DF), (0xA33, 0xA36), (0xA59, 0xA5E), (0xB5C, 0xB5D),
    (0xF43, 0xFB9), (0x1F71, 0x1F71), (0x1F73, 0x1F73), (0x1F75, 0x1F75), (0x1F77, 0x1F77),
    (0x1F79, 0x1F79), (0x1F7B, 0x1F7B), (0x1F7D, 0x1F7D), (0x1FBB, 0x1FBB), (0x1FC9, 0x1FC9),
    (0x1FCB, 0x1FCB), (0x1FD3, 0x1FD3), (0x1FDB, 0x1FDB), (0x1FE3, 0x1FE3), (0x1FEB, 0x1FEB),
    (0x1FEE, 0x1FEE), (0x1FF9, 0x1FF9), (0x1FFB, 0x1FFB), (0x212B, 0x212B), (0x2ADC, 0x2ADC),
    (0xFB1D, 0xFB4E), (0x1D15E, 0x1D164), (0x1D1BB, 0x1D1C0)]

/-- The character whose decomposition a sequence of two or more characters is. -/
def composite? (parts : List Char) : Option Char :=
  if parts.length < 2 then none
  else
    (decompositions.runs.find? fun run => run.value = parts &&
      !apartForGood.any fun (first, last) => first ≤ run.first && run.first ≤ last).map
        fun run => .ofNat run.first

/-- The character that a base character and the one behind it make up. -/
def joined? (base next : Char) : Option Char :=
  let b := base.toNat
  let n := next.toNat
  if 0x1100 ≤ b ∧ b ≤ 0x1112 ∧ 0x1161 ≤ n ∧ n ≤ 0x1175 then
    some (.ofNat (0xAC00 + ((b - 0x1100) * 21 + (n - 0x1161)) * 28))
  else if 0xAC00 ≤ b ∧ b ≤ 0xD7A3 ∧ (b - 0xAC00) % 28 = 0 ∧ 0x11A8 ≤ n ∧ n ≤ 0x11C2 then
    some (.ofNat (b + (n - 0x11A7)))
  else composite? (decomposedChar base ++ [next])

/-- Puts together what stands behind a base character; `apart` holds, in reverse, the marks that
have not joined it. -/
def composedBehind (base : Char) (apart : List Char) : List Char → List Char
  | [] => base :: apart.reverse
  | c :: rest =>
    let isFree := match apart with
      | [] => true
      | mark :: _ => combiningClass mark < combiningClass c
    match if isFree then joined? base c else none with
    | some whole => composedBehind whole apart rest
    | none =>
      if combiningClass c = 0 then base :: apart.reverse ++ composedBehind c [] rest
      else composedBehind base (c :: apart) rest

def composed (text : List Char) : List Char :=
  match decomposed text with
  | [] => []
  | c :: rest => composedBehind c [] rest

end FleetWatch.Text
