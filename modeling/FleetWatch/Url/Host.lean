import FleetWatch.Binary64.Decimal
import FleetWatch.Url.Name
import FleetWatch.Url.Percent

/-! # Hosts

A host is an address of version 4 or 6 or a name. A name whose last label is a number has to be an
address.
-/

namespace FleetWatch.Host

/-! ## Version 4 -/

/-- A number in decimal, in base eight behind a zero, or in base sixteen behind `0x`. -/
def number? (text : List Char) : Option Nat :=
  let inBase (base : Nat) (digits : List Char) : Option Nat :=
    digits.foldl (fun n c => n.bind fun n =>
      (Percent.hexValue? c).bind fun d => if d < base then some (base * n + d) else none) (some 0)
  match text with
  | [] => none
  | '0' :: 'x' :: digits => inBase 16 digits
  | '0' :: 'X' :: digits => inBase 16 digits
  | '0' :: d :: digits => inBase 8 (d :: digits)
  | digits => inBase 10 digits

/-- The labels of a name, without the empty one behind a dot at its end. -/
def labels (name : List Char) : List (List Char) :=
  match (Text.parts '.' name).reverse with
  | [] :: first :: more => (first :: more).reverse
  | parts => parts.reverse

/-- Whether the last label is a number. -/
def endsInNumber (name : List Char) : Bool :=
  match (labels name).getLast? with
  | none => false
  | some last => !last.isEmpty && (last.all Digits.isDigit || (number? last).isSome)

/-- The address that up to four numbers make; the last one fills the bytes that are left. -/
def address? (numbers : List Nat) : Option Nat :=
  match numbers.reverse with
  | [] => none
  | last :: front =>
    if 4 < numbers.length || front.any (255 < ·) || Nat.pow 256 (5 - numbers.length) ≤ last then
      none
    else
      some ((front.reverse.zipIdx.foldl (fun n (part, i) => n + part * Nat.pow 256 (3 - i)) 0) + last)

/-- An address of version 4 in its usual form. -/
def addressText (n : Nat) : List Char :=
  let part (i : Nat) : List Char := Digits.ofNat (n / Nat.pow 256 i % 256)
  part 3 ++ '.' :: part 2 ++ '.' :: part 1 ++ '.' :: part 0

def version4? (name : List Char) : Option (List Char) :=
  (((labels name).mapM number?).bind address?).map addressText

/-! ## Version 6 -/

/-- A group of up to four digits of base sixteen. -/
def group? (text : List Char) : Option Nat :=
  if text.isEmpty || 4 < text.length then none
  else text.foldl (fun n c => n.bind fun n => (Percent.hexValue? c).map (16 * n + ·)) (some 0)

/-- The two groups that four decimal numbers make. -/
def groupsOfDecimals? (text : List Char) : Option (List Nat) :=
  match Text.parts '.' text with
  | [a, b, c, d] => do
    let parts ← [a, b, c, d].mapM fun part =>
      let isWhole := !part.isEmpty && part.all Digits.isDigit &&
        (part.length = 1 || part.head? ≠ some '0')
      if isWhole && Digits.toNat part < 256 then some (Digits.toNat part) else none
    match parts with
    | [a, b, c, d] => some [256 * a + b, 256 * c + d]
    | _ => none
  | _ => none

/-- Groups with colons between them; the last two may be written as four decimal numbers. -/
def groups? (mayEndDecimal : Bool) (text : List Char) : Option (List Nat) :=
  if text.isEmpty then some []
  else
    match (Text.parts ':' text).reverse with
    | [] => none
    | last :: front => do
      let front ← front.reverse.mapM group?
      let tail ← if last.contains '.' then
          (if mayEndDecimal then groupsOfDecimals? last else none)
        else (group? last).map ([·])
      return front ++ tail

/-- What stands before and behind the first two colons in a row. -/
def splitGap : List Char → Option (List Char × List Char)
  | [] => none
  | [_] => none
  | a :: b :: rest =>
    if a = ':' ∧ b = ':' then some ([], rest)
    else (splitGap (b :: rest)).map fun (front, back) => (a :: front, back)

/-- The eight groups of an address of version 6; two colons in a row stand for the groups that are
not written, all of them zero. -/
def eightGroups? (text : List Char) : Option (List Nat) :=
  match splitGap text with
  | none => (groups? true text).bind fun groups => if groups.length = 8 then some groups else none
  | some (front, back) => do
    let before ← groups? false front
    let behind ← groups? true back
    if before.length + behind.length < 8 then
      some (before ++ List.replicate (8 - before.length - behind.length) 0 ++ behind)
    else none

/-- Where the first of the longest runs of zeros begins, and its length. -/
def longestGap (groups : List Nat) : Nat × Nat :=
  (List.range groups.length).foldl (fun best i =>
    let run := ((groups.drop i).takeWhile (· = 0)).length
    if best.2 < run then (i, run) else best) (0, 0)

def groupsText (groups : List Nat) : List Char :=
  [':'].intercalate (groups.map (Nat.toDigits 16))

/-- An address of version 6 in its shortest form, in brackets. -/
def version6? (text : List Char) : Option (List Char) :=
  (eightGroups? text).map fun groups =>
    let (start, length) := longestGap groups
    let inner :=
      if length < 2 then groupsText groups
      else groupsText (groups.take start) ++ ':' :: ':' :: groupsText (groups.drop (start + length))
    '[' :: inner ++ [']']

/-! ## Names -/

/-- The characters that no host holds. -/
def isForbidden (c : Char) : Bool :=
  c = '\x00' || c = '\t' || c = '\n' || c = '\r' || " #/:<>?@[\\]^|".toList.contains c

/-- The characters that no name of a host on the web holds. -/
def isForbiddenInName (c : Char) : Bool := isForbidden c || c.toNat < 0x20 || c = '%' || c = '\x7F'

/-- What stands between brackets, if the text is in brackets. -/
def bracketed? (text : List Char) : Option (List Char) :=
  match text with
  | '[' :: rest => if rest.getLast? = some ']' then some rest.dropLast else none
  | _ => none

/-- A host of the web in its usual form. -/
def web? (text : List Char) : Option (List Char) :=
  if text.head? = some '[' then (bracketed? text).bind version6?
  else do
    let name ← Name.inAscii? (← Utf8.text? (Percent.decode text)).toList
    if name.isEmpty || name.any isForbiddenInName then none
    else if endsInNumber name then version4? name
    else some name

/-- A host of any other scheme. -/
def other? (text : List Char) : Option (List Char) :=
  if text.head? = some '[' then (bracketed? text).bind version6?
  else if text.any isForbidden then none
  else some (Percent.encode Percent.inPlain (Utf8.ofChars text))

end FleetWatch.Host
