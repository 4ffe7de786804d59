import FleetWatch.Toml

/-! # TOML scalars

Strings in their four forms, integers in four bases, floats, booleans, dates and times. Each
reader takes what stands at the start of a text and gives the value and the text behind it; an
unquoted scalar is first cut off as a word and read as a whole.
-/

namespace FleetWatch.Toml

/-! ## Strings -/

/-- Whether a character may stand in a string or a comment as it is. -/
def isPlain (c : Char) : Bool := c = '\t' || (0x20 ≤ c.toNat && c.toNat ≠ 0x7F)

def hexValue? (c : Char) : Option Nat :=
  if '0' ≤ c ∧ c ≤ '9' then some (c.toNat - '0'.toNat)
  else if 'a' ≤ c ∧ c ≤ 'f' then some (c.toNat - 'a'.toNat + 10)
  else if 'A' ≤ c ∧ c ≤ 'F' then some (c.toNat - 'A'.toNat + 10)
  else none

/-- The character whose code point the digits give; a surrogate is none. -/
def charOfHex? (digits : List Char) : Option Char := do
  let values ← digits.mapM hexValue?
  let n := values.foldl (fun n d => 16 * n + d) 0
  if n.isValidChar then some (.ofNat n) else none

/-- The character that a letter behind a backslash stands for. -/
def escaped? : Char → Option Char
  | 'b' => some '\x08'
  | 't' => some '\t'
  | 'n' => some '\n'
  | 'f' => some '\x0c'
  | 'r' => some '\r'
  | 'e' => some '\x1b'
  | '"' => some '"'
  | '\\' => some '\\'
  | _ => none

/-- Puts a character in front of what a reader gave. -/
def before (c : Char) (result : Option (List Char × List Char)) :
    Option (List Char × List Char) := result.map fun (cs, rest) => (c :: cs, rest)

/-- The rest of a string in double quotes, with escapes. -/
def basic? : List Char → Option (List Char × List Char)
  | [] => none
  | '"' :: rest => some ([], rest)
  | '\\' :: 'x' :: a :: b :: rest => do before (← charOfHex? [a, b]) (basic? rest)
  | '\\' :: 'u' :: a :: b :: c :: d :: rest => do before (← charOfHex? [a, b, c, d]) (basic? rest)
  | '\\' :: 'U' :: a :: b :: c :: d :: e :: f :: g :: h :: rest => do
    before (← charOfHex? [a, b, c, d, e, f, g, h]) (basic? rest)
  | '\\' :: c :: rest => do before (← escaped? c) (basic? rest)
  | c :: rest => if isPlain c && c ≠ '\\' then before c (basic? rest) else none

/-- The rest of a string in single quotes, where nothing is escaped. -/
def literal? : List Char → Option (List Char × List Char)
  | [] => none
  | '\'' :: rest => some ([], rest)
  | c :: rest => if isPlain c then before c (literal? rest) else none

/-- Up to two quotes may stand right in front of the three that end a string of many lines. -/
def closing? (quote : Char) : List Char → Option (List Char × List Char)
  | a :: b :: c :: d :: e :: rest =>
    if [a, b, c] = [quote, quote, quote] then
      if d = quote ∧ e = quote then some ([quote, quote], rest)
      else if d = quote then some ([quote], e :: rest)
      else some ([], d :: e :: rest)
    else none
  | [a, b, c, d] =>
    if [a, b, c] = [quote, quote, quote] then
      if d = quote then some ([quote], []) else some ([], [d])
    else none
  | [a, b, c] => if [a, b, c] = [quote, quote, quote] then some ([], []) else none
  | _ => none

/-- The text behind the end of a line that it begins with: a line feed, or a carriage return and a
line feed. -/
def behindBreak? : List Char → Option (List Char)
  | '\n' :: rest => some rest
  | '\r' :: '\n' :: rest => some rest
  | _ => none

/-- Whether only blanks stand in front of the end of the line. -/
def endsLine (text : List Char) : Bool :=
  (behindBreak? (text.dropWhile fun c => c = ' ' || c = '\t')).isSome

/-- The rest of a string in three double quotes. A backslash at the end of a line takes away all
blanks and line ends that follow; `skipping` tells that it does so now. Other line ends stay as they
are. -/
def basicLines? (skipping : Bool) : List Char → Option (List Char × List Char)
  | [] => none
  | '"' :: rest =>
    match closing? '"' ('"' :: rest) with
    | some found => some found
    | none => before '"' (basicLines? false rest)
  | '\\' :: 'x' :: a :: b :: rest => do before (← charOfHex? [a, b]) (basicLines? false rest)
  | '\\' :: 'u' :: a :: b :: c :: d :: rest => do
    before (← charOfHex? [a, b, c, d]) (basicLines? false rest)
  | '\\' :: 'U' :: a :: b :: c :: d :: e :: f :: g :: h :: rest => do
    before (← charOfHex? [a, b, c, d, e, f, g, h]) (basicLines? false rest)
  | '\\' :: c :: rest =>
    if endsLine (c :: rest) then basicLines? true rest
    else do before (← escaped? c) (basicLines? false rest)
  | '\r' :: '\n' :: rest =>
    if skipping then basicLines? true rest
    else before '\r' (before '\n' (basicLines? false rest))
  | c :: rest =>
    if skipping && (c = ' ' || c = '\t' || c = '\n') then basicLines? true rest
    else if (isPlain c || c = '\n') && c ≠ '\\' then before c (basicLines? false rest)
    else none

/-- The rest of a string in three single quotes. -/
def literalLines? : List Char → Option (List Char × List Char)
  | [] => none
  | '\r' :: '\n' :: rest => before '\r' (before '\n' (literalLines? rest))
  | c :: rest =>
    match closing? '\'' (c :: rest) with
    | some found => some found
    | none => if isPlain c || c = '\n' then before c (literalLines? rest) else none

/-- A string of many lines does not begin with the line end behind its opening quotes. -/
def withoutFirstBreak (text : List Char) : List Char := (behindBreak? text).getD text

/-! ## Numbers -/

/-- Digits with single underscores between them, as digits alone. -/
def digits? (isDigit : Char → Bool) : List Char → Option (List Char)
  | [] => none
  | [c] => if isDigit c then some [c] else none
  | c :: '_' :: rest => if isDigit c then (digits? isDigit rest).map (c :: ·) else none
  | c :: rest => if isDigit c then (digits? isDigit rest).map (c :: ·) else none

/-- Decimal digits without a leading zero, zero itself apart. -/
def wholeDigits? (text : List Char) : Option (List Char) :=
  match digits? Digits.isDigit text with
  | some ('0' :: _ :: _) => none
  | found => found

/-- An integer that 64 bits hold. -/
def inRange? (i : Int) : Option Toml :=
  if -9223372036854775808 ≤ i ∧ i ≤ 9223372036854775807 then some (integer i) else none

/-- A natural number in some base. -/
def based? (base : Nat) (text : List Char) : Option Toml :=
  (digits? (fun c => (hexValue? c).any (· < base)) text).bind fun digits =>
    inRange? (digits.foldl (fun n c => base * n + (hexValue? c).getD 0) 0 : Nat)

def decimal? (text : List Char) : Option Toml :=
  let (negative, body) := Binary64.splitSign text
  (wholeDigits? body).bind fun digits =>
    inRange? (if negative then -(Digits.toNat digits : Int) else Digits.toNat digits)

/-- A float: whole digits, then places or an exponent or both. -/
def float? (text : List Char) : Option Toml := do
  let (negative, body) := Binary64.splitSign text
  let isMark (c : Char) : Bool := c = 'e' || c = 'E'
  let whole := body.takeWhile fun c => c ≠ '.' && !isMark c
  let behind := body.dropWhile fun c => c ≠ '.' && !isMark c
  let (placesPart, exponentPart) := (behind.takeWhile (!isMark ·), behind.dropWhile (!isMark ·))
  let digits ← wholeDigits? whole
  let places ← match placesPart with
    | [] => some []
    | _ :: more => digits? Digits.isDigit more
  let exponent ← match exponentPart with
    | [] => some 0
    | _ :: more =>
      let (below, digits) := Binary64.splitSign more
      (digits? Digits.isDigit digits).map fun ds =>
        if below then -(Digits.toNat ds : Int) else (Digits.toNat ds : Int)
  if behind.isEmpty then none
  else
    let x :=
      Binary64.ofDecimal negative (Digits.toNat (digits ++ places)) (exponent - places.length)
    if x.isFinite then some (float x) else none

/-! ## Dates and times -/

/-- A number of exactly so many digits between two limits. -/
def field? (width low high : Nat) (text : List Char) : Option (List Char × List Char) :=
  let digits := text.take width
  if digits.length = width ∧ digits.all Digits.isDigit ∧ low ≤ Digits.toNat digits ∧
      Digits.toNat digits ≤ high then some (digits, text.drop width) else none

def behind? (mark : Char) : List Char → Option (List Char)
  | [] => none
  | c :: rest => if c = mark then some rest else none

def daysIn (year month : Nat) : Nat :=
  if month = 2 then
    if (year % 4 = 0 ∧ year % 100 ≠ 0) ∨ year % 400 = 0 then 29 else 28
  else if month = 4 ∨ month = 6 ∨ month = 9 ∨ month = 11 then 30 else 31

def date? (text : List Char) : Option (List Char × List Char) := do
  let (year, rest) ← field? 4 0 9999 text
  let (month, rest) ← field? 2 1 12 (← behind? '-' rest)
  let (day, rest) ←
    field? 2 1 (daysIn (Digits.toNat year) (Digits.toNat month)) (← behind? '-' rest)
  return (year ++ '-' :: month ++ '-' :: day, rest)

/-- A fraction of a second without its trailing zeros, one digit at least, nine at most. -/
def fraction (digits : List Char) : List Char :=
  match ((digits.take 9).reverse.dropWhile (· = '0')).reverse with
  | [] => ['0']
  | kept => kept

/-- A time of day; seconds may be left out. -/
def time? (text : List Char) : Option (List Char × List Char) := do
  let (hour, rest) ← field? 2 0 23 text
  let (minute, rest) ← field? 2 0 59 (← behind? ':' rest)
  match behind? ':' rest with
  | none => return (hour ++ ':' :: minute, rest)
  | some rest =>
    let (second, rest) ← field? 2 0 60 rest
    match behind? '.' rest with
    | none => return (hour ++ ':' :: minute ++ ':' :: second, rest)
    | some rest =>
      let digits := rest.takeWhile Digits.isDigit
      if digits.isEmpty then none
      else
        return (hour ++ ':' :: minute ++ ':' :: second ++ '.' :: fraction digits,
          rest.dropWhile Digits.isDigit)

/-- The offset from Coordinated Universal Time that ends a time, if there is one. -/
def zone? : List Char → Option (List Char)
  | [] => some []
  | ['Z'] | ['z'] => some ['Z']
  | sign :: rest =>
    if sign = '+' ∨ sign = '-' then do
      let (hour, rest) ← field? 2 0 23 rest
      let (minute, rest) ← field? 2 0 59 (← behind? ':' rest)
      if rest.isEmpty then
        let zero := Digits.toNat hour = 0 ∧ Digits.toNat minute = 0
        some ((if zero then '+' else sign) :: hour ++ ':' :: minute)
      else none
    else none

/-- A date, a time of day, or a date with a time behind `T` or a blank. -/
def moment? (text : List Char) : Option Toml :=
  match date? text with
  | some (date, []) => some (moment (String.ofList date))
  | some (date, mark :: rest) =>
    if mark = 'T' ∨ mark = 't' ∨ mark = ' ' then do
      let (time, rest) ← time? rest
      let zone ← zone? rest
      return moment (String.ofList (date ++ 'T' :: time ++ zone))
    else none
  | none =>
    match time? text with
    | some (time, []) => some (moment (String.ofList time))
    | _ => none

/-! ## Words -/

/-- Whether a character belongs to an unquoted scalar. -/
def isWordChar (c : Char) : Bool :=
  c.isAlphanum || c = '_' || c = '-' || c = '+' || c = '.' || c = ':'

/-- Cuts off an unquoted scalar. A blank belongs to it between a date and a time. -/
def cutWord (text : List Char) : List Char × List Char :=
  let word := text.takeWhile isWordChar
  let rest := text.dropWhile isWordChar
  match rest with
  | ' ' :: d :: more =>
    if (date? word).any (·.2.isEmpty) && Digits.isDigit d then
      (word ++ ' ' :: (d :: more).takeWhile isWordChar, (d :: more).dropWhile isWordChar)
    else (word, rest)
  | _ => (word, rest)

/-- A number that is no decimal. -/
def named? (word : List Char) : Option Toml :=
  let (negative, body) := Binary64.splitSign word
  if body = ['i', 'n', 'f'] then some (float (.infinite negative))
  else if body = ['n', 'a', 'n'] then some (float .nan)
  else none

/-- The value of an unquoted scalar. -/
def word? (word : List Char) : Option Toml :=
  match word with
  | ['t', 'r', 'u', 'e'] => some (bool true)
  | ['f', 'a', 'l', 's', 'e'] => some (bool false)
  | '0' :: 'x' :: digits => based? 16 digits
  | '0' :: 'o' :: digits => based? 8 digits
  | '0' :: 'b' :: digits => based? 2 digits
  | _ => (((named? word).or (decimal? word)).or (float? word)).or (moment? word)

end FleetWatch.Toml
