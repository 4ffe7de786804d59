import FleetWatch.Binary64.Decimal
import FleetWatch.Text.Blank

/-! # Durations

How long something lasts, in nanoseconds. A duration is read from a number and a unit, such as
`1.5m` or `500 ms`, and an elapsed time is written compactly with a unit that suits its size.
-/

namespace FleetWatch

structure Duration where
  nanos : Nat
  deriving Repr, DecidableEq, Inhabited

namespace Duration

def ofMillis (n : Nat) : Duration := ⟨n * 1000000⟩

def ofSeconds (n : Nat) : Duration := ⟨n * 1000000000⟩

def seconds (d : Duration) : Nat := d.nanos / 1000000000

/-- The longest duration that is read: 64 bits of nanoseconds. -/
def longest : Nat := 0xFFFFFFFFFFFFFFFF

/-- The units a duration may be given in. -/
inductive TimeUnit where
  | nanosecond
  /-- Microseconds, marked with the micro sign. -/
  | microsecond
  /-- Microseconds, marked in ASCII. -/
  | microsecondAscii
  | millisecond
  | second
  | minute
  deriving Repr, DecidableEq

namespace TimeUnit

/-- The mark of a unit, which ends the text of a duration. -/
def mark : TimeUnit → List Char
  | nanosecond => ['n', 's']
  | microsecond => ['µ', 's']
  | microsecondAscii => ['u', 's']
  | millisecond => ['m', 's']
  | second => ['s']
  | minute => ['m']

def nanos : TimeUnit → Nat
  | nanosecond => 1
  | microsecond => 1000
  | microsecondAscii => 1000
  | millisecond => 1000000
  | second => 1000000000
  | minute => 60000000000

/-- All units, in the order in which their marks are looked for: `s` ends other marks, so it
comes behind them. -/
def all : List TimeUnit :=
  [nanosecond, microsecond, microsecondAscii, millisecond, second, minute]

end TimeUnit

/-- Why a text is no duration; each carries the text. -/
inductive ReadError where
  /-- It ends in no unit. -/
  | unknownFormat (text : String)
  /-- What stands in front of the unit is no number. -/
  | notANumber (text : String) (reason : Binary64.LiteralError)
  /-- The number is below zero, infinite or NaN. -/
  | outOfRange (text : String)
  deriving Repr, DecidableEq

/-- The wording of an error, the outermost message first and its cause behind it. -/
def ReadError.messages : ReadError → List String
  | unknownFormat text => ["unknown duration format (expected e.g. 2s, 500ms): " ++ text]
  | notANumber text .empty => ["invalid duration: " ++ text, "cannot parse float from empty string"]
  | notANumber text .malformed => ["invalid duration: " ++ text, "invalid float literal"]
  | outOfRange text => ["duration must be a non-negative number: " ++ text]

/-- Parts a text into what stands in front of a unit and the unit, the first whose mark fits. -/
def splitUnit? (text : List Char) : Option (List Char × TimeUnit) :=
  TimeUnit.all.findSome? fun unit => (Text.stripEnd? unit.mark text).map (·, unit)

/-- So many of a unit: the product as a binary64 number, without its fraction and at most
`longest`. -/
def ofAmount (amount : Binary64) (unit : TimeUnit) : Duration :=
  ⟨((amount * Binary64.ofNat unit.nanos).truncate 0 longest).toNat⟩

/-- Reads a duration. Blanks around the text and in front of the unit do not count; once a unit
fits, no other is tried. -/
def parse (s : String) : Except ReadError Duration :=
  let text := Text.trim s.toList
  match splitUnit? text with
  | none => .error (.unknownFormat (String.ofList text))
  | some (number, unit) =>
    match Binary64.parse (Text.trim number) with
    | .error reason => .error (.notANumber (String.ofList text) reason)
    | .ok amount =>
      if !amount.isFinite || Binary64.lt amount Binary64.zero then
        .error (.outOfRange (String.ofList text))
      else .ok (ofAmount amount unit)

/-- The duration in seconds as a binary64 number: seconds and nanoseconds are converted apart. -/
def toSeconds (d : Duration) : Binary64 :=
  Binary64.ofNat d.seconds + Binary64.ofNat (d.nanos % 1000000000) / Binary64.ofNat 1000000000

/-- Writes an elapsed time: tenths of a second below a minute, minutes and seconds below an hour,
hours and minutes from there on. -/
def elapsed (d : Duration) : String :=
  let exact := d.toSeconds
  let text :=
    if Binary64.lt exact (Binary64.ofNat 60) then exact.fixed 1 ++ ['s']
    else if Binary64.lt exact (Binary64.ofNat 3600) then
      Digits.ofNat (d.seconds / 60) ++ 'm' :: Digits.padded 2 (d.seconds % 60) ++ ['s']
    else
      Digits.ofNat (d.seconds / 3600) ++ 'h' :: Digits.padded 2 (d.seconds % 3600 / 60) ++ ['m']
  String.ofList text

end Duration

end FleetWatch
