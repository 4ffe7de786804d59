import FleetWatch.Json.Quoted
import FleetWatch.Binary64.Shortest

/-! # Writing JSON

Two layouts: compact, without any blank, and spread over lines with two spaces for each level.
An empty array or object is written without a line break in both.
-/

namespace FleetWatch.Json

def nat (n : Nat) : Json := .number (Utf8.ofChars (Digits.ofNat n))

/-- Binary64 numbers have the fewest digits that read back, a point in every one of them, and an
exponent below `10^-5` and from `10^16` on. -/
def floatStyle : Binary64.Style := ⟨['.', '0'], fun lead => -5 ≤ lead && lead < 16⟩

def float (x : Binary64) : Json :=
  if x.isFinite then .number (Utf8.ofChars (floatStyle.write x)) else .null

def orNull (value : Option Json) : Json := value.getD .null

/-- An object, its members given by text. -/
def record (members : List (String × Json)) : Json :=
  .object (members.map fun (name, v) => (quoted name, v))

/-- The string with the given bytes between its quotes. -/
def stringBytes (body : Bytes) : Bytes := 0x22 :: body ++ [0x22]

mutual

def compact : Json → Bytes
  | .null => [0x6e, 0x75, 0x6c, 0x6c]
  | .bool true => [0x74, 0x72, 0x75, 0x65]
  | .bool false => [0x66, 0x61, 0x6c, 0x73, 0x65]
  | .number literal => literal
  | .string body => stringBytes body
  | .array [] => [0x5b, 0x5d]
  | .array (v :: vs) => 0x5b :: compact v ++ compactItems vs
  | .object [] => [0x7b, 0x7d]
  | .object ((k, v) :: ms) => 0x7b :: stringBytes k ++ 0x3a :: compact v ++ compactMembers ms

def compactItems : List Json → Bytes
  | [] => [0x5d]
  | v :: vs => 0x2c :: compact v ++ compactItems vs

def compactMembers : List (Bytes × Json) → Bytes
  | [] => [0x7d]
  | (k, v) :: ms => 0x2c :: stringBytes k ++ 0x3a :: compact v ++ compactMembers ms

end

/-- A line break and the indentation of a level. -/
def newline (level : Nat) : Bytes := 0x0a :: List.replicate (2 * level) 0x20

mutual

/-- A value spread over lines, at a level of indentation. -/
def prettyAt (level : Nat) : Json → Bytes
  | .null => compact .null
  | .bool b => compact (.bool b)
  | .number literal => literal
  | .string body => stringBytes body
  | .array [] => [0x5b, 0x5d]
  | .array (v :: vs) =>
    0x5b :: newline (level + 1) ++ prettyAt (level + 1) v ++ prettyItems level vs
  | .object [] => [0x7b, 0x7d]
  | .object ((k, v) :: ms) =>
    0x7b :: newline (level + 1) ++ stringBytes k ++ 0x3a :: 0x20 :: prettyAt (level + 1) v ++
      prettyMembers level ms

def prettyItems (level : Nat) : List Json → Bytes
  | [] => newline level ++ [0x5d]
  | v :: vs => 0x2c :: newline (level + 1) ++ prettyAt (level + 1) v ++ prettyItems level vs

def prettyMembers (level : Nat) : List (Bytes × Json) → Bytes
  | [] => newline level ++ [0x7d]
  | (k, v) :: ms =>
    0x2c :: newline (level + 1) ++ stringBytes k ++ 0x3a :: 0x20 :: prettyAt (level + 1) v ++
      prettyMembers level ms

end

def pretty (v : Json) : Bytes := prettyAt 0 v

end FleetWatch.Json
