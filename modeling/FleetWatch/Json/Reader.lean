import FleetWatch.Json.Token

/-! # Reading JSON

The value of a document, built by a machine that takes one token at a time and keeps the arrays
and objects that are still open on a stack, so values may be nested to any depth.
-/

namespace FleetWatch.Json

/-- A value that is still open, with what was read of it in reverse. -/
inductive Frame where
  /-- An array whose next item is being read. -/
  | array (items : List Json)
  /-- An object, the value of whose member `name` is being read. -/
  | object (members : List (Bytes × Json)) (name : Bytes)
  deriving Inhabited

/-- What the machine waits for. -/
inductive Awaits where
  /-- A value. -/
  | value (stack : List Frame)
  /-- The first item of an array, or its end. -/
  | item (stack : List Frame)
  /-- A member's name, or the object's end where there is no member yet. -/
  | name (members : List (Bytes × Json)) (stack : List Frame)
  /-- The colon behind a member's name. -/
  | colon (members : List (Bytes × Json)) (name : Bytes) (stack : List Frame)
  /-- What follows a complete value. -/
  | next (v : Json) (stack : List Frame)
  deriving Inhabited

namespace Awaits

/-- A token where a value is due. -/
def value? (stack : List Frame) : Token → Option Awaits
  | .null => some (next .null stack)
  | .bool b => some (next (.bool b) stack)
  | .number literal => some (next (.number literal) stack)
  | .string body => some (next (.string body) stack)
  | .openArray => some (item (.array [] :: stack))
  | .openObject => some (name [] stack)
  | _ => none

def step? (s : Awaits) (t : Token) : Option Awaits :=
  match s with
  | value stack => value? stack t
  | item stack =>
    match t, stack with
    | .closeArray, .array _ :: outer => some (next (.array []) outer)
    | _, _ => value? stack t
  | name members stack =>
    match t with
    | .string body => some (colon members body stack)
    | .closeObject => if members.isEmpty then some (next (.object []) stack) else none
    | _ => none
  | colon members key stack =>
    match t with
    | .colon => some (value (.object members key :: stack))
    | _ => none
  | next v stack =>
    match stack, t with
    | .array items :: outer, .comma => some (value (.array (v :: items) :: outer))
    | .array items :: outer, .closeArray => some (next (.array (v :: items).reverse) outer)
    | .object members key :: outer, .comma => some (name ((key, v) :: members) outer)
    | .object members key :: outer, .closeObject =>
      some (next (.object ((key, v) :: members).reverse) outer)
    | _, _ => none

def run? (s : Awaits) : List Token → Option Awaits
  | [] => some s
  | t :: ts => (step? s t).bind fun s' => run? s' ts

end Awaits

/-- The value that a list of tokens is. -/
def ofTokens? (tokens : List Token) : Option Json :=
  match Awaits.run? (.value []) tokens with
  | some (.next v []) => some v
  | _ => none

/-- The value of a document: one value with blanks around it and nothing else. -/
def read? (document : Bytes) : Option Json := (Token.scan? document).bind ofTokens?

end FleetWatch.Json
