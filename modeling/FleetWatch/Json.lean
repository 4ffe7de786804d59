import FleetWatch.Text.Utf8

/-! # JSON documents

A document as it is written: strings are kept as the bytes between their quotes, escapes and all,
and numbers as their digits. What a string or number means is asked for where it is used, so a
document can hold strings and numbers that mean nothing as long as nobody asks.
-/

namespace FleetWatch

inductive Json where
  | null
  | bool (b : Bool)
  /-- A number by its literal. -/
  | number (literal : Bytes)
  /-- A string by what stands between its quotes. -/
  | string (body : Bytes)
  | array (items : List Json)
  /-- Members in written order, a repeated name included. -/
  | object (members : List (Bytes × Json))
  deriving Repr, Inhabited, BEq

end FleetWatch
