import FleetWatch.Binary64.Shortest

/-! # TOML values

The values that a settings file is made of, in the language of TOML 1.1.
-/

namespace FleetWatch

inductive Toml where
  | text (s : String)
  | integer (i : Int)
  | float (x : Binary64)
  | bool (b : Bool)
  /-- A date, a time or both, in the form in which they are written out. -/
  | moment (written : String)
  | array (items : List Toml)
  | table (entries : List (String × Toml))
  deriving Repr, Inhabited

namespace Toml

/-- Numbers of a settings file are written without an exponent, and whole ones without a point. -/
def floatStyle : Binary64.Style := ⟨[], fun _ => true⟩

def integerText (i : Int) : String :=
  String.ofList ((if i < 0 then ['-'] else []) ++ Digits.ofNat i.natAbs)

/-- The text of a value that is no array and no table. -/
def scalarText? : Toml → Option String
  | text s => some s
  | integer i => some (integerText i)
  | float x => some (String.ofList (floatStyle.write x))
  | bool b => some (if b then "true" else "false")
  | moment written => some written
  | array _ => none
  | table _ => none

end Toml

end FleetWatch
