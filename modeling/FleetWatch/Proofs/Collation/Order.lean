import FleetWatch.Collation

/-! # The order of names is a total preorder

Names are compared through their keys, and keys level by level. A level is a list of weights that
is compared from the first weight on, which is a total order, and so the levels together are a total
order on keys. On names it is a preorder only: any two of them are in order one way or the other,
but names that have one key are equal in order even where they are written differently.
-/

namespace FleetWatch.Collation

open Std

instance : Ord Key := ⟨Key.compare⟩

instance : TransOrd Key :=
  inferInstanceAs (TransCmp (compareLex
    (compareLex (compareOn Key.primaries) (compareOn Key.secondaries)) (compareOn Key.tertiaries)))

instance : LawfulEqOrd Key where
  eq_of_compare {a b} same := by
    have levels : (a.primaries = b.primaries ∧ a.secondaries = b.secondaries) ∧
        a.tertiaries = b.tertiaries := by
      change Key.compare a b = .eq at same
      simpa only [Key.compare, Ordering.then_eq_eq, LawfulEqOrd.compare_eq_iff_eq] using same
    cases a
    cases b
    simpa only [Key.mk.injEq, and_assoc] using levels

instance : TransCmp compareNames := inferInstanceAs (TransCmp (compareOn key))

theorem compareNames_eq_iff {a b : String} : compareNames a b = .eq ↔ key a = key b := by
  change compare (key a) (key b) = .eq ↔ key a = key b
  exact LawfulEqOrd.compare_eq_iff_eq

theorem compareNames_self (a : String) : compareNames a a = .eq := ReflCmp.compare_self

theorem compareNames_swap (a b : String) : compareNames b a = (compareNames a b).swap :=
  OrientedCmp.eq_swap

protected theorem le_trans {a b c : String} (first : le a b = true) (second : le b c = true) :
    le a c = true := by
  unfold le at *
  exact TransCmp.isLE_trans first second

protected theorem le_total (a b : String) : (le a b || le b a) = true := by
  rw [le, le, compareNames_swap a b]
  cases compareNames a b <;> rfl

protected theorem le_antisymm {a b : String} (first : le a b = true) (second : le b a = true) :
    compareNames a b = .eq := by
  unfold le at *
  exact OrientedCmp.isLE_antisymm first second

theorem le_of_compareNames {a b : String} (same : compareNames a b = .eq) : le a b = true := by
  rw [le, same]
  rfl

end FleetWatch.Collation
