import FleetWatch.Binary64
import Mathlib.Algebra.Group.Nat.Defs

/-! # Whole numbers in binary64

A significand has 53 bits, so every natural number below `2 ^ 53` is one of the finite numbers and
rounding leaves it alone. Counts of queries, which have 32 bits, are kept exactly.
-/

namespace FleetWatch.Binary64

/-- A natural number as it is, without rounding. -/
def whole (n : Nat) : Binary64 := .finite false (n * one)

theorem one_eq : one = 2 ^ 1074 := by decide +kernel

theorem spacing_eq (units : Nat) : spacing units = 2 ^ (units.log2 - 52) := Nat.pow_eq

theorem divNearest_mul (k : Nat) {den : Nat} (positive : 0 < den) :
    divNearest (k * den) den = k := by
  simp only [divNearest, Nat.mul_mod_left, Nat.mul_zero, positive, if_true]
  exact Nat.mul_div_cancel k positive

theorem roundUnits_mul {units den : Nat} (positive : 0 < den) (h : spacing units ∣ units) :
    roundUnits (units * den) den = units := by
  obtain ⟨k, hk⟩ := h
  have step : 0 < spacing units := by
    rw [spacing_eq]
    exact Nat.two_pow_pos _
  have scaled : units * den = k * (den * spacing units) := by
    calc units * den
      _ = spacing units * k * den := by rw [← hk]
      _ = k * (den * spacing units) := by
          rw [Nat.mul_comm (spacing units) k, Nat.mul_assoc, Nat.mul_comm (spacing units) den]
  rw [roundUnits, Nat.mul_div_cancel units positive, scaled,
    divNearest_mul k (Nat.mul_pos positive step), Nat.mul_comm, ← hk]

theorem log2_mul_two_pow {n : Nat} (positive : n ≠ 0) (k : Nat) :
    (n * 2 ^ k).log2 = n.log2 + k := by
  have scaled : n * 2 ^ k ≠ 0 := Nat.mul_ne_zero positive (Nat.ne_of_gt (Nat.two_pow_pos k))
  rw [Nat.log2_eq_iff scaled]
  constructor
  · rw [Nat.pow_add]
    exact Nat.mul_le_mul_right _ (Nat.log2_self_le positive)
  · rw [Nat.add_right_comm, Nat.pow_add]
    exact Nat.mul_lt_mul_of_pos_right Nat.lt_log2_self (Nat.two_pow_pos k)

theorem spacing_dvd {n k : Nat} (small : n < 2 ^ 53) (units : 52 ≤ k) :
    spacing (n * 2 ^ k) ∣ n * 2 ^ k := by
  by_cases zero : n = 0
  · rw [zero, Nat.zero_mul]
    exact Nat.dvd_zero _
  · have bits : n.log2 < 53 := (Nat.log2_lt zero).mpr small
    have exponent : n.log2 + k - 52 ≤ k := by omega
    rw [spacing_eq, log2_mul_two_pow zero]
    exact Nat.dvd_mul_left_of_dvd (Nat.pow_dvd_pow 2 exponent) n

theorem one_pos : 0 < one := by decide +kernel

theorem finite_mul_whole (negative : Bool) (units n : Nat) :
    finite negative units * whole n = round negative (units * (n * one)) one := by
  show mul _ _ = _
  simp only [mul, whole, Bool.bne_false]

section Kept

variable {units : Nat} (negative : Bool) (kept : spacing units ∣ units) (room : units < overflow)
include kept room

theorem round_kept {den : Nat} (positive : 0 < den) :
    round negative (units * den) den = .finite negative units := by
  rw [round, roundUnits_mul positive kept, if_pos room]

theorem finite_mul_whole_kept {factor n : Nat} (product : factor * n = units) :
    finite negative factor * whole n = finite negative units := by
  rw [finite_mul_whole, ← Nat.mul_assoc, product, round_kept negative kept room one_pos]

end Kept

section Small

variable {n : Nat} (small : n < 2 ^ 53)
include small

theorem spacing_whole_dvd : spacing (n * one) ∣ n * one := by
  rw [one_eq]
  exact spacing_dvd small (by decide)

theorem whole_lt_overflow : n * one < overflow := by
  have room : 2 ^ 53 * one ≤ overflow := by decide +kernel
  exact Nat.lt_of_lt_of_le (Nat.mul_lt_mul_of_pos_right small one_pos) room

/-- Natural numbers below `2 ^ 53` are not rounded, whatever they are a quotient of. -/
theorem round_whole {den : Nat} (positive : 0 < den) :
    round false (n * one * den) den = whole n :=
  round_kept false (spacing_whole_dvd small) (whole_lt_overflow small) positive

theorem ofNat_eq_whole : ofNat n = whole n := by
  have read := round_whole small Nat.one_pos
  rwa [Nat.mul_one] at read

theorem whole_mul_whole {m k : Nat} (product : m * k = n) : whole m * whole k = whole n := by
  have scaled : m * one * k = n * one := by rw [Nat.mul_right_comm, product]
  exact finite_mul_whole_kept false (spacing_whole_dvd small) (whole_lt_overflow small) scaled

end Small

end FleetWatch.Binary64
