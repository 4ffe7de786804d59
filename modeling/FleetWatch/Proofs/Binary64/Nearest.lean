import FleetWatch.Binary64.Decimal
import FleetWatch.Proofs.Binary64.Rounding
import Mathlib.Tactic.Ring
import Mathlib.Tactic.SplitIfs

/-! # Decimals and their nearest numbers

A decimal is rounded once, from its exact value. Where its exponent is far beyond the range of
numbers the power of ten is not computed, and rounding would have come to the same: what is at least
`2 ^ 1024` is infinite, and what is less than half of the least positive number is zero.
-/

namespace FleetWatch.Binary64

/-- The number nearest to `± digits · 10^exponent`. -/
def nearest (negative : Bool) (digits : Nat) (exponent : Int) : Binary64 :=
  round negative (digits * 10 ^ exponent.toNat * one) (10 ^ (-exponent).toNat)

theorem nearest_zero {n : Nat} (small : n < 2 ^ 53) : nearest false n 0 = whole n := by
  rw [← ofNat_eq_whole small]
  simp [nearest, ofNat]

theorem divNearest_of_small {num den : Nat} (small : 2 * num < den) : divNearest num den = 0 := by
  have below : num < den := by omega
  have quotient : num / den = 0 := Nat.div_eq_of_lt below
  have rest : num % den = num := Nat.mod_eq_of_lt below
  simp only [divNearest, quotient, rest, small, if_true]

theorem spacing_zero : spacing 0 = 1 := rfl

theorem round_of_small {num den : Nat} (small : 2 * num < den) (negative : Bool) :
    round negative num den = .finite negative 0 := by
  have below : num < den := by omega
  have nothing : roundUnits num den = 0 := by
    rw [roundUnits, Nat.div_eq_of_lt below, spacing_zero, Nat.mul_one, Nat.mul_one,
      divNearest_of_small small]
  have room : 0 < overflow := by decide +kernel
  rw [round, nothing]
  exact if_pos room

theorem spacing_overflow_dvd : spacing overflow ∣ overflow := by
  have power : overflow = 1 * 2 ^ 2098 := by decide +kernel
  rw [power]
  exact spacing_dvd (by decide) (by decide)

theorem round_of_large {num : Nat} (large : overflow ≤ num) (negative : Bool) :
    round negative num 1 = .infinite negative := by
  have kept : overflow ≤ roundUnits num 1 :=
    le_roundUnits Nat.one_pos spacing_overflow_dvd (by rwa [Nat.mul_one])
  rw [round]
  exact if_neg (Nat.not_lt.mpr kept)

/-- Exponents that are not computed with make no difference. -/
theorem ofDecimal_eq (negative : Bool) (digits : Nat) (exponent : Int) :
    ofDecimal negative digits exponent = nearest negative digits exponent := by
  unfold ofDecimal nearest
  obtain ⟨k, within, huge, tiny⟩ : ∃ k, k ≤ 400 ∧ overflow ≤ 10 ^ k * one ∧ 2 * one < 10 ^ k :=
    ⟨400, by decide, by decide +kernel, by decide +kernel⟩
  by_cases zero : digits = 0
  · have nothing : 2 * (digits * 10 ^ exponent.toNat * one) < 10 ^ (-exponent).toNat := by
      simp [zero]
    rw [if_pos zero, round_of_small nothing]
  rw [if_neg zero]
  by_cases large : 400 < exponent
  · have beyond : overflow ≤ digits * 10 ^ exponent.toNat * one := by
      have power : 10 ^ k ≤ 10 ^ exponent.toNat := Nat.pow_le_pow_right (by decide) (by omega)
      have scaled : 10 ^ exponent.toNat ≤ digits * 10 ^ exponent.toNat :=
        Nat.le_mul_of_pos_left _ (Nat.pos_of_ne_zero zero)
      exact huge.trans (Nat.mul_le_mul_right one (power.trans scaled))
    have flat : (-exponent).toNat = 0 := by omega
    rw [if_pos large, flat, Nat.pow_zero, round_of_large beyond]
  rw [if_neg large]
  by_cases small : (digits.log2 : Int) + 1 + exponent < -400
  · have flat : exponent.toNat = 0 := by omega
    have bits : digits < 10 ^ (digits.log2 + 1) :=
      Nat.lt_log2_self.trans_le (Nat.pow_le_pow_left (by decide) _)
    have below : 2 * (digits * 10 ^ exponent.toNat * one) < 10 ^ (-exponent).toNat := by
      calc 2 * (digits * 10 ^ exponent.toNat * one)
        _ = digits * (2 * one) := by rw [flat]; ring
        _ < 10 ^ (digits.log2 + 1) * 10 ^ k := Nat.mul_lt_mul'' bits tiny
        _ = 10 ^ (digits.log2 + 1 + k) := (Nat.pow_add ..).symm
        _ ≤ 10 ^ (-exponent).toNat := Nat.pow_le_pow_right (by decide) (by omega)
    rw [if_pos small, round_of_small below]
  rw [if_neg small]
  cases exponent with
  | ofNat e => simp [Nat.pow_eq]
  | negSucc e => simp [Nat.pow_eq]

end FleetWatch.Binary64
