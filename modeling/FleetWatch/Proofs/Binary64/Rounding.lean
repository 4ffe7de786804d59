import FleetWatch.Binary64.Decimal
import FleetWatch.Proofs.Binary64.Order
import FleetWatch.Proofs.Binary64.Whole
import Mathlib.Algebra.Order.Group.Nat
import Mathlib.Tactic.SplitIfs

/-! # What rounding comes to

A quotient is rounded to the nearest whole number, of two such numbers to the even one, and that
settles which number it is. A magnitude is rounded in the same way in steps of its spacing. So
rounding does not cross a magnitude that needs none, and it moves by at most half a step.
-/

namespace FleetWatch.Binary64

/-- A whole number nearest to `num / den`, and an even one if there are two. -/
structure IsNearest (num den n : Nat) : Prop where
  above : 2 * num ≤ 2 * (n * den) + den
  below : 2 * (n * den) ≤ 2 * num + den
  even : 2 * num = 2 * (n * den) + den ∨ 2 * (n * den) = 2 * num + den → n % 2 = 0

theorem isNearest_divNearest (num : Nat) {den : Nat} (positive : 0 < den) :
    IsNearest num den (divNearest num den) := by
  have whole : num / den * den + num % den = num := Nat.div_add_mod' num den
  have rest : num % den < den := Nat.mod_lt num positive
  have next : (num / den + 1) * den = num / den * den + den := Nat.succ_mul ..
  unfold divNearest
  dsimp only
  split_ifs with less more even
  · exact ⟨by omega, by omega, by omega⟩
  · exact ⟨by omega, by omega, by omega⟩
  · exact ⟨by omega, by omega, fun _ => even⟩
  · exact ⟨by omega, by omega, by omega⟩

namespace IsNearest

variable {num den n n' : Nat}

theorem le_of_le_mul (h : IsNearest num den n) (positive : 0 < den) {k : Nat}
    (le : num ≤ k * den) : n ≤ k := by
  refine Nat.not_lt.mp fun beyond => ?_
  have step : (k + 1) * den ≤ n * den := Nat.mul_le_mul_right den beyond
  rw [Nat.succ_mul] at step
  have below := h.below
  omega

theorem le_of_mul_le (h : IsNearest num den n) (positive : 0 < den) {k : Nat}
    (le : k * den ≤ num) : k ≤ n := by
  refine Nat.not_lt.mp fun beyond => ?_
  have step : (n + 1) * den ≤ k * den := Nat.mul_le_mul_right den beyond
  rw [Nat.succ_mul] at step
  have above := h.above
  omega

theorem unique_of_le (h : IsNearest num den n) (h' : IsNearest num den n') (positive : 0 < den)
    (le : n ≤ n') : n = n' := by
  refine Nat.le_antisymm le (Nat.not_lt.mp fun less => ?_)
  have step : (n + 1) * den ≤ n' * den := Nat.mul_le_mul_right den less
  rw [Nat.succ_mul] at step
  have above := h.above
  have below := h'.below
  -- The quotient is halfway between the two, so they are neighbours and cannot both be even.
  have even := h.even (by omega)
  have even' := h'.even (by omega)
  have next : n' ≤ n + 1 := by
    refine Nat.not_lt.mp fun beyond => ?_
    have step : (n + 2) * den ≤ n' * den := Nat.mul_le_mul_right den beyond
    rw [Nat.add_mul] at step
    omega
  omega

theorem unique (h : IsNearest num den n) (h' : IsNearest num den n') (positive : 0 < den) :
    n = n' := by
  rcases Nat.le_total n n' with le | le
  · exact h.unique_of_le h' positive le
  · exact (h'.unique_of_le h positive le).symm

theorem scale (h : IsNearest num den n) {k : Nat} (positive : 0 < k) :
    IsNearest (num * k) (den * k) n := by
  have above : 2 * num * k ≤ (2 * (n * den) + den) * k := Nat.mul_le_mul_right k h.above
  have below : 2 * (n * den) * k ≤ (2 * num + den) * k := Nat.mul_le_mul_right k h.below
  simp only [Nat.add_mul, Nat.mul_assoc] at above below
  refine ⟨above, below, fun tie => h.even (tie.imp (fun same => ?_) fun same => ?_)⟩
  all_goals
    apply Nat.eq_of_mul_eq_mul_right positive
    simp only [Nat.add_mul, Nat.mul_assoc]
    exact same

end IsNearest

theorem divNearest_mul_mul (num : Nat) {den k : Nat} (positive : 0 < den) (positive' : 0 < k) :
    divNearest (num * k) (den * k) = divNearest num den := by
  have scaled := (isNearest_divNearest num positive).scale positive'
  have whole := Nat.mul_pos positive positive'
  exact (isNearest_divNearest (num * k) whole).unique scaled whole

/-! ## Steps -/

theorem spacing_pos (units : Nat) : 0 < spacing units := by
  rw [spacing_eq]
  exact Nat.two_pow_pos _

theorem log2_le_log2 {a b : Nat} (le : a ≤ b) : a.log2 ≤ b.log2 := by
  by_cases zero : a = 0
  · rw [zero, Nat.log2_zero]
    exact Nat.zero_le _
  · have positive : b ≠ 0 := by omega
    exact (Nat.le_log2 positive).mpr ((Nat.log2_self_le zero).trans le)

theorem spacing_dvd_spacing {a b : Nat} (le : a ≤ b) : spacing a ∣ spacing b := by
  rw [spacing_eq, spacing_eq]
  exact Nat.pow_dvd_pow 2 (Nat.sub_le_sub_right (log2_le_log2 le) 52)

theorem spacing_le_of_lt {units k : Nat} (lt : units < 2 ^ (k + 53)) : spacing units ≤ 2 ^ k := by
  rw [spacing_eq]
  refine Nat.pow_le_pow_right (by decide) ?_
  by_cases zero : units = 0
  · rw [zero, Nat.log2_zero]
    exact Nat.zero_le k
  · have bits : units.log2 < k + 53 := (Nat.log2_lt zero).mpr lt
    omega

/-- The leading bit counts for so many steps. -/
theorem two_pow_log2 {units : Nat} (bits : 52 ≤ units.log2) :
    2 ^ units.log2 = 2 ^ 52 * spacing units := by
  rw [spacing_eq, ← Nat.pow_add]
  congr 1
  omega

theorem roundUnits_near (num : Nat) {den : Nat} (positive : 0 < den) :
    2 * num ≤ 2 * (roundUnits num den * den) + den * spacing (num / den) ∧
      2 * (roundUnits num den * den) ≤ 2 * num + den * spacing (num / den) := by
  have step := Nat.mul_pos positive (spacing_pos (num / den))
  obtain ⟨above, below, -⟩ := isNearest_divNearest num step
  have product (n : Nat) : n * spacing (num / den) * den = n * (den * spacing (num / den)) := by
    rw [Nat.mul_assoc, Nat.mul_comm den]
  rw [roundUnits, product]
  exact ⟨above, below⟩

section Quotient

variable {num den units : Nat} (positive : 0 < den)
include positive

theorem roundUnits_le (kept : spacing units ∣ units) (le : num ≤ units * den) :
    roundUnits num den ≤ units := by
  have quotient : num / den ≤ units := Nat.div_le_of_le_mul (by rwa [Nat.mul_comm])
  obtain ⟨k, multiple⟩ := Nat.dvd_trans (spacing_dvd_spacing quotient) kept
  have step := Nat.mul_pos positive (spacing_pos (num / den))
  have steps : divNearest num (den * spacing (num / den)) ≤ k := by
    refine (isNearest_divNearest num step).le_of_le_mul step ?_
    rwa [Nat.mul_comm den, ← Nat.mul_assoc, Nat.mul_comm k, ← multiple]
  rw [roundUnits, multiple, Nat.mul_comm (spacing (num / den))]
  exact Nat.mul_le_mul_right _ steps

theorem mul_spacing_le_roundUnits {k : Nat} (le : k * spacing (num / den) ≤ num / den) :
    k * spacing (num / den) ≤ roundUnits num den := by
  have step := Nat.mul_pos positive (spacing_pos (num / den))
  have scaled : k * (den * spacing (num / den)) ≤ num := by
    rw [Nat.le_div_iff_mul_le positive] at le
    rwa [Nat.mul_comm den, ← Nat.mul_assoc]
  exact Nat.mul_le_mul_right _ ((isNearest_divNearest num step).le_of_mul_le step scaled)

theorem le_roundUnits (kept : spacing units ∣ units) (le : units * den ≤ num) :
    units ≤ roundUnits num den := by
  have quotient : units ≤ num / den := (Nat.le_div_iff_mul_le positive).mpr le
  by_cases multiple : spacing (num / den) ∣ units
  · obtain ⟨k, rfl⟩ := multiple
    rw [Nat.mul_comm] at quotient ⊢
    exact mul_spacing_le_roundUnits positive quotient
  · -- The steps have become wider, so a power of two lies between the two.
    have wider : units.log2 < (num / den).log2 ∧ 52 < (num / den).log2 := by
      by_contra narrow
      refine multiple (Nat.dvd_trans ?_ kept)
      rw [spacing_eq, spacing_eq]
      exact Nat.pow_dvd_pow 2 (by omega)
    have nonzero : num / den ≠ 0 := by
      intro zero
      rw [zero, Nat.log2_zero] at wider
      omega
    have leading := two_pow_log2 (Nat.le_of_lt wider.2)
    have above : 2 ^ 52 * spacing (num / den) ≤ roundUnits num den := by
      refine mul_spacing_le_roundUnits positive ?_
      rw [← leading]
      exact Nat.log2_self_le nonzero
    calc units
      _ ≤ 2 ^ (units.log2 + 1) := Nat.le_of_lt Nat.lt_log2_self
      _ ≤ 2 ^ (num / den).log2 := Nat.pow_le_pow_right (by decide) wider.1
      _ ≤ roundUnits num den := by rwa [leading]

end Quotient

theorem roundUnits_mul_mul (num : Nat) {den k : Nat} (positive : 0 < den) (positive' : 0 < k) :
    roundUnits (num * k) (den * k) = roundUnits num den := by
  have step := Nat.mul_pos positive (spacing_pos (num / den))
  rw [roundUnits, roundUnits, Nat.mul_div_mul_right _ _ positive', Nat.mul_right_comm,
    divNearest_mul_mul num step positive']

/-! ## Numbers -/

theorem round_mul_mul (negative : Bool) (num : Nat) {den k : Nat} (positive : 0 < den)
    (positive' : 0 < k) : round negative (num * k) (den * k) = round negative num den := by
  rw [round, round, roundUnits_mul_mul num positive positive']

theorem round_one_kept {units : Nat} (negative : Bool) (kept : spacing units ∣ units)
    (room : units < overflow) : round negative units 1 = .finite negative units := by
  have same := round_kept negative kept room Nat.one_pos
  rwa [Nat.mul_one] at same

theorem finite_add_finite (a b : Nat) :
    (.finite false a + .finite false b : Binary64) = round false (a + b) 1 := by
  show add _ _ = _
  simp only [add, signedUnits, Bool.false_eq_true, if_false, Bool.and_self]
  split_ifs with zero
  · have nothing : a + b = 0 := by omega
    have room : 0 < overflow := by decide +kernel
    rw [nothing, round_one_kept false (Nat.dvd_zero _) room]
  · have notNegative : ¬((a : Int) + b < 0) := by omega
    have units : ((a : Int) + b).natAbs = a + b := by omega
    rw [decide_eq_false notNegative, units]

theorem finite_div_whole (negative : Bool) (units : Nat) {n : Nat} (positive : n ≠ 0) :
    finite negative units / whole n = round negative units n := by
  have scaled : n * one ≠ 0 := Nat.mul_ne_zero positive (Nat.ne_of_gt one_pos)
  show div _ _ = _
  simp only [div, whole, if_neg scaled, Bool.bne_false]
  exact round_mul_mul negative units (Nat.pos_of_ne_zero positive) one_pos

/-- With one place, a number is written as its nearest tenths. -/
theorem fixed_one (units : Nat) :
    (finite false units).fixed 1 =
      Digits.ofNat (divNearest (units * 10) one / 10) ++
        '.' :: Digits.padded 1 (divNearest (units * 10) one % 10) := by
  have power : Nat.pow 10 1 = 10 := rfl
  simp only [fixed, power, Bool.false_eq_true, if_false, Nat.one_ne_zero, List.nil_append]

theorem fixed_zero (units : Nat) :
    (finite false units).fixed 0 = Digits.ofNat (divNearest units one) := by
  have power : Nat.pow 10 0 = 1 := rfl
  simp only [fixed, power, Nat.mul_one, Nat.div_one, Bool.false_eq_true, if_false, if_true,
    List.nil_append, List.append_nil]

section Order

variable {num den n : Nat} (positive : 0 < den) (small : n < 2 ^ 53)
include small

theorem whole_le_infinite : (whole n).le (.infinite false) = true :=
  le_iff.mpr ⟨rfl, rfl, Int.ofNat_le.mpr (Nat.le_of_lt (whole_lt_overflow small))⟩

include positive

theorem whole_le_round (le : n * one * den ≤ num) : (whole n).le (round false num den) = true := by
  have units := le_roundUnits positive (spacing_whole_dvd small) le
  rw [round]
  split_ifs
  · exact le_iff.mpr ⟨rfl, rfl, Int.ofNat_le.mpr units⟩
  · exact whole_le_infinite small

theorem whole_le_round_add (le : n * one * den ≤ num) (units : Nat) :
    (whole n).le (round false num den + .finite false units) = true := by
  have reached := le_roundUnits positive (spacing_whole_dvd small) le
  rw [round]
  split_ifs
  · rw [finite_add_finite]
    exact whole_le_round Nat.one_pos small (by omega)
  · exact whole_le_infinite small

end Order

end FleetWatch.Binary64
