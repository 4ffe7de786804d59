import FleetWatch.Binary64.Shortest
import FleetWatch.Proofs.Binary64.Digits
import FleetWatch.Proofs.Binary64.Whole

/-! # Whole numbers are written with their own digits

No other whole number lies in the interval of a natural number below `2 ^ 53`, which is narrower
than one on either side. So on every grid that has nothing but whole numbers only the number itself
reads back, and the grid of one has it.
-/

namespace FleetWatch.Binary64

theorem spacing_mul_two_pow {n k : Nat} (positive : n ≠ 0) (small : n < 2 ^ 53) (units : 52 < k) :
    2 ≤ spacing (n * 2 ^ k) ∧ spacing (n * 2 ^ k) ≤ 2 ^ k := by
  have bits : n.log2 < 53 := (Nat.log2_lt positive).mpr small
  rw [spacing_eq, log2_mul_two_pow positive]
  exact ⟨Nat.le_self_pow (by omega) 2, Nat.pow_le_pow_right (by decide) (by omega)⟩

theorem exponent_of_mem_neighbours {units : Nat} {exponent : Int} {d : Decimal}
    (listed : d ∈ neighbours units exponent) : d.exponent = exponent := by
  unfold neighbours at listed
  dsimp only at listed
  split at listed
  all_goals
    split at listed
    all_goals
      simp only [List.mem_cons, List.not_mem_nil, or_false] at listed
      rcases listed with rfl | rfl
      all_goals rfl

theorem length_ofNat_le {n : Nat} (small : n < 2 ^ 53) : (Digits.ofNat n).length ≤ 16 :=
  (Nat.length_toDigits_le_iff (by decide) (by decide)).mpr (Nat.lt_trans small (by decide))

section Grids

variable {n : Nat} (positive : n ≠ 0) (small : n < 2 ^ 53)
include positive small

theorem spacing_whole : 2 ≤ spacing (n * one) ∧ spacing (n * one) ≤ one := by
  rw [one_eq]
  exact spacing_mul_two_pow positive small (by decide)

theorem readsBack_whole (digits exponent : Nat) :
    readsBack (n * one) ⟨digits, .ofNat exponent⟩ = true ↔ digits * 10 ^ exponent = n := by
  obtain ⟨wide, narrow⟩ := spacing_whole positive small
  have doubled : 2 * digits * 10 ^ exponent * one = 2 * (digits * 10 ^ exponent * one) := by ring
  have least : one ≤ n * one := Nat.le_mul_of_pos_left one (Nat.pos_of_ne_zero positive)
  simp only [readsBack, Nat.pow_eq, doubled, Nat.mul_one]
  generalize digits * 10 ^ exponent = m
  constructor
  · intro inside
    have between : 2 * (n * one) ≤ 2 * (m * one) + one ∧ 2 * (m * one) ≤ 2 * (n * one) + one := by
      split at inside <;> split at inside <;> simp only [decide_eq_true_eq] at inside <;> omega
    have apart {a b : Nat} (less : a < b) : a * one + one ≤ b * one := by
      rw [← Nat.succ_mul]
      exact Nat.mul_le_mul_right one less
    have positive := one_pos
    rcases Nat.lt_trichotomy m n with less | same | more
    · have below := apart less
      omega
    · exact same
    · have above := apart more
      omega
  · rintro rfl
    split <;> split <;> simp only [decide_eq_true_eq] <;> omega

theorem find?_neighbours_zero :
    (neighbours (n * one) (.ofNat 0)).find? (readsBack (n * one)) = some ⟨n, .ofNat 0⟩ := by
  have itself : readsBack (n * one) ⟨n, .ofNat 0⟩ = true :=
    (readsBack_whole positive small n 0).mpr (by simp)
  have candidates : neighbours (n * one) (.ofNat 0) = [⟨n, .ofNat 0⟩, ⟨n + 1, .ofNat 0⟩] := by
    simp only [neighbours, Nat.pow_eq, Nat.pow_zero, Nat.mul_one, Nat.mul_mod_left, Nat.mul_zero,
      Nat.zero_le, if_true, Nat.mul_div_cancel n one_pos]
  rw [candidates, List.find?_cons_of_pos itself]

/-- From a grid of whole numbers on, the number itself is found before the grids end. -/
theorem shortestFrom_whole (k : Nat) {lead : Int} {tried fuel : Nat}
    (grid : lead - tried = .ofNat k) (enough : k < fuel) :
    ∃ digits exponent, shortestFrom (n * one) lead tried fuel = ⟨digits, .ofNat exponent⟩ ∧
      digits * 10 ^ exponent = n := by
  induction k generalizing tried fuel with
  | zero =>
      obtain ⟨fuel, rfl⟩ : ∃ less, fuel = less + 1 := Nat.exists_eq_add_one.mpr enough
      rw [shortestFrom, grid, find?_neighbours_zero positive small]
      exact ⟨n, 0, rfl, by simp⟩
  | succ k ih =>
      obtain ⟨fuel, rfl⟩ : ∃ less, fuel = less + 1 := Nat.exists_eq_add_one.mpr (by omega)
      rw [shortestFrom, grid]
      split
      · rename_i d found
        have exponent := exponent_of_mem_neighbours (List.mem_of_find?_eq_some found)
        obtain ⟨digits, _⟩ := d
        cases exponent
        exact ⟨digits, k + 1, rfl,
          (readsBack_whole positive small digits (k + 1)).mp (List.find?_some found)⟩
      · have next : lead - (tried + 1 : Nat) = .ofNat k := by
          simp only [Int.ofNat_eq_natCast] at grid ⊢
          omega
        exact ih next (by omega)

theorem shortest_whole :
    ∃ digits exponent, shortest (n * one) = ⟨digits, .ofNat exponent⟩ ∧
      digits * 10 ^ exponent = n := by
  have filled : 0 < (Digits.ofNat n).length := Nat.length_toDigits_pos
  have short := length_ofNat_le small
  have lead : decade (n * one) one = ((Digits.ofNat n).length : Int) - 1 := by
    rw [decade, if_pos (Nat.le_mul_of_pos_left one (Nat.pos_of_ne_zero positive)),
      Nat.mul_div_cancel n one_pos]
  have grid : decade (n * one) one - (0 : Nat) = .ofNat ((Digits.ofNat n).length - 1) := by
    rw [lead, Int.ofNat_eq_natCast]
    omega
  exact shortestFrom_whole positive small _ grid (by omega)

end Grids

theorem stripped_whole {n : Nat} (fuel digits exponent : Nat) (value : digits * 10 ^ exponent = n) :
    ∃ digits' exponent',
      Decimal.stripped ⟨digits, .ofNat exponent⟩ fuel = ⟨digits', .ofNat exponent'⟩ ∧
        digits' * 10 ^ exponent' = n := by
  induction fuel generalizing digits exponent with
  | zero => exact ⟨digits, exponent, rfl, value⟩
  | succ fuel ih =>
      unfold Decimal.stripped
      split
      · rename_i zero
        have same : digits / 10 * 10 ^ (exponent + 1) = n := by
          rw [Nat.pow_succ', ← Nat.mul_assoc,
            Nat.div_mul_cancel (Nat.dvd_of_mod_eq_zero zero.2), value]
        exact ih (digits / 10) (exponent + 1) same
      · exact ⟨digits, exponent, rfl, value⟩

theorem write_finite (style : Style) {units : Nat} (nonzero : units ≠ 0) {d : Decimal}
    (found : (shortest units).stripped 400 = d) :
    style.write (.finite false units) =
      if style.isPositional (d.exponent + ((Digits.ofNat d.digits).length : Int) - 1) then
        d.positional style.wholeMark
      else d.scientific := by
  unfold Style.write
  simp only [if_neg nonzero]
  rw [found]
  rfl

/-- A natural number below `2 ^ 53` is written with its own digits in every style that has up to
sixteen digits in front of the point. -/
theorem write_whole {style : Style}
    (room : ∀ lead : Int, 0 ≤ lead → lead < 16 → style.isPositional lead = true) {n : Nat}
    (small : n < 2 ^ 53) : style.write (whole n) = Digits.ofNat n ++ style.wholeMark := by
  by_cases zero : n = 0
  · have nothing : whole n = .finite false 0 := by rw [whole, zero, Nat.zero_mul]
    rw [nothing, zero]
    rfl
  · obtain ⟨found, foundExponent, shortest, foundValue⟩ := shortest_whole zero small
    obtain ⟨digits, exponent, stripped, value⟩ := stripped_whole 400 _ _ foundValue
    rw [← shortest] at stripped
    have positive : 0 < digits := by
      refine Nat.pos_of_ne_zero ?_
      rintro rfl
      exact zero (by rw [← value, Nat.zero_mul])
    have written : Digits.ofNat digits ++ List.replicate exponent '0' = Digits.ofNat n := by
      rw [Digits.ofNat_append_zeros positive, value]
    have short := length_ofNat_le small
    have size : (Digits.ofNat digits).length + exponent = (Digits.ofNat n).length := by
      rw [← written, List.length_append, List.length_replicate]
    have filled : 0 < (Digits.ofNat digits).length := Nat.length_toDigits_pos
    have positional : style.isPositional
        ((Int.ofNat exponent) + ((Digits.ofNat digits).length : Int) - 1) = true := by
      refine room _ ?_ ?_ <;> simp only [Int.ofNat_eq_natCast] <;> omega
    rw [whole, write_finite style (Nat.mul_ne_zero zero (Nat.ne_of_gt one_pos)) stripped,
      if_pos positional, ← written]
    rfl

end FleetWatch.Binary64
