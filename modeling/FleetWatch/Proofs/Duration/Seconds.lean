import FleetWatch.Duration
import FleetWatch.Proofs.Binary64.Digits
import FleetWatch.Proofs.Binary64.Rounding

/-! # Seconds as a binary64 number

The seconds of a duration are a sum of whole seconds and a rest of a second, and either is rounded
before the sum is. Whole numbers of seconds are not crossed on the way, so comparing the sum with
one is comparing the whole seconds. Below one minute both roundings together come to less than a
nanosecond, so tenths that are nearest to the sum are nearest to the duration.
-/

namespace FleetWatch.Duration

open Binary64 (one whole roundUnits)

/-! ## Seconds in binary64 -/

def rest (d : Duration) : Nat := d.nanos % 1000000000

theorem nanos_eq (d : Duration) : d.nanos = d.seconds * 1000000000 + d.rest :=
  (Nat.div_add_mod' d.nanos 1000000000).symm

theorem rest_lt (d : Duration) : d.rest < 1000000000 := Nat.mod_lt _ (by decide)

/-- The magnitude that the rest of a second is rounded to. -/
def fraction (d : Duration) : Nat := roundUnits (d.rest * one) 1000000000

/-- A part of a second that is less than a nanosecond. -/
def grain : Nat := Nat.pow 2 1044

theorem grain_pos : 0 < grain := by decide +kernel

theorem one_eq_grains : one = 2 ^ 30 * grain := by decide +kernel

theorem spacing_grains_dvd {n : Nat} (small : n < 2 ^ 53) :
    Binary64.spacing (n * grain) ∣ n * grain := by
  have power : grain = 2 ^ 1044 := by decide +kernel
  rw [power]
  exact Binary64.spacing_dvd small (by decide)

theorem spacing_le_grain {units : Nat} (below : units < 2 ^ 23 * one) :
    Binary64.spacing units ≤ grain := by
  have power : grain = 2 ^ 1044 := by decide +kernel
  have bound : 2 ^ 23 * one = 2 ^ (1044 + 53) := by decide +kernel
  rw [power]
  exact Binary64.spacing_le_of_lt (bound ▸ below)

theorem fraction_le (d : Duration) : d.fraction ≤ (2 ^ 30 - 1) * grain := by
  refine Binary64.roundUnits_le (by decide) (spacing_grains_dvd (by decide)) ?_
  have rest := d.rest_lt
  rw [one_eq_grains, Nat.mul_right_comm, ← Nat.mul_assoc]
  refine Nat.mul_le_mul_right _ ?_
  omega

theorem fraction_lt_one (d : Duration) : d.fraction < one := by
  refine d.fraction_le.trans_lt ?_
  rw [one_eq_grains]
  exact Nat.mul_lt_mul_of_pos_right (by decide) grain_pos

theorem toSeconds_eq (d : Duration) :
    d.toSeconds = Binary64.ofNat d.seconds + .finite false d.fraction := by
  have small : d.rest < 2 ^ 53 := d.rest_lt.trans (by decide)
  have room : d.fraction < Binary64.overflow := by
    have whole : 1 * one < Binary64.overflow := Binary64.whole_lt_overflow (by decide)
    have less := d.fraction_lt_one
    omega
  have quotient : whole d.rest / whole 1000000000 = .finite false d.fraction := by
    rw [whole, Binary64.finite_div_whole _ _ (by decide), Binary64.round]
    exact if_pos room
  have parts : Binary64.ofNat d.rest / Binary64.ofNat 1000000000 = .finite false d.fraction := by
    rw [Binary64.ofNat_eq_whole small, Binary64.ofNat_eq_whole (n := 1000000000) (by decide),
      quotient]
  exact congrArg (Binary64.ofNat d.seconds + ·) parts

theorem toSeconds_of_small {d : Duration} (small : d.seconds < 2 ^ 53) :
    d.toSeconds = .round false (d.seconds * one + d.fraction) 1 := by
  rw [toSeconds_eq, Binary64.ofNat_eq_whole small, whole, Binary64.finite_add_finite]

/-- Below a whole number of seconds the sum is not rounded up to it. -/
theorem units_le {d : Duration} {m : Nat} (small : m < 2 ^ 23) (below : d.seconds < m) :
    roundUnits (d.seconds * one + d.fraction) 1 ≤ (m * 2 ^ 30 - 1) * grain := by
  refine Binary64.roundUnits_le Nat.one_pos (spacing_grains_dvd (by omega)) ?_
  have grains : m * 2 ^ 30 - 1 = (m - 1) * 2 ^ 30 + (2 ^ 30 - 1) := by omega
  have seconds : d.seconds * one ≤ (m - 1) * one := Nat.mul_le_mul_right one (by omega)
  have fraction := d.fraction_le
  rw [Nat.mul_one, grains, Nat.add_mul, Nat.mul_assoc, ← one_eq_grains]
  omega

theorem units_lt {d : Duration} {m : Nat} (small : m < 2 ^ 23) (below : d.seconds < m) :
    roundUnits (d.seconds * one + d.fraction) 1 < m * one := by
  refine (units_le small below).trans_lt ?_
  rw [one_eq_grains, ← Nat.mul_assoc]
  exact Nat.mul_lt_mul_of_pos_right (by omega) grain_pos

theorem toSeconds_of_lt {d : Duration} {m : Nat} (small : m < 2 ^ 23) (below : d.seconds < m) :
    d.toSeconds = .finite false (roundUnits (d.seconds * one + d.fraction) 1) := by
  have less := units_lt small below
  have room : m * one < Binary64.overflow := Binary64.whole_lt_overflow (by omega)
  rw [toSeconds_of_small (by omega), Binary64.round]
  exact if_pos (less.trans room)

theorem whole_le_toSeconds {d : Duration} {m : Nat} (small : m < 2 ^ 53) (reached : m ≤ d.seconds) :
    (whole m).le d.toSeconds = true := by
  have seconds : m * one ≤ d.seconds * one := Nat.mul_le_mul_right one reached
  rw [toSeconds_eq, Binary64.ofNat]
  exact Binary64.whole_le_round_add Nat.one_pos small (by rwa [Nat.mul_one]) d.fraction

/-- A whole number of seconds is reached by the rounded time just if it is by the exact one. -/
theorem toSeconds_lt_iff {d : Duration} {m : Nat} (small : m < 2 ^ 23) :
    d.toSeconds.lt (Binary64.ofNat m) = true ↔ d.seconds < m := by
  have small' : m < 2 ^ 53 := by omega
  rw [Binary64.ofNat_eq_whole small', Binary64.lt_iff]
  constructor
  · rintro ⟨-, -, ranks⟩
    refine Nat.not_le.mp fun reached => ?_
    obtain ⟨-, -, ranks'⟩ := Binary64.le_iff.mp (whole_le_toSeconds small' reached)
    omega
  · intro below
    rw [toSeconds_of_lt small below]
    exact ⟨rfl, rfl, Int.ofNat_lt.mpr (units_lt small below)⟩

theorem seconds_lt_iff {d : Duration} {m : Nat} : d.seconds < m ↔ d.nanos < m * 1000000000 :=
  Nat.div_lt_iff_lt_mul (by decide)

/-! ## Tenths of a second -/

/-- The tenths of a second that are written below one minute. -/
def tenths (d : Duration) : Nat :=
  Binary64.divNearest (roundUnits (d.seconds * one + d.fraction) 1 * 10) one

theorem fixed_toSeconds {d : Duration} (below : d.seconds < 60) :
    d.toSeconds.fixed 1 =
      Digits.ofNat (d.tenths / 10) ++ '.' :: Digits.padded 1 (d.tenths % 10) := by
  rw [toSeconds_of_lt (by decide) below, Binary64.fixed_one, tenths]

/-- Both roundings together move a time by less than a nanosecond, so the tenths are nearest to the
exact time. -/
theorem tenths_near {d : Duration} (below : d.seconds < 60) :
    d.nanos ≤ d.tenths * 100000000 + 50000000 ∧ d.tenths * 100000000 ≤ d.nanos + 50000000 := by
  have seconds : d.seconds * one ≤ 59 * one := Nat.mul_le_mul_right one (by omega)
  have small := d.fraction_lt_one
  have rest : d.rest * one ≤ 1000000000 * one := Nat.mul_le_mul_right one d.rest_lt.le
  have inFraction : Binary64.spacing (d.rest * one / 1000000000) ≤ grain :=
    spacing_le_grain (by omega)
  have inSum : Binary64.spacing ((d.seconds * one + d.fraction) / 1) ≤ grain :=
    spacing_le_grain (by omega)
  obtain ⟨above, below⟩ : 2 * (d.rest * one) ≤ 2 * (d.fraction * 1000000000) + _ ∧
      2 * (d.fraction * 1000000000) ≤ _ := Binary64.roundUnits_near (d.rest * one) (by decide)
  obtain ⟨above', below'⟩ :=
    Binary64.roundUnits_near (d.seconds * one + d.fraction) Nat.one_pos
  obtain ⟨above'', below'', -⟩ : Binary64.IsNearest _ one d.tenths :=
    Binary64.isNearest_divNearest _ Binary64.one_pos
  have whole : d.nanos * one = 1000000000 * (d.seconds * one) + d.rest * one := by
    rw [nanos_eq, Nat.add_mul, Nat.mul_right_comm, Nat.mul_comm _ 1000000000]
  have tenths : d.tenths * 100000000 * one = 100000000 * (d.tenths * one) := by
    rw [Nat.mul_right_comm, Nat.mul_comm]
  have grains := one_eq_grains
  have positive := grain_pos
  constructor
  all_goals
    refine Nat.le_of_lt_succ (Nat.lt_of_mul_lt_mul_right (a := one) ?_)
    rw [Nat.succ_mul, Nat.add_mul, tenths, whole]
    omega

end FleetWatch.Duration
