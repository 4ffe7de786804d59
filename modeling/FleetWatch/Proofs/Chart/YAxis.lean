import FleetWatch.Chart
import FleetWatch.Proofs.Binary64.Rounding
import FleetWatch.Proofs.Dashboard.History
import FleetWatch.Proofs.Series.Extremes
import Mathlib.Order.Fin.Basic

/-! # The y axis of counts

Counts are natural numbers of 32 bits, so the range of the axis ends with a natural number, and
quarters of it are kept exactly in binary64. Main statement: the range goes from zero to the largest
count shown, or to a hundred, and it is labelled with its quarters, which are rounded only when they
are written.
-/

namespace FleetWatch

/-! ## The range -/

namespace Binary64

theorem lt_whole_iff {m n : Nat} : (whole m).lt (whole n) = true ↔ m < n := by
  have ranks : (whole m).rank < (whole n).rank ↔ m < n := by
    rw [← Nat.mul_lt_mul_right one_pos]
    exact Int.ofNat_lt
  rw [lt_iff, ranks]
  simp [whole, isNan]

theorem le_whole_iff {m n : Nat} : (whole m).le (whole n) = true ↔ m ≤ n := by
  have ranks : (whole m).rank ≤ (whole n).rank ↔ m ≤ n := by
    rw [← Nat.mul_le_mul_right_iff one_pos]
    exact Int.ofNat_le
  rw [le_iff, ranks]
  simp [whole, isNan]

theorem zero_eq_whole : zero = whole 0 := by rw [whole, Nat.zero_mul, zero]

theorem max_whole (m n : Nat) : (whole m).max (whole n) = whole (Max.max m n) := by
  rw [Binary64.max, if_neg (by simp [whole, isNan])]
  split
  · rename_i less
    rw [Nat.max_eq_right (lt_whole_iff.mp less).le]
  · rename_i notLess
    rw [Nat.max_eq_left (Nat.not_lt.mp (notLess ∘ lt_whole_iff.mpr))]

theorem foldl_max_whole (n : Nat) (ns : List Nat) :
    (ns.map whole).foldl Binary64.max (whole n) = whole (ns.foldl Max.max n) := by
  induction ns generalizing n with
  | nil => rfl
  | cons m ns ih => rw [List.map_cons, List.foldl_cons, List.foldl_cons, max_whole, ih]

theorem zero_min_whole (n : Nat) : zero.min (whole n) = zero := by
  have above : ¬(whole n).lt (whole 0) = true := Nat.not_lt_zero n ∘ lt_whole_iff.mp
  rw [zero_eq_whole, Binary64.min, if_neg (by simp [whole, isNan]), if_neg above]

end Binary64

namespace Series

open Binary64 (whole)

/-- The values of a series are natural numbers, none of them rounded. -/
def Counts (s : Series) (counts : List Nat) : Prop := s.values = counts.map whole

variable {series : List Series} {counts : List (List Nat)}

theorem foldl_largest (h : List.Forall₂ Counts series counts) (n : Nat) :
    (series.filterMap max?).foldl Binary64.max (whole n) =
      whole (counts.flatten.foldl max n) := by
  induction h generalizing n with
  | nil => rfl
  | @cons s ns series counts hd _ ih =>
      rw [Counts] at hd
      cases ns with
      | nil =>
          have none : s.max? = none := by rw [max?, hd]; rfl
          rw [List.filterMap_cons_none none, ih]
          rfl
      | cons m ns =>
          have some : s.max? = some (whole (ns.foldl max m)) := by
            rw [max?, hd, ← Binary64.foldl_max_whole]
            rfl
          have together : ns.foldl max (max n m) = max n (ns.foldl max m) := List.foldl_assoc
          rw [List.filterMap_cons_some some, List.foldl_cons, Binary64.max_whole, ih,
            List.flatten_cons, List.foldl_append, List.foldl_cons, together]

theorem foldl_least (h : List.Forall₂ Counts series counts) :
    (series.filterMap min?).foldl Binary64.min Binary64.zero = Binary64.zero := by
  induction h with
  | nil => rfl
  | @cons s ns series counts hd _ ih =>
      cases least : s.min? with
      | none => rw [List.filterMap_cons_none least, ih]
      | some v =>
          have among := (chooses_min.reduce?_spec least).1
          rw [hd] at among
          obtain ⟨n, -, rfl⟩ := List.mem_map.mp among
          rw [List.filterMap_cons_some least, List.foldl_cons, Binary64.zero_min_whole, ih]

end Series

/-! ## The labels -/

namespace Binary64

def quarter : Nat := Nat.pow 2 1072

theorem quarter_pos : 0 < quarter := by decide +kernel

theorem one_eq_quarters : one = quarter * 4 := by decide +kernel

def quarters (n : Nat) : Binary64 := .finite false (n * quarter)

theorem sub_zero (units : Nat) :
    finite false units - zero = finite false units + finite false 0 := by
  have difference (x y : Binary64) : x - y = add x (neg y) := rfl
  have sum (x y : Binary64) : x + y = add x y := rfl
  rw [difference, sum, zero, neg]
  simp only [add, signedUnits, Bool.not_false, Bool.false_eq_true, if_false, if_true,
    Int.natCast_zero, Int.neg_zero, Bool.and_self, Bool.and_true]

section Quarters

variable {n : Nat} (small : n < 2 ^ 53)
include small

theorem spacing_quarters_dvd : spacing (n * quarter) ∣ n * quarter := by
  have power : quarter = 2 ^ 1072 := by decide +kernel
  rw [power]
  exact spacing_dvd small (by decide)

theorem quarters_lt_overflow : n * quarter < overflow := by
  refine Nat.lt_of_le_of_lt (Nat.mul_le_mul_left n ?_) (whole_lt_overflow small)
  rw [one_eq_quarters]
  exact Nat.le_mul_of_pos_right quarter (by decide)

theorem round_quarters {den : Nat} (positive : 0 < den) :
    round false (n * quarter * den) den = quarters n :=
  round_kept false (spacing_quarters_dvd small) (quarters_lt_overflow small) positive

theorem whole_div_four : whole n / whole 4 = quarters n := by
  rw [whole, finite_div_whole false _ (by decide), one_eq_quarters, ← Nat.mul_assoc]
  exact round_quarters small (by decide)

theorem whole_sub_zero : whole n - zero = whole n := by
  rw [whole, sub_zero, finite_add_finite, Nat.add_zero]
  exact round_one_kept false (spacing_whole_dvd small) (whole_lt_overflow small)

theorem quarters_mul_whole {m k : Nat} (product : m * k = n) :
    quarters m * whole k = quarters n := by
  have scaled : m * quarter * k = n * quarter := by rw [Nat.mul_right_comm, product]
  exact finite_mul_whole_kept false (spacing_quarters_dvd small) (quarters_lt_overflow small) scaled

theorem zero_add_quarters : zero + quarters n = quarters n := by
  rw [zero, quarters, finite_add_finite, Nat.zero_add]
  exact round_one_kept false (spacing_quarters_dvd small) (quarters_lt_overflow small)

end Quarters

theorem fixed_quarters (n : Nat) : (quarters n).fixed 0 = Digits.ofNat (divNearest n 4) := by
  rw [quarters, fixed_zero, one_eq_quarters, Nat.mul_comm quarter,
    divNearest_mul_mul n (by decide) quarter_pos]

end Binary64

namespace Chart

open Binary64 (whole zero divNearest IsNearest)

theorem label_quarters {hi i : Nat} (small : i * hi < 2 ^ 53) (few : i < 2 ^ 53) :
    (zero + Binary64.quarters hi * Binary64.ofNat i).fixed 0 =
      Digits.ofNat (divNearest (i * hi) 4) := by
  rw [Binary64.ofNat_eq_whole few, Binary64.quarters_mul_whole small (Nat.mul_comm hi i),
    Binary64.zero_add_quarters small, Binary64.fixed_quarters]

theorem yLabels_whole {hi : Nat} (small : hi < 2 ^ 50) :
    yLabels {} ⟨zero, whole hi⟩ =
      (List.range 5).map fun i => String.ofList (Digits.ofNat (divNearest (i * hi) 4)) := by
  have step : (whole hi - zero) / Binary64.ofNat 4 = Binary64.quarters hi := by
    rw [Binary64.whole_sub_zero (by omega), Binary64.ofNat_eq_whole (by decide),
      Binary64.whole_div_four (by omega)]
  refine List.map_congr_left fun i listed => ?_
  have few : i < 5 := List.mem_range.mp listed
  have product : i * hi ≤ 4 * hi := Nat.mul_le_mul_right hi (by omega)
  have label := label_quarters (i := i) (show i * hi < 2 ^ 53 by omega) (by omega)
  rw [← label, ← step]
  rfl

example : yLabels {} ⟨zero, whole 102⟩ = ["0", "26", "51", "76", "102"] := by decide +kernel

/-- Labels of a range of a hundred or more are some whole numbers apart. -/
theorem divNearest_quarters_lt {hi i j : Nat} (wide : 100 ≤ hi) (less : i < j) :
    divNearest (i * hi) 4 < divNearest (j * hi) 4 := by
  have apart : (i + 1) * hi ≤ j * hi := Nat.mul_le_mul_right hi less
  rw [Nat.succ_mul] at apart
  have near (n : Nat) : IsNearest n 4 (divNearest n 4) :=
    Binary64.isNearest_divNearest n (by decide)
  have below := (near (i * hi)).below
  have above := (near (j * hi)).above
  omega

end Chart

namespace Dashboard

open Binary64 (whole zero divNearest IsNearest)

/-- The counts of one kind that are still shown after a history. -/
def shown (count : Stats → UInt32) (history : History) : List Nat :=
  ((countsIn history).rtake 10).map fun arrival => (count arrival.1).toNat

theorem values_sampleOf (count : Stats → UInt32) (history : History) :
    (((countsIn history).map (sampleOf count)).rtake 10).map Sample.value =
      (shown count history).map whole := by
  simp only [shown, List.rtake, List.map_drop, List.map_map, List.length_map]
  rfl

theorem forall_counts_replay (history : History) :
    List.Forall₂ Series.Counts [(empty.replay history).running, (empty.replay history).blocked]
      [shown Stats.runningQueries history, shown Stats.blockedQueries history] := by
  have running : (empty.replay history).running.Counts (shown Stats.runningQueries history) := by
    rw [Series.Counts, Series.values, samples_running_replay, values_sampleOf]
  have blocked : (empty.replay history).blocked.Counts (shown Stats.blockedQueries history) := by
    rw [Series.Counts, Series.values, samples_blocked_replay, values_sampleOf]
  exact .cons running (.cons blocked .nil)

theorem shown_lt {count : Stats → UInt32} {history : History} {n : Nat}
    (listed : n ∈ shown count history) : n < 2 ^ 32 := by
  obtain ⟨arrival, -, rfl⟩ := List.mem_map.mp listed
  exact (count arrival.1).toNat_lt

def allShown (history : History) : List Nat :=
  shown Stats.runningQueries history ++ shown Stats.blockedQueries history

theorem values_replay (history : History) :
    (empty.replay history).running.values ++ (empty.replay history).blocked.values =
      (allShown history).map whole := by
  rw [allShown, List.map_append, Series.values, Series.values, samples_running_replay,
    samples_blocked_replay, values_sampleOf, values_sampleOf]

/-- The upper end of the y range as a natural number. -/
def highest (history : History) : Nat := (allShown history).foldl max 100

theorem yBounds_replay (history : History) :
    Chart.yBounds {} [(empty.replay history).running, (empty.replay history).blocked] =
      ⟨zero, whole (highest history)⟩ := by
  have shows := forall_counts_replay history
  have hundred : Binary64.ofNat 100 = whole 100 := Binary64.ofNat_eq_whole (by decide)
  rw [Chart.yBounds]
  dsimp only
  rw [hundred, Series.foldl_least shows, Series.foldl_largest shows,
    highest, allShown, List.flatten_cons, List.flatten_singleton]

theorem highest_spec (history : History) :
    highest history ∈ 100 :: allShown history ∧
      ∀ n ∈ 100 :: allShown history, n ≤ highest history :=
  List.max?_eq_some_iff.mp List.max?_cons'

theorem highest_lt (history : History) : highest history < 2 ^ 32 := by
  rcases List.mem_cons.mp (highest_spec history).1 with hundred | count
  · rw [hundred]
    decide
  · rcases List.mem_append.mp count with running | blocked
    · exact shown_lt running
    · exact shown_lt blocked

theorem y_mem_values {origin : Timestamp} {d : Dashboard} {p : Point}
    (drawn : p ∈ Chart.points origin d.running ++ Chart.points origin d.blocked) :
    p.y ∈ d.running.values ++ d.blocked.values := by
  rw [Chart.points, Chart.points, ← List.map_append] at drawn
  obtain ⟨s, kept, rfl⟩ := List.mem_map.mp drawn
  rw [Series.values, Series.values, ← List.map_append]
  exact List.mem_map_of_mem kept

/-- After any history the y range goes from zero to the largest count shown, or to a hundred, and
every point lies in it. It has five labels, its quarters rounded half to even, which start with
zero, grow and end with the end of the range. -/
theorem replay_yAxis_fits (history : History) :
    let d := empty.replay history
    let y := Chart.yBounds {} [d.running, d.blocked]
    let hi := (allShown history).foldl max 100
    d.running.values ++ d.blocked.values = (allShown history).map whole ∧
      y = ⟨zero, whole hi⟩ ∧
      (∀ origin, ∀ p ∈ Chart.points origin d.running ++ Chart.points origin d.blocked,
        y.low.le p.y = true ∧ p.y.le y.high = true) ∧
      ∃ label : Fin 5 → Nat,
        Chart.yLabels {} y = List.ofFn (fun i => String.ofList (Digits.ofNat (label i))) ∧
        (∀ i : Fin 5, IsNearest (i.val * hi) 4 (label i)) ∧ label 0 = 0 ∧ label 4 = hi ∧
        StrictMono label := by
  intro d y hi
  have bounds : y = ⟨zero, whole hi⟩ := yBounds_replay history
  have small : hi < 2 ^ 32 := highest_lt history
  have least : 100 ≤ hi := (highest_spec history).2 100 List.mem_cons_self
  refine ⟨values_replay history, bounds, fun origin p drawn => ?_,
    fun i => divNearest (i.val * hi) 4, ?_, fun i => ?_, ?_, ?_, fun i j less => ?_⟩
  · have among := y_mem_values drawn
    rw [values_replay] at among
    obtain ⟨n, counted, value⟩ := List.mem_map.mp among
    rw [bounds, ← value, Binary64.zero_eq_whole, Binary64.le_whole_iff, Binary64.le_whole_iff]
    exact ⟨Nat.zero_le n, (highest_spec history).2 n (List.mem_cons_of_mem _ counted)⟩
  · rw [bounds, Chart.yLabels_whole (by omega)]
    rfl
  · exact Binary64.isNearest_divNearest _ (by decide)
  · show divNearest (0 * hi) 4 = 0
    rw [Nat.zero_mul]
    rfl
  · show divNearest (4 * hi) 4 = hi
    rw [Nat.mul_comm]
    exact Binary64.divNearest_mul hi (by decide)
  · exact Chart.divNearest_quarters_lt least less

end Dashboard

end FleetWatch
