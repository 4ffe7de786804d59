import FleetWatch.Chart
import FleetWatch.Proofs.Binary64.Rounding
import FleetWatch.Proofs.Dashboard.History
import FleetWatch.Proofs.Series.Extremes

/-! # The x axis of samples

Both series of a dashboard are stamped alike, so the axis starts where the sample kept longest was
taken. It reaches to the last place of any sample, but not to the left of its start. Main statement:
every sample lies on the axis exactly if none was stamped a millisecond or more before the one kept
longest, and as long as the wall clock is not set back, none was.
-/

namespace FleetWatch

/-! ## Places -/

namespace Binary64

theorem isNan_round (negative : Bool) (num den : Nat) : (round negative num den).isNan = false := by
  rw [round]
  split_ifs <;> rfl

theorem zero_le_iff {x : Binary64} (number : x.isNan = false) :
    zero.le x = true ↔ 0 ≤ x.rank := by
  have least : zero.rank = 0 := rfl
  rw [le_iff, least]
  exact ⟨fun ranks => ranks.2.2, fun above => ⟨rfl, number, above⟩⟩

theorem signedUnits_nonneg_iff (negative : Bool) (units : Nat) :
    0 ≤ signedUnits negative units ↔ negative = false ∨ units = 0 := by
  cases negative with
  | false => exact iff_of_true (Int.natCast_nonneg units) (.inl rfl)
  | true =>
      rw [signedUnits, if_pos rfl, or_iff_right (by decide)]
      omega

theorem zero_le_infinite_iff (negative : Bool) :
    zero.le (infinite negative) = true ↔ negative = false := by
  have large : overflow ≠ 0 := by decide +kernel
  rw [zero_le_iff rfl, rank, signedUnits_nonneg_iff, or_iff_left large]

theorem zero_le_round_iff (negative : Bool) (num den : Nat) :
    zero.le (round negative num den) = true ↔ negative = false ∨ roundUnits num den = 0 := by
  rw [round]
  split_ifs with finite
  · rw [zero_le_iff rfl, rank, signedUnits_nonneg_iff]
  · have large : 0 < overflow := by decide +kernel
    rw [zero_le_infinite_iff, or_iff_left (by omega)]

theorem infinite_div_whole (negative : Bool) (n : Nat) :
    infinite negative / whole n = infinite negative := by
  have quotient (x y : Binary64) : x / y = div x y := rfl
  rw [quotient, whole]
  simp only [div, Bool.bne_false]

theorem isNan_ofInt_div (i : Int) {n : Nat} (positive : n ≠ 0) :
    (ofInt i / whole n).isNan = false := by
  rw [ofInt, round]
  split_ifs
  · rw [finite_div_whole _ _ positive]
    exact isNan_round ..
  · rw [infinite_div_whole]
    rfl

theorem zero_le_ofInt_div_iff (i : Int) : zero.le (ofInt i / whole 1000) = true ↔ 0 ≤ i := by
  have sign : decide (i < 0) = false ↔ 0 ≤ i := by rw [decide_eq_false_iff_not, Int.not_lt]
  rw [ofInt, round]
  split_ifs
  · rw [finite_div_whole _ _ (by decide), zero_le_round_iff, sign, or_iff_left_iff_imp]
    intro nothing
    refine Int.not_lt.mp fun negative => ?_
    -- At least one is divided, and a thousandth is far from being lost.
    have units : 1 * one ≤ roundUnits (i.natAbs * one) 1 := by
      refine le_roundUnits Nat.one_pos (spacing_whole_dvd (by decide)) ?_
      rw [Nat.mul_one]
      exact Nat.mul_le_mul_right one (Int.natAbs_pos.mpr (Int.ne_of_lt negative))
    have thousand : 1000 ≤ one := by decide +kernel
    have something : 1 ≤ roundUnits (roundUnits (i.natAbs * one) 1) 1000 :=
      le_roundUnits (by decide) (Nat.one_dvd _) (by omega)
    omega
  · rw [infinite_div_whole, zero_le_infinite_iff, sign]

end Binary64

namespace Timestamp

theorem since_nonneg {a b : Timestamp} (regular : a.nanos < nanosPerSecond)
    (regular' : b.nanos < nanosPerSecond) (ordered : le b a = true) : 0 ≤ a.since b := by
  simp only [le, Bool.or_eq_true, Bool.and_eq_true, decide_eq_true_eq, beq_iff_eq] at ordered
  simp only [since, nanosPerSecond] at *
  split_ifs <;> omega

end Timestamp

namespace Chart

open Binary64 (zero)

theorem tdiv_million_nonneg_iff (nanos : Int) : 0 ≤ nanos.tdiv 1000000 ↔ -1000000 < nanos := by
  rcases Int.le_total 0 nanos with later | earlier
  · rw [Int.tdiv_eq_ediv_of_nonneg later]
    omega
  · have mirrored : (-nanos).tdiv 1000000 = -nanos / 1000000 :=
      Int.tdiv_eq_ediv_of_nonneg (Int.neg_nonneg_of_nonpos earlier)
    rw [Int.neg_tdiv] at mirrored
    omega

section Offset

variable (origin t : Timestamp)

theorem offset_eq :
    offset origin t = .ofInt ((t.since origin).tdiv 1000000) / .whole 1000 := by
  rw [offset, Binary64.ofNat_eq_whole (by decide)]

/-- Only whole milliseconds before the origin count. -/
theorem zero_le_offset_iff : zero.le (offset origin t) = true ↔ -1000000 < t.since origin := by
  rw [offset_eq, Binary64.zero_le_ofInt_div_iff, tdiv_million_nonneg_iff]

theorem isNan_offset : (offset origin t).isNan = false := by
  rw [offset_eq]
  exact Binary64.isNan_ofInt_div _ (by decide)

end Offset

theorem forall_points_iff {series : List Series} {stamps : List Timestamp} (some : series ≠ [])
    (alike : ∀ s ∈ series, s.samples.map Sample.timestamp = stamps) (origin : Timestamp)
    (P : Binary64 → Prop) :
    (∀ p ∈ (series.map (points origin)).flatten, P p.x) ↔ ∀ t ∈ stamps, P (offset origin t) := by
  simp only [List.mem_flatten, List.mem_map]
  constructor
  · intro all t stamped
    obtain ⟨s, drawn⟩ := List.exists_mem_of_ne_nil series some
    rw [← alike s drawn] at stamped
    obtain ⟨sample, kept, rfl⟩ := List.mem_map.mp stamped
    exact all ⟨offset origin sample.timestamp, sample.value⟩
      ⟨_, ⟨s, drawn, rfl⟩, List.mem_map_of_mem kept⟩
  · rintro all p ⟨_, ⟨s, drawn, rfl⟩, placed⟩
    obtain ⟨sample, kept, rfl⟩ := List.mem_map.mp placed
    refine all sample.timestamp ?_
    rw [← alike s drawn]
    exact List.mem_map_of_mem kept

theorem le_xBounds {xs : List (List Binary64)} {x : Binary64} (placed : x ∈ xs.flatten)
    (number : x.isNan = false) : x.le (xBounds xs).high = true := by
  have last := Series.chooses_max.foldl_before zero xs.flatten x (List.mem_cons_of_mem _ placed)
    number
  have number' := (Binary64.le_iff.mp last).2.1
  rw [xBounds]
  dsimp only
  exact Binary64.le_trans last (Binary64.le_max_left number' (Binary64.ofNat 1))

theorem origin?_pair {s s' : Series} {t : Timestamp} {ts : List Timestamp}
    (stamped : s.samples.map Sample.timestamp = t :: ts)
    (stamped' : s'.samples.map Sample.timestamp = t :: ts) : origin? [s, s'] = some t := by
  have oldest : s.oldest?.map Sample.timestamp = some t := by
    rw [Series.oldest?, ← List.head?_map, stamped, List.head?_cons]
  have oldest' : s'.oldest?.map Sample.timestamp = some t := by
    rw [Series.oldest?, ← List.head?_map, stamped', List.head?_cons]
  have both : ([s, s'].filterMap fun s => s.oldest?.map Sample.timestamp) = [t, t] := by
    simp only [List.filterMap_cons, List.filterMap_nil, oldest, oldest']
  rw [origin?, both]
  exact congrArg some (ite_self t)

end Chart

namespace Dashboard

open Binary64 (zero)

/-- When the samples were taken that are still shown after a history, in the order in which they
arrived. -/
def stamps (history : History) : List Timestamp :=
  ((countsIn history).map fun arrival => arrival.2.time).rtake 10

theorem timestamps_running_replay (history : History) :
    (empty.replay history).running.samples.map Sample.timestamp = stamps history := by
  rw [samples_running_replay, timestamps_sampleOf, stamps]

theorem timestamps_blocked_replay (history : History) :
    (empty.replay history).blocked.samples.map Sample.timestamp = stamps history := by
  rw [samples_blocked_replay, timestamps_sampleOf, stamps]

theorem stamps_ne_nil {history : History} (arrived : countsIn history ≠ []) :
    stamps history ≠ [] := by
  have some := List.length_pos_of_ne_nil arrived
  rw [← List.length_pos_iff, stamps, Series.length_rtake, List.length_map]
  omega

/-- Once counts have arrived, the axis starts where the sample kept longest was taken, and no point
lies beyond its end. None lies before its start exactly if no sample was stamped a millisecond or
more before that one, and outside leap seconds none does if no sample was stamped before it. -/
theorem replay_xAxis_fits_iff (history : History) (arrived : countsIn history ≠ []) :
    let d := empty.replay history
    ∃ origin, (stamps history).head? = some origin ∧
      Chart.origin? [d.running, d.blocked] = some origin ∧
      let drawn := [d.running, d.blocked].map (Chart.points origin)
      let x := Chart.xBounds (drawn.map fun curve => curve.map Point.x)
      (∀ p ∈ drawn.flatten, p.x.le x.high = true) ∧
      ((∀ p ∈ drawn.flatten, x.low.le p.x = true) ↔
        ∀ t ∈ stamps history, -1000000 < t.since origin) ∧
      ((∀ t ∈ stamps history, t.nanos < Timestamp.nanosPerSecond ∧ origin.le t = true) →
        ∀ p ∈ drawn.flatten, x.low.le p.x = true) := by
  intro d
  have running := timestamps_running_replay history
  have blocked := timestamps_blocked_replay history
  obtain ⟨origin, later, stamped⟩ := List.exists_cons_of_ne_nil (stamps_ne_nil arrived)
  have first : origin ∈ stamps history := by
    rw [stamped]
    exact List.mem_cons_self
  have alike : ∀ s ∈ [d.running, d.blocked], s.samples.map Sample.timestamp = stamps history :=
    List.forall_mem_cons.mpr ⟨running, List.forall_mem_singleton.mpr blocked⟩
  rw [stamped] at running blocked
  have points := Chart.forall_points_iff (List.cons_ne_nil _ _) alike origin
  refine ⟨origin, by rw [stamped, List.head?_cons], Chart.origin?_pair running blocked, ?_⟩
  intro drawn x
  have left : (∀ p ∈ drawn.flatten, x.low.le p.x = true) ↔
      ∀ t ∈ stamps history, -1000000 < t.since origin := by
    simp only [← Chart.zero_le_offset_iff]
    exact points fun x => zero.le x = true
  refine ⟨?_, left, fun ordered => left.mpr fun t kept => ?_⟩
  · intro p placed
    have number := (points fun x => x.isNan = false).mpr
      (fun t _ => Chart.isNan_offset origin t) p placed
    refine Chart.le_xBounds ?_ number
    rw [← List.map_flatten]
    exact List.mem_map_of_mem placed
  · have notBefore := Timestamp.since_nonneg (ordered t kept).1 (ordered origin first).1
      (ordered t kept).2
    omega

/-- Counts that arrived at these times. -/
def arrivedAt (times : List Timestamp) : History :=
  times.map fun time => (.stats (.ok Stats.zero), ⟨time, 0⟩)

/-- A clock that was set back by half a millisecond does not show. -/
theorem replay_xAxis_fits_half_millisecond :
    let d := empty.replay (arrivedAt [⟨1700000010, 500000⟩, ⟨1700000010, 0⟩])
    let origin := ⟨1700000010, 500000⟩
    Chart.origin? [d.running, d.blocked] = some origin ∧
      ∀ p ∈ ([d.running, d.blocked].map (Chart.points origin)).flatten, zero.le p.x = true := by
  intro d start
  obtain ⟨origin, first, found, -, left, -⟩ :=
    replay_xAxis_fits_iff (arrivedAt [⟨1700000010, 500000⟩, ⟨1700000010, 0⟩]) (by decide)
  obtain rfl : start = origin := Option.some.inj first
  exact ⟨found, left.mpr (by decide)⟩

/-- One that was set back by ten seconds leaves a point ten seconds to the left of the axis. -/
theorem replay_point_left_of_xAxis :
    let d := empty.replay (arrivedAt [⟨1700000010, 0⟩, ⟨1700000000, 0⟩])
    let origin := ⟨1700000010, 0⟩
    Chart.origin? [d.running, d.blocked] = some origin ∧
      ∃ p ∈ Chart.points origin d.running, p.x = Binary64.ofInt (-10) ∧ zero.le p.x = false := by
  decide +kernel

end Dashboard

end FleetWatch
