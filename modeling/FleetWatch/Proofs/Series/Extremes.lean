import FleetWatch.Proofs.Binary64.Order
import FleetWatch.Proofs.Series.Window

/-! # What a series shows of its window

The samples of a series are the last ones pushed, so its two ends are the first push that is not let
go of and the last push of all. The least and the largest value come of going through the window
once and keeping one of two values at a time: what is kept in the end is a value of the window, and
none of the others that is not NaN beats it.
-/

namespace FleetWatch.Series

/-- A choice between two numbers that keeps to an order: it is one of them, and it stands before
either of them that is not NaN. -/
structure Chooses (f : Binary64 → Binary64 → Binary64) (before : Binary64 → Binary64 → Prop) :
    Prop where
  one : ∀ x y, f x y = x ∨ f x y = y
  left : ∀ {x} y, x.isNan = false → before (f x y) x
  right : ∀ x {y}, y.isNan = false → before (f x y) y
  refl : ∀ {x}, x.isNan = false → before x x
  trans : ∀ {x y z}, before x y → before y z → before x z
  number : ∀ {x y}, before x y → x.isNan = false

theorem chooses_min : Chooses Binary64.min fun x y => x.le y = true where
  one := Binary64.min_eq_or
  left y number := Binary64.min_le_left number y
  right x _ number := Binary64.min_le_right x number
  refl := Binary64.le_refl
  trans := Binary64.le_trans
  number below := (Binary64.le_iff.mp below).1

theorem chooses_max : Chooses Binary64.max fun x y => y.le x = true where
  one := Binary64.max_eq_or
  left y number := Binary64.le_max_left number y
  right x _ number := Binary64.le_max_right x number
  refl := Binary64.le_refl
  trans first second := Binary64.le_trans second first
  number above := (Binary64.le_iff.mp above).2.1

/-! ## Going through the values -/

namespace Chooses

variable {f : Binary64 → Binary64 → Binary64} {before : Binary64 → Binary64 → Prop}
  (h : Chooses f before)
include h

theorem foldl_mem (v : Binary64) (vs : List Binary64) : vs.foldl f v ∈ v :: vs := by
  induction vs generalizing v with
  | nil => exact List.mem_cons_self
  | cons w vs ih =>
      rw [List.foldl_cons]
      rcases List.mem_cons.mp (ih (f v w)) with same | later
      · rw [same]
        rcases h.one v w with first | second
        · rw [first]
          exact List.mem_cons_self
        · rw [second]
          exact List.mem_cons_of_mem v List.mem_cons_self
      · exact List.mem_cons_of_mem v (List.mem_cons_of_mem w later)

/-- What is kept in the end stands before the value begun with and before each one gone through. -/
theorem foldl_before (v : Binary64) (vs : List Binary64) :
    ∀ w ∈ v :: vs, w.isNan = false → before (vs.foldl f v) w := by
  induction vs generalizing v with
  | nil =>
      intro w among number
      obtain rfl := List.mem_singleton.mp among
      exact h.refl number
  | cons u vs ih =>
      intro w among number
      -- What stands behind the first choice stands behind the last one too.
      have through (chosen : before (f v u) w) : before (vs.foldl f (f v u)) w :=
        h.trans (ih (f v u) _ List.mem_cons_self (h.number chosen)) chosen
      rw [List.foldl_cons]
      rcases List.mem_cons.mp among with rfl | among
      · exact through (h.left u number)
      · rcases List.mem_cons.mp among with rfl | later
        · exact through (h.right v number)
        · exact ih (f v u) w (List.mem_cons_of_mem _ later) number

theorem reduce?_spec {vs : List Binary64} {v : Binary64} (reduced : reduce? f vs = some v) :
    v ∈ vs ∧ ∀ w ∈ vs, w.isNan = false → before v w := by
  cases vs with
  | nil => cases reduced
  | cons first rest =>
      obtain rfl := Option.some.inj reduced
      exact ⟨h.foldl_mem first rest, h.foldl_before first rest⟩

end Chooses

theorem reduce?_eq_none_iff {f : Binary64 → Binary64 → Binary64} {vs : List Binary64} :
    reduce? f vs = none ↔ vs = [] := by
  cases vs <;> simp [reduce?]

/-! ## The window -/

/-- How a series shows the end of everything that was pushed into it. -/
structure IsWindow (s : Series) (pushed : List Sample) : Prop where
  /-- The samples are the last ones pushed, in the order of the pushes. -/
  samples : s.samples = pushed.rtake (min pushed.length s.capacity)
  length : s.samples.length = min pushed.length s.capacity
  within : s.samples.length ≤ s.capacity
  oldest : s.oldest? = pushed[pushed.length - min pushed.length s.capacity]?
  latest : s.latest? = pushed.getLast?
  least_none : s.min? = none ↔ pushed = []
  largest_none : s.max? = none ↔ pushed = []
  /-- The least value is one of the window, and it is at most each of them that is not NaN. -/
  least : ∀ v, s.min? = some v →
    v ∈ s.values ∧ ∀ w ∈ s.values, w.isNan = false → v.le w = true
  /-- The largest value is one of the window, and each of them that is not NaN is at most it. -/
  largest : ∀ v, s.max? = some v →
    v ∈ s.values ∧ ∀ w ∈ s.values, w.isNan = false → w.le v = true

variable {s : Series} {pushed : List Sample}

theorem rtake_min_length {α : Type} (xs : List α) (n : Nat) :
    xs.rtake (min xs.length n) = xs.rtake n := by
  simp only [List.rtake]
  congr 1
  omega

theorem values_eq_nil_iff (window : s.samples = pushed.rtake s.capacity) :
    s.values = [] ↔ pushed = [] := by
  have room := s.capacity_pos
  rw [values, List.map_eq_nil_iff, ← List.length_eq_zero_iff, window, length_rtake,
    ← List.length_eq_zero_iff]
  omega

theorem latest?_of_window (window : s.samples = pushed.rtake s.capacity) :
    s.latest? = pushed.getLast? := by
  have room := s.capacity_pos
  rw [latest?, window, List.rtake, List.getLast?_drop]
  split
  · rename_i none
    have empty : pushed = [] := List.length_eq_zero_iff.mp (by omega)
    rw [empty]
    rfl
  · rfl

theorem isWindow_of_rtake (window : s.samples = pushed.rtake s.capacity) : s.IsWindow pushed where
  samples := window.trans (rtake_min_length pushed s.capacity).symm
  length := by rw [window, length_rtake, Nat.min_comm]
  within := by
    rw [window, length_rtake]
    exact Nat.min_le_left ..
  oldest := by
    rw [oldest?, window, ← rtake_min_length, List.rtake, List.head?_drop]
  latest := latest?_of_window window
  least_none := reduce?_eq_none_iff.trans (values_eq_nil_iff window)
  largest_none := reduce?_eq_none_iff.trans (values_eq_nil_iff window)
  least _ := chooses_min.reduce?_spec
  largest _ := chooses_max.reduce?_spec

/-- A series set up with any capacity, zero counting as one, and then pushed into any number of
times, is a window over the pushes. -/
theorem pushAll_isWindow (capacity : Nat) (pushed : List Sample) :
    ((withCapacity capacity).pushAll pushed).capacity = max capacity 1 ∧
      ((withCapacity capacity).pushAll pushed).IsWindow pushed := by
  have size : ((withCapacity capacity).pushAll pushed).capacity = max capacity 1 :=
    capacity_pushAll ..
  refine ⟨size, isWindow_of_rtake ?_⟩
  rw [size]
  exact samples_pushAll_withCapacity capacity pushed

example (a b : Sample) : ((withCapacity 0).pushAll [a, b]).samples = [b] := rfl

end FleetWatch.Series
