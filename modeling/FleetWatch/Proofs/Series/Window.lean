import FleetWatch.Series
import Mathlib.Data.List.DropRight

/-! # A series as a window

A series holds the end of everything that was ever pushed into it, as much of it as its capacity
allows. One push carries this on to a history that is one sample longer, and so does any number of
them.
-/

namespace FleetWatch.Series

theorem length_rtake {α : Type} (xs : List α) (n : Nat) :
    (xs.rtake n).length = min n xs.length := by
  simp only [List.rtake, List.length_drop]
  omega

theorem tail_rtake {α : Type} (xs : List α) (n : Nat) (long : n < xs.length) :
    (xs.rtake (n + 1)).tail = xs.rtake n := by
  have next : xs.length - (n + 1) + 1 = xs.length - n := by omega
  simp only [List.rtake, List.tail_drop, next]

theorem rtake_of_length_le {α : Type} {xs : List α} {n : Nat} (short : xs.length ≤ n) :
    xs.rtake n = xs := by
  simp only [List.rtake, Nat.sub_eq_zero_of_le short, List.drop_zero]

@[simp] theorem capacity_push (s : Series) (x : Sample) : (s.push x).capacity = s.capacity := rfl

@[simp] theorem capacity_pushAll (s : Series) (xs : List Sample) :
    (s.pushAll xs).capacity = s.capacity := by
  induction xs generalizing s with
  | nil => rfl
  | cons x xs ih => exact (ih (s.push x)).trans (capacity_push s x)

/-- A push into the window over some history gives the window over the longer one. -/
theorem samples_push {s : Series} {history : List Sample}
    (window : s.samples = history.rtake s.capacity) (x : Sample) :
    (s.push x).samples = (history ++ [x]).rtake s.capacity := by
  obtain ⟨room, size⟩ : ∃ room, s.capacity = room + 1 :=
    Nat.exists_eq_add_one.mpr s.capacity_pos
  simp only [push, window, size, List.rtake_concat_succ, length_rtake]
  split
  · rename_i full
    rw [tail_rtake history room (by omega)]
  · rename_i notFull
    have short : history.length ≤ room := by omega
    rw [rtake_of_length_le short, rtake_of_length_le (Nat.le_succ_of_le short)]

theorem samples_pushAll {s : Series} {history : List Sample}
    (window : s.samples = history.rtake s.capacity) (xs : List Sample) :
    (s.pushAll xs).samples = (history ++ xs).rtake s.capacity := by
  induction xs generalizing s history with
  | nil => simpa only [pushAll, List.foldl_nil, List.append_nil] using window
  | cons x xs ih =>
      have pushed := ih (samples_push window x)
      rwa [List.append_assoc, capacity_push] at pushed

/-- From an empty series on, the samples kept are the last ones pushed. -/
theorem samples_pushAll_withCapacity (capacity : Nat) (xs : List Sample) :
    ((withCapacity capacity).pushAll xs).samples = xs.rtake (max capacity 1) := by
  have window : (withCapacity capacity).samples = ([] : List Sample).rtake (max capacity 1) :=
    (List.rtake_nil _).symm
  exact samples_pushAll window xs

end FleetWatch.Series
