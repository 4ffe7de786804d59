import FleetWatch.Timestamp

/-! # Bounded series

Samples of one metric in arrival order. A series keeps the most recent ones, as many as its
capacity; a push into a full series lets go of the oldest.
-/

namespace FleetWatch

structure Sample where
  timestamp : Timestamp
  value : Binary64
  deriving Repr, DecidableEq

/-- The most recent samples, oldest first. -/
structure Series where
  capacity : Nat
  samples : List Sample
  capacity_pos : 0 < capacity

namespace Series

instance : DecidableEq Series := fun s t =>
  decidable_of_iff (s.capacity = t.capacity ∧ s.samples = t.samples) (by cases s; cases t; simp)

def defaultCapacity : Nat := 10

/-- An empty series; a capacity of zero is taken as one. -/
def withCapacity (capacity : Nat) : Series :=
  ⟨Max.max capacity 1, [], Nat.lt_of_lt_of_le Nat.one_pos (Nat.le_max_right ..)⟩

def empty : Series := withCapacity defaultCapacity

instance : Inhabited Series := ⟨empty⟩

/-- Adds a sample at the end, letting go of the oldest one when the series is full. -/
def push (s : Series) (x : Sample) : Series :=
  { s with samples := (if s.samples.length = s.capacity then s.samples.tail else s.samples) ++ [x] }

def pushAll (s : Series) (xs : List Sample) : Series := xs.foldl push s

def values (s : Series) : List Binary64 := s.samples.map Sample.value

/-- The sample kept longest. -/
def oldest? (s : Series) : Option Sample := s.samples.head?

def latest? (s : Series) : Option Sample := s.samples.getLast?

/-- Combines values two at a time, first to last; nothing when there is none. -/
def reduce? (f : Binary64 → Binary64 → Binary64) : List Binary64 → Option Binary64
  | [] => none
  | v :: vs => some (vs.foldl f v)

/-- The largest value kept; NaN only when all are. -/
def max? (s : Series) : Option Binary64 := reduce? Binary64.max s.values

/-- The smallest value kept; NaN only when all are. -/
def min? (s : Series) : Option Binary64 := reduce? Binary64.min s.values

end Series

end FleetWatch
