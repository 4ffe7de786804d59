import FleetWatch.Timestamp

/-! # Clocks

Two clocks are read together: the wall clock, which stamps samples and may be set back, and the
steady clock, by which ages and deadlines are measured.
-/

namespace FleetWatch

/-- A reading of both clocks. -/
structure Moment where
  /-- The wall clock. -/
  time : Timestamp
  /-- Nanoseconds on the steady clock. -/
  steady : Nat
  deriving Repr, DecidableEq, Inhabited

end FleetWatch
