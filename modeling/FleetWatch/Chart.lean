import FleetWatch.Series

/-! # Chart data

What the query chart draws. The x axis counts seconds from the earliest of the series' oldest
samples, and its labels give the time of day; the y axis starts from a suggested range and widens
to take in every value.
-/

namespace FleetWatch

structure Bounds where
  low : Binary64
  high : Binary64
  deriving Repr, DecidableEq

/-- A point of the chart: seconds since the origin, and a value. -/
structure Point where
  x : Binary64
  y : Binary64
  deriving Repr, DecidableEq

structure AxisOptions where
  /-- Lower end of the y range unless a value lies below. -/
  suggestedMin : Binary64 := Binary64.zero
  /-- Upper end of the y range unless a value lies above. -/
  suggestedMax : Binary64 := Binary64.ofNat 100
  /-- The most labels that the y axis has; it never has fewer than two. -/
  maxTicks : Nat := 5
  deriving Repr, DecidableEq

namespace Chart

/-- The y range: the suggested one, widened to every value of the series. -/
def yBounds (options : AxisOptions) (series : List Series) : Bounds :=
  ⟨(series.filterMap Series.min?).foldl Binary64.min options.suggestedMin,
   (series.filterMap Series.max?).foldl Binary64.max options.suggestedMax⟩

/-- Evenly spaced labels of the y axis, from the lower end to the upper, as whole numbers. -/
def yLabels (options : AxisOptions) (bounds : Bounds) : List String :=
  let ticks := Max.max options.maxTicks 2
  let step := (bounds.high - bounds.low) / Binary64.ofNat (ticks - 1)
  (List.range ticks).map fun i =>
    String.ofList ((bounds.low + step * Binary64.ofNat i).fixed 0)

/-- Where the x axis starts: the earliest of the oldest samples, nothing when there is none. -/
def origin? (series : List Series) : Option Timestamp :=
  match series.filterMap fun s => s.oldest?.map Sample.timestamp with
  | [] => none
  | t :: ts => some (ts.foldl Timestamp.earlier t)

/-- The seconds from the origin to a timestamp, counted in whole milliseconds. -/
def offset (origin t : Timestamp) : Binary64 :=
  Binary64.ofInt ((t.since origin).tdiv 1000000) / Binary64.ofNat 1000

def points (origin : Timestamp) (s : Series) : List Point :=
  s.samples.map fun x => ⟨offset origin x.timestamp, x.value⟩

/-- The x range: from zero to the last of the given places, at least one second. -/
def xBounds (xs : List (List Binary64)) : Bounds :=
  ⟨Binary64.zero, (xs.flatten.foldl Binary64.max Binary64.zero).max (Binary64.ofNat 1)⟩

/-- The time of day so many seconds behind the origin, if the calendar reaches it; fractions of a
millisecond do not count. -/
def label? (origin : Timestamp) (seconds : Binary64) : Option String :=
  let millis := (seconds * Binary64.ofNat 1000).truncate (-0x8000000000000000) 0x7FFFFFFFFFFFFFFF
  (origin.add? (millis * 1000000)).map Timestamp.clockText

/-- Labels of the start, the middle and the end of the x range. -/
def xLabels? (origin : Timestamp) (span : Binary64) : Option (List String) :=
  [Binary64.zero, span / Binary64.ofNat 2, span].mapM (label? origin)

end Chart

end FleetWatch
