import FleetWatch.Proofs.Dashboard.After
import FleetWatch.Proofs.Json.Floats
import FleetWatch.Proofs.Json.Layout
import FleetWatch.Proofs.Timestamp.Rfc3339
import Mathlib.Data.List.Forall2

/-! # The exported document says what the dashboard shows

A reader of exported documents, which looks every member up by its name. What it gives for the
document of a dashboard is the dashboard as it is shown: a value of a sample is a count with one
place behind the point, and a time is a text that denotes it.
-/

namespace FleetWatch

/-! ## Reading -/

/-- A sample of a document, its time as it is written. -/
def Sample.ofJson? (v : Json) : Option (String × Binary64) :=
  match v.fields? ["timestamp", "value"] with
  | some [some timestamp, some value] => do return (← timestamp.text?, ← value.float?)
  | _ => none

def Series.ofJson? : Json → Option (List (String × Binary64))
  | .array items => items.mapM Sample.ofJson?
  | _ => none

/-- A text, or nothing where there is null. -/
def Json.textOrNull? : Json → Option (Option String)
  | .null => some none
  | v => v.text?.map some

/-- What an exported document says. -/
structure Snapshot where
  clusters : List Cluster
  endpoint : Option String
  exportedAt : String
  running : List (String × Binary64)
  blocked : List (String × Binary64)
  stats : Stats

namespace Snapshot

/-- What a document says, if it is one of a dashboard. -/
def ofJson? (v : Json) : Option Snapshot :=
  match v.fields? ["clusters", "endpoint", "exported_at", "series", "stats"] with
  | some [some clusters, some endpoint, some exportedAt, some series, some stats] =>
    match series.fields? ["running_queries", "blocked_queries"] with
    | some [some running, some blocked] => do
      return ⟨← Cluster.listOfJson? clusters, ← endpoint.textOrNull?, ← exportedAt.text?,
        ← Series.ofJson? running, ← Series.ofJson? blocked, ← Stats.ofJson? stats⟩
    | _ => none
  | _ => none

/-- Samples of a document are those of a series, one by one: with the same values, and with texts
that denote their times. -/
abbrev Lists (read : List (String × Binary64)) (samples : List Sample) : Prop :=
  List.Forall₂ (fun r s => Timestamp.Denotes r.1 s.timestamp ∧ r.2 = s.value) read samples

/-- What a document says is what a dashboard shows, with an endpoint at a time. -/
structure Shows (s : Snapshot) (d : Dashboard) (endpoint : Option String) (time : Timestamp) :
    Prop where
  clusters : s.clusters = d.clusters
  endpoint : s.endpoint = endpoint
  exportedAt : Timestamp.Denotes s.exportedAt time
  running : Lists s.running d.running.samples
  blocked : Lists s.blocked d.blocked.samples
  stats : s.stats = d.stats

end Snapshot

/-! ## Members -/

namespace Cluster

theorem sound_exported (c : Cluster) : c.exported.Sound := by
  refine Json.sound_record fun m listed => ?_
  simp only [List.mem_cons, List.not_mem_nil, or_false] at listed
  rcases listed with rfl | rfl | rfl | rfl | rfl
  · exact .bool _
  · exact .bool _
  · exact Json.sound_text _
  · exact Json.sound_text _
  · exact c.tags.sound_toJson

theorem ofJson?_exported (c : Cluster) : ofJson? c.exported = some c := by
  have fields : c.exported.fields? ["name", "host", "available", "enabled", "tags"] =
      some [some (.text c.name), some (.text c.host), some (.bool c.available),
        some (.bool c.enabled), some c.tags.toJson] :=
    Json.fields?_record_of_subset (by simp)
      [("name", .text c.name), ("host", .text c.host), ("available", .bool c.available),
        ("enabled", .bool c.enabled), ("tags", c.tags.toJson)] (by simp)
  simp [ofJson?, fields, Json.text?_text, Json.bool?, Tags.ofJson?_toJson]

theorem listOfJson?_exported (cs : List Cluster) :
    listOfJson? (.array (cs.map exported)) = some cs := by
  rw [listOfJson?, List.mapM_map, Json.mapM_eq_some_map (g := id), List.map_id]
  intro c _
  exact ofJson?_exported c

end Cluster

namespace Stats

theorem sound_exported (s : Stats) : s.exported.Sound := by
  refine Json.sound_record fun m listed => ?_
  simp only [List.mem_cons, List.not_mem_nil, or_false] at listed
  rcases listed with rfl | rfl | rfl | rfl <;> exact Json.sound_nat _

theorem ofJson?_exported (s : Stats) : ofJson? s.exported = some s := by
  have fields : s.exported.fields?
      ["total_workers", "running_queries", "blocked_queries", "queued_queries"] =
      some [some (.nat s.totalWorkers.toNat), some (.nat s.runningQueries.toNat),
        some (.nat s.blockedQueries.toNat), some (.nat s.queuedQueries.toNat)] :=
    Json.fields?_record_of_subset (by simp)
      [("total_workers", .nat s.totalWorkers.toNat),
        ("running_queries", .nat s.runningQueries.toNat),
        ("blocked_queries", .nat s.blockedQueries.toNat),
        ("queued_queries", .nat s.queuedQueries.toNat)] (by simp)
  simp [ofJson?, fields, Json.count?_nat]

end Stats

/-! ## Series -/

/-- A sample that counts leave: a whole number, and a fraction of a second or of the leap second
behind it. -/
structure Sample.IsCount (s : Sample) : Prop where
  value : ∃ n < 2 ^ 53, s.value = Binary64.whole n
  time : s.timestamp.nanos < 2 * Timestamp.nanosPerSecond

namespace Sample.IsCount

variable {s : Sample} (count : s.IsCount)
include count

theorem sound_exported : s.exported.Sound := by
  obtain ⟨n, small, value⟩ := count.value
  refine Json.sound_record fun m listed => ?_
  simp only [List.mem_cons, List.not_mem_nil, or_false] at listed
  rcases listed with rfl | rfl
  · exact Json.sound_text _
  · exact value ▸ Json.sound_float_whole small

theorem ofJson?_exported : ofJson? s.exported = some (s.timestamp.rfc3339 "Z", s.value) := by
  obtain ⟨n, small, value⟩ := count.value
  have fields : s.exported.fields? ["timestamp", "value"] =
      some [some (.text (s.timestamp.rfc3339 "Z")), some (.float s.value)] :=
    Json.fields?_record (by simp)
  have read : (Json.float s.value).float? = some s.value := value ▸ Json.float?_float_whole small
  simp [ofJson?, fields, Json.text?_text, read]

end Sample.IsCount

namespace Series

variable {s : Series} (counts : ∀ x ∈ s.samples, x.IsCount)
include counts

theorem sound_exported : s.exported.Sound := by
  refine .array fun v listed => ?_
  obtain ⟨x, kept, rfl⟩ := List.mem_map.mp listed
  exact (counts x kept).sound_exported

theorem ofJson?_exported :
    ∃ read, ofJson? s.exported = some read ∧ Snapshot.Lists read s.samples := by
  refine ⟨s.samples.map fun x => (x.timestamp.rfc3339 "Z", x.value), ?_, ?_⟩
  · rw [exported, ofJson?, List.mapM_map]
    exact Json.mapM_eq_some_map fun x kept => (counts x kept).ofJson?_exported
  · rw [Snapshot.Lists, List.forall₂_map_left_iff, List.forall₂_same]
    exact fun x kept => ⟨Timestamp.denotes_rfc3339 (counts x kept).time (.inl rfl), rfl⟩

end Series

/-! ## Documents -/

theorem Json.textOrNull?_orNull (value : Option String) :
    (Json.orNull (value.map .text)).textOrNull? = some value := by
  cases value with
  | none => rfl
  | some s =>
      have read := Json.text?_text s
      exact congrArg (Option.map some) read

namespace Dashboard

theorem isCount_of_after {history : History} {d : Dashboard} (after : After history d)
    (times : ∀ arrival ∈ history, arrival.2.time.nanos < 2 * Timestamp.nanosPerSecond) :
    (∀ x ∈ d.running.samples, x.IsCount) ∧ ∀ x ∈ d.blocked.samples, x.IsCount := by
  have count (of : Stats → UInt32) (x : Sample)
      (kept : x ∈ ((countsIn history).map (sampleOf of)).rtake 10) : x.IsCount := by
    obtain ⟨⟨counts, now⟩, arrived, rfl⟩ := List.mem_map.mp (List.mem_of_mem_drop kept)
    obtain ⟨event, -, taken⟩ := mem_arrivalsIn.mp arrived
    exact ⟨⟨_, Nat.lt_trans (of counts).toNat_lt (by decide), rfl⟩, times _ taken⟩
  obtain ⟨updating, rfl⟩ := eq_replay_of_after after
  constructor
  · intro x kept
    exact count Stats.runningQueries x (samples_running_replay history ▸ kept)
  · intro x kept
    exact count Stats.blockedQueries x (samples_blocked_replay history ▸ kept)

theorem sound_exported {d : Dashboard} (running : ∀ x ∈ d.running.samples, x.IsCount)
    (blocked : ∀ x ∈ d.blocked.samples, x.IsCount) (endpoint : Option String) (time : Timestamp) :
    (d.exported endpoint time).Sound := by
  refine Json.sound_record fun m listed => ?_
  simp only [List.mem_cons, List.not_mem_nil, or_false] at listed
  rcases listed with rfl | rfl | rfl | rfl | rfl
  · refine .array fun v listed => ?_
    obtain ⟨c, -, rfl⟩ := List.mem_map.mp listed
    exact c.sound_exported
  · cases endpoint with
    | none => exact .null
    | some s => exact Json.sound_text s
  · exact Json.sound_text _
  · refine Json.sound_record fun m listed => ?_
    simp only [List.mem_cons, List.not_mem_nil, or_false] at listed
    rcases listed with rfl | rfl
    · exact Series.sound_exported blocked
    · exact Series.sound_exported running
  · exact d.stats.sound_exported

theorem ofJson?_exported {d : Dashboard} (running : ∀ x ∈ d.running.samples, x.IsCount)
    (blocked : ∀ x ∈ d.blocked.samples, x.IsCount) (endpoint : Option String) {time : Timestamp}
    (fraction : time.nanos < 2 * Timestamp.nanosPerSecond) :
    ∃ snapshot, Snapshot.ofJson? (d.exported endpoint time) = some snapshot ∧
      snapshot.Shows d endpoint time := by
  obtain ⟨runs, readRuns, showsRuns⟩ := Series.ofJson?_exported running
  obtain ⟨blocks, readBlocks, showsBlocks⟩ := Series.ofJson?_exported blocked
  let series : List (String × Json) :=
    [("blocked_queries", d.blocked.exported), ("running_queries", d.running.exported)]
  have members : (d.exported endpoint time).fields?
      ["clusters", "endpoint", "exported_at", "series", "stats"] =
      some [some (.array (d.clusters.map Cluster.exported)), some (.orNull (endpoint.map .text)),
        some (.text (time.rfc3339 "+00:00")), some (Json.record series), some d.stats.exported] :=
    Json.fields?_record (by simp)
  have inner : (Json.record series).fields? ["running_queries", "blocked_queries"] =
      some [some d.running.exported, some d.blocked.exported] :=
    Json.fields?_record_of_subset (by simp [series])
      [("running_queries", d.running.exported), ("blocked_queries", d.blocked.exported)]
      (by simp [series])
  refine ⟨⟨d.clusters, endpoint, time.rfc3339 "+00:00", runs, blocks, d.stats⟩, ?_,
    rfl, rfl, Timestamp.denotes_rfc3339 fraction (.inr rfl), showsRuns, showsBlocks, rfl⟩
  simp [Snapshot.ofJson?, members, inner, Cluster.listOfJson?_exported, Json.textOrNull?_orNull,
    Json.text?_text, readRuns, readBlocks, Stats.ofJson?_exported]

/-- What is written of a dashboard whose samples are counts can be read back. -/
theorem read_exportDocument {d : Dashboard} (running : ∀ x ∈ d.running.samples, x.IsCount)
    (blocked : ∀ x ∈ d.blocked.samples, x.IsCount) (endpoint : Option String) {time : Timestamp}
    (fraction : time.nanos < 2 * Timestamp.nanosPerSecond) :
    ∃ members : List (String × Json), ∃ snapshot : Snapshot,
      Json.read? (d.exportDocument endpoint time) = some (Json.record members) ∧
      members.map Prod.fst = ["clusters", "endpoint", "exported_at", "series", "stats"] ∧
      Snapshot.ofJson? (Json.record members) = some snapshot ∧
      snapshot.Shows d endpoint time := by
  obtain ⟨snapshot, read, shown⟩ := ofJson?_exported running blocked endpoint fraction
  exact ⟨_, snapshot, Json.read?_pretty (sound_exported running blocked endpoint time), rfl, read,
    shown⟩

/-- The document of a dashboard, whatever led to it, is one object of five members, and it says what
the dashboard shows. -/
theorem exportDocument_shows_dashboard {history : History} {d : Dashboard} (after : After history d)
    (times : ∀ arrival ∈ history, arrival.2.time.nanos < 2 * Timestamp.nanosPerSecond)
    (endpoint : Option String) {time : Timestamp}
    (fraction : time.nanos < 2 * Timestamp.nanosPerSecond) :
    ∃ members : List (String × Json), ∃ snapshot : Snapshot,
      Json.read? (d.exportDocument endpoint time) = some (Json.record members) ∧
      members.map Prod.fst = ["clusters", "endpoint", "exported_at", "series", "stats"] ∧
      Snapshot.ofJson? (Json.record members) = some snapshot ∧
      snapshot.Shows d endpoint time := by
  obtain ⟨running, blocked⟩ := isCount_of_after after times
  exact read_exportDocument running blocked endpoint fraction

/-- A refresh at the end of the year 2016, inside its leap second. -/
theorem exportDocument_shows_leap_second :
    let now : Moment := ⟨⟨1483228799, 1500000000⟩, 0⟩
    let history : History := [(.stats (.ok ⟨4, 3, 2, 1⟩), now)]
    let d := empty.replay history
    After history d ∧ d.running.samples = [⟨now.time, Binary64.whole 3⟩] ∧
      now.time.rfc3339 "Z" = "2016-12-31T23:59:60.500Z" ∧
      ∃ members : List (String × Json), ∃ snapshot : Snapshot,
        Json.read? (d.exportDocument none now.time) = some (Json.record members) ∧
        members.map Prod.fst = ["clusters", "endpoint", "exported_at", "series", "stats"] ∧
        Snapshot.ofJson? (Json.record members) = some snapshot ∧
        snapshot.Shows d none now.time := by
  intro now history d
  have after : After history d := after_replay .empty history
  have times : ∀ arrival ∈ history, arrival.2.time.nanos < 2 * Timestamp.nanosPerSecond := by
    simp [history, now, Timestamp.nanosPerSecond]
  have fraction : now.time.nanos < 2 * Timestamp.nanosPerSecond := by decide
  refine ⟨after, samples_running_replay history, by decide +kernel, ?_⟩
  exact exportDocument_shows_dashboard after times none fraction

end Dashboard

end FleetWatch
