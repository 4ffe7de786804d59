import FleetWatch.Dashboard
import FleetWatch.Proofs.Binary64.Whole
import FleetWatch.Proofs.Series.Window

/-! # A dashboard and its history

What a dashboard shows is a projection of all that it ever took in. Of the counts and of the lists
that arrived only the last one is shown, a series shows the last ten counts, and calls that failed
leave no trace at all. Each event carries this on to a history that is one event longer, so it
holds after any number of them.
-/

namespace FleetWatch

def FeedEvent.counts? : FeedEvent → Option Stats
  | .stats (.ok counts) => some counts
  | _ => none

def FeedEvent.fleet? : FeedEvent → Option (List Cluster)
  | .clusters (.ok fleet) => some fleet
  | _ => none

def FeedEvent.isSettled : FeedEvent → Bool
  | .settled .. => true
  | _ => false

theorem FeedEvent.counts?_eq_some {event : FeedEvent} {counts : Stats} :
    event.counts? = some counts ↔ event = .stats (.ok counts) := by
  cases event with
  | stats result => cases result <;> simp [FeedEvent.counts?]
  | clusters => simp [FeedEvent.counts?]
  | settled => simp [FeedEvent.counts?]

theorem FeedEvent.fleet?_eq_some {event : FeedEvent} {fleet : List Cluster} :
    event.fleet? = some fleet ↔ event = .clusters (.ok fleet) := by
  cases event with
  | stats => simp [FeedEvent.fleet?]
  | clusters result => cases result <;> simp [FeedEvent.fleet?]
  | settled => simp [FeedEvent.fleet?]

namespace Dashboard

/-- Events in the order in which they are taken in, with the clocks as they are read then. -/
abbrev History := List (FeedEvent × Moment)

/-- All that events brought of one kind. -/
def arrivalsIn {α : Type} (brings? : FeedEvent → Option α) (history : History) :
    List (α × Moment) :=
  history.filterMap fun (event, now) => (brings? event).map fun brought => (brought, now)

abbrev countsIn (history : History) : List (Stats × Moment) := arrivalsIn FeedEvent.counts? history

abbrev fleetsIn (history : History) : List (List Cluster × Moment) :=
  arrivalsIn FeedEvent.fleet? history

/-- The sample that arriving counts leave in the series of one of them: the count itself. -/
def sampleOf (count : Stats → UInt32) (arrival : Stats × Moment) : Sample :=
  ⟨arrival.2.time, .whole (count arrival.1).toNat⟩

/-- Takes in a history from its beginning to its end. -/
def replay (d : Dashboard) (history : History) : Dashboard :=
  history.foldl (fun d (event, now) => (d.apply event now).1) d

theorem replay_append (d : Dashboard) (history later : History) :
    d.replay (history ++ later) = (d.replay history).replay later := List.foldl_append

/-- What a dashboard has become by a history, field by field. -/
structure Reflects (before : Dashboard) (history : History) (after : Dashboard) : Prop where
  stats : after.stats = ((countsIn history).getLast?.map Prod.fst).getD before.stats
  running : after.running =
    before.running.pushAll ((countsIn history).map (sampleOf Stats.runningQueries))
  blocked : after.blocked =
    before.blocked.pushAll ((countsIn history).map (sampleOf Stats.blockedQueries))
  clusters : after.clusters =
    ((fleetsIn history).getLast?.map fun fleet => Cluster.sort fleet.1).getD before.clusters
  isUpdating : after.isUpdating =
    (before.isUpdating && !history.any fun arrival => arrival.1.isSettled)
  statsUpdated : after.statsUpdated =
    ((countsIn history).getLast?.map fun arrival => arrival.2.steady).or before.statsUpdated
  clustersUpdated : after.clustersUpdated =
    ((fleetsIn history).getLast?.map fun arrival => arrival.2.steady).or before.clustersUpdated

/-- Counts have 32 bits and are not rounded. -/
theorem countSample_eq (time : Timestamp) (count : UInt32) :
    countSample time count = ⟨time, .whole count.toNat⟩ := by
  have small : count.toNat < 2 ^ 53 := Nat.lt_trans count.toNat_lt (by decide)
  rw [countSample, Binary64.ofNat_eq_whole small]

section

variable {α : Type} {brings? : FeedEvent → Option α} {history : History} {event : FeedEvent}

theorem arrivalsIn_snoc_some {brought : α} (h : brings? event = some brought) (now : Moment) :
    arrivalsIn brings? (history ++ [(event, now)]) =
      arrivalsIn brings? history ++ [(brought, now)] := by
  simp [arrivalsIn, h]

theorem arrivalsIn_snoc_none (h : brings? event = none) (now : Moment) :
    arrivalsIn brings? (history ++ [(event, now)]) = arrivalsIn brings? history := by
  simp [arrivalsIn, h]

theorem mem_arrivalsIn {brought : α} {now : Moment} :
    (brought, now) ∈ arrivalsIn brings? history ↔
      ∃ event, brings? event = some brought ∧ (event, now) ∈ history := by
  simp only [arrivalsIn, List.mem_filterMap, Option.map_eq_some_iff]
  constructor
  · rintro ⟨⟨event, clocks⟩, arrived, _, brings, same⟩
    cases same
    exact ⟨event, brings, arrived⟩
  · rintro ⟨event, brings, arrived⟩
    exact ⟨_, arrived, brought, brings, rfl⟩

theorem isSome_getLast?_arrivalsIn {β : Type} (f : α × Moment → β) :
    (((arrivalsIn brings? history).getLast?.map f).or none).isSome = true ↔
      ∃ brought now, ∃ event, brings? event = some brought ∧ (event, now) ∈ history := by
  simp [List.eq_nil_iff_forall_not_mem, ← mem_arrivalsIn]

end

theorem any_isSettled_snoc (history : History) (event : FeedEvent) (now : Moment) :
    ((history ++ [(event, now)]).any fun arrival => arrival.1.isSettled) =
      ((history.any fun arrival => arrival.1.isSettled) || event.isSettled) := by
  simp only [List.any_append, List.any_cons, List.any_nil, Bool.or_false]

theorem pushAll_snoc (s : Series) (xs : List Sample) (x : Sample) :
    s.pushAll (xs ++ [x]) = (s.pushAll xs).push x := List.foldl_append

theorem reflects_nil (d : Dashboard) : Reflects d [] d := by
  constructor <;> simp [arrivalsIn, Series.pushAll]

namespace Reflects

variable {d d' : Dashboard} {history : History}

/-- An event that brings nothing and ends nothing leaves everything as it is. -/
theorem keep (h : Reflects d history d') {event : FeedEvent} (now : Moment)
    (noCounts : event.counts? = none) (noFleet : event.fleet? = none)
    (ongoing : event.isSettled = false) : Reflects d (history ++ [(event, now)]) d' := by
  have counted : countsIn (history ++ [(event, now)]) = countsIn history :=
    arrivalsIn_snoc_none noCounts now
  have listed : fleetsIn (history ++ [(event, now)]) = fleetsIn history :=
    arrivalsIn_snoc_none noFleet now
  constructor
  case isUpdating => rw [any_isSettled_snoc, ongoing, Bool.or_false, h.isUpdating]
  all_goals simp only [counted, listed]
  · exact h.stats
  · exact h.running
  · exact h.blocked
  · exact h.clusters
  · exact h.statsUpdated
  · exact h.clustersUpdated

theorem recordStats (h : Reflects d history d') (counts : Stats) (now : Moment) :
    Reflects d (history ++ [(.stats (.ok counts), now)]) (d'.recordStats counts now) := by
  have counted : countsIn (history ++ [(.stats (.ok counts), now)]) =
      countsIn history ++ [(counts, now)] :=
    arrivalsIn_snoc_some (FeedEvent.counts?_eq_some.mpr rfl) now
  have listed : fleetsIn (history ++ [(.stats (.ok counts), now)]) = fleetsIn history :=
    arrivalsIn_snoc_none rfl now
  constructor
  case isUpdating =>
      have ongoing : FeedEvent.isSettled (.stats (.ok counts)) = false := rfl
      rw [any_isSettled_snoc, ongoing, Bool.or_false]
      exact h.isUpdating
  all_goals simp only [counted, listed, List.getLast?_concat, List.map_append, List.map_cons,
    List.map_nil, pushAll_snoc, ← h.running, ← h.blocked]
  · rfl
  · simp only [Dashboard.recordStats, countSample_eq, sampleOf]
  · simp only [Dashboard.recordStats, countSample_eq, sampleOf]
  · exact h.clusters
  · rfl
  · exact h.clustersUpdated

theorem recordClusters (h : Reflects d history d') (fleet : List Cluster) (now : Moment) :
    Reflects d (history ++ [(.clusters (.ok fleet), now)]) (d'.recordClusters fleet now) := by
  have counted : countsIn (history ++ [(.clusters (.ok fleet), now)]) = countsIn history :=
    arrivalsIn_snoc_none rfl now
  have listed : fleetsIn (history ++ [(.clusters (.ok fleet), now)]) =
      fleetsIn history ++ [(fleet, now)] :=
    arrivalsIn_snoc_some (FeedEvent.fleet?_eq_some.mpr rfl) now
  constructor
  case isUpdating =>
      have ongoing : FeedEvent.isSettled (.clusters (.ok fleet)) = false := rfl
      rw [any_isSettled_snoc, ongoing, Bool.or_false]
      exact h.isUpdating
  all_goals simp only [counted, listed, List.getLast?_concat]
  · exact h.stats
  · exact h.running
  · exact h.blocked
  · rfl
  · exact h.statsUpdated
  · rfl

theorem settle (h : Reflects d history d') (command : Command) (result : Except Fault Unit)
    (now : Moment) :
    Reflects d (history ++ [(.settled command result, now)]) { d' with isUpdating := false } := by
  have counted : countsIn (history ++ [(.settled command result, now)]) = countsIn history :=
    arrivalsIn_snoc_none rfl now
  have listed : fleetsIn (history ++ [(.settled command result, now)]) = fleetsIn history :=
    arrivalsIn_snoc_none rfl now
  constructor
  case isUpdating => simp [FeedEvent.isSettled]
  all_goals simp only [counted, listed]
  · exact h.stats
  · exact h.running
  · exact h.blocked
  · exact h.clusters
  · exact h.statsUpdated
  · exact h.clustersUpdated

theorem step (h : Reflects d history d') (event : FeedEvent) (now : Moment) :
    Reflects d (history ++ [(event, now)]) (d'.apply event now).1 := by
  cases event with
  | stats result =>
      cases result with
      | ok counts => exact h.recordStats counts now
      | error fault => exact h.keep now rfl rfl rfl
  | clusters result =>
      cases result with
      | ok fleet => exact h.recordClusters fleet now
      | error fault => exact h.keep now rfl rfl rfl
  | settled command result => exact h.settle command result now

end Reflects

theorem replay_reflects (d : Dashboard) (history : History) :
    Reflects d history (d.replay history) := by
  -- From the end: the series and the last writes grow there.
  induction history using List.reverseRecOn with
  | nil => exact reflects_nil d
  | append_singleton history arrival ih =>
      rw [replay_append]
      exact ih.step arrival.1 arrival.2

theorem hasData_replay (history : History) :
    (empty.replay history).hasData = true ↔
      (∃ counts now, (.stats (.ok counts), now) ∈ history) ∨
        ∃ fleet now, (.clusters (.ok fleet), now) ∈ history := by
  have reflected := replay_reflects empty history
  have counted : (empty.replay history).statsUpdated.isSome = true ↔
      ∃ counts now, (.stats (.ok counts), now) ∈ history := by
    rw [reflected.statsUpdated]
    exact isSome_getLast?_arrivalsIn _ |>.trans (by simp [FeedEvent.counts?_eq_some])
  have listed : (empty.replay history).clustersUpdated.isSome = true ↔
      ∃ fleet now, (.clusters (.ok fleet), now) ∈ history := by
    rw [reflected.clustersUpdated]
    exact isSome_getLast?_arrivalsIn _ |>.trans (by simp [FeedEvent.fleet?_eq_some])
  rw [hasData, Bool.or_eq_true, counted, listed]

theorem samples_running_replay (history : History) :
    (empty.replay history).running.samples =
      ((countsIn history).map (sampleOf Stats.runningQueries)).rtake 10 := by
  rw [(replay_reflects empty history).running]
  exact Series.samples_pushAll_withCapacity ..

theorem samples_blocked_replay (history : History) :
    (empty.replay history).blocked.samples =
      ((countsIn history).map (sampleOf Stats.blockedQueries)).rtake 10 := by
  rw [(replay_reflects empty history).blocked]
  exact Series.samples_pushAll_withCapacity ..

theorem timestamps_sampleOf (count : Stats → UInt32) (arrivals : List (Stats × Moment)) (n : Nat) :
    ((arrivals.map (sampleOf count)).rtake n).map Sample.timestamp =
      (arrivals.map fun arrival => arrival.2.time).rtake n := by
  simp only [List.rtake, List.map_drop, List.map_map, List.length_map]
  rfl

/-- From an empty dashboard on, everything shown is what the history says: the last counts, the last
ten counts of either series at the same times, the last list in order, and no trace of a failure. -/
theorem replay_empty_shows_history (history : History) :
    (empty.replay history).stats =
        ((countsIn history).getLast?.map Prod.fst).getD Stats.zero ∧
      (empty.replay history).running.samples =
        ((countsIn history).map (sampleOf Stats.runningQueries)).rtake 10 ∧
      (empty.replay history).blocked.samples =
        ((countsIn history).map (sampleOf Stats.blockedQueries)).rtake 10 ∧
      (empty.replay history).running.samples.length = min 10 (countsIn history).length ∧
      (empty.replay history).blocked.samples.length = min 10 (countsIn history).length ∧
      (empty.replay history).running.samples.map Sample.timestamp =
        (empty.replay history).blocked.samples.map Sample.timestamp ∧
      (empty.replay history).clusters =
        ((fleetsIn history).getLast?.map fun fleet => Cluster.sort fleet.1).getD [] ∧
      ((empty.replay history).hasData = true ↔
        (∃ counts now, (.stats (.ok counts), now) ∈ history) ∨
          ∃ fleet now, (.clusters (.ok fleet), now) ∈ history) ∧
      ∀ (d : Dashboard) (fault : Fault) (now : Moment),
        (d.apply (.stats (.error fault)) now).1 = d ∧
          (d.apply (.clusters (.error fault)) now).1 = d := by
  have reflected := replay_reflects empty history
  have running := samples_running_replay history
  have blocked := samples_blocked_replay history
  refine ⟨reflected.stats, running, blocked, ?_, ?_, ?_, reflected.clusters,
    hasData_replay history, fun d fault now => ⟨rfl, rfl⟩⟩
  · rw [running, Series.length_rtake, List.length_map]
  · rw [blocked, Series.length_rtake, List.length_map]
  · rw [running, blocked, timestamps_sampleOf, timestamps_sampleOf]

end Dashboard

end FleetWatch
