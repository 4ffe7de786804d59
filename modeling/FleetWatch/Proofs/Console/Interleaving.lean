import FleetWatch.Proofs.Console.Following
import FleetWatch.Proofs.Interleaving

/-! # Results that come in any order

Counts, lists of clusters and ends of commands come about side by side, and how they are interleaved
when they are taken in is left to chance. Each of them changes a part of the dashboard of its own.
The selected row depends on the lists alone: every event brings it back into the visible rows, but
where no list came it was among them before. So all but the notice is the same in the end.
-/

namespace FleetWatch

/-- What an event is about. -/
inductive FeedEvent.Kind where
  | stats
  | clusters
  | settled
  deriving Repr, DecidableEq

/-- What an event is about, whether it went well or not. -/
def FeedEvent.kind : FeedEvent → FeedEvent.Kind
  | .stats _ => .stats
  | .clusters _ => .clusters
  | .settled .. => .settled

theorem FeedEvent.fleet?_eq_none {event : FeedEvent} (other : event.kind ≠ .clusters) :
    event.fleet? = none := by
  cases event with
  | stats | settled => rfl
  | clusters => exact absurd rfl other

/-- Events of different kinds leave the same dashboard in either order. -/
theorem Dashboard.apply_comm (d : Dashboard) {first second : FeedEvent}
    (differ : first.kind ≠ second.kind) (now : Moment) :
    ((d.apply first now).1.apply second now).1 = ((d.apply second now).1.apply first now).1 := by
  cases first with
  | stats result =>
      cases second with
      | stats => exact absurd rfl differ
      | clusters result' => cases result <;> cases result' <;> rfl
      | settled => cases result <;> rfl
  | clusters result =>
      cases second with
      | stats result' => cases result <;> cases result' <;> rfl
      | clusters => exact absurd rfl differ
      | settled => cases result <;> rfl
  | settled =>
      cases second with
      | stats result => cases result <;> rfl
      | clusters result => cases result <;> rfl
      | settled => exact absurd rfl differ

namespace Console

/-- A console whose notice is not looked at. -/
def silent (c : Console) : Console := { c with posted := none }

theorem eq_of_silent_eq {c c' : Console} (same : c.silent = c'.silent) :
    c' = { c with posted := c'.posted } := by
  cases c
  cases c'
  simp only [silent, mk.injEq] at same ⊢
  simp [same]

/-! ## The selected row after an event -/

/-- The row selected among new rows: that of a name if it is to be followed and found, else the one
selected before, brought back into the rows. -/
def landing (rows : List Cluster) (name? : Option String) (selected : Nat) : Nat :=
  min ((name?.bind fun name => rows.findIdx? (·.name = name)).getD selected) (rows.length - 1)

theorem clamp_follow (c : Console) (name : String) :
    (c.follow name).clamp = { c with selected := landing c.visible (some name) c.selected } := by
  rw [follow, landing, Option.bind_some]
  cases c.visible.findIdx? (·.name = name) <;> rfl

/-- All that an event does, up to the notice. -/
theorem take_eq_landing (c : Console) (event : FeedEvent) (now : Moment) :
    ∃ posted, c.take event now =
      { c with
        dashboard := (c.dashboard.apply event now).1
        selected := landing
          ((c.dashboard.apply event now).1.clusters.filter (matchesFilter c.filter))
          (event.fleet?.bind fun _ => c.selectedName?) c.selected
        posted := posted } := by
  cases event with
  | stats result => cases result <;> exact ⟨_, rfl⟩
  | settled => exact ⟨_, rfl⟩
  | clusters result =>
      cases result with
      | error => exact ⟨_, rfl⟩
      | ok fleet =>
          refine ⟨c.posted, ?_⟩
          cases selects : c.selectedName? with
          | some name => exact (take_fleet selects fleet now).trans (clamp_follow _ name)
          | none =>
              unfold selectedName? at selects
              simp only [take, selects]
              rfl

/-! ## Two events, and any number of them -/

theorem take_comm_of_other {c : Console} (inside : InRange c) {first second : FeedEvent}
    (differ : first.kind ≠ second.kind) (other : first.fleet? = none) (now : Moment) :
    ((c.take first now).take second now).silent = ((c.take second now).take first now).silent := by
  obtain ⟨posted, taken⟩ := take_eq_of_other inside other now
  obtain ⟨posted', taken'⟩ := take_eq_landing c second now
  obtain ⟨late, takenLate⟩ := take_eq_landing (c.take first now) second now
  obtain ⟨late', takenLate'⟩ := take_eq_of_other (inRange_kept.take inside second now) other now
  have whole := c.dashboard.apply_comm differ now
  have listed := Dashboard.clusters_apply_of_fleet?_eq_none c.dashboard other now
  have listed' :=
    Dashboard.clusters_apply_of_fleet?_eq_none (c.dashboard.apply second now).1 other now
  have name : (c.take first now).selectedName? = c.selectedName? := by
    rw [taken, selectedName?, selected?, visible, listed]
    rfl
  rw [takenLate, takenLate', name, taken, taken']
  simp only [silent, whole, listed']

theorem take_independent (now : Moment) :
    Independent FeedEvent.kind (fun c event => take c event now) InRange silent where
  keeps event inside := inRange_kept.take inside event now
  seen_take {c c'} event same := by
    rw [eq_of_silent_eq same]
    obtain ⟨posted, taken⟩ := take_eq_landing c event now
    obtain ⟨posted', taken'⟩ := take_eq_landing { c with posted := c'.posted } event now
    rw [taken, taken']
    rfl
  comm {c first second} inside differ := by
    by_cases list : first.kind = .clusters
    · have other : second.fleet? = none := FeedEvent.fleet?_eq_none (list ▸ differ.symm)
      exact (take_comm_of_other inside differ.symm other now).symm
    · exact take_comm_of_other inside differ (FeedEvent.fleet?_eq_none list) now

theorem reload_eq_foldl (c : Console) (events : List FeedEvent) (now : Moment) :
    c.reload events now = events.foldl (fun c event => take c event now) c :=
  List.foldl_map

/-- Wherever a run gets to, it makes no difference how the counts, the lists of clusters and the
ends of commands that wait are interleaved: the same dashboard is shown, the same rows and the same
one of them selected, and nothing else but the notice may differ. -/
theorem reachable_reload_interleaved {c : Console} (h : Reachable c)
    {events events' : List FeedEvent} (same : Interleaved FeedEvent.kind events events')
    (now : Moment) :
    (c.reload events now).dashboard = (c.reload events' now).dashboard ∧
      (c.reload events now).selected = (c.reload events' now).selected ∧
      (c.reload events now).visible = (c.reload events' now).visible ∧
      ∃ posted, c.reload events' now = { c.reload events now with posted := posted } := by
  have seen : (c.reload events now).silent = (c.reload events' now).silent := by
    rw [reload_eq_foldl, reload_eq_foldl]
    exact (take_independent now).foldl_eq (inRange_kept.reachable h) same
  have alike := eq_of_silent_eq seen
  rw [alike]
  exact ⟨rfl, rfl, rfl, _, rfl⟩

/-- Two lists, two fetches of counts and the end of a command, with the lists in front. -/
def listsFirst : List FeedEvent :=
  [.clusters (.ok [clusterNamed "c", clusterNamed "b"]), .clusters (.ok [clusterNamed "a"]),
    .stats (.ok default), .stats (.error .timeout), .settled .discover (.ok ())]

/-- The same with the lists behind. -/
def listsLast : List FeedEvent :=
  [.settled .discover (.ok ()), .stats (.ok default), .stats (.error .timeout),
    .clusters (.ok [clusterNamed "c", clusterNamed "b"]), .clusters (.ok [clusterNamed "a"])]

theorem loneCluster_reload_either_way :
    Reachable loneCluster ∧ Interleaved FeedEvent.kind listsFirst listsLast ∧
      (loneCluster.reload listsFirst default).dashboard =
        (loneCluster.reload listsLast default).dashboard ∧
      (loneCluster.reload listsFirst default).selected =
        (loneCluster.reload listsLast default).selected ∧
      (loneCluster.reload listsFirst default).visible =
        (loneCluster.reload listsLast default).visible := by
  have reached : Reachable loneCluster := .step (.start _) (.reload _ _)
  have same : Interleaved FeedEvent.kind listsFirst listsLast := by
    intro kind
    cases kind <;> rfl
  obtain ⟨dashboard, selected, visible, -⟩ := reachable_reload_interleaved reached same default
  exact ⟨reached, same, dashboard, selected, visible⟩

end Console

end FleetWatch
