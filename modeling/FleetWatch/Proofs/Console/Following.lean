import FleetWatch.Proofs.Console.Selection

/-! # The selection follows a name

When a new list of clusters comes, the row is looked up again by the name of the cluster that was
selected, in the new order and under the filter. What is looked up is found whenever some cluster of
the new list has the name and gets through the filter; otherwise the row stays as far down as the
rows allow. No other event moves it, since none changes the rows, and so what holds of one event
holds of all that wait.
-/

namespace FleetWatch

theorem Dashboard.clusters_apply_of_fleet?_eq_none (d : Dashboard) {event : FeedEvent}
    (other : event.fleet? = none) (now : Moment) :
    (d.apply event now).1.clusters = d.clusters := by
  cases event with
  | stats result => cases result <;> rfl
  | clusters result =>
      cases result with
      | error => rfl
      | ok fleet => simp [FeedEvent.fleet?] at other
  | settled => rfl

namespace Console

def selectedName? (c : Console) : Option String := c.selected?.map Cluster.name

theorem selectedName?_eq_some {c : Console} {name : String} :
    c.selectedName? = some name ↔ ∃ x, c.visible[c.selected]? = some x ∧ x.name = name := by
  simp [selectedName?, selected?]

theorem inRange_of_selectedName? {c : Console} {name : String}
    (selects : c.selectedName? = some name) : InRange c := by
  obtain ⟨x, shown, -⟩ := selectedName?_eq_some.mp selects
  exact .inl (List.getElem?_eq_some_iff.mp shown).1

theorem clamp_eq_self {c : Console} (inside : InRange c) : c.clamp = c := by
  rw [clamp, Nat.min_eq_left (inRange_iff.mp inside)]

theorem follow_selectedName? {c : Console} {name : String}
    (there : ∃ x ∈ c.visible, x.name = name) : (c.follow name).selectedName? = some name := by
  unfold follow
  cases found : c.visible.findIdx? (·.name = name) with
  | none =>
      obtain ⟨x, shown, named⟩ := there
      simpa [named] using List.findIdx?_eq_none_iff.mp found x shown
  | some row =>
      obtain ⟨inside, named, -⟩ := List.findIdx?_eq_some_iff_getElem.mp found
      rw [selectedName?_eq_some]
      exact ⟨c.visible[row], List.getElem?_eq_getElem inside, of_decide_eq_true named⟩

theorem follow_eq_self {c : Console} {name : String} (gone : ∀ x ∈ c.visible, x.name ≠ name) :
    c.follow name = c := by
  have missing : c.visible.findIdx? (·.name = name) = none :=
    List.findIdx?_eq_none_iff.mpr fun x shown => decide_eq_false (gone x shown)
  rw [follow, missing]

/-! ## One event -/

theorem take_filter (c : Console) (event : FeedEvent) (now : Moment) :
    (c.take event now).filter = c.filter := by
  obtain ⟨selected, posted, taken⟩ := take_eq_clamp c event now
  rw [taken]
  rfl

/-- Taking in a list, while a cluster is selected, looks its name up among the new rows. -/
theorem take_fleet {c : Console} {name : String} (selects : c.selectedName? = some name)
    (fleet : List Cluster) (now : Moment) :
    c.take (.clusters (.ok fleet)) now =
      (({ c with
        dashboard := c.dashboard.recordClusters fleet now } : Console).follow name).clamp := by
  unfold selectedName? at selects
  simp only [take, selects]
  rfl

theorem mem_visible_recordClusters {c : Console} {fleet : List Cluster} {now : Moment}
    {x : Cluster} :
    x ∈ ({ c with dashboard := c.dashboard.recordClusters fleet now } : Console).visible ↔
      x ∈ fleet ∧ matchesFilter c.filter x = true := by
  rw [visible, List.mem_filter]
  exact and_congr_left fun _ => (List.mergeSort_perm fleet _).mem_iff

theorem take_fleet_selectedName? {c : Console} {name : String}
    (selects : c.selectedName? = some name) {fleet : List Cluster}
    (there : ∃ x ∈ fleet, x.name = name ∧ matchesFilter c.filter x = true) (now : Moment) :
    (c.take (.clusters (.ok fleet)) now).selectedName? = some name := by
  obtain ⟨x, listed, named, passes⟩ := there
  have followed := follow_selectedName? (c :=
    { c with dashboard := c.dashboard.recordClusters fleet now })
    ⟨x, mem_visible_recordClusters.mpr ⟨listed, passes⟩, named⟩
  rw [take_fleet selects, clamp_eq_self (inRange_of_selectedName? followed)]
  exact followed

theorem take_fleet_selected {c : Console} {name : String} (selects : c.selectedName? = some name)
    {fleet : List Cluster}
    (gone : ∀ x ∈ fleet, matchesFilter c.filter x = true → x.name ≠ name) (now : Moment) :
    (c.take (.clusters (.ok fleet)) now).selected =
      min c.selected ((c.take (.clusters (.ok fleet)) now).visible.length - 1) := by
  rw [take_fleet selects, follow_eq_self]
  · rfl
  · intro x shown
    obtain ⟨listed, passes⟩ := mem_visible_recordClusters.mp shown
    exact gone x listed passes

theorem take_eq_of_other {c : Console} (inside : InRange c) {event : FeedEvent}
    (other : event.fleet? = none) (now : Moment) :
    ∃ posted, c.take event now =
      { c with dashboard := (c.dashboard.apply event now).1, posted := posted } := by
  have unmoved : ∃ posted, c.take event now =
      ({ c with
        dashboard := (c.dashboard.apply event now).1, posted := posted } : Console).clamp := by
    unfold take
    cases event with
    | stats result => cases result <;> exact ⟨_, rfl⟩
    | clusters result =>
        cases result with
        | error => exact ⟨_, rfl⟩
        | ok fleet => simp [FeedEvent.fleet?] at other
    | settled => exact ⟨_, rfl⟩
  obtain ⟨posted, taken⟩ := unmoved
  have kept : InRange { c with
      dashboard := (c.dashboard.apply event now).1, posted := posted } := by
    rw [inRange_iff, visible, Dashboard.clusters_apply_of_fleet?_eq_none _ other]
    exact inRange_iff.mp inside
  exact ⟨posted, taken.trans (clamp_eq_self kept)⟩

theorem take_other {c : Console} (inside : InRange c) {event : FeedEvent}
    (other : event.fleet? = none) (now : Moment) :
    (c.take event now).visible = c.visible ∧ (c.take event now).selected = c.selected := by
  obtain ⟨posted, taken⟩ := take_eq_of_other inside other now
  rw [taken, visible, Dashboard.clusters_apply_of_fleet?_eq_none _ other]
  exact ⟨rfl, rfl⟩

theorem take_selectedName? {c : Console} {name : String} (selects : c.selectedName? = some name)
    (event : FeedEvent) (now : Moment)
    (there : ∀ fleet, event.fleet? = some fleet →
      ∃ x ∈ fleet, x.name = name ∧ matchesFilter c.filter x = true) :
    (c.take event now).selectedName? = some name := by
  cases brought : event.fleet? with
  | none =>
      obtain ⟨rows, row⟩ := take_other (inRange_of_selectedName? selects) brought now
      rwa [selectedName?, selected?, rows, row]
  | some fleet =>
      obtain rfl := FeedEvent.fleet?_eq_some.mp brought
      exact take_fleet_selectedName? selects (there fleet brought) now

/-! ## All that wait -/

theorem drain_selectedName? {c : Console} {name : String} (selects : c.selectedName? = some name)
    (arrivals : Dashboard.History)
    (there : ∀ fleet now, (.clusters (.ok fleet), now) ∈ arrivals →
      ∃ x ∈ fleet, x.name = name ∧ matchesFilter c.filter x = true) :
    (c.drain arrivals).selectedName? = some name := by
  induction arrivals generalizing c with
  | nil => exact selects
  | cons arrival arrivals ih =>
      obtain ⟨event, now⟩ := arrival
      have first : (c.take event now).selectedName? = some name := by
        refine take_selectedName? selects event now ?_
        intro fleet brought
        obtain rfl := FeedEvent.fleet?_eq_some.mp brought
        exact there fleet now List.mem_cons_self
      refine ih first ?_
      intro fleet later arrives
      rw [take_filter]
      exact there fleet later (List.mem_cons_of_mem _ arrives)

theorem drain_selected {c : Console} (inside : InRange c) (arrivals : Dashboard.History)
    (others : ∀ arrival ∈ arrivals, arrival.1.fleet? = none) :
    (c.drain arrivals).selected = c.selected := by
  induction arrivals generalizing c with
  | nil => rfl
  | cons arrival arrivals ih =>
      have first := (take_other inside (others arrival List.mem_cons_self) arrival.2).2
      have rest := ih (inRange_kept.take inside arrival.1 arrival.2)
        fun later waits => others later (List.mem_cons_of_mem _ waits)
      exact rest.trans first

/-- Wherever a run gets to, taking in what waits leaves the same name selected as long as every list
among it has a cluster of that name that gets through the filter. A list without one leaves the row
as it is or, where there are fewer rows, the last one; and what is no list moves nothing. -/
theorem reachable_selection_follows {c : Console} (h : Reachable c) :
    (∀ name, c.selectedName? = some name →
      (∀ arrivals : Dashboard.History,
        (∀ fleet now, (.clusters (.ok fleet), now) ∈ arrivals →
          ∃ x ∈ fleet, x.name = name ∧ matchesFilter c.filter x = true) →
        (c.drain arrivals).selectedName? = some name) ∧
      ∀ fleet now, (∀ x ∈ fleet, matchesFilter c.filter x = true → x.name ≠ name) →
        (c.drain [(.clusters (.ok fleet), now)]).selected =
            min c.selected ((c.drain [(.clusters (.ok fleet), now)]).visible.length - 1) ∧
          ((c.drain [(.clusters (.ok fleet), now)]).visible = [] →
            (c.drain [(.clusters (.ok fleet), now)]).selected = 0)) ∧
    ∀ arrivals : Dashboard.History, (∀ arrival ∈ arrivals, arrival.1.fleet? = none) →
      (c.drain arrivals).selected = c.selected := by
  refine ⟨fun name selects => ⟨drain_selectedName? selects, fun fleet now gone => ?_⟩,
    drain_selected (inRange_kept.reachable h)⟩
  have row := take_fleet_selected selects gone now
  refine ⟨row, fun none => ?_⟩
  change (c.take (.clusters (.ok fleet)) now).visible = [] at none
  rw [none] at row
  exact row.trans (Nat.min_zero _)

def clusterNamed (name : String) : Cluster := { (default : Cluster) with name := name }

/-- One cluster arrived, and is selected. -/
def loneCluster : Console := (start default).drain [(.clusters (.ok [clusterNamed "b"]), default)]

/-- It is still selected when others have come before and behind it and a fetch has failed; without
it the first row of two is selected, and counts move nothing. -/
theorem loneCluster_selection_follows :
    Reachable loneCluster ∧ loneCluster.selectedName? = some "b" ∧
      (loneCluster.drain
        [(.clusters (.ok [clusterNamed "c", clusterNamed "b", clusterNamed "a"]), default),
          (.clusters (.error .timeout), default), (.stats (.ok default), default),
          (.clusters (.ok [clusterNamed "b", clusterNamed "a", clusterNamed "b"]), default)]
        ).selectedName? = some "b" ∧
      (loneCluster.drain
        [(.clusters (.ok [clusterNamed "a", clusterNamed "c"]), default)]).selected = 0 ∧
      (loneCluster.drain [(.stats (.ok default), default)]).selected = loneCluster.selected := by
  have reached : Reachable loneCluster := .step (.start _) (.reload _ _)
  have sorted : Cluster.sort [clusterNamed "b"] = [clusterNamed "b"] := List.mergeSort_singleton _
  have shown : loneCluster.visible = [clusterNamed "b"] :=
    (List.filter_eq_self.mpr fun _ _ => rfl).trans sorted
  have first : loneCluster.selected = 0 := by
    rw [← Nat.le_zero]
    simpa [shown] using inRange_iff.mp (inRange_kept.reachable reached)
  have selects : loneCluster.selectedName? = some "b" := by
    rw [selectedName?, selected?, shown, first]
    rfl
  obtain ⟨follows, unmoved⟩ := reachable_selection_follows reached
  obtain ⟨kept, gone⟩ := follows "b" selects
  refine ⟨reached, selects, ?_, ?_, unmoved _ ?_⟩
  · apply kept
    intro fleet now arrives
    simp only [List.mem_cons, Prod.mk.injEq, FeedEvent.clusters.injEq, Except.ok.injEq,
      reduceCtorEq, false_and, List.not_mem_nil, or_false, false_or] at arrives
    rcases arrives with ⟨rfl, -⟩ | ⟨rfl, -⟩ <;> exact ⟨clusterNamed "b", by simp, rfl, rfl⟩
  · have row := (gone [clusterNamed "a", clusterNamed "c"] default (by
      intro x listed _
      simp only [List.mem_cons, List.not_mem_nil, or_false] at listed
      rcases listed with rfl | rfl <;> decide)).1
    rw [first, Nat.zero_min] at row
    exact row
  · intro arrival arrives
    rw [List.mem_singleton.mp arrives]
    rfl

end Console

end FleetWatch
