import FleetWatch.Proofs.Console.Actions
import FleetWatch.Proofs.Dashboard.History

/-! # Runs of the console

A console goes from state to state by keys, by the mouse, by taking in what is waiting, and by being
drawn. What is kept by quiet changes, by giving a command, by taking in one event and by scrolling
holds of every console that a run gets to.
-/

namespace FleetWatch.Console

/-- One thing that happens to a console. -/
inductive Step : Console → Console → Prop where
  | key (c : Console) (press : KeyPress) (saving : Except String Unit) (now : Moment) :
      Step c (c.strike press saving now).console
  | mouse (c : Console) (event : MouseEvent) (tableHeader : Nat) :
      Step c (c.mouse event tableHeader)
  /-- All that is waiting is taken in. -/
  | reload (c : Console) (arrivals : Dashboard.History) : Step c (c.drain arrivals)
  /-- Drawing leaves the table of clusters scrolled to some row. -/
  | draw (c : Console) (scroll : Nat) : Step c { c with scroll := scroll }

/-- The consoles that a run from a fresh one gets to. -/
inductive Reachable : Console → Prop where
  | start (source : SourceInfo) : Reachable (.start source)
  | step {c c' : Console} (before : Reachable c) (step : Step c c') : Reachable c'

/-- The four things that an invariant of the console is to be checked for. -/
structure Kept (P : Console → Prop) : Prop where
  start : ∀ source, P (.start source)
  quiet : ∀ {c c'}, P c → Quiet c c' → P c'
  give : ∀ {c}, P c → P { c with dashboard := { c.dashboard with isUpdating := true } }
  take : ∀ {c}, P c → ∀ event now, P (c.take event now)

namespace Kept

variable {P : Console → Prop} {c c' : Console}

theorem effect (kept : Kept P) (before : P c) {reaction : Reaction} (h : Effect c reaction) :
    P reaction.console := by
  cases h with
  | quiet change => exact kept.quiet before change
  | refresh => exact before
  | give change => exact kept.give (kept.quiet before change)

theorem drain (kept : Kept P) (before : P c) (arrivals : Dashboard.History) :
    P (c.drain arrivals) := by
  induction arrivals generalizing c with
  | nil => exact before
  | cons arrival arrivals ih => exact ih (kept.take before arrival.1 arrival.2)

theorem step (kept : Kept P) (before : P c) (h : Step c c') : P c' := by
  cases h with
  | key press saving now => exact kept.effect before (strike_effect c press saving now)
  | mouse event tableHeader => exact kept.quiet before (mouse_quiet c event tableHeader)
  | reload arrivals => exact kept.drain before arrivals
  | draw scroll => exact kept.quiet before (.aside rfl rfl rfl)

/-- What is kept holds all along. -/
theorem reachable (kept : Kept P) (h : Reachable c) : P c := by
  induction h with
  | start source => exact kept.start source
  | step _ step ih => exact kept.step ih step

end Kept

/-! ## Taking in events -/

theorem follow_eq (c : Console) (name : String) :
    ∃ selected, c.follow name = { c with selected := selected } := by
  unfold follow
  split
  · exact ⟨_, rfl⟩
  · exact ⟨c.selected, rfl⟩

theorem take_eq_clamp (c : Console) (event : FeedEvent) (now : Moment) :
    ∃ selected posted, c.take event now =
      ({ c with dashboard := (c.dashboard.apply event now).1, selected := selected,
                posted := posted } : Console).clamp := by
  unfold take
  generalize c.dashboard.apply event now = applied
  obtain ⟨dashboard, notice⟩ := applied
  cases notice with
  | none =>
      dsimp only
      split
      · obtain ⟨selected, followed⟩ := follow_eq { c with dashboard := dashboard } _
        exact ⟨selected, c.posted, congrArg clamp followed⟩
      · exact ⟨c.selected, c.posted, rfl⟩
  | some notice =>
      dsimp only
      split
      · obtain ⟨selected, followed⟩ := follow_eq
          (({ c with dashboard := dashboard } : Console).post notice now) _
        exact ⟨selected, _, congrArg clamp followed⟩
      · exact ⟨c.selected, _, rfl⟩

theorem take_dashboard (c : Console) (event : FeedEvent) (now : Moment) :
    (c.take event now).dashboard = (c.dashboard.apply event now).1 := by
  obtain ⟨selected, posted, taken⟩ := take_eq_clamp c event now
  rw [taken]
  rfl

theorem drain_dashboard (c : Console) (arrivals : Dashboard.History) :
    (c.drain arrivals).dashboard = c.dashboard.replay arrivals := by
  induction arrivals generalizing c with
  | nil => rfl
  | cons arrival arrivals ih =>
      have taken := ih (c.take arrival.1 arrival.2)
      rwa [take_dashboard] at taken

end FleetWatch.Console
