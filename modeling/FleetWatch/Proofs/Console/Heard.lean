import FleetWatch.Proofs.Console.Lasting
import FleetWatch.Proofs.Dashboard.After
import FleetWatch.Proofs.Run

/-! # What a console has heard

A run of the console with the events that it took in on the way. Keys and the mouse may come in
between as they like; the dashboard at the end is one that these events lead to.
-/

namespace FleetWatch.Console

/-- One thing that happens to a console, with what it takes in then. -/
inductive Hears : Console → Dashboard.History → Console → Prop where
  | key (c : Console) (press : KeyPress) (saving : Except String Unit) (now : Moment) :
      Hears c [] (c.strike press saving now).console
  | mouse (c : Console) (event : MouseEvent) (tableHeader : Nat) :
      Hears c [] (c.mouse event tableHeader)
  | reload (c : Console) (arrivals : Dashboard.History) : Hears c arrivals (c.drain arrivals)
  | draw (c : Console) (scroll : Nat) : Hears c [] { c with scroll := scroll }

open Dashboard (After)

variable {history arrivals : Dashboard.History} {c c' : Console}

theorem Effect.after (before : After history c.dashboard) {reaction : Reaction}
    (effect : Effect c reaction) : After history reaction.console.dashboard := by
  cases effect with
  | quiet change =>
      rw [change.dashboard]
      exact before
  | refresh => exact before
  | @give c' change idle command =>
      have begun : c'.dashboard.begin? = some { c'.dashboard with isUpdating := true } := by
        rw [Dashboard.begin?, idle]
        rfl
      rw [← change.dashboard] at before
      exact before.begin begun

theorem Hears.after (before : After history c.dashboard) (h : Hears c arrivals c') :
    After (history ++ arrivals) c'.dashboard := by
  cases h with
  | key press saving now =>
      rw [List.append_nil]
      exact (strike_effect c press saving now).after before
  | mouse event tableHeader =>
      rw [List.append_nil, (mouse_quiet c event tableHeader).dashboard]
      exact before
  | reload =>
      rw [drain_dashboard]
      exact Dashboard.after_replay before arrivals
  | draw scroll => rwa [List.append_nil]

end FleetWatch.Console
