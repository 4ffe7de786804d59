import FleetWatch.Dashboard.Export
import FleetWatch.Proofs.Dashboard.History

/-! # Dashboards that a history leads to

A dashboard takes in one event after the other, and a command may be begun at any time in between.
What it shows is what its history says all the same: a command under way is seen nowhere else.
-/

namespace FleetWatch.Dashboard

/-- What a history leads to, whenever commands were begun. -/
inductive After : History → Dashboard → Prop where
  | empty : After [] empty
  | begin {history : History} {d d' : Dashboard} (before : After history d)
      (begun : d.begin? = some d') : After history d'
  | apply {history : History} {d : Dashboard} (before : After history d) (event : FeedEvent)
      (now : Moment) : After (history ++ [(event, now)]) (d.apply event now).1

theorem begin?_eq_some {d d' : Dashboard} (begun : d.begin? = some d') :
    d' = { d with isUpdating := true } := by
  unfold begin? at begun
  split at begun
  · cases begun
  · exact (Option.some.inj begun).symm

theorem apply_isUpdating (d : Dashboard) (updating : Bool) (event : FeedEvent) (now : Moment) :
    ∃ still, ({ d with isUpdating := updating }.apply event now).1 =
      { (d.apply event now).1 with isUpdating := still } := by
  cases event with
  | stats result => cases result <;> exact ⟨updating, rfl⟩
  | clusters result => cases result <;> exact ⟨updating, rfl⟩
  | settled command result => exact ⟨false, rfl⟩

theorem after_replay {history : History} {d : Dashboard} (before : After history d)
    (later : History) : After (history ++ later) (d.replay later) := by
  induction later generalizing history d with
  | nil => rwa [List.append_nil]
  | cons arrival later ih =>
      have taken := ih (before.apply arrival.1 arrival.2)
      rwa [List.append_assoc] at taken

theorem eq_replay_of_after {history : History} {d : Dashboard} (h : After history d) :
    ∃ updating, d = { empty.replay history with isUpdating := updating } := by
  induction h with
  | empty => exact ⟨false, rfl⟩
  | begin _ begun ih =>
      obtain ⟨updating, rfl⟩ := ih
      exact ⟨true, (begin?_eq_some begun).trans rfl⟩
  | apply _ event now ih =>
      obtain ⟨updating, rfl⟩ := ih
      obtain ⟨still, taken⟩ := apply_isUpdating (empty.replay _) updating event now
      refine ⟨still, ?_⟩
      rw [taken, replay_append]
      rfl

end FleetWatch.Dashboard
