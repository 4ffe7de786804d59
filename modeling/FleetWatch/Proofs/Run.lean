/-! # Labelled runs

Systems that go on step by step, in an order that is not theirs to choose, are given by what they
may do next. Each step has a label that says what is seen of it from outside.
-/

namespace FleetWatch

variable {σ δ : Type} {Step : σ → δ → σ → Prop}

/-- A run from a state does one thing after another, and gets to a state. -/
inductive Run (Step : σ → δ → σ → Prop) (before : σ) : List δ → σ → Prop where
  | refl : Run Step before [] before
  | step {deeds : List δ} {deed : δ} {s s' : σ} (run : Run Step before deeds s)
      (step : Step s deed s') : Run Step before (deeds ++ [deed]) s'

namespace Run

theorem trans {a b c : σ} {first second : List δ} (run : Run Step a first b)
    (later : Run Step b second c) : Run Step a (first ++ second) c := by
  induction later with
  | refl => rwa [List.append_nil]
  | step _ step ih =>
      rw [← List.append_assoc]
      exact ih.step step

theorem keeps {Kept : σ → Prop} (kept : ∀ {s deed s'}, Kept s → Step s deed s' → Kept s')
    {a b : σ} {deeds : List δ} (run : Run Step a deeds b) (first : Kept a) : Kept b := by
  induction run with
  | refl => exact first
  | step _ step ih => exact kept ih step

end Run

theorem filterMap_snoc {ο : Type} (seen? : δ → Option ο) (deeds : List δ) (deed : δ) :
    (deeds ++ [deed]).filterMap seen? = deeds.filterMap seen? ++ (seen? deed).toList := by
  cases seen : seen? deed <;> simp [seen]

end FleetWatch
