/-! # Interleavings

Things of several kinds arrive in one sequence, those of one kind in their own order, while how the
kinds are interleaved is left to chance. If things of different kinds may be taken in either way
round, then all that counts are the subsequences of the kinds. What is to come out the same is given
by what is seen of a state, so that states may differ in what is not looked at.
-/

namespace FleetWatch

variable {α κ : Type}

/-- Two sequences with the same things of every kind in the same order. -/
def Interleaved [DecidableEq κ] (kind : α → κ) (a b : List α) : Prop :=
  ∀ k, a.filter (kind · = k) = b.filter (kind · = k)

namespace Interleaved

variable [DecidableEq κ] {kind : α → κ} {a b : List α} {x : α}

theorem eq_nil (same : Interleaved kind [] b) : b = [] := by
  cases b with
  | nil => rfl
  | cons y b => simpa using same (kind y)

/-- What one sequence begins with stands in the other one behind things of other kinds only. -/
theorem uncons (same : Interleaved kind (x :: a) b) :
    ∃ front back, b = front ++ x :: back ∧ (∀ y ∈ front, kind y ≠ kind x) ∧
      Interleaved kind a (front ++ back) := by
  have first := (same (kind x)).symm
  rw [List.filter_cons_of_pos (by simp)] at first
  obtain ⟨front, back, rfl, others, -, rest⟩ := List.filter_eq_cons_iff.mp first
  have apart : ∀ y ∈ front, kind y ≠ kind x := by simpa using others
  refine ⟨front, back, rfl, apart, fun k => ?_⟩
  by_cases its : kind x = k
  · subst its
    have none : front.filter (kind · = kind x) = [] := by simpa using apart
    rw [List.filter_append, none, List.nil_append]
    exact rest.symm
  · have whole := same k
    rw [List.filter_cons_of_neg (by simpa using its), List.filter_append,
      List.filter_cons_of_neg (by simpa using its)] at whole
    rw [whole, List.filter_append]

end Interleaved

/-- Taking things in one after the other, with an invariant of the states and with what is seen of
them: what is seen afterwards depends on nothing but what was seen before and on the thing taken in,
and it does not depend on the order of two things of different kinds. -/
structure Independent {σ τ : Type} (kind : α → κ) (take : σ → α → σ) (Inv : σ → Prop)
    (seen : σ → τ) : Prop where
  keeps : ∀ {s} x, Inv s → Inv (take s x)
  seen_take : ∀ {s t} x, seen s = seen t → seen (take s x) = seen (take t x)
  comm : ∀ {s x y}, Inv s → kind x ≠ kind y →
    seen (take (take s x) y) = seen (take (take s y) x)

namespace Independent

variable {σ τ : Type} {kind : α → κ} {take : σ → α → σ} {Inv : σ → Prop} {seen : σ → τ}
  {s t : σ} {a b : List α} {x : α}

theorem seen_foldl (h : Independent kind take Inv seen) (same : seen s = seen t) (a : List α) :
    seen (a.foldl take s) = seen (a.foldl take t) := by
  induction a generalizing s t with
  | nil => exact same
  | cons x a ih => exact ih (h.seen_take x same)

/-- A thing may be taken in before those of other kinds. -/
theorem move_front (h : Independent kind take Inv seen) (inv : Inv s)
    (apart : ∀ y ∈ a, kind y ≠ kind x) :
    seen ((a ++ x :: b).foldl take s) = seen ((x :: (a ++ b)).foldl take s) := by
  induction a generalizing s with
  | nil => rfl
  | cons y a ih =>
      have others : ∀ z ∈ a, kind z ≠ kind x := fun z hz => apart z (List.mem_cons_of_mem y hz)
      have swapped : seen (take (take s y) x) = seen (take (take s x) y) :=
        h.comm inv (apart y List.mem_cons_self)
      exact (ih (h.keeps y inv) others).trans (h.seen_foldl swapped (a ++ b))

theorem foldl_eq [DecidableEq κ] (h : Independent kind take Inv seen) (inv : Inv s)
    (same : Interleaved kind a b) : seen (a.foldl take s) = seen (b.foldl take s) := by
  induction a generalizing b s with
  | nil => rw [same.eq_nil]
  | cons x a ih =>
      obtain ⟨front, back, rfl, apart, rest⟩ := same.uncons
      rw [h.move_front inv apart]
      exact ih (h.keeps x inv) rest

end Independent

end FleetWatch
