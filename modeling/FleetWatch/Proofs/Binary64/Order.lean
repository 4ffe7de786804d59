import FleetWatch.Binary64

/-! # The order of binary64 numbers

Numbers other than NaN are ordered by their ranks, with both zeros in one place. Of two numbers
`max` and `min` are one, and they come before neither of the two that is not NaN, or behind neither.
-/

namespace FleetWatch.Binary64

variable {x y z : Binary64}

theorem le_iff :
    x.le y = true ↔ x.isNan = false ∧ y.isNan = false ∧ x.rank ≤ y.rank := by
  simp [le, and_assoc]

theorem lt_iff :
    x.lt y = true ↔ x.isNan = false ∧ y.isNan = false ∧ x.rank < y.rank := by
  simp [lt, and_assoc]

theorem isNan_of_isFinite (finite : x.isFinite = true) : x.isNan = false := by
  cases x with
  | nan => cases finite
  | infinite => rfl
  | finite => rfl

theorem not_lt_zero_iff (finite : x.isFinite = true) : x.lt zero = false ↔ 0 ≤ x.rank := by
  have number := isNan_of_isFinite finite
  have number' : zero.isNan = false := rfl
  have least : zero.rank = 0 := rfl
  simp [lt, number, number', least]

theorem le_refl (number : x.isNan = false) : x.le x = true :=
  le_iff.mpr ⟨number, number, Int.le_refl _⟩

theorem le_trans (first : x.le y = true) (second : y.le z = true) : x.le z = true := by
  obtain ⟨number, -, below⟩ := le_iff.mp first
  obtain ⟨-, number', below'⟩ := le_iff.mp second
  exact le_iff.mpr ⟨number, number', Int.le_trans below below'⟩

theorem le_of_not_lt (number : x.isNan = false) (number' : y.isNan = false)
    (above : ¬x.lt y = true) : y.le x = true := by
  rw [lt_iff] at above
  refine le_iff.mpr ⟨number', number, Int.not_lt.mp ?_⟩
  intro below
  exact above ⟨number, number', below⟩

theorem max_eq_or (x y : Binary64) : x.max y = x ∨ x.max y = y := by
  unfold Binary64.max
  split
  · exact .inr rfl
  · split
    · exact .inr rfl
    · exact .inl rfl

theorem min_eq_or (x y : Binary64) : x.min y = x ∨ x.min y = y := by
  unfold Binary64.min
  split
  · exact .inr rfl
  · split
    · exact .inr rfl
    · exact .inl rfl

theorem le_max_left (number : x.isNan = false) (y : Binary64) : x.le (x.max y) = true := by
  rw [Binary64.max, if_neg (by simp [number])]
  split
  · rename_i below
    obtain ⟨-, number', ranks⟩ := lt_iff.mp below
    exact le_iff.mpr ⟨number, number', Int.le_of_lt ranks⟩
  · exact le_refl number

theorem le_max_right (x : Binary64) (number : y.isNan = false) : y.le (x.max y) = true := by
  cases unordered : x.isNan with
  | true =>
      rw [Binary64.max, if_pos unordered]
      exact le_refl number
  | false =>
      rw [Binary64.max, if_neg (by simp [unordered])]
      split
      · exact le_refl number
      · rename_i above
        exact le_of_not_lt unordered number above

theorem min_le_left (number : x.isNan = false) (y : Binary64) : (x.min y).le x = true := by
  rw [Binary64.min, if_neg (by simp [number])]
  split
  · rename_i below
    obtain ⟨number', -, ranks⟩ := lt_iff.mp below
    exact le_iff.mpr ⟨number', number, Int.le_of_lt ranks⟩
  · exact le_refl number

theorem min_le_right (x : Binary64) (number : y.isNan = false) : (x.min y).le y = true := by
  cases unordered : x.isNan with
  | true =>
      rw [Binary64.min, if_pos unordered]
      exact le_refl number
  | false =>
      rw [Binary64.min, if_neg (by simp [unordered])]
      split
      · exact le_refl number
      · rename_i above
        exact le_of_not_lt number unordered above

end FleetWatch.Binary64
