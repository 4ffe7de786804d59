import FleetWatch.Proofs.Url.Percent
import FleetWatch.Url

/-! # Segments that survive a path

The segments of a path are followed from the top: one that stands for a place is taken out, and any
other is kept. A segment that stands for a place is decoded to one dot or to two, so of all encoded
texts only these two do not survive as the last segment of a path.
-/

namespace FleetWatch

theorem Text.parts_append {mark : Char} {a : List Char} (free : mark ∉ a) (b : List Char) :
    parts mark (a ++ mark :: b) = a :: parts mark b := by
  induction a with
  | nil => simp [parts]
  | cons c a ih =>
      have other : c ≠ mark := fun same => free (same ▸ List.mem_cons_self)
      have rest := ih fun listed => free (List.mem_cons_of_mem _ listed)
      rw [List.cons_append, parts, if_neg other, rest]

theorem Text.parts_of_not_mem {mark : Char} {a : List Char} (free : mark ∉ a) :
    parts mark a = [a] := by
  induction a with
  | nil => rfl
  | cons c a ih =>
      have other : c ≠ mark := fun same => free (same ▸ List.mem_cons_self)
      rw [parts, if_neg other, ih fun listed => free (List.mem_cons_of_mem _ listed)]

theorem Text.eq_or_capital_of_toLower {c d : Char} (lower : c.toLower = d) :
    c = d ∨ c = d.toUpper := by
  subst lower
  by_cases ascii : c.toNat < 0x80
  · have all : ∀ n < 0x80, Char.ofNat n = (Char.ofNat n).toLower ∨
        Char.ofNat n = (Char.ofNat n).toLower.toUpper := by decide
    simpa [Char.ofNat_toNat] using all c.toNat ascii
  · have noCapital : ¬ (c.val ≥ 'A'.val ∧ c.val ≤ 'Z'.val) := by
      intro capital
      have bound : c.toNat ≤ 90 := capital.2
      omega
    have kept : c.toLower = c := dif_neg noCapital
    exact .inl kept.symm

namespace Url

/-! ## Dots -/

theorem isHere_iff {segment : List Char} :
    isHere segment = true ↔
      segment.map Char.toLower = ['.'] ∨ segment.map Char.toLower = ['%', '2', 'e'] := by
  simp only [isHere, Bool.or_eq_true, decide_eq_true_eq]
  rfl

theorem decode_of_isHere {dot : List Char} (here : isHere dot = true) (rest : List Char) :
    Percent.decode (dot ++ rest) = 0x2E :: Percent.decode rest := by
  rcases isHere_iff.mp here with plain | triple
  · obtain ⟨c, rfl, first⟩ := List.map_eq_singleton_iff.mp plain
    rcases Text.eq_or_capital_of_toLower first with rfl | rfl <;> rfl
  · obtain ⟨a, tail, rfl, first, tripled⟩ := List.map_eq_cons_iff.mp triple
    obtain ⟨b, tail, rfl, second, tripled⟩ := List.map_eq_cons_iff.mp tripled
    obtain ⟨c, rfl, third⟩ := List.map_eq_singleton_iff.mp tripled
    rcases Text.eq_or_capital_of_toLower first with rfl | rfl <;>
      rcases Text.eq_or_capital_of_toLower second with rfl | rfl <;>
        rcases Text.eq_or_capital_of_toLower third with rfl | rfl <;> rfl

theorem exists_dots_of_isUp {segment : List Char} (up : isUp segment = true) :
    ∃ a b, segment = a ++ b ∧ isHere a = true ∧ isHere b = true := by
  have forms : ∃ x y : List Char, segment.map Char.toLower = x ++ y ∧
      (x = ['.'] ∨ x = ['%', '2', 'e']) ∧ (y = ['.'] ∨ y = ['%', '2', 'e']) := by
    simp only [isUp, Bool.or_eq_true, decide_eq_true_eq] at up
    rcases up with ((up | up) | up) | up
    · exact ⟨['.'], ['.'], up, .inl rfl, .inl rfl⟩
    · exact ⟨['.'], ['%', '2', 'e'], up, .inl rfl, .inr rfl⟩
    · exact ⟨['%', '2', 'e'], ['.'], up, .inr rfl, .inl rfl⟩
    · exact ⟨['%', '2', 'e'], ['%', '2', 'e'], up, .inr rfl, .inr rfl⟩
  obtain ⟨x, y, lower, first, second⟩ := forms
  obtain ⟨a, b, rfl, rfl, rfl⟩ := List.map_eq_append_iff.mp lower
  exact ⟨a, b, rfl, isHere_iff.mpr first, isHere_iff.mpr second⟩

theorem isHere_segment {name : String} : isHere (Percent.segment name) = true ↔ name = "." := by
  constructor
  · intro here
    have decoded := decode_of_isHere here []
    rw [List.append_nil, Percent.decode_segment] at decoded
    exact Utf8.bytes_injective (decoded.trans (by decide))
  · rintro rfl
    decide

theorem isUp_segment {name : String} : isUp (Percent.segment name) = true ↔ name = ".." := by
  constructor
  · intro up
    obtain ⟨a, b, split, first, second⟩ := exists_dots_of_isUp up
    have decoded := decode_of_isHere first (b ++ [])
    rw [decode_of_isHere second, List.append_nil, ← split, Percent.decode_segment] at decoded
    exact Utf8.bytes_injective (decoded.trans (by decide))
  · rintro rfl
    decide

/-! ## The last segment -/

theorem walk_last (passed : List (List Char)) (segment : List Char) :
    walk false passed [segment] =
      if isUp segment then ([] :: above passed).reverse
      else if isHere segment then ([] :: passed).reverse
      else (segment :: passed).reverse := by
  by_cases up : isUp segment = true
  · simp [walk, up]
  · by_cases here : isHere segment = true
    · simp [walk, up, here]
    · simp only [walk, up, here, Bool.or_false, Bool.false_eq_true, if_false]
      split <;> rfl

/-- The path of a cluster by the encoded text of a name: the last segment is that text, but for the
two names that are dots. -/
theorem segmentsOf_cluster (name : String) :
    segmentsOf false ("api/cluster/".toList ++ Percent.segment name) =
      if name = ".." then ["api".toList, []]
      else if name = "." then ["api".toList, "cluster".toList, []]
      else ["api".toList, "cluster".toList, Percent.segment name] := by
  have stands : ∀ c ∈ Percent.segment name, Percent.standsInPath c = true := fun c listed =>
    Percent.standsInPath_of_mem_segment listed
  have free : '/' ∉ Percent.segment name := fun listed =>
    (Percent.not_separator_of_standsInPath (stands _ listed)).2.1 rfl
  have apart : Text.parts '/' ("api/cluster/".toList ++ Percent.segment name) =
      ["api".toList, "cluster".toList, Percent.segment name] := by
    change Text.parts '/'
      ("api".toList ++ '/' :: ("cluster".toList ++ '/' :: Percent.segment name)) = _
    rw [Text.parts_append (by decide), Text.parts_append (by decide), Text.parts_of_not_mem free]
  have walked : walk false [] ["api".toList, "cluster".toList, Percent.segment name] =
      walk false ["cluster".toList, "api".toList] [Percent.segment name] := rfl
  rw [segmentsOf, apart, List.map_cons, List.map_cons, List.map_singleton,
    Percent.encode_ofChars_of_standsInPath stands,
    Percent.encode_ofChars_of_standsInPath (List.all_eq_true.mp rfl),
    Percent.encode_ofChars_of_standsInPath (List.all_eq_true.mp rfl), walked, walk_last]
  simp only [isUp_segment, isHere_segment]
  split
  · decide
  · split <;> rfl

end Url
end FleetWatch
