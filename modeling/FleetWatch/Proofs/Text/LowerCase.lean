import FleetWatch.Text.Case

/-! # Parts of a text in lower case

All characters but one go to lower case by themselves, wherever they stand. A capital sigma looks
around: it ends a word, or it does not. So what becomes of a part of a text depends on what stands
around it, and it becomes what it would alone if every capital sigma in it is told the same there as
it is told alone. Main statement: the lower case of such a part is a part of the lower case.
-/

namespace FleetWatch.Text

/-- Whether a capital sigma between two texts ends a word. -/
def endsWord (front back : List Char) : Bool := meetsCased front.reverse && !meetsCased back

/-- Whether every capital sigma of a part ends a word between two texts just if it does alone. -/
def KeepsSigmas (front part back : List Char) : Prop :=
  ∀ before after, part = before ++ 'Σ' :: after →
    endsWord (front ++ before) (after ++ back) = endsWord before after

/-- The lower case of a character between two texts, the first of which is given in reverse. -/
def lowerAt (before : List Char) (c : Char) (after : List Char) : List Char :=
  if c = 'Σ' then [if meetsCased before && !meetsCased after then 'ς' else 'σ']
  else if c = 'İ' then ['i', '\u0307']
  else [lowerChar c]

/-- What becomes of a part of a text between two others, the first of which is given in reverse. -/
def lowerBetween (before : List Char) : List Char → List Char → List Char
  | [], _ => []
  | c :: rest, back => lowerAt before c (rest ++ back) ++ lowerBetween (c :: before) rest back

theorem lowerBehind_append (before part back : List Char) :
    lowerBehind before (part ++ back) =
      lowerBetween before part back ++ lowerBehind (part.reverse ++ before) back := by
  induction part generalizing before with
  | nil => rfl
  | cons c rest ih =>
      have first : lowerBehind before (c :: (rest ++ back)) =
          lowerAt before c (rest ++ back) ++ lowerBehind (c :: before) (rest ++ back) := rfl
      rw [List.cons_append, first, ih, lowerBetween, List.append_assoc, List.reverse_cons,
        List.append_assoc]
      rfl

theorem lowerBetween_infix_lower (front part back : List Char) :
    lowerBetween front.reverse part back <:+: lower (front ++ part ++ back) := by
  refine ⟨lowerBetween [] front (part ++ back),
    lowerBehind (part.reverse ++ front.reverse) back, ?_⟩
  calc lowerBetween [] front (part ++ back) ++ lowerBetween front.reverse part back ++
        lowerBehind (part.reverse ++ front.reverse) back
    _ = lowerBetween [] front (part ++ back) ++ lowerBehind front.reverse (part ++ back) := by
        rw [List.append_assoc, ← lowerBehind_append]
    _ = lower (front ++ (part ++ back)) := by
        rw [lower, lowerBehind_append [] front, List.append_nil]
    _ = lower (front ++ part ++ back) := by rw [List.append_assoc]

theorem lowerAt_eq_iff {before before' : List Char} {c : Char} {after after' : List Char} :
    lowerAt before c after = lowerAt before' c after' ↔
      (c = 'Σ' → (meetsCased before && !meetsCased after) =
        (meetsCased before' && !meetsCased after')) := by
  unfold lowerAt
  by_cases sigma : c = 'Σ'
  · rw [if_pos sigma, if_pos sigma, List.cons.injEq]
    cases meetsCased before && !meetsCased after <;>
      cases meetsCased before' && !meetsCased after' <;> simp [sigma]
  · simp [sigma]

theorem length_lowerAt (before before' : List Char) (c : Char) (after after' : List Char) :
    (lowerAt before c after).length = (lowerAt before' c after').length := by
  unfold lowerAt
  split
  · rfl
  · rfl

/-- What is left of a part becomes what it would alone just if the sigmas left in it are told the
same. -/
theorem lowerBetween_eq_iff (front before rest back : List Char) :
    lowerBetween (before.reverse ++ front.reverse) rest back = lowerBehind before.reverse rest ↔
      ∀ between after, rest = between ++ 'Σ' :: after →
        endsWord (front ++ (before ++ between)) (after ++ back) =
          endsWord (before ++ between) after := by
  induction rest generalizing before with
  | nil => simp [lowerBetween, lowerBehind]
  | cons c rest ih =>
      have others : lowerBetween (c :: (before.reverse ++ front.reverse)) rest back =
            lowerBehind (c :: before.reverse) rest ↔
          ∀ between after, rest = between ++ 'Σ' :: after →
            endsWord (front ++ (before ++ c :: between)) (after ++ back) =
              endsWord (before ++ c :: between) after := by
        simpa using ih (before ++ [c])
      have here : (meetsCased (before.reverse ++ front.reverse) && !meetsCased (rest ++ back)) =
            (meetsCased before.reverse && !meetsCased rest) ↔
          endsWord (front ++ before) (rest ++ back) = endsWord before rest := by
        rw [endsWord, endsWord, List.reverse_append]
      have parted : lowerBetween (before.reverse ++ front.reverse) (c :: rest) back =
            lowerBehind before.reverse (c :: rest) ↔
          lowerAt (before.reverse ++ front.reverse) c (rest ++ back) =
              lowerAt before.reverse c rest ∧
            lowerBetween (c :: (before.reverse ++ front.reverse)) rest back =
              lowerBehind (c :: before.reverse) rest :=
        ⟨fun same => List.append_inj same (length_lowerAt ..), fun ⟨first, rest⟩ => by
          rw [lowerBetween, first, rest]; rfl⟩
      rw [parted, lowerAt_eq_iff, here, others]
      constructor
      · rintro ⟨first, others⟩ between after split
        cases between with
        | nil =>
            obtain ⟨sigma, rfl⟩ := List.cons.inj split
            simpa using first sigma
        | cons d between =>
            obtain ⟨rfl, remains⟩ := List.cons.inj split
            exact others between after remains
      · intro told
        refine ⟨fun sigma => ?_, fun between after split => ?_⟩
        · simpa using told [] rest (by rw [sigma]; rfl)
        · exact told (c :: between) after (by rw [split]; rfl)

theorem lowerBetween_eq_lower_iff {front part back : List Char} :
    lowerBetween front.reverse part back = lower part ↔ KeepsSigmas front part back :=
  lowerBetween_eq_iff front [] part back

theorem lower_infix_lower {front part back : List Char} (keeps : KeepsSigmas front part back) :
    lower part <:+: lower (front ++ part ++ back) :=
  lowerBetween_eq_lower_iff.mpr keeps ▸ lowerBetween_infix_lower front part back

theorem keepsSigmas_of_not_mem {part : List Char} (none : 'Σ' ∉ part) (front back : List Char) :
    KeepsSigmas front part back := by
  rintro before after rfl
  exact absurd (by simp) none

end FleetWatch.Text
