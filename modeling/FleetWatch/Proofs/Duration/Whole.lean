import FleetWatch.Proofs.Duration.Units

/-! # Whole numbers of units

Natural numbers below `2 ^ 53` and their products with the units are finite numbers, so nothing is
lost on the way from the digits to the nanoseconds. Main statement: a whole number of a unit is read
exactly, whatever blanks and zeros it is written with, and equal amounts in different units are read
as equal durations.
-/

namespace FleetWatch.Duration

open Text

/-- A text that states a whole number of a unit: its digits, maybe with zeros in front up to some
width, and the mark of the unit, with blanks around and between them. -/
inductive Spells (n : Nat) (unit : TimeUnit) : String → Prop where
  | spaced {front between back : List Char} (width : Nat) (isBlanks : IsBlanks front)
      (isBlanks' : IsBlanks between) (isBlanks'' : IsBlanks back) :
      Spells n unit (String.ofList
        (front ++ (Digits.padded width n ++ between ++ unit.mark) ++ back))

variable {n : Nat} {unit : TimeUnit}

/-! ## Blanks -/

section Padded

variable (width n : Nat) (rest : List Char)

theorem isBlank_head_padded : ∀ c ∈ (Digits.padded width n ++ rest).head?, isBlank c = false := by
  intro c head
  rw [List.head?_append_of_ne_nil _ (Digits.padded_ne_nil width n)] at head
  exact isBlank_of_isDigit (Digits.isDigit_of_mem_padded (List.mem_of_mem_head? head))

theorem isBlank_last_padded : ∀ c ∈ (Digits.padded width n).getLast?, isBlank c = false := by
  intro c last
  exact isBlank_of_isDigit (Digits.isDigit_of_mem_padded (List.mem_of_mem_getLast? last))

end Padded

theorem isBlank_last_mark (unit : TimeUnit) (text : List Char) :
    ∀ c ∈ (text ++ unit.mark).getLast?, isBlank c = false := by
  intro c last
  obtain rfl | rfl : c = 's' ∨ c = 'm' := by
    cases unit <;> simp_all [TimeUnit.mark, eq_comm]
  · rfl
  · rfl

/-! ## Reading -/

theorem literal_padded (small : n < 2 ^ 53) (width : Nat) :
    Binary64.Literal (Digits.padded width n) (Binary64.whole n) := by
  have all : Binary64.AllDigits (Digits.padded width n) := fun c listed =>
    Digits.isDigit_of_mem_padded listed
  have digits := Binary64.Significand.whole (Digits.padded_ne_nil width n) all
  have literal := Binary64.Literal.decimal .unsaid digits .unsaid
  rwa [Digits.toNat_padded, Int.natCast_zero, Int.sub_zero, Binary64.nearest_zero small,
    List.append_nil, List.nil_append] at literal

theorem duration_whole {r : Reading} (isWhole : r.amount = Binary64.whole n)
    (small : n * r.unit.nanos < 2 ^ 53) : r.duration = ⟨n * r.unit.nanos⟩ := by
  have product : r.amount * Binary64.ofNat r.unit.nanos = Binary64.whole (n * r.unit.nanos) := by
    rw [isWhole, Binary64.ofNat_eq_whole (nanos_lt r.unit)]
    exact Binary64.whole_mul_whole small rfl
  have whole : n * r.unit.nanos * Binary64.one / Binary64.one = n * r.unit.nanos :=
    Nat.mul_div_cancel _ Binary64.one_pos
  have fits : n * r.unit.nanos ≤ 2 ^ 64 - 1 := by omega
  unfold Reading.duration
  rw [product]
  simp only [Binary64.whole, whole, Nat.min_eq_left fits]

theorem Spells.exists_reading {s : String} (spells : Spells n unit s)
    (small : n * unit.nanos < 2 ^ 53) :
    ∃ r, Reading.Of (trim s.toList) r ∧ r.duration = ⟨n * unit.nanos⟩ := by
  have bound : n < 2 ^ 53 := by
    have positive : 0 < unit.nanos := by cases unit <;> decide
    exact (Nat.le_mul_of_pos_right n positive).trans_lt small
  cases spells with
  | @spaced front between back width isBlanks isBlanks' isBlanks'' =>
      have started := isBlank_head_padded width n (between ++ unit.mark)
      rw [← List.append_assoc] at started
      have text := trim_between isBlanks isBlanks'' started (isBlank_last_mark unit _)
      have number : trim (Digits.padded width n ++ between) = Digits.padded width n := by
        have first := isBlank_head_padded width n []
        rw [List.append_nil] at first
        exact trim_between isBlanks_nil isBlanks' first (isBlank_last_padded width n)
      refine ⟨⟨Digits.padded width n ++ between, unit, Binary64.whole n⟩, ⟨?_, ?_, rfl, ?_⟩,
        duration_whole rfl small⟩
      · rw [String.toList_ofList]
        exact text
      · rw [number]
        exact literal_padded bound width
      · exact Int.natCast_nonneg _

/-- A whole number of a unit is read exactly while the product is below `2 ^ 53`, and so are equal
amounts in all units. -/
theorem whole_duration_exact {s : String} (spells : Spells n unit s)
    (small : n * unit.nanos < 2 ^ 53) :
    parse s = .ok ⟨n * unit.nanos⟩ ∧
      ∀ n' unit' s', Spells n' unit' s' → n' * unit'.nanos = n * unit.nanos →
        parse s' = parse s := by
  have read := parse_eq_ok_iff.mpr (spells.exists_reading small)
  refine ⟨read, ?_⟩
  intro n' unit' s' spells' same
  rw [← same] at small read
  rw [read, parse_eq_ok_iff.mpr (spells'.exists_reading small)]

theorem minute_as_seconds :
    Spells 60 .second " 060 s" ∧ Spells 1 .minute "1m" ∧ parse " 060 s" = .ok ⟨60000000000⟩ ∧
      parse "1m" = parse " 060 s" := by
  have blank : IsBlanks [' '] := by simp [IsBlanks, isBlank]
  have spells : Spells 60 .second " 060 s" := .spaced 3 blank blank isBlanks_nil
  have spells' : Spells 1 .minute "1m" := .spaced 1 isBlanks_nil isBlanks_nil isBlanks_nil
  obtain ⟨read, alike⟩ := whole_duration_exact spells (by decide)
  exact ⟨spells, spells', read, alike 1 .minute "1m" spells' rfl⟩

end FleetWatch.Duration
