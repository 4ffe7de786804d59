import FleetWatch.Duration
import FleetWatch.Proofs.Binary64.Literals
import FleetWatch.Proofs.Binary64.Order
import FleetWatch.Proofs.Text.Blanks

/-! # A number and a unit

The marks of units end each other, and letters also end some names of numbers, but no literal of a
finite number ends in a letter. So there is at most one way to part a text into such a literal and a
unit. Main statement: a text is read as a duration exactly if there is one, however the units are
tried, and the duration is the product.
-/

namespace FleetWatch

theorem Text.stripEnd?_append (ending text : List Char) :
    stripEnd? ending (text ++ ending) = some text := by
  have ends : ending.isSuffixOf (text ++ ending) = true :=
    List.isSuffixOf_iff_suffix.mpr (List.suffix_append _ _)
  rw [stripEnd?, if_pos ends]
  simp

theorem Text.eq_append_of_stripEnd? {ending text rest : List Char}
    (stripped : stripEnd? ending text = some rest) : text = rest ++ ending := by
  unfold stripEnd? at stripped
  split at stripped
  · rename_i ends
    obtain ⟨front, rfl⟩ := List.isSuffixOf_iff_suffix.mp ends
    simpa using stripped
  · cases stripped

namespace Duration

open Text

/-- A way to read a text as a duration. -/
structure Reading where
  /-- What stands in front of the unit, with blanks around the number. -/
  number : List Char
  unit : TimeUnit
  amount : Binary64

/-- The text is a literal of the amount and the mark of the unit, and the amount is finite and not
below zero. Both zeros stand in one place. -/
structure Reading.Of (text : List Char) (r : Reading) : Prop where
  parted : text = r.number ++ r.unit.mark
  literal : Binary64.Literal (trim r.number) r.amount
  finite : r.amount.isFinite = true
  notBelow : 0 ≤ r.amount.rank

/-- The product of the amount and the unit, without its fraction; it has 64 bits at most. -/
def Reading.duration (r : Reading) : Duration :=
  ⟨match r.amount * Binary64.ofNat r.unit.nanos with
    | .finite _ units => min (units / Binary64.one) (2 ^ 64 - 1)
    | _ => 2 ^ 64 - 1⟩

/-! ## The only way to part a text -/

/-- The letters in front of the `s` of the other units. -/
def prefixes : List Char := ['n', 'µ', 'u', 'm']

/-- Behind other characters than these letters a unit is found, whichever are tried before it. -/
theorem splitUnit?_append {number : List Char} (last : ∀ c ∈ number.getLast?, c ∉ prefixes)
    (unit : TimeUnit) : splitUnit? (number ++ unit.mark) = some (number, unit) := by
  have here := stripEnd?_append unit.mark number
  rw [← List.head?_reverse] at last
  cases reversed : number.reverse with
  | nil =>
      obtain rfl := List.reverse_eq_nil_iff.mp reversed
      cases unit <;> rfl
  | cons c others =>
      rw [reversed] at last
      obtain ⟨n, micro, u, m⟩ : 'n' ≠ c ∧ 'µ' ≠ c ∧ 'u' ≠ c ∧ 'm' ≠ c := by
        simpa [prefixes, eq_comm] using last c rfl
      cases unit <;>
        simp [splitUnit?, TimeUnit.all, List.findSome?, TimeUnit.mark, stripEnd?, List.isSuffixOf,
          reversed, n, micro, u, m]

theorem eq_append_of_splitUnit? {text number : List Char} {unit : TimeUnit}
    (parted : splitUnit? text = some (number, unit)) : text = number ++ unit.mark := by
  obtain ⟨other, -, found⟩ := List.exists_of_findSome?_eq_some parted
  obtain ⟨rest, stripped, same⟩ := Option.map_eq_some_iff.mp found
  cases same
  exact eq_append_of_stripEnd? stripped

namespace Reading.Of

variable {text : List Char} {r r' : Reading}

theorem last (h : Of text r) : ∀ c ∈ r.number.getLast?, c ∉ prefixes := by
  intro c ends letter
  obtain ⟨front, number⟩ := List.getLast?_eq_some_iff.mp ends
  obtain ⟨front', d, trimmed, numeral⟩ := h.literal.exists_last h.finite
  have notBlank : ∀ c ∈ prefixes, isBlank c = false := by
    simp [prefixes, isBlank]
  rw [number, trim_concat (notBlank c letter)] at trimmed
  obtain ⟨-, same⟩ := List.append_inj' trimmed rfl
  obtain rfl := List.singleton_inj.mp same
  have noNumeral : ∀ c ∈ prefixes, ¬ (c.isDigit = true ∨ c = '.') := by
    simp [prefixes]
  exact noNumeral c letter numeral

theorem split (h : Of text r) : splitUnit? text = some (r.number, r.unit) := by
  rw [h.parted]
  exact splitUnit?_append h.last r.unit

theorem unique (h : Of text r) (h' : Of text r') : r = r' := by
  have parts := h.split.symm.trans h'.split
  simp only [Option.some.injEq, Prod.mk.injEq] at parts
  have literal := h.literal.parse_eq
  rw [parts.1, h'.literal.parse_eq] at literal
  cases r
  cases r'
  cases literal
  simp_all

end Reading.Of

/-! ## The product -/

theorem nanos_lt (unit : TimeUnit) : unit.nanos < 2 ^ 53 := by
  cases unit <;> decide

theorem amount_mul_cases {amount : Binary64} (finite : amount.isFinite = true)
    (notBelow : 0 ≤ amount.rank) (unit : TimeUnit) :
    (∃ negative units, amount * Binary64.ofNat unit.nanos = .finite negative units ∧
        (negative = true → units = 0)) ∨
      amount * Binary64.ofNat unit.nanos = .infinite false := by
  rw [Binary64.ofNat_eq_whole (nanos_lt unit)]
  cases amount with
  | nan => cases finite
  | infinite => cases finite
  | finite negative units =>
      rw [Binary64.finite_mul_whole]
      cases negative with
      | true =>
          have zero : units = 0 := by
            simp only [Binary64.rank, Binary64.signedUnits, if_true] at notBelow
            omega
          have small : 2 * (units * (unit.nanos * Binary64.one)) < Binary64.one := by
            rw [zero, Nat.zero_mul]
            exact Binary64.one_pos
          exact .inl ⟨true, 0, Binary64.round_of_small small true, fun _ => rfl⟩
      | false =>
          rw [Binary64.round]
          split_ifs
          · exact .inl ⟨false, _, rfl, fun other => absurd other Bool.false_ne_true⟩
          · exact .inr rfl

theorem ofAmount_eq {r : Reading} (finite : r.amount.isFinite = true)
    (notBelow : 0 ≤ r.amount.rank) : ofAmount r.amount r.unit = r.duration := by
  have limit : (longest : Int) = 2 ^ 64 - 1 := rfl
  unfold ofAmount Reading.duration
  rcases amount_mul_cases finite notBelow r.unit with ⟨negative, units, product, zero⟩ | product
  · rw [product]
    cases negative with
    | true =>
        rw [zero rfl]
        simp [Binary64.truncate, Binary64.signedUnits, limit]
    | false =>
        simp only [Binary64.truncate, Binary64.signedUnits, limit, Bool.false_eq_true, if_false,
          Duration.mk.injEq]
        generalize units / Binary64.one = count
        omega
  · rw [product]
    rfl

/-! ## Reading -/

theorem exists_amount_of_parse {s : String} {d : Duration} (read : parse s = .ok d) :
    ∃ number unit amount, splitUnit? (trim s.toList) = some (number, unit) ∧
      Binary64.parse (trim number) = .ok amount ∧ amount.isFinite = true ∧
        amount.lt Binary64.zero = false ∧ ofAmount amount unit = d := by
  unfold parse at read
  dsimp only at read
  split at read
  · cases read
  · rename_i number unit parted
    split at read
    · cases read
    · rename_i amount literal
      split_ifs at read with outside
      cases read
      rw [Bool.or_eq_true, not_or, Bool.not_eq_true', Bool.not_eq_false, Bool.not_eq_true]
        at outside
      exact ⟨number, unit, amount, parted, literal, outside.1, outside.2, rfl⟩

theorem parse_eq_ok_iff {s : String} {d : Duration} :
    parse s = .ok d ↔ ∃ r, Reading.Of (trim s.toList) r ∧ r.duration = d := by
  constructor
  · intro read
    obtain ⟨number, unit, amount, parted, literal, finite, notBelow, rfl⟩ :=
      exists_amount_of_parse read
    rw [Binary64.not_lt_zero_iff finite] at notBelow
    rw [Binary64.parse_eq_ok_iff] at literal
    exact ⟨⟨number, unit, amount⟩,
      ⟨eq_append_of_splitUnit? parted, literal, finite, notBelow⟩,
      (ofAmount_eq finite notBelow).symm⟩
  · rintro ⟨r, h, rfl⟩
    have literal := h.literal.parse_eq
    have notBelow := (Binary64.not_lt_zero_iff h.finite).mpr h.notBelow
    unfold parse
    simp [h.split, literal, h.finite, notBelow, ofAmount_eq h.finite h.notBelow]

/-- A duration is read exactly if there is a way to, there is only one, and trying the units one
after the other finds it. -/
theorem parse_ok_iff_reading (s : String) :
    ((∃ d, parse s = .ok d) ↔ ∃ r, Reading.Of (trim s.toList) r) ∧
      ∀ r, Reading.Of (trim s.toList) r →
        (∀ r', Reading.Of (trim s.toList) r' → r' = r) ∧
        splitUnit? (trim s.toList) = some (r.number, r.unit) ∧
        parse s = .ok r.duration := by
  constructor
  · constructor
    · rintro ⟨d, read⟩
      obtain ⟨r, h, -⟩ := parse_eq_ok_iff.mp read
      exact ⟨r, h⟩
    · rintro ⟨r, h⟩
      exact ⟨r.duration, parse_eq_ok_iff.mpr ⟨r, h, rfl⟩⟩
  · intro r h
    exact ⟨fun r' h' => h'.unique h, h.split, parse_eq_ok_iff.mpr ⟨r, h, rfl⟩⟩

theorem minute_and_half_read :
    ∃ r, Reading.Of (trim " 1.5 m".toList) r ∧ r.unit = .minute ∧
      parse " 1.5 m" = .ok ⟨90000000000⟩ := by
  have literal : Binary64.parse (trim "1.5 ".toList) =
      .ok (.finite false (Binary64.one + Binary64.one / 2)) := by decide +kernel
  let r : Reading := ⟨"1.5 ".toList, .minute, .finite false (Binary64.one + Binary64.one / 2)⟩
  have h : Reading.Of (trim " 1.5 m".toList) r :=
    ⟨by decide +kernel, Binary64.parse_eq_ok_iff.mp literal, rfl, Int.natCast_nonneg _⟩
  have read := ((parse_ok_iff_reading " 1.5 m").2 r h).2.2
  have duration : r.duration = ⟨90000000000⟩ := by decide +kernel
  rw [duration] at read
  exact ⟨r, h, rfl, read⟩

end Duration

end FleetWatch
