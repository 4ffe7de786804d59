import FleetWatch.Proofs.Duration.Seconds

/-! # Elapsed times as they are written

An elapsed time is written with two numbers: seconds and tenths below one minute, minutes and
seconds below one hour, hours and minutes from there on. Tenths are rounded to the nearest, and the
other forms are cut off at their last place. Main statement: every time is written within one unit
of the last place and in normal form, apart from those in the last twentieth of a second below one
minute, which come out as sixty seconds.
-/

namespace FleetWatch

namespace Elapsed

/-- The forms of an elapsed time, by their two numbers. -/
inductive Form where
  /-- Seconds and tenths. -/
  | tenths
  /-- Minutes and seconds. -/
  | minutes
  /-- Hours and minutes. -/
  | hours
  deriving Repr, DecidableEq

namespace Form

/-- What stands between the numbers. -/
def mark : Form → Char
  | tenths => '.'
  | minutes => 'm'
  | hours => 'h'

/-- How many digits the second number has at least. -/
def width : Form → Nat
  | tenths => 1
  | minutes => 2
  | hours => 2

/-- What stands at the end. -/
def ending : Form → Char
  | tenths => 's'
  | minutes => 's'
  | hours => 'm'

/-- How many of the last place make one of the first number. -/
def parts : Form → Nat
  | tenths => 10
  | minutes => 60
  | hours => 60

def place : Form → Nat
  | tenths => 100000000
  | minutes => 1000000000
  | hours => 60000000000

/-- The form for a duration: tenths below one minute, hours from one hour on. -/
def ofDuration (d : Duration) : Form :=
  if d.nanos < 60000000000 then tenths
  else if d.nanos < 3600000000000 then minutes
  else hours

theorem mark_injective {f f' : Form} (same : f.mark = f'.mark) : f = f' := by
  cases f <;> cases f' <;> first | rfl | exact absurd same (by decide)

theorem width_pos (f : Form) : 0 < f.width := by
  cases f <;> decide

theorem isDigit_mark (f : Form) : Digits.isDigit f.mark = false := by
  cases f <;> rfl

theorem isDigit_ending (f : Form) : Digits.isDigit f.ending = false := by
  cases f <;> rfl

end Form

end Elapsed

/-- An amount of time in one of the forms. -/
@[ext] structure Elapsed where
  form : Elapsed.Form
  first : Nat
  second : Nat
  deriving Repr, DecidableEq

namespace Elapsed

def text (e : Elapsed) : List Char :=
  Digits.ofNat e.first ++ e.form.mark :: Digits.padded e.form.width e.second ++ [e.form.ending]

def nanos (e : Elapsed) : Nat := (e.first * e.form.parts + e.second) * e.form.place

/-- Each number stays below what makes one of the next larger unit, and a unit is only used from
one of it on. -/
def IsNormal (e : Elapsed) : Prop :=
  match e.form with
  | .tenths => e.first < 60 ∧ e.second < 10
  | .minutes => 1 ≤ e.first ∧ e.first < 60 ∧ e.second < 60
  | .hours => 1 ≤ e.first ∧ e.second < 60

/-! ## Texts -/

section Texts

variable (e : Elapsed)

theorem text_eq : e.text =
    Digits.ofNat e.first ++ (e.form.mark :: (Digits.padded e.form.width e.second ++
      [e.form.ending])) := by
  simp only [text, List.append_assoc, List.cons_append]

theorem takeWhile_text : e.text.takeWhile Digits.isDigit = Digits.ofNat e.first := by
  rw [text_eq]
  refine Digits.takeWhile_isDigit (fun _ listed => Digits.isDigit_of_mem_ofNat listed) ?_
  rintro _ ⟨⟩
  exact e.form.isDigit_mark

theorem dropWhile_text : e.text.dropWhile Digits.isDigit =
    e.form.mark :: (Digits.padded e.form.width e.second ++ [e.form.ending]) := by
  rw [text_eq]
  refine Digits.dropWhile_isDigit (fun _ listed => Digits.isDigit_of_mem_ofNat listed) ?_
  rintro _ ⟨⟩
  exact e.form.isDigit_mark

theorem takeWhile_second :
    (Digits.padded e.form.width e.second ++ [e.form.ending]).takeWhile Digits.isDigit =
      Digits.padded e.form.width e.second := by
  refine Digits.takeWhile_isDigit (fun _ listed => Digits.isDigit_of_mem_padded listed) ?_
  rintro _ ⟨⟩
  exact e.form.isDigit_ending

end Texts

theorem text_injective {e e' : Elapsed} (same : e.text = e'.text) : e = e' := by
  have first : e.first = e'.first := by
    have digits := congrArg (List.takeWhile Digits.isDigit) same
    rw [takeWhile_text, takeWhile_text] at digits
    rw [← Digits.toNat_ofNat e.first, digits, Digits.toNat_ofNat]
  have rest := congrArg (List.dropWhile Digits.isDigit) same
  rw [dropWhile_text, dropWhile_text] at rest
  obtain ⟨marks, rest⟩ := List.cons.inj rest
  have second : e.second = e'.second := by
    have digits := congrArg (List.takeWhile Digits.isDigit) rest
    rw [takeWhile_second, takeWhile_second] at digits
    rw [← Digits.toNat_padded e.form.width e.second, digits, Digits.toNat_padded]
  exact Elapsed.ext (Form.mark_injective marks) first second

end Elapsed

namespace Duration

def written (d : Duration) : Elapsed :=
  match Elapsed.Form.ofDuration d with
  | .tenths => ⟨.tenths, d.tenths / 10, d.tenths % 10⟩
  | .minutes => ⟨.minutes, d.seconds / 60, d.seconds % 60⟩
  | .hours => ⟨.hours, d.seconds / 3600, d.seconds % 3600 / 60⟩

theorem written_cases (d : Duration) :
    (d.seconds < 60 ∧ d.written = ⟨.tenths, d.tenths / 10, d.tenths % 10⟩) ∨
      (60 ≤ d.seconds ∧ d.seconds < 3600 ∧
        d.written = ⟨.minutes, d.seconds / 60, d.seconds % 60⟩) ∨
      (3600 ≤ d.seconds ∧ d.written = ⟨.hours, d.seconds / 3600, d.seconds % 3600 / 60⟩) := by
  have minute := seconds_lt_iff (d := d) (m := 60)
  have hour := seconds_lt_iff (d := d) (m := 3600)
  rw [written, Elapsed.Form.ofDuration]
  split_ifs with below below'
  · exact .inl ⟨minute.mpr below, rfl⟩
  · exact .inr (.inl ⟨by omega, hour.mpr below', rfl⟩)
  · exact .inr (.inr ⟨by omega, rfl⟩)

/-- The form is chosen by the rounded seconds, and it is the one for the exact time. -/
theorem elapsed_eq (d : Duration) : d.elapsed = String.ofList d.written.text := by
  have minute := toSeconds_lt_iff (d := d) (m := 60) (by decide)
  have hour := toSeconds_lt_iff (d := d) (m := 3600) (by decide)
  rw [elapsed]
  obtain ⟨below, amount⟩ | ⟨reached, below, amount⟩ | ⟨reached, amount⟩ := d.written_cases
  · rw [amount, if_pos (minute.mpr below), fixed_toSeconds below]
    rfl
  · rw [amount, if_neg (Nat.not_lt.mpr reached ∘ minute.mp), if_pos (hour.mpr below)]
    rfl
  · have minutes : ¬d.seconds < 60 := by omega
    rw [amount, if_neg (minutes ∘ minute.mp), if_neg (Nat.not_lt.mpr reached ∘ hour.mp)]
    rfl

theorem nanos_written (d : Duration) :
    d.written.nanos ≤ d.nanos + d.written.form.place ∧
      d.nanos ≤ d.written.nanos + d.written.form.place := by
  have nanos := d.nanos_eq
  have rest := d.rest_lt
  obtain ⟨below, amount⟩ | ⟨-, -, amount⟩ | ⟨-, amount⟩ := d.written_cases
  · have near := tenths_near below
    simp only [amount, Elapsed.nanos, Elapsed.Form.parts, Elapsed.Form.place]
    omega
  · simp only [amount, Elapsed.nanos, Elapsed.Form.parts, Elapsed.Form.place]
    omega
  · simp only [amount, Elapsed.nanos, Elapsed.Form.parts, Elapsed.Form.place]
    omega

theorem second_written_lt (d : Duration) : d.written.second < 10 ^ d.written.form.width := by
  obtain ⟨-, amount⟩ | ⟨-, -, amount⟩ | ⟨-, amount⟩ := d.written_cases
  all_goals
    simp only [amount, Elapsed.Form.width]
    omega

theorem form_written (d : Duration) : d.written.form = .ofDuration d := by
  rw [written]
  cases Elapsed.Form.ofDuration d <;> rfl

/-! ## The last twentieth of a second below one minute -/

theorem tenths_lt_iff {d : Duration} (below : d.seconds < 60) :
    d.tenths < 600 ↔ d.nanos < 59950000000 := by
  obtain ⟨above, near⟩ := tenths_near below
  by_cases halfway : d.nanos = 59950000000
  · -- Halfway between two tenths the rounded seconds decide, and they are a little more.
    have up : tenths ⟨59950000000⟩ = 600 := by decide +kernel
    obtain ⟨nanos⟩ := d
    obtain rfl : nanos = 59950000000 := halfway
    simp [up]
  · omega

theorem isNormal_written_iff (d : Duration) :
    d.written.IsNormal ↔ ¬(59950000000 ≤ d.nanos ∧ d.nanos < 60000000000) := by
  have minute := seconds_lt_iff (d := d) (m := 60)
  obtain ⟨below, amount⟩ | ⟨reached, below, amount⟩ | ⟨reached, amount⟩ := d.written_cases
  · have last := tenths_lt_iff below
    simp only [amount, Elapsed.IsNormal]
    omega
  · simp only [amount, Elapsed.IsNormal]
    omega
  · simp only [amount, Elapsed.IsNormal]
    omega

theorem written_of_last {d : Duration} (reached : 59950000000 ≤ d.nanos)
    (below : d.nanos < 60000000000) : d.written = ⟨.tenths, 60, 0⟩ := by
  have below : d.seconds < 60 := seconds_lt_iff.mpr below
  obtain ⟨-, near⟩ := tenths_near below
  have last := tenths_lt_iff below
  have sixty : d.tenths = 600 := by omega
  obtain ⟨-, amount⟩ | ⟨reached', -⟩ | ⟨reached', -⟩ := d.written_cases
  · rw [amount, sixty]
  · omega
  · omega

/-- Every elapsed time is written as one amount in the form for it, with as many digits as the form
has and within one unit of its last place. The amount is in normal form, but for times from 59.95
seconds to one minute, which are written as sixty seconds. -/
theorem elapsed_isNormal_iff (d : Duration) :
    ∃ e : Elapsed, (∀ e' : Elapsed, d.elapsed = String.ofList e'.text ↔ e' = e) ∧
      e.form = .ofDuration d ∧
      (Digits.padded e.form.width e.second).length = e.form.width ∧
      (e.nanos ≤ d.nanos + e.form.place ∧ d.nanos ≤ e.nanos + e.form.place) ∧
      (e.IsNormal ↔ ¬(59950000000 ≤ d.nanos ∧ d.nanos < 60000000000)) ∧
      (e.IsNormal ∨ d.elapsed = "60.0s") := by
  refine ⟨d.written, fun e' => ?_, form_written d,
    Digits.length_padded (Elapsed.Form.width_pos _) (second_written_lt d), nanos_written d,
    isNormal_written_iff d, ?_⟩
  · rw [elapsed_eq]
    constructor
    · intro same
      exact Elapsed.text_injective (String.ofList_injective same).symm
    · rintro rfl
      rfl
  · rw [or_iff_not_imp_left, isNormal_written_iff, Decidable.not_not]
    rintro ⟨reached, below⟩
    rw [elapsed_eq, written_of_last reached below]
    decide

/-- Below one minute, but no amount in normal form. -/
theorem elapsed_not_normal :
    ¬∃ e : Elapsed, elapsed ⟨59960000000⟩ = String.ofList e.text ∧ e.IsNormal := by
  rintro ⟨e, text, normal⟩
  obtain rfl : e = ⟨.tenths, 60, 0⟩ := by
    apply Elapsed.text_injective
    rw [elapsed_eq, written_of_last (by decide) (by decide)] at text
    exact (String.ofList_injective text).symm
  exact absurd normal (by simp [Elapsed.IsNormal])

end Duration

end FleetWatch
