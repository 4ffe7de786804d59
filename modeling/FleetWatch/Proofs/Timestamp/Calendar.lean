import FleetWatch.Timestamp
import Mathlib.Tactic.IntervalCases

/-! # Days of the calendar

The day that a date is, counted with the lengths of years and months, and that the date found for a
day is that day again. The date is found in a year from March on, which falls into 400 years, then
into centuries of 36524 days, then into groups of four years of 1461 days, then into single years;
only the last century and the last year of a group may be one day longer.
-/

namespace FleetWatch.Timestamp.Date

def isLeap (year : Int) : Bool := year % 4 = 0 && (year % 100 ≠ 0 || year % 400 = 0)

def monthLength (year : Int) : Nat → Nat
  | 2 => if isLeap year then 29 else 28
  | 4 | 6 | 9 | 11 => 30
  | _ => 31

/-- Whether the calendar has such a date. -/
def isValid (d : Date) : Bool :=
  1 ≤ d.month && d.month ≤ 12 && 1 ≤ d.day && d.day ≤ monthLength d.year d.month

/-- Days from the start of the year 1 to the start of a year. -/
def daysBeforeYear (year : Int) : Int :=
  365 * (year - 1) + (year - 1) / 4 - (year - 1) / 100 + (year - 1) / 400

def daysBeforeMonth (year : Int) (month : Nat) : Nat :=
  ((List.range' 1 (month - 1)).map (monthLength year)).sum

/-- The day that a date is, counted from the start of 1970. -/
def toDay (d : Date) : Int :=
  daysBeforeYear d.year - daysBeforeYear 1970 + daysBeforeMonth d.year d.month + (d.day - 1)

theorem daysBeforeYear_succ (year : Int) :
    daysBeforeYear (year + 1) = daysBeforeYear year + if isLeap year then 366 else 365 := by
  simp only [daysBeforeYear, isLeap, Bool.and_eq_true, Bool.or_eq_true, decide_eq_true_eq]
  split <;> omega

/-! ## Years from March on -/

/-- A day of 400 years, by its century, group of four years, year and day. -/
structure Place where
  century : Nat
  group : Nat
  year : Nat
  day : Nat
  century_le : century ≤ 3
  group_le : group ≤ 24
  year_le : year ≤ 3
  day_le : day ≤ 365
  /-- Only a leap year has one more day. -/
  last : day = 365 → year = 3 ∧ (group = 24 → century = 3)

namespace Place

variable (p : Place)

def dayOfEra : Nat := 36524 * p.century + 1461 * p.group + 365 * p.year + p.day

def yearOfEra : Nat := 100 * p.century + 4 * p.group + p.year

theorem exists_dayOfEra {days : Nat} (short : days < 146097) : ∃ p : Place, p.dayOfEra = days := by
  let century := min (days / 36524) 3
  let inCentury := days - 36524 * century
  let group := inCentury / 1461
  let inGroup := inCentury - 1461 * group
  let year := min (inGroup / 365) 3
  let day := inGroup - 365 * year
  have centuries : days = 36524 * century + inCentury ∧ century ≤ 3 ∧ inCentury ≤ 36524 ∧
      (inCentury = 36524 → century = 3) := by omega
  have groups : inCentury = 1461 * group + inGroup ∧ group ≤ 24 ∧ inGroup ≤ 1460 := by omega
  have years : inGroup = 365 * year + day ∧ year ≤ 3 ∧ day ≤ 365 ∧ (day = 365 → year = 3) := by
    omega
  clear_value century inCentury group inGroup year day
  refine ⟨⟨century, group, year, day, by omega, by omega, by omega, by omega, by omega⟩, ?_⟩
  simp only [dayOfEra]
  omega

theorem yearOfEra_eq :
    (p.dayOfEra - p.dayOfEra / 1460 + p.dayOfEra / 36524 - p.dayOfEra / 146096) / 365 =
      p.yearOfEra := by
  obtain ⟨century, group, year, day, _, _, _, _, _⟩ := p
  simp only [dayOfEra, yearOfEra]
  generalize written : 36524 * century + 1461 * group + 365 * year + day = days
  have groups : days / 1460 = 25 * century + group ∨
      days / 1460 = 25 * century + group + 1 ∧ year = 3 ∧ 268 ≤ day := by omega
  have centuries : days / 36524 = century ∧ days / 146096 = 0 ∨
      days / 36524 = century + 1 ∧ days / 146096 = 1 ∧ day = 365 := by omega
  rcases groups with groups | groups <;> rcases centuries with centuries | centuries <;> omega

theorem day_eq :
    p.dayOfEra - (365 * p.yearOfEra + p.yearOfEra / 4 - p.yearOfEra / 100) = p.day := by
  obtain ⟨century, group, year, day, _, _, _, _, _⟩ := p
  simp only [dayOfEra, yearOfEra]
  omega

/-- A year from March on begins 306 days before the next January. -/
theorem daysBeforeYear_eq (era : Int) :
    daysBeforeYear (era * 400 + p.yearOfEra + 1) = 146097 * era + p.dayOfEra - p.day := by
  obtain ⟨century, group, year, day, _, _, _, _, _⟩ := p
  simp only [daysBeforeYear, dayOfEra, yearOfEra]
  omega

theorem isLeap_of_last (era : Int) (last : p.day = 365) :
    isLeap (era * 400 + p.yearOfEra + 1) = true := by
  obtain ⟨fourth, century⟩ := p.last last
  have groups := p.group_le
  simp only [isLeap, Bool.and_eq_true, Bool.or_eq_true, decide_eq_true_eq]
  simp only [yearOfEra]
  omega

end Place

/-! ## Months from March on -/

/-- The month of the calendar that a month counted from March is. -/
def monthFromMarch (index : Nat) : Nat := if index < 10 then index + 3 else index - 9

/-- The year of the calendar that a month is in, in the twelve months up to the February of a year.
-/
def yearFromMarch (next : Int) (index : Nat) : Int :=
  if monthFromMarch index ≤ 2 then next else next - 1

/-- Five months from March on have 153 days. -/
theorem daysBeforeMonth_eq (year : Int) {index : Nat} (sameYear : index ≤ 9) :
    daysBeforeMonth year (index + 3) =
      (if isLeap year then 60 else 59) + (153 * index + 2) / 5 := by
  interval_cases index <;> cases h : isLeap year <;>
    simp [daysBeforeMonth, List.range', monthLength, h]

theorem daysBefore_eq (next : Int) {index : Nat} (known : index ≤ 11) :
    daysBeforeYear (yearFromMarch next index) +
        daysBeforeMonth (yearFromMarch next index) (monthFromMarch index) =
      daysBeforeYear next - 306 + (153 * index + 2) / 5 := by
  by_cases sameYear : index ≤ 9
  · have step := daysBeforeYear_succ (next - 1)
    rw [Int.sub_add_cancel] at step
    have month : monthFromMarch index = index + 3 := if_pos (by omega)
    have year : yearFromMarch next index = next - 1 := if_neg (by omega)
    rw [month, year, daysBeforeMonth_eq _ sameYear]
    split at step <;> rename_i leap
    · rw [if_pos leap]
      omega
    · rw [if_neg leap]
      omega
  · obtain rfl | rfl : index = 10 ∨ index = 11 := by omega
    · have january : daysBeforeMonth next 1 = 0 := rfl
      simp [yearFromMarch, monthFromMarch, january]
    · have february : daysBeforeMonth next 2 = 31 := rfl
      simp [yearFromMarch, monthFromMarch, february]
      omega

/-- A month goes on until its days are over, and February is the last one. -/
theorem monthLength_bounds (next : Int) {index days : Nat} (inYear : days ≤ 365)
    (last : days = 365 → isLeap next = true) (place : (5 * days + 2) / 153 = index) :
    days <
      (153 * index + 2) / 5 + monthLength (yearFromMarch next index) (monthFromMarch index) := by
  have known : index ≤ 11 := by omega
  by_cases february : index = 11
  · subst february
    have month : monthFromMarch 11 = 2 := rfl
    have year : yearFromMarch next 11 = next := rfl
    rw [month, year, monthLength]
    split <;> rename_i leap
    · omega
    · have notLast : days ≠ 365 := fun same => leap (last same)
      omega
  · interval_cases index <;> first | contradiction | (simp [monthFromMarch, monthLength]; omega)

/-! ## The date of a day -/

/-- The date of a day is found in its place among 400 years. -/
theorem ofDay_eq (day : Int) :
    ∃ (era : Int) (p : Place), day + 719468 = 146097 * era + p.dayOfEra ∧
      ofDay day =
        let next := era * 400 + p.yearOfEra + 1
        let index := (5 * p.day + 2) / 153
        ⟨yearFromMarch next index, monthFromMarch index,
          p.day - (153 * index + 2) / 5 + 1⟩ := by
  have quotient := Int.fdiv_eq_ediv_of_nonneg (day + 719468) (b := 146097) (by decide)
  have rest := Int.fmod_eq_emod_of_nonneg (day + 719468) (b := 146097) (by decide)
  have short : ((day + 719468).fmod 146097).toNat < 146097 := by omega
  obtain ⟨p, place⟩ := Place.exists_dayOfEra short
  refine ⟨(day + 719468).fdiv 146097, p, by omega, ?_⟩
  have year := p.yearOfEra_eq
  have dayOfYear := p.day_eq
  simp only [ofDay, ← place, year, dayOfYear, yearFromMarch, monthFromMarch, Int.add_sub_cancel]

theorem toDay_ofDay (day : Int) : (ofDay day).toDay = day := by
  obtain ⟨era, p, place, date⟩ := ofDay_eq day
  have inYear := p.day_le
  have years := p.daysBeforeYear_eq era
  have known : (5 * p.day + 2) / 153 ≤ 11 := by omega
  have months := daysBefore_eq (era * 400 + p.yearOfEra + 1) known
  have start : daysBeforeYear 1970 = 719162 := by decide
  rw [date]
  simp only [toDay, start]
  omega

theorem isValid_ofDay (day : Int) : (ofDay day).isValid = true := by
  obtain ⟨era, p, -, date⟩ := ofDay_eq day
  have inYear := p.day_le
  have inMonth := monthLength_bounds (era * 400 + p.yearOfEra + 1) inYear
    (p.isLeap_of_last era) rfl
  have month : 1 ≤ monthFromMarch ((5 * p.day + 2) / 153) ∧
      monthFromMarch ((5 * p.day + 2) / 153) ≤ 12 := by
    unfold monthFromMarch
    split <;> omega
  rw [date]
  simp only [isValid, Bool.and_eq_true, decide_eq_true_eq]
  omega

end FleetWatch.Timestamp.Date
