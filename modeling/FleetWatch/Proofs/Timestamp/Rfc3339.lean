import FleetWatch.Proofs.Binary64.Digits
import FleetWatch.Proofs.Timestamp.Calendar

/-! # Times read back

A reader of the texts of RFC 3339 in Coordinated Universal Time. Each of its parts takes what stands
at the start of a text and gives a number and the text behind it, so the parts of a written time are
read one after the other, whatever follows them.
-/

namespace FleetWatch.Timestamp

/-! ## Reading -/

/-- A year with a sign or without, of at least four digits. -/
def year? (text : List Char) : Option (Int × List Char) :=
  let (negative, body) := Binary64.splitSign text
  let digits := body.takeWhile Digits.isDigit
  if digits.length < 4 then none
  else some (if negative then -(Digits.toNat digits : Int) else Digits.toNat digits,
    body.dropWhile Digits.isDigit)

/-- Two digits behind a mark. -/
def field? (mark : Char) : List Char → Option (Nat × List Char)
  | m :: a :: b :: rest =>
    if m = mark ∧ Digits.isDigit a ∧ Digits.isDigit b then some (Digits.toNat [a, b], rest)
    else none
  | _ => none

/-- The nanoseconds of a fraction of up to nine digits, none when there is no point. -/
def fraction? : List Char → Option (Nat × List Char)
  | '.' :: rest =>
    let digits := rest.takeWhile Digits.isDigit
    if digits.isEmpty || 9 < digits.length then none
    else some (Digits.toNat digits * 10 ^ (9 - digits.length), rest.dropWhile Digits.isDigit)
  | text => some (0, text)

/-- The time that a text denotes. Its date has to be one of the calendar, and a sixtieth second is
the leap second behind the one before. -/
def ofRfc3339? (text : String) : Option Timestamp := do
  let (year, text) ← year? text.toList
  let (month, text) ← field? '-' text
  let (day, text) ← field? '-' text
  let (hour, text) ← field? 'T' text
  let (minute, text) ← field? ':' text
  let (second, text) ← field? ':' text
  let (nanos, zone) ← fraction? text
  let date : Date := ⟨year, month, day⟩
  if date.isValid ∧ hour < 24 ∧ minute < 60 ∧ second ≤ 60 ∧ (zone = ['Z'] ∨ zone = "+00:00".toList)
  then
    let counted : Nat := 3600 * hour + 60 * minute + min second 59
    some ⟨secondsPerDay * date.toDay + counted, nanos + if second = 60 then nanosPerSecond else 0⟩
  else none

/-- Nanoseconds since the start of 1970, leap seconds not counted. -/
def sinceEpoch (t : Timestamp) : Int := t.seconds * nanosPerSecond + t.nanos

/-- A text denotes a time when it is read as the time, or as the same count of nanoseconds when the
time is in a leap second elsewhere than at the end of a minute. -/
def Denotes (text : String) (t : Timestamp) : Prop :=
  ∃ read, ofRfc3339? text = some read ∧ read.sinceEpoch = t.sinceEpoch ∧
    (t.nanos < nanosPerSecond ∨ t.secondOfDay % 60 = 59 → read = t)

/-- A time inside a leap second that is not the last one of its minute is the same fraction of the
next second. -/
def settled (t : Timestamp) : Timestamp :=
  if nanosPerSecond ≤ t.nanos ∧ t.secondOfDay % 60 ≠ 59 then
    ⟨t.seconds + 1, t.nanos - nanosPerSecond⟩
  else t

/-! ## What is written -/

theorem year?_yearText (year : Int) (rest : List Char) :
    year? (yearText year ++ '-' :: rest) = some (year, '-' :: rest) := by
  have stops : ∀ c ∈ ('-' :: rest).head?, Digits.isDigit c = false := by simp; decide
  have read (negative : Bool) (n : Nat) (text : List Char)
      (signed : Binary64.splitSign text = (negative, Digits.padded 4 n ++ '-' :: rest)) :
      year? text = some (if negative then -(n : Int) else n, '-' :: rest) := by
    have digits := fun c (listed : c ∈ Digits.padded 4 n) => Digits.isDigit_of_mem_padded listed
    have long := Digits.le_length_padded 4 n
    simp only [year?, signed, Digits.takeWhile_isDigit digits stops,
      Digits.dropWhile_isDigit digits stops, Digits.toNat_padded]
    rw [if_neg (by omega)]
  unfold yearText
  split
  · rename_i inRange
    have unsigned := Binary64.splitSign_of_isDigit (Digits.padded_ne_nil 4 year.toNat)
      (fun _ listed => Digits.isDigit_of_mem_padded listed) ('-' :: rest)
    rw [read false year.toNat _ unsigned]
    simp [inRange.1]
  · by_cases negative : year < 0
    · rw [if_pos negative, read true year.natAbs _ rfl, if_pos rfl]
      congr 2
      omega
    · rw [if_neg negative, read false year.natAbs _ rfl, if_neg (by simp)]
      congr 2
      omega

theorem field?_padded (mark : Char) {n : Nat} (fits : n < 100) (rest : List Char) :
    field? mark (mark :: (Digits.padded 2 n ++ rest)) = some (n, rest) := by
  have size : (Digits.padded 2 n).length = 2 := Digits.length_padded (by decide) fits
  have value := Digits.toNat_padded 2 n
  have digits := fun c (listed : c ∈ Digits.padded 2 n) =>
    Digits.isDigit_of_isDigit (Digits.isDigit_of_mem_padded listed)
  match Digits.padded 2 n, size, value, digits with
  | [a, b], _, value, digits => simp [field?, digits a, digits b, value]

section Fractions

variable {rest : List Char} (stops : ∀ c ∈ rest.head?, Digits.isDigit c = false)
include stops

theorem fraction?_padded {width n : Nat} (positive : 0 < width) (nine : width ≤ 9)
    (fits : n < 10 ^ width) :
    fraction? ('.' :: Digits.padded width n ++ rest) = some (n * 10 ^ (9 - width), rest) := by
  have digits := fun c (listed : c ∈ Digits.padded width n) => Digits.isDigit_of_mem_padded listed
  have size := Digits.length_padded positive fits
  have filled : (Digits.padded width n).isEmpty = false :=
    List.isEmpty_eq_false_iff.mpr (Digits.padded_ne_nil width n)
  have fine : ¬9 < width := by omega
  simp [fraction?, Digits.takeWhile_isDigit digits stops, Digits.dropWhile_isDigit digits stops,
    Digits.toNat_padded, filled, size, fine]

theorem fraction?_fractionText {nanos : Nat} (short : nanos < nanosPerSecond)
    (noPoint : rest.head? ≠ some '.') :
    fraction? (fractionText nanos ++ rest) = some (nanos, rest) := by
  unfold nanosPerSecond at short
  unfold fractionText
  split
  · rename_i zero
    rw [zero, List.nil_append]
    unfold fraction?
    split
    · simp at noPoint
    · rfl
  · split
    · rw [fraction?_padded stops (by decide) (by decide) (by omega)]
      congr 2
      omega
    · split
      · rw [fraction?_padded stops (by decide) (by decide) (by omega)]
        congr 2
        omega
      · rw [fraction?_padded stops (by decide) (by decide) (by omega)]
        simp

end Fractions

/-! ## Whole times -/

theorem seconds_eq (t : Timestamp) :
    t.seconds = secondsPerDay * t.day + t.secondOfDay ∧ t.secondOfDay < secondsPerDay := by
  have quotient := Int.fdiv_eq_ediv_of_nonneg t.seconds (b := secondsPerDay) (by decide)
  have rest := Int.fmod_eq_emod_of_nonneg t.seconds (b := secondsPerDay) (by decide)
  simp only [day, secondOfDay, secondsPerDay] at *
  omega

theorem clock_bounds {t : Timestamp} (fraction : t.nanos < 2 * nanosPerSecond) :
    t.clock.1 < 24 ∧ t.clock.2.1 < 60 ∧ t.clock.2.2 ≤ 60 := by
  have inDay := t.seconds_eq.2
  simp only [clock, secondsPerDay, nanosPerSecond] at *
  omega

theorem settled_eq {t : Timestamp} (fraction : t.nanos < 2 * nanosPerSecond) :
    t.settled =
      ⟨secondsPerDay * t.day +
          (3600 * t.clock.1 + 60 * t.clock.2.1 + min t.clock.2.2 59 : Nat),
        t.nanos % nanosPerSecond + if t.clock.2.2 = 60 then nanosPerSecond else 0⟩ := by
  obtain ⟨seconds, inDay⟩ := t.seconds_eq
  have sameSeconds (minutes : t.clock.2.2 = t.secondOfDay % 60 ∨ t.secondOfDay % 60 = 59) :
      t.seconds = secondsPerDay * t.day +
        (3600 * t.clock.1 + 60 * t.clock.2.1 + min t.clock.2.2 59 : Nat) := by
    simp only [clock, secondsPerDay, nanosPerSecond] at *
    omega
  unfold settled
  split
  · rename_i inLeap
    have next : t.clock.2.2 ≠ 60 := by
      simp only [clock, nanosPerSecond] at *
      omega
    rw [if_neg next]
    simp only [clock, secondsPerDay, nanosPerSecond, mk.injEq] at *
    omega
  · rename_i plain
    have whole : t.clock.2.2 = t.secondOfDay % 60 ∨ t.secondOfDay % 60 = 59 := by
      simp only [clock, nanosPerSecond] at *
      omega
    have nanos : t.nanos =
        t.nanos % nanosPerSecond + if t.clock.2.2 = 60 then nanosPerSecond else 0 := by
      by_cases leap : t.clock.2.2 = 60
      · rw [if_pos leap]
        simp only [clock, nanosPerSecond] at *
        omega
      · rw [if_neg leap]
        simp only [clock, nanosPerSecond] at *
        omega
    rw [← sameSeconds whole, ← nanos]

theorem date_bounds {d : Date} (valid : d.isValid = true) : d.month < 100 ∧ d.day < 100 := by
  simp only [Date.isValid, Bool.and_eq_true, decide_eq_true_eq] at valid
  have length : Date.monthLength d.year d.month ≤ 31 := by
    unfold Date.monthLength
    split <;> (try split) <;> omega
  omega

theorem toList_rfc3339 (t : Timestamp) (zone : String) :
    (t.rfc3339 zone).toList =
      yearText (Date.ofDay t.day).year ++ '-' :: (Digits.padded 2 (Date.ofDay t.day).month ++
        '-' :: (Digits.padded 2 (Date.ofDay t.day).day ++
          'T' :: (Digits.padded 2 t.clock.1 ++ ':' :: (Digits.padded 2 t.clock.2.1 ++
            ':' :: (Digits.padded 2 t.clock.2.2 ++
              (fractionText (t.nanos % nanosPerSecond) ++ zone.toList)))))) := by
  simp only [rfc3339, clockText, String.toList_ofList, List.append_assoc, List.cons_append]

theorem ofRfc3339?_rfc3339 {t : Timestamp} (fraction : t.nanos < 2 * nanosPerSecond) {zone : String}
    (utc : zone = "Z" ∨ zone = "+00:00") : ofRfc3339? (t.rfc3339 zone) = some t.settled := by
  have valid := Date.isValid_ofDay t.day
  have date := Date.toDay_ofDay t.day
  obtain ⟨month, day⟩ := date_bounds valid
  obtain ⟨hour, minute, second⟩ := clock_bounds fraction
  obtain ⟨mark, others, written, other, noPoint⟩ : ∃ mark others, zone.toList = mark :: others ∧
      Digits.isDigit mark = false ∧ mark ≠ '.' := by
    rcases utc with rfl | rfl
    · exact ⟨'Z', [], rfl, rfl, by decide⟩
    · exact ⟨'+', _, rfl, rfl, by decide⟩
  have stops : ∀ c ∈ zone.toList.head?, Digits.isDigit c = false := by simpa [written] using other
  have noPoint : zone.toList.head? ≠ some '.' := by simpa [written] using noPoint
  have ends : zone.toList = ['Z'] ∨ zone.toList = "+00:00".toList := by
    rcases utc with rfl | rfl
    · exact .inl rfl
    · exact .inr rfl
  have part : t.nanos % nanosPerSecond < nanosPerSecond := Nat.mod_lt _ (by decide)
  simp only [ofRfc3339?, toList_rfc3339, year?_yearText, Option.bind_eq_bind, Option.bind_some,
    field?_padded _ month, field?_padded _ day, field?_padded _ (Nat.lt_trans hour (by decide)),
    field?_padded _ (Nat.lt_trans minute (by decide)),
    field?_padded _ (Nat.lt_of_le_of_lt second (by decide)),
    fraction?_fractionText stops part noPoint]
  rw [if_pos ⟨valid, hour, minute, second, ends⟩, date, settled_eq fraction]

theorem sinceEpoch_settled (t : Timestamp) : t.settled.sinceEpoch = t.sinceEpoch := by
  unfold settled
  split
  · simp only [sinceEpoch, nanosPerSecond] at *
    omega
  · rfl

/-- The text of a time denotes it, whichever of the two marks for the zone it has. -/
theorem denotes_rfc3339 {t : Timestamp} (fraction : t.nanos < 2 * nanosPerSecond) {zone : String}
    (utc : zone = "Z" ∨ zone = "+00:00") : Denotes (t.rfc3339 zone) t := by
  refine ⟨t.settled, ofRfc3339?_rfc3339 fraction utc, t.sinceEpoch_settled, fun plain => ?_⟩
  refine if_neg fun inLeap => ?_
  rcases plain with short | last
  · exact absurd inLeap.1 (Nat.not_le.mpr short)
  · exact inLeap.2 last

end FleetWatch.Timestamp
