import FleetWatch.Proofs.Binary64.Digits
import FleetWatch.Proofs.Binary64.Nearest
import Mathlib.Data.List.Basic

/-! # Literals of numbers

A literal is a sign, which may be left out, and then a name or a decimal: digits with at most one
point among them, at least one digit, and maybe an exponent. Main statement: these are the texts
that are read, and a decimal is read as the number nearest to it. A literal of a finite number ends
in a digit or a point.
-/

namespace FleetWatch

theorem Digits.isDigit_iff {c : Char} : isDigit c = true ↔ c.isDigit = true := by
  constructor
  · intro digit
    by_cases bounds : '0' ≤ c ∧ c ≤ '9'
    · have codes : 48 ≤ c.val ∧ c.val ≤ 57 := bounds
      simpa [Char.isDigit] using codes
    · simp [isDigit, value?, bounds] at digit
  · exact isDigit_of_isDigit

namespace Binary64

/-- Digits and nothing else, maybe not even digits. -/
def AllDigits (text : List Char) : Prop := ∀ c ∈ text, c.isDigit = true

inductive Sign : List Char → Bool → Prop where
  | unsaid : Sign [] false
  | plus : Sign ['+'] false
  | minus : Sign ['-'] true

/-- The power of ten behind a decimal. -/
inductive Power : List Char → Int → Prop where
  | unsaid : Power [] 0
  | said {mark : Char} {sign digits : List Char} {negative : Bool}
      (isMark : mark = 'e' ∨ mark = 'E') (isSign : Sign sign negative) (filled : digits ≠ [])
      (all : AllDigits digits) :
      Power (mark :: (sign ++ digits)) (signedUnits negative (Digits.toNat digits))

/-- The digits of a decimal without its point, and how many of them stand behind it. -/
inductive Significand : List Char → List Char → Nat → Prop where
  | whole {digits : List Char} (filled : digits ≠ []) (all : AllDigits digits) :
      Significand digits digits 0
  | pointed {whole places : List Char} (filled : whole ++ places ≠ [])
      (all : AllDigits (whole ++ places)) :
      Significand (whole ++ '.' :: places) (whole ++ places) places.length

inductive Literal : List Char → Binary64 → Prop where
  | decimal {sign significand power digits : List Char} {negative : Bool} {places : Nat}
      {exponent : Int} (isSign : Sign sign negative)
      (isSignificand : Significand significand digits places) (isPower : Power power exponent) :
      Literal (sign ++ (significand ++ power))
        (nearest negative (Digits.toNat digits) (exponent - places))
  | infinite {sign name : List Char} {negative : Bool} (isSign : Sign sign negative)
      (isName : name.map Char.toLower = "inf".toList ∨ name.map Char.toLower = "infinity".toList) :
      Literal (sign ++ name) (.infinite negative)
  | nan {sign name : List Char} {negative : Bool} (isSign : Sign sign negative)
      (isName : name.map Char.toLower = "nan".toList) : Literal (sign ++ name) .nan

variable {text sign rest name : List Char} {negative : Bool}

/-! ## Signs -/

theorem exists_sign (text : List Char) :
    ∃ sign, Sign sign (splitSign text).1 ∧ text = sign ++ (splitSign text).2 := by
  unfold splitSign
  split
  · exact ⟨['-'], .minus, rfl⟩
  · exact ⟨['+'], .plus, rfl⟩
  · exact ⟨[], .unsaid, rfl⟩

theorem Sign.split (isSign : Sign sign negative)
    (unsigned : ∀ c ∈ rest.head?, c ≠ '-' ∧ c ≠ '+') :
    splitSign (sign ++ rest) = (negative, rest) := by
  cases isSign with
  | plus | minus => rfl
  | unsaid =>
      rw [List.nil_append]
      exact splitSign_of_unsigned unsigned

/-! ## Exponents -/

theorem exponent?_eq_some_iff {e : Int} : exponent? text = some e ↔ Power text e := by
  constructor
  · intro read
    cases text with
    | nil =>
        cases read
        exact .unsaid
    | cons mark rest =>
        obtain ⟨sign, isSign, parted⟩ := exists_sign rest
        simp only [exponent?] at read
        split at read
        · rename_i isMark
          split at read
          · cases read
          · rename_i kept
            rw [Option.some.injEq] at read
            simp only [Bool.or_eq_true, List.isEmpty_iff, Bool.not_eq_true', not_or,
              Bool.not_eq_false, List.all_eq_true, Digits.isDigit_iff] at kept
            rw [parted, ← read]
            exact .said isMark isSign kept.1 kept.2
        · cases read
  · intro power
    cases power with
    | unsaid => rfl
    | @said mark sign digits negative isMark isSign filled all =>
        have unsigned : ∀ c ∈ digits.head?, c ≠ '-' ∧ c ≠ '+' := fun c head =>
          ne_sign_of_isDigit (all c (List.mem_of_mem_head? head))
        have read : digits.all Digits.isDigit = true :=
          List.all_eq_true.mpr fun c listed => Digits.isDigit_iff.mpr (all c listed)
        simp [exponent?, isMark, isSign.split unsigned, filled, read, signedUnits]

theorem Power.stops {e : Int} (power : Power text e) :
    ∀ c ∈ text.head?, Digits.isDigit c = false ∧ c ≠ '.' := by
  intro c head
  cases power with
  | unsaid => cases head
  | said isMark =>
      obtain rfl := Option.some.inj head
      rcases isMark with rfl | rfl <;> decide

/-! ## Decimals -/

theorem Significand.exists_first {digits : List Char} {places : Nat}
    (significand : Significand text digits places) (rest : List Char) :
    ∃ c others, text ++ rest = c :: others ∧ (c.isDigit = true ∨ c = '.') := by
  cases significand with
  | whole filled all =>
      obtain ⟨c, others, rfl⟩ := List.exists_cons_of_ne_nil filled
      exact ⟨c, others ++ rest, rfl, .inl (all c List.mem_cons_self)⟩
  | @pointed whole places filled all =>
      cases whole with
      | nil => exact ⟨'.', places ++ rest, rfl, .inr rfl⟩
      | cons c others =>
          exact ⟨c, others ++ '.' :: places ++ rest, by simp, .inl (all c (by simp))⟩

/-- No digit comes first. -/
def Stops (text : List Char) : Prop := ∀ c ∈ text.head?, Digits.isDigit c = false

theorem exists_digits (text : List Char) :
    ∃ digits rest, text = digits ++ rest ∧ AllDigits digits ∧ Stops rest := by
  refine ⟨text.takeWhile Digits.isDigit, text.dropWhile Digits.isDigit,
    List.takeWhile_append_dropWhile.symm, ?_, ?_⟩
  · intro c listed
    exact Digits.isDigit_iff.mp (List.mem_takeWhile_imp listed)
  · intro c head
    have stopped := List.head?_dropWhile_not Digits.isDigit text
    rw [head] at stopped
    simpa using stopped

section Digits

variable {whole places tail : List Char} (all : AllDigits whole) (stops : Stops tail)
include all stops

theorem unsigned?_whole_append (noPoint : ∀ c ∈ tail.head?, c ≠ '.') :
    unsigned? negative (whole ++ tail) =
      if whole = [] then none
      else (exponent? tail).map fun e => nearest negative (Digits.toNat whole) e := by
  unfold unsigned?
  rw [Digits.takeWhile_isDigit all stops, Digits.dropWhile_isDigit all stops]
  cases tail with
  | nil => simp [ofDecimal_eq]
  | cons c tail =>
      have other : c ≠ '.' := noPoint c rfl
      simp [ofDecimal_eq, other]

theorem unsigned?_pointed_append (all' : AllDigits places) :
    unsigned? negative (whole ++ '.' :: (places ++ tail)) =
      if whole ++ places = [] then none
      else (exponent? tail).map fun e =>
        nearest negative (Digits.toNat (whole ++ places)) (e - places.length) := by
  have stops' : Stops ('.' :: (places ++ tail)) := by
    intro c head
    obtain rfl := Option.some.inj head
    decide
  unfold unsigned?
  rw [Digits.takeWhile_isDigit all stops', Digits.dropWhile_isDigit all stops']
  simp [Digits.takeWhile_isDigit all' stops, Digits.dropWhile_isDigit all' stops, ofDecimal_eq]

end Digits

/-- Digits are read up to the point and behind it, and the rest is the exponent. -/
theorem unsigned?_eq_some_iff {number : Binary64} :
    unsigned? negative text = some number ↔ ∃ significand power digits places exponent,
      text = significand ++ power ∧ Significand significand digits places ∧ Power power exponent ∧
        nearest negative (Digits.toNat digits) (exponent - places) = number := by
  constructor
  · intro read
    obtain ⟨whole, rest, rfl, all, stops⟩ := exists_digits text
    by_cases pointed : '.' ∈ rest.head?
    · obtain ⟨more, rfl⟩ := List.head?_eq_some_iff.mp pointed
      obtain ⟨places, tail, rfl, all', stops'⟩ := exists_digits more
      rw [unsigned?_pointed_append all stops' all'] at read
      split at read
      · cases read
      · rename_i filled
        obtain ⟨e, isPower, isNumber⟩ := Option.map_eq_some_iff.mp read
        have both : AllDigits (whole ++ places) := List.forall_mem_append.mpr ⟨all, all'⟩
        exact ⟨_, tail, _, _, e, by simp, .pointed filled both, exponent?_eq_some_iff.mp isPower,
          isNumber⟩
    · have noPoint : ∀ c ∈ rest.head?, c ≠ '.' := by
        rintro c head rfl
        exact pointed head
      rw [unsigned?_whole_append all stops noPoint] at read
      split at read
      · cases read
      · rename_i filled
        obtain ⟨e, isPower, isNumber⟩ := Option.map_eq_some_iff.mp read
        exact ⟨whole, rest, whole, 0, e, rfl, .whole filled all, exponent?_eq_some_iff.mp isPower,
          by simpa using isNumber⟩
  · rintro ⟨significand, power, digits, places, exponent, rfl, isSignificand, isPower, isNumber⟩
    have stops : Stops power := fun c head => (isPower.stops c head).1
    have noPoint : ∀ c ∈ power.head?, c ≠ '.' := fun c head => (isPower.stops c head).2
    have read := exponent?_eq_some_iff.mpr isPower
    cases isSignificand with
    | whole filled all =>
        rw [unsigned?_whole_append all stops noPoint, if_neg filled, read]
        simpa using isNumber
    | @pointed whole places filled all =>
        have front : AllDigits whole := fun c listed => all c (List.mem_append_left _ listed)
        have behind : AllDigits places := fun c listed => all c (List.mem_append_right _ listed)
        rw [List.append_assoc, List.cons_append, unsigned?_pointed_append front stops behind,
          if_neg filled, read]
        exact congrArg some isNumber

theorem unsigned?_whole {n : Nat} (small : n < 2 ^ 53) :
    unsigned? false (Digits.ofNat n ++ ['.', '0']) = some (whole n) := by
  have all : AllDigits (Digits.ofNat n ++ ['0']) := by
    intro c listed
    rcases List.mem_append.mp listed with digit | zero
    · exact Digits.isDigit_of_mem_ofNat digit
    · rw [List.mem_singleton.mp zero]
      rfl
  have value : Digits.toNat (Digits.ofNat n ++ ['0']) = n * 10 := by
    rw [Digits.toNat_concat_zero, Digits.toNat_ofNat, Nat.mul_comm]
  have tenth : nearest false (n * 10) (0 - (['0'].length : Nat)) = whole n := by
    have read : round false (n * one * 10) 10 = whole n := round_whole small (by decide)
    rw [← read, Nat.mul_right_comm]
    simp [nearest]
  rw [← value] at tenth
  exact unsigned?_eq_some_iff.mpr ⟨_, [], _, _, 0, (List.append_nil _).symm,
    .pointed (by simp) all, .unsaid, tenth⟩

/-! ## Names -/

theorem ofList_eq_iff {s : String} : String.ofList name = s ↔ name = s.toList := by
  constructor
  · rintro rfl
    exact String.toList_ofList.symm
  · rintro rfl
    exact String.ofList_toList

theorem named?_eq (name : List Char) :
    named? name =
      if name.map Char.toLower = "inf".toList ∨ name.map Char.toLower = "infinity".toList then
        some infinite
      else if name.map Char.toLower = "nan".toList then some fun _ => nan
      else none := by
  unfold named?
  split <;> simp_all [ofList_eq_iff]

theorem toLower_of_isDigit {c : Char} (digit : c.isDigit = true) : c.toLower = c := by
  have bounds : 48 ≤ c.val ∧ c.val ≤ 57 := by simpa [Char.isDigit] using digit
  have small : ¬ (c.val ≥ 'A'.val ∧ c.val ≤ 'Z'.val) := by
    rintro ⟨above, -⟩
    exact absurd (UInt32.le_trans above bounds.2) (by decide)
  exact dif_neg small

theorem named?_of_numeral {c : Char} (numeral : c.isDigit = true ∨ c = '.') (others : List Char) :
    named? (c :: others) = none := by
  have same : c.toLower = c := by
    rcases numeral with digit | rfl
    · exact toLower_of_isDigit digit
    · rfl
  have letter : c ≠ 'i' ∧ c ≠ 'n' := by
    constructor <;> rintro rfl <;> simp at numeral
  simp [named?_eq, same, letter]

theorem unsigned_of_named {s : String} (isName : name.map Char.toLower = s.toList)
    (known : s ∈ ["inf", "infinity", "nan"]) :
    name ≠ [] ∧ ∀ c ∈ name.head?, c ≠ '-' ∧ c ≠ '+' := by
  have first : (name.map Char.toLower).head? = some 'i' ∨
      (name.map Char.toLower).head? = some 'n' := by
    rw [isName]
    simp only [List.mem_cons, List.not_mem_nil, or_false] at known
    rcases known with rfl | rfl | rfl <;> simp
  rw [List.head?_map] at first
  constructor
  · rintro rfl
    simp at first
  · intro c head
    rw [head] at first
    constructor <;> rintro rfl <;> exact absurd first (by decide)

/-! ## Reading -/

section Unsigned

variable {body : List Char} (isSign : Sign sign negative) (filled : body ≠ [])
  (unsigned : ∀ c ∈ body.head?, c ≠ '-' ∧ c ≠ '+')
include isSign filled unsigned

theorem parse_of_named {number : Bool → Binary64} (named : named? body = some number) :
    parse (sign ++ body) = .ok (number negative) := by
  simp [parse, filled, isSign.split unsigned, named]

theorem parse_of_unsigned {number : Binary64} (unnamed : named? body = none)
    (read : unsigned? negative body = some number) : parse (sign ++ body) = .ok number := by
  simp [parse, filled, isSign.split unsigned, unnamed, read]

end Unsigned

theorem literal_of_parse {number : Binary64} (read : parse text = .ok number) :
    Literal text number := by
  obtain ⟨sign, isSign, parted⟩ := exists_sign text
  unfold parse at read
  split at read
  · cases read
  · generalize splitSign text = body at read isSign parted
    obtain ⟨negative, body⟩ := body
    dsimp only at read isSign parted
    rw [named?_eq] at read
    rw [parted]
    by_cases infinite : body.map Char.toLower = "inf".toList ∨
        body.map Char.toLower = "infinity".toList
    · rw [if_pos infinite] at read
      cases read
      exact .infinite isSign infinite
    rw [if_neg infinite] at read
    by_cases isNan : body.map Char.toLower = "nan".toList
    · rw [if_pos isNan] at read
      cases read
      exact .nan isSign isNan
    rw [if_neg isNan] at read
    cases decimal : unsigned? negative body with
    | none => simp [decimal] at read
    | some found =>
        obtain ⟨significand, power, digits, places, exponent, rfl, isSignificand, isPower,
          isNumber⟩ := unsigned?_eq_some_iff.mp decimal
        simp only [decimal, Except.ok.injEq] at read
        rw [← read, ← isNumber]
        exact .decimal isSign isSignificand isPower

theorem Literal.parse_eq {number : Binary64} (literal : Literal text number) :
    parse text = .ok number := by
  cases literal with
  | @decimal _ significand power digits negative places exponent isSign isSignificand isPower =>
      obtain ⟨c, others, body, numeral⟩ := isSignificand.exists_first power
      have unsigned : ∀ d ∈ (significand ++ power).head?, d ≠ '-' ∧ d ≠ '+' := by
        intro d head
        rw [body] at head
        obtain rfl := Option.some.inj head
        rcases numeral with digit | rfl
        · exact ne_sign_of_isDigit digit
        · decide
      have read : unsigned? negative (significand ++ power) =
          some (nearest negative (Digits.toNat digits) (exponent - places)) :=
        unsigned?_eq_some_iff.mpr
          ⟨significand, power, digits, places, exponent, rfl, isSignificand, isPower, rfl⟩
      have unnamed : named? (significand ++ power) = none := by
        rw [body]
        exact named?_of_numeral numeral others
      exact parse_of_unsigned isSign (by simp [body]) unsigned unnamed read
  | infinite isSign isName =>
      have unsigned := isName.elim (unsigned_of_named · (by simp)) (unsigned_of_named · (by simp))
      have named := (named?_eq _).trans (if_pos isName)
      exact parse_of_named isSign unsigned.1 unsigned.2 named
  | @nan sign name negative isSign isName =>
      have unsigned := unsigned_of_named isName (by simp)
      have named := named?_eq name
      rw [isName] at named
      exact parse_of_named isSign unsigned.1 unsigned.2 named

/-- A text is read as a number exactly if it is a literal of it. -/
theorem parse_eq_ok_iff {number : Binary64} : parse text = .ok number ↔ Literal text number :=
  ⟨literal_of_parse, Literal.parse_eq⟩

/-! ## How literals end -/

theorem AllDigits.exists_last {digits : List Char} (all : AllDigits digits) (filled : digits ≠ []) :
    ∃ front c, digits = front ++ [c] ∧ c.isDigit = true := by
  rcases List.eq_nil_or_concat' digits with rfl | ⟨front, c, rfl⟩
  · exact absurd rfl filled
  · exact ⟨front, c, rfl, all c (by simp)⟩

theorem Significand.exists_last {digits : List Char} {places : Nat}
    (significand : Significand text digits places) :
    ∃ front c, text = front ++ [c] ∧ (c.isDigit = true ∨ c = '.') := by
  cases significand with
  | whole filled all =>
      obtain ⟨front, c, last, digit⟩ := all.exists_last filled
      exact ⟨front, c, last, .inl digit⟩
  | @pointed whole places filled all =>
      rcases List.eq_nil_or_concat' places with rfl | ⟨front, c, rfl⟩
      · exact ⟨whole, '.', rfl, .inr rfl⟩
      · exact ⟨whole ++ '.' :: front, c, by simp, .inl (all c (by simp))⟩

/-- Only names end in letters, and no name is that of a finite number. -/
theorem Literal.exists_last {number : Binary64} (literal : Literal text number)
    (finite : number.isFinite = true) :
    ∃ front c, text = front ++ [c] ∧ (c.isDigit = true ∨ c = '.') := by
  cases literal with
  | @decimal sign significand power digits negative places exponent isSign isSignificand isPower =>
      cases isPower with
      | unsaid =>
          obtain ⟨front, c, rfl, numeral⟩ := isSignificand.exists_last
          exact ⟨sign ++ front, c, by simp, numeral⟩
      | @said mark sign' digits' negative' isMark isSign' filled all =>
          obtain ⟨front, c, rfl, digit⟩ := all.exists_last filled
          exact ⟨sign ++ (significand ++ mark :: (sign' ++ front)), c, by simp, .inl digit⟩
  | infinite => cases finite
  | nan => cases finite

end Binary64

end FleetWatch
