import FleetWatch.Binary64.Decimal
import Mathlib.Algebra.Order.Group.Nat
import Mathlib.Data.List.TakeWhile
import Mathlib.Tactic.Ring

/-! # Digits read back

The digits of a natural number, with zeros in front or without, have its value, and they are read up
to the first character that is no digit.
-/

namespace FleetWatch.Digits

theorem value?_of_isDigit {c : Char} (digit : c.isDigit = true) :
    value? c = some (c.toNat - '0'.toNat) := by
  have bounds : 48 ≤ c.val ∧ c.val ≤ 57 := by simpa [Char.isDigit] using digit
  exact if_pos bounds

theorem isDigit_of_isDigit {c : Char} (digit : c.isDigit = true) : isDigit c = true := by
  rw [isDigit, value?_of_isDigit digit]
  rfl

/-! ## Values -/

theorem toNat_eq {digits : List Char} (all : ∀ c ∈ digits, c.isDigit = true) :
    toNat digits = Nat.ofDigitChars 10 digits 0 := by
  have same : ∀ n, digits.foldl (fun n c => 10 * n + (value? c).getD 0) n =
      Nat.ofDigitChars 10 digits n := by
    induction digits with
    | nil => exact fun _ => rfl
    | cons c digits ih =>
        intro n
        have others := ih fun d listed => all d (List.mem_cons_of_mem _ listed)
        rw [List.foldl_cons, value?_of_isDigit (all c List.mem_cons_self), others,
          Nat.ofDigitChars_cons]
        rfl
  exact same 0

theorem isDigit_of_mem_ofNat {n : Nat} {c : Char} (listed : c ∈ ofNat n) : c.isDigit = true :=
  Nat.isDigit_of_mem_toDigits (by decide) (by decide) listed

theorem ofNat_ne_nil (n : Nat) : ofNat n ≠ [] := Nat.toDigits_ne_nil

theorem toNat_ofNat (n : Nat) : toNat (ofNat n) = n := by
  rw [toNat_eq fun _ listed => isDigit_of_mem_ofNat listed]
  exact Nat.ofDigitChars_ten_toDigits

theorem toNat_concat_zero (digits : List Char) : toNat (digits ++ ['0']) = 10 * toNat digits := by
  rw [toNat, List.foldl_append]
  rfl

theorem ofNat_append_zeros {n : Nat} (positive : 0 < n) (zeros : Nat) :
    ofNat n ++ List.replicate zeros '0' = ofNat (n * 10 ^ zeros) := by
  induction zeros with
  | zero => simp
  | succ zeros ih =>
      have many : 0 < n * 10 ^ zeros := Nat.mul_pos positive (Nat.pow_pos (by decide))
      have next : ofNat (n * 10 ^ zeros) ++ ofNat 0 = ofNat (10 * (n * 10 ^ zeros) + 0) :=
        Nat.toDigits_append_toDigits (by decide) many (by decide)
      have product : 10 * (n * 10 ^ zeros) + 0 = n * 10 ^ (zeros + 1) := by ring
      rw [List.replicate_succ', ← List.append_assoc, ih, ← product, ← next]
      rfl

/-! ## Zeros in front -/

theorem isDigit_of_mem_padded {width n : Nat} {c : Char} (listed : c ∈ padded width n) :
    c.isDigit = true := by
  rcases List.mem_append.mp listed with zero | digit
  · rw [List.eq_of_mem_replicate zero]
    rfl
  · exact isDigit_of_mem_ofNat digit

theorem toNat_padded (width n : Nat) : toNat (padded width n) = n := by
  rw [toNat_eq fun _ listed => isDigit_of_mem_padded listed, padded, Nat.ofDigitChars_append,
    Nat.ofDigitChars_replicate_zero, Nat.mul_zero]
  exact Nat.ofDigitChars_ten_toDigits

theorem padded_ne_nil (width n : Nat) : padded width n ≠ [] :=
  List.append_ne_nil_of_right_ne_nil _ (ofNat_ne_nil n)

theorem le_length_padded (width n : Nat) : width ≤ (padded width n).length := by
  simp only [padded, List.length_append, List.length_replicate]
  omega

theorem length_padded {width n : Nat} (positive : 0 < width) (fits : n < 10 ^ width) :
    (padded width n).length = width := by
  have short : (ofNat n).length ≤ width :=
    (Nat.length_toDigits_le_iff (by decide) positive).mpr fits
  simp only [padded, List.length_append, List.length_replicate]
  omega

/-! ## Up to the first other character -/

section Prefix

variable {digits rest : List Char}

theorem takeWhile_isDigit (all : ∀ c ∈ digits, c.isDigit = true)
    (stops : ∀ c ∈ rest.head?, isDigit c = false) :
    (digits ++ rest).takeWhile isDigit = digits := by
  have nothing : rest.takeWhile isDigit = [] := by
    cases rest with
    | nil => rfl
    | cons c rest => rw [List.takeWhile_cons_of_neg (by simp [stops c rfl])]
  rw [List.takeWhile_append_of_pos fun c listed => isDigit_of_isDigit (all c listed), nothing,
    List.append_nil]

theorem dropWhile_isDigit (all : ∀ c ∈ digits, c.isDigit = true)
    (stops : ∀ c ∈ rest.head?, isDigit c = false) :
    (digits ++ rest).dropWhile isDigit = rest := by
  rw [List.dropWhile_append_of_pos fun c listed => isDigit_of_isDigit (all c listed)]
  cases rest with
  | nil => rfl
  | cons c rest => rw [List.dropWhile_cons_of_neg (by simp [stops c rfl])]

end Prefix

end FleetWatch.Digits

namespace FleetWatch.Binary64

theorem ne_sign_of_isDigit {c : Char} (digit : c.isDigit = true) : c ≠ '-' ∧ c ≠ '+' := by
  constructor <;> rintro rfl <;> cases digit

theorem splitSign_of_unsigned {text : List Char} (unsigned : ∀ c ∈ text.head?, c ≠ '-' ∧ c ≠ '+') :
    splitSign text = (false, text) := by
  unfold splitSign
  split
  · exact absurd rfl (unsigned '-' rfl).1
  · exact absurd rfl (unsigned '+' rfl).2
  · rfl

theorem splitSign_of_isDigit {digits : List Char} (filled : digits ≠ [])
    (all : ∀ c ∈ digits, c.isDigit = true) (rest : List Char) :
    splitSign (digits ++ rest) = (false, digits ++ rest) := by
  cases digits with
  | nil => contradiction
  | cons c others =>
      apply splitSign_of_unsigned
      intro d head
      obtain rfl := Option.some.inj head
      exact ne_sign_of_isDigit (all c List.mem_cons_self)

end FleetWatch.Binary64
