import FleetWatch.Cluster.Wire
import FleetWatch.Proofs.Json.Documents
import FleetWatch.Proofs.Text.Utf8

/-! # Strings and numbers read back

A text is escaped byte by byte, and each byte's escape is read without leaving the string and means
that byte. A natural number is written without zeros in front, which makes it one number of the
format, and its digits have its value.
-/

namespace FleetWatch.Json

open Token

/-! ## Strings -/

theorem isHex_hexDigit {n : Nat} (h : n < 16) : isHex (hexDigit n) = true := by
  have all : ∀ n < 16, isHex (hexDigit n) = true := by decide
  exact all n h

theorem hexValue?_hexDigit {n : Nat} (h : n < 16) : hexValue? (hexDigit n) = some n := by
  have all : ∀ n < 16, hexValue? (hexDigit n) = some n := by decide
  exact all n h

theorem scalarBytes_of_ascii {b : UInt8} (ascii : b < 0x80) : scalarBytes b.toNat = [b] := by
  have code : ∀ c ∈ [Char.ofNat b.toNat], c.toNat < 0x80 := by
    intro c listed
    rw [List.mem_singleton.mp listed, Utf8.toNat_ofNat_byte]
    exact ascii
  rw [scalarBytes, Utf8.ofChars_of_ascii code]
  simp [Utf8.toNat_ofNat_byte]

theorem escapeByte_cases (b : UInt8) :
    (∃ e, escapeByte b = [0x5c, e] ∧ isEscape e = true ∧ e ≠ 0x75 ∧
        ∀ rest, resolve? (0x5c :: e :: rest) = (resolve? rest).map (b :: ·)) ∨
      (b < 0x20 ∧ escapeByte b =
        [0x5c, 0x75, 0x30, 0x30, hexDigit (b.toNat / 16), hexDigit (b.toNat % 16)]) ∨
      (escapeByte b = [b] ∧ b ≠ 0x22 ∧ b ≠ 0x5c ∧ ¬ b < 0x20) := by
  unfold escapeByte
  split
  case h_8 =>
    rename_i quote backslash _ _ _ _ _
    split
    · rename_i low
      exact .inr (.inl ⟨low, rfl⟩)
    · rename_i high
      exact .inr (.inr ⟨rfl, quote, backslash, high⟩)
  all_goals exact .inl ⟨_, rfl, by decide, by decide, fun rest => by simp [resolve?]⟩

theorem isBody_escapeByte (b : UInt8) : IsBody (escapeByte b) := by
  intro read found rest
  rcases escapeByte_cases b with ⟨e, written, known, notU, -⟩ | ⟨low, written⟩ |
    ⟨written, quote, backslash, high⟩
  · simp [written, scanFrom?, step?, known, notU]
  · have low : b.toNat < 32 := low
    have first := isHex_hexDigit (n := b.toNat / 16) (by omega)
    have second := isHex_hexDigit (n := b.toNat % 16) (by omega)
    have zero : isHex 0x30 = true := by decide
    simp [written, scanFrom?, step?, zero, first, second]
  · simp [written, scanFrom?, step?, quote, backslash, high]

theorem isBody_quoted (s : String) : IsBody (quoted s) := by
  unfold quoted
  induction Utf8.bytes s with
  | nil => exact isBody_nil
  | cons b bytes ih => exact (isBody_escapeByte b).append ih

theorem resolve?_escapeByte (b : UInt8) (rest : Bytes) :
    resolve? (escapeByte b ++ rest) = (resolve? rest).map (b :: ·) := by
  rcases escapeByte_cases b with ⟨e, written, -, -, means⟩ | ⟨low, written⟩ |
    ⟨written, -, backslash, -⟩
  · rw [written]
    exact means rest
  · have low : b.toNat < 32 := low
    have first := hexValue?_hexDigit (n := b.toNat / 16) (by omega)
    have second := hexValue?_hexDigit (n := b.toNat % 16) (by omega)
    have value : hexQuad? 0x30 0x30 (hexDigit (b.toNat / 16)) (hexDigit (b.toNat % 16)) =
        some b.toNat := by
      have zero : hexValue? 0x30 = some 0 := by decide
      simp only [hexQuad?, zero, first, second, Option.bind_eq_bind, Option.bind_some]
      congr 1
      omega
    rw [written]
    simp only [List.cons_append, List.nil_append, resolve?, value]
    rw [if_neg (by omega), if_neg (by omega), scalarBytes_of_ascii (Nat.lt_trans low (by decide))]
    rfl
  · rw [written]
    simp [resolve?, backslash]

theorem unquoted?_quoted (s : String) : unquoted? (quoted s) = some s := by
  have resolved : ∀ bytes : Bytes, resolve? (bytes.flatMap escapeByte) = some bytes := by
    intro bytes
    induction bytes with
    | nil => rfl
    | cons b bytes ih => rw [List.flatMap_cons, resolve?_escapeByte, ih, Option.map_some]
  rw [unquoted?, quoted, resolved]
  exact Utf8.text?_bytes s

/-! ## Numbers -/

/-- The bytes of the digits of a natural number. -/
def decimal (n : Nat) : Bytes := Utf8.ofChars (Digits.ofNat n)

theorem isDigit_iff {b : UInt8} : isDigit b = true ↔ 48 ≤ b.toNat ∧ b.toNat ≤ 57 := by
  simp only [isDigit, Bool.and_eq_true, decide_eq_true_eq, UInt8.le_iff_toNat_le]
  rfl

theorem digit_bounds {n : Nat} {c : Char} (h : c ∈ Digits.ofNat n) :
    48 ≤ c.toNat ∧ c.toNat ≤ 57 := by
  have digit := Nat.isDigit_of_mem_toDigits (by decide) (by decide) h
  simpa [Char.isDigit, UInt32.le_iff_toNat_le] using digit

theorem decimal_eq (n : Nat) :
    decimal n = (Digits.ofNat n).map fun c => UInt8.ofNat c.toNat :=
  Utf8.ofChars_of_ascii fun _ listed => Nat.lt_of_le_of_lt (digit_bounds listed).2 (by decide)

theorem toNat_digit {n : Nat} {c : Char} (h : c ∈ Digits.ofNat n) :
    (UInt8.ofNat c.toNat).toNat = c.toNat :=
  UInt8.toNat_ofNat_of_lt' (Nat.lt_of_le_of_lt (digit_bounds h).2 (by decide))

theorem isDigit_decimal {n : Nat} {b : UInt8} (h : b ∈ decimal n) : isDigit b = true := by
  rw [decimal_eq, List.mem_map] at h
  obtain ⟨c, listed, rfl⟩ := h
  rw [isDigit_iff, toNat_digit listed]
  exact digit_bounds listed

theorem naturalOf?_decimal (n : Nat) : naturalOf? (decimal n) = some n := by
  have filled : decimal n ≠ [] := by
    rw [decimal_eq, ne_eq, List.map_eq_nil_iff]
    exact Nat.toDigits_ne_nil
  have digits : (decimal n).all isDigit = true :=
    List.all_eq_true.mpr fun b listed => isDigit_decimal listed
  have codes : (decimal n).map UInt8.toNat = (Digits.ofNat n).map Char.toNat := by
    rw [decimal_eq, List.map_map]
    exact List.map_congr_left fun c listed => toNat_digit listed
  have value : (decimal n).foldl (fun m b => 10 * m + (b.toNat - 48)) 0 = n := by
    calc (decimal n).foldl (fun m b => 10 * m + (b.toNat - 48)) 0
      _ = ((decimal n).map UInt8.toNat).foldl (fun m code => 10 * m + (code - 48)) 0 := by
          rw [List.foldl_map]
      _ = ((Digits.ofNat n).map Char.toNat).foldl (fun m code => 10 * m + (code - 48)) 0 := by
          rw [codes]
      _ = (Digits.ofNat n).foldl (fun m c => 10 * m + (c.toNat - 48)) 0 := by
          rw [List.foldl_map]
      _ = n := Nat.ofDigitChars_ten_toDigits
  simp [naturalOf?, filled, digits, value]

theorem scanFrom?_complete {part : NumberPart} (complete : part.isComplete = true) (read : Bytes)
    (found : List Token) {rest : Bytes} (ends : Ends rest) :
    scanFrom? (.number part read) found rest =
      scanFrom? .idle (.number read.reverse :: found) rest := by
  cases rest with
  | nil => simp [scanFrom?, finish?, complete]
  | cons b rest =>
      have stops : part.next? b = none := by
        rcases ends with rfl | rfl | rfl | rfl <;> cases part <;> rfl
      have closes : ∃ ts, start? b = some (.idle, ts) := by
        rcases ends with rfl | rfl | rfl | rfl <;> exact ⟨_, rfl⟩
      obtain ⟨ts, closes⟩ := closes
      simp [scanFrom?, step?, stops, complete, closes]

theorem scanFrom?_digits {digits : Bytes} (all : ∀ b ∈ digits, isDigit b = true) (read : Bytes)
    (found : List Token) (rest : Bytes) :
    scanFrom? (.number .whole read) found (digits ++ rest) =
      scanFrom? (.number .whole (digits.reverse ++ read)) found rest := by
  induction digits generalizing read with
  | nil => rfl
  | cons b digits ih =>
      have goesOn : NumberPart.whole.next? b = some .whole := if_pos (all b List.mem_cons_self)
      have others := ih (fun d listed => all d (List.mem_cons_of_mem _ listed)) (b :: read)
      simpa [scanFrom?, step?, goesOn] using others

theorem exists_first_digit {n : Nat} (positive : 0 < n) :
    ∃ k others, 0 < k ∧ k < 10 ∧ Digits.ofNat n = k.digitChar :: others := by
  induction n using Nat.strongRecOn with
  | ind n ih =>
      by_cases small : n < 10
      · exact ⟨n, [], positive, small, Nat.toDigits_of_lt_base small⟩
      · have shorter : Digits.ofNat n = Digits.ofNat (n / 10) ++ [(n % 10).digitChar] :=
          Nat.toDigits_of_base_le (by decide) (Nat.le_of_not_lt small)
        obtain ⟨k, others, one, nine, front⟩ := ih (n / 10) (by omega) (by omega)
        exact ⟨k, others ++ [(n % 10).digitChar], one, nine, by rw [shorter, front]; rfl⟩

theorem scanFrom?_decimal (n : Nat) :
    ∃ part : NumberPart, (part = .zero ∨ part = .whole) ∧
      ∀ found rest, scanFrom? .idle found (decimal n ++ rest) =
        scanFrom? (.number part (decimal n).reverse) found rest := by
  rcases Nat.eq_zero_or_pos n with rfl | positive
  · exact ⟨.zero, .inl rfl, fun _ _ => rfl⟩
  · refine ⟨.whole, .inr rfl, fun found rest => ?_⟩
    obtain ⟨k, others, one, nine, written⟩ := exists_first_digit positive
    obtain ⟨ds, split⟩ : ∃ ds, decimal n = .ofNat k.digitChar.toNat :: ds :=
      ⟨_, by rw [decimal_eq, written, List.map_cons]⟩
    have starts : start? (.ofNat k.digitChar.toNat) =
        some (.number .whole [.ofNat k.digitChar.toNat], []) := by
      have all : ∀ k < 10, 0 < k → start? (.ofNat (Nat.digitChar k).toNat) =
          some (.number .whole [.ofNat (Nat.digitChar k).toNat], []) := by decide
      exact all k nine one
    have digits : ∀ b ∈ ds, isDigit b = true := fun b listed =>
      isDigit_decimal (n := n) (by rw [split]; exact List.mem_cons_of_mem _ listed)
    have first : scanFrom? .idle found (decimal n ++ rest) =
        scanFrom? (.number .whole [.ofNat k.digitChar.toNat]) found (ds ++ rest) := by
      rw [split, List.cons_append, scanFrom?, step?, starts]
      rfl
    rw [first, scanFrom?_digits digits, split, List.reverse_cons]

theorem isNumber_decimal (n : Nat) : IsNumber (decimal n) := by
  intro found rest ends
  obtain ⟨part, complete, read⟩ := scanFrom?_decimal n
  have complete : part.isComplete = true := by rcases complete with rfl | rfl <;> rfl
  rw [read, scanFrom?_complete complete _ _ ends, List.reverse_reverse]
  rfl

end FleetWatch.Json
