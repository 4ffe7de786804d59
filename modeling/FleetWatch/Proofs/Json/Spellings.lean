import FleetWatch.Proofs.Json.Texts

/-! # The spellings of a text

Between quotes each character of a text may stand for itself, most may be given by the digits of
their code, some have a letter of their own, and those beyond the first plane take the two halves of
a surrogate pair when they are given by digits. Main statement: every spelling keeps to the grammar
and means the text.
-/

namespace FleetWatch.Json

open Token

/-- The characters that a letter behind a backslash means. -/
def escapes : List (Char × UInt8) :=
  [('"', 0x22), ('\\', 0x5c), ('/', 0x2f), ('\x08', 0x62), ('\x0c', 0x66), ('\n', 0x6e),
    ('\r', 0x72), ('\t', 0x74)]

/-- The ways in which a character may be written between quotes. -/
inductive Form : Char → Bytes → Prop where
  | plain {c : Char} (high : 0x20 ≤ c.toNat) (notQuote : c ≠ '"') (notBackslash : c ≠ '\\') :
      Form c (String.utf8EncodeChar c)
  | escape {c : Char} {e : UInt8} (known : (c, e) ∈ escapes) : Form c [0x5c, e]
  | code {ch : Char} {a b c d : UInt8} (value : hexQuad? a b c d = some ch.toNat) :
      Form ch [0x5c, 0x75, a, b, c, d]
  | pair {ch : Char} {a b c d e f g h : UInt8} {upper lower : Nat} (upperBits : upper < 0x400)
      (lowerBits : lower < 0x400) (value : ch.toNat = 0x10000 + upper * 0x400 + lower)
      (first : hexQuad? a b c d = some (0xD800 + upper))
      (second : hexQuad? e f g h = some (0xDC00 + lower)) :
      Form ch [0x5c, 0x75, a, b, c, d, 0x5c, 0x75, e, f, g, h]

/-- The ways in which a text may be written between quotes. -/
inductive Spells : List Char → Bytes → Prop where
  | nil : Spells [] []
  | cons {c : Char} {cs : List Char} {form body : Bytes} (first : Form c form)
      (others : Spells cs body) : Spells (c :: cs) (form ++ body)

/-! ## Spellings keep to the grammar -/

/-- Bytes that stand for themselves between quotes. -/
def Bare (bytes : Bytes) : Prop := ∀ b ∈ bytes, ¬ b < 0x20 ∧ b ≠ 0x22 ∧ b ≠ 0x5c

theorem bare_ofNat {n : Nat} (small : n < 256) (high : 0x20 ≤ n) (notQuote : n ≠ 0x22)
    (notBackslash : n ≠ 0x5c) :
    ¬ UInt8.ofNat n < 0x20 ∧ UInt8.ofNat n ≠ 0x22 ∧ UInt8.ofNat n ≠ 0x5c := by
  have value : (UInt8.ofNat n).toNat = n := UInt8.toNat_ofNat_of_lt' small
  refine ⟨?_, ?_, ?_⟩
  · rw [UInt8.lt_iff_toNat_lt, value]
    exact Nat.not_lt.mpr high
  · intro same
    exact notQuote (by rw [← value, same]; rfl)
  · intro same
    exact notBackslash (by rw [← value, same]; rfl)

/-- The bytes of characters beyond ASCII are some bits of the code on top of a mark that is high. -/
theorem bare_marked {n bits mark : Nat} (room : 0 < bits) (high : 0x80 ≤ mark)
    (small : mark + bits ≤ 256) : ¬ UInt8.ofNat (n % bits + mark) < 0x20 ∧
      UInt8.ofNat (n % bits + mark) ≠ 0x22 ∧ UInt8.ofNat (n % bits + mark) ≠ 0x5c := by
  have below : n % bits < bits := Nat.mod_lt n room
  exact bare_ofNat (by omega) (by omega) (by omega) (by omega)

theorem bare_utf8EncodeChar {c : Char} (high : 0x20 ≤ c.toNat) (notQuote : c ≠ '"')
    (notBackslash : c ≠ '\\') : Bare (String.utf8EncodeChar c) := by
  have quote : c.val.toNat ≠ 0x22 := fun same => notQuote (Char.toNat_inj.mp same)
  have backslash : c.val.toNat ≠ 0x5c := fun same => notBackslash (Char.toNat_inj.mp same)
  intro b listed
  unfold String.utf8EncodeChar at listed
  dsimp only at listed
  split at listed
  case isTrue ascii =>
    obtain rfl := List.mem_singleton.mp listed
    exact bare_ofNat (Nat.lt_of_le_of_lt ascii (by decide)) high quote backslash
  case isFalse =>
    have marked : ∃ n bits mark, b = UInt8.ofNat (n % bits + mark) ∧ 0 < bits ∧ 0x80 ≤ mark ∧
        mark + bits ≤ 256 := by
      split at listed
      · simp only [List.mem_cons, List.not_mem_nil, or_false] at listed
        rcases listed with rfl | rfl <;> exact ⟨_, _, _, rfl, by decide, by decide, by decide⟩
      · split at listed <;> simp only [List.mem_cons, List.not_mem_nil, or_false] at listed
        · rcases listed with rfl | rfl | rfl <;>
            exact ⟨_, _, _, rfl, by decide, by decide, by decide⟩
        · rcases listed with rfl | rfl | rfl | rfl <;>
            exact ⟨_, _, _, rfl, by decide, by decide, by decide⟩
    obtain ⟨n, bits, mark, rfl, room, high, small⟩ := marked
    exact bare_marked room high small

theorem body_of_bare {bytes rest : Bytes} (bare : Bare bytes) (others : Body rest) :
    Body (bytes ++ rest) := by
  induction bytes with
  | nil => exact others
  | cons b bytes ih =>
      obtain ⟨high, notQuote, notBackslash⟩ := bare b List.mem_cons_self
      have others := ih fun c listed => bare c (List.mem_cons_of_mem _ listed)
      exact .plain high notQuote notBackslash others

theorem isHex_of_hexValue? {b : UInt8} {n : Nat} (value : hexValue? b = some n) :
    isHex b = true := by
  unfold hexValue? at value
  simp only [isHex, isDigit, Bool.or_eq_true, Bool.and_eq_true, decide_eq_true_eq]
  split at value
  · rename_i digit
    exact .inl (.inl digit)
  · split at value
    · rename_i lower
      exact .inl (.inr lower)
    · split at value
      · rename_i upper
        exact .inr upper
      · contradiction

theorem isHex_of_hexQuad? {a b c d : UInt8} {n : Nat} (value : hexQuad? a b c d = some n) :
    ∀ x ∈ [a, b, c, d], isHex x = true := by
  simp only [hexQuad?, Option.bind_eq_bind, Option.bind_eq_some_iff] at value
  obtain ⟨_, first, _, second, _, third, _, fourth, -⟩ := value
  simp [isHex_of_hexValue? first, isHex_of_hexValue? second, isHex_of_hexValue? third,
    isHex_of_hexValue? fourth]

theorem Form.body {c : Char} {form rest : Bytes} (h : Form c form) (others : Body rest) :
    Body (form ++ rest) := by
  cases h with
  | plain high notQuote notBackslash =>
      exact body_of_bare (bare_utf8EncodeChar high notQuote notBackslash) others
  | @escape e known =>
      have letters : ∀ entry ∈ escapes, isEscape entry.2 = true := by decide
      exact .escape (letters (c, e) known) others
  | code value => exact .code (isHex_of_hexQuad? value) others
  | pair _ _ _ first second =>
      exact .code (isHex_of_hexQuad? first) (.code (isHex_of_hexQuad? second) others)

theorem Spells.body {cs : List Char} {body : Bytes} (h : Spells cs body) : Body body := by
  induction h with
  | nil => exact .nil
  | cons first _ ih => exact first.body ih

theorem spells_plain {cs : List Char}
    (plain : ∀ c ∈ cs, 0x20 ≤ c.toNat ∧ c ≠ '"' ∧ c ≠ '\\') :
    Spells cs (cs.flatMap String.utf8EncodeChar) := by
  induction cs with
  | nil => exact .nil
  | cons c cs ih =>
      obtain ⟨high, notQuote, notBackslash⟩ := plain c List.mem_cons_self
      exact .cons (.plain high notQuote notBackslash)
        (ih fun d listed => plain d (List.mem_cons_of_mem _ listed))

theorem body_quoted (s : String) : Body (quoted s) := by
  unfold quoted
  induction Utf8.bytes s with
  | nil => exact .nil
  | cons b bytes ih =>
      rw [List.flatMap_cons]
      rcases escapeByte_cases b with ⟨e, written, known, -, -⟩ | ⟨low, written⟩ |
        ⟨written, notQuote, notBackslash, high⟩
      · rw [written]
        exact .escape known ih
      · have low : b.toNat < 32 := low
        have first := isHex_hexDigit (n := b.toNat / 16) (by omega)
        have second := isHex_hexDigit (n := b.toNat % 16) (by omega)
        have zero : isHex 0x30 = true := by decide
        rw [written]
        exact .code (by simp [zero, first, second]) ih
      · rw [written]
        exact .plain high notQuote notBackslash ih

/-! ## Spellings mean what they spell -/

theorem resolve?_of_bare {bytes : Bytes} (bare : Bare bytes) (rest : Bytes) :
    resolve? (bytes ++ rest) = (resolve? rest).map (bytes ++ ·) := by
  induction bytes with
  | nil => simp
  | cons b bytes ih =>
      have others := ih fun c listed => bare c (List.mem_cons_of_mem _ listed)
      have notBackslash := (bare b List.mem_cons_self).2.2
      simp [resolve?, notBackslash, others, Function.comp_def]

theorem scalarBytes_toNat (c : Char) : scalarBytes c.toNat = String.utf8EncodeChar c := by
  rw [scalarBytes, Char.ofNat_toNat, Utf8.ofChars_eq, List.flatMap_singleton]

theorem Form.resolve? {c : Char} {form : Bytes} (h : Form c form) (rest : Bytes) :
    resolve? (form ++ rest) = (resolve? rest).map (String.utf8EncodeChar c ++ ·) := by
  cases h with
  | plain high notQuote notBackslash =>
      exact resolve?_of_bare (bare_utf8EncodeChar high notQuote notBackslash) rest
  | @escape e known =>
      simp only [escapes, List.mem_cons, Prod.mk.injEq, List.not_mem_nil, or_false] at known
      rcases known with ⟨rfl, rfl⟩ | ⟨rfl, rfl⟩ | ⟨rfl, rfl⟩ | ⟨rfl, rfl⟩ | ⟨rfl, rfl⟩ |
        ⟨rfl, rfl⟩ | ⟨rfl, rfl⟩ | ⟨rfl, rfl⟩ <;> rfl
  | code value =>
      have scalar : c.toNat < 0xD800 ∨ 0xDFFF < c.toNat ∧ c.toNat < 0x110000 := c.valid
      simp only [List.cons_append, List.nil_append, Json.resolve?, value]
      rw [if_neg (by omega), if_neg (by omega), scalarBytes_toNat]
  | pair upperBits lowerBits value first second =>
      simp only [List.cons_append, List.nil_append, Json.resolve?, first, second]
      rw [if_neg (by omega), if_pos (by omega), if_pos (by omega), Nat.add_sub_cancel_left,
        Nat.add_sub_cancel_left, ← value, scalarBytes_toNat]

theorem Spells.unquoted? {cs : List Char} {body : Bytes} (h : Spells cs body) :
    unquoted? body = some (String.ofList cs) := by
  have resolved : Json.resolve? body = some (Utf8.ofChars cs) := by
    induction h with
    | nil => rfl
    | cons first _ ih =>
        rw [first.resolve?, ih, Option.map_some, Utf8.ofChars_eq, Utf8.ofChars_eq,
          List.flatMap_cons]
  rw [Json.unquoted?, resolved]
  exact Utf8.text?_bytes _

end FleetWatch.Json
