import FleetWatch.Proofs.Url.Percent
import Mathlib.Logic.Function.Defs

/-! # Segments of a path

A text becomes a segment byte by byte, so what holds of one byte as it is written carries over to
segments and to their concatenation. Main statement: a segment is made of characters that no path
takes for its own and of whole triples, and decoding it gives back the bytes of the text.
-/

namespace FleetWatch.Percent

/-- The ASCII letters, the digits and four marks. -/
def isPlain (c : Char) : Bool := c.isAlphanum || c == '-' || c == '_' || c == '.' || c == '~'

/-- The digits of base sixteen, letters in capitals. -/
def isUpperHex (c : Char) : Bool := c.isDigit || ('A' ≤ c && c ≤ 'F')

/-- Plain characters and triples of a percent sign and two digits of base sixteen. -/
inductive Encoded : List Char → Prop where
  | nil : Encoded []
  | plain {c : Char} {rest : List Char} (isPlain : isPlain c = true) (encoded : Encoded rest) :
      Encoded (c :: rest)
  | triple {high low : Char} {rest : List Char} (isHigh : isUpperHex high = true)
      (isLow : isUpperHex low = true) (encoded : Encoded rest) :
      Encoded ('%' :: high :: low :: rest)

/-- Somewhere stands a percent sign without two digits of base sixteen behind it. -/
def HasBarePercent (text : List Char) : Prop :=
  ∃ front rest, text = front ++ '%' :: rest ∧
    ¬∃ high low rest', rest = high :: low :: rest' ∧ isUpperHex high = true ∧
      isUpperHex low = true

/-! ## Encoded texts -/

namespace Encoded

variable {text : List Char}

theorem of_mem (h : Encoded text) {c : Char} (listed : c ∈ text) :
    isPlain c = true ∨ c = '%' ∨ isUpperHex c = true := by
  induction h with
  | nil => cases listed
  | plain plain _ ih =>
      rcases List.mem_cons.mp listed with rfl | listed
      · exact .inl plain
      · exact ih listed
  | triple isHigh isLow _ ih =>
      simp only [List.mem_cons] at listed
      rcases listed with rfl | rfl | rfl | listed
      · exact .inr (.inl rfl)
      · exact .inr (.inr isHigh)
      · exact .inr (.inr isLow)
      · exact ih listed

theorem not_mem (h : Encoded text) {c : Char} (other : isPlain c = false) (other' : c ≠ '%')
    (other'' : isUpperHex c = false) : c ∉ text := by
  intro listed
  have cases := h.of_mem listed
  simp [other, other', other''] at cases

theorem ne_percent_of_isUpperHex {c : Char} (digit : isUpperHex c = true) : c ≠ '%' := by
  rintro rfl
  exact absurd digit (by decide)

theorem triple_of_percent (h : Encoded text) {front rest : List Char}
    (parted : text = front ++ '%' :: rest) :
    ∃ high low rest', rest = high :: low :: rest' ∧ isUpperHex high = true ∧
      isUpperHex low = true := by
  induction h generalizing front with
  | nil => simp at parted
  | plain plain _ ih =>
      rcases List.cons_eq_append_iff.mp parted with ⟨rfl, here⟩ | ⟨front', rfl, later⟩
      · obtain ⟨rfl, -⟩ := List.cons.inj here
        exact absurd plain (by decide)
      · exact ih later
  | triple isHigh isLow encoded ih =>
      rcases List.cons_eq_append_iff.mp parted with ⟨rfl, here⟩ | ⟨front', rfl, later⟩
      · obtain ⟨-, rfl⟩ := List.cons.inj here
        exact ⟨_, _, _, rfl, isHigh, isLow⟩
      · -- Behind the sign come two digits, which are no percent signs, and then an encoded text.
        rcases List.cons_eq_append_iff.mp later with ⟨rfl, here⟩ | ⟨front'', rfl, later'⟩
        · exact absurd (List.cons.inj here).1.symm (ne_percent_of_isUpperHex isHigh)
        · rcases List.cons_eq_append_iff.mp later' with ⟨rfl, here⟩ | ⟨_, rfl, later''⟩
          · exact absurd (List.cons.inj here).1.symm (ne_percent_of_isUpperHex isLow)
          · exact ih later''

theorem not_hasBarePercent (h : Encoded text) : ¬HasBarePercent text := by
  rintro ⟨front, rest, parted, bare⟩
  exact bare (h.triple_of_percent parted)

end Encoded

/-! ## Segments -/

theorem isUpperHex_hexDigit {n : Nat} (h : n < 16) : isUpperHex (hexDigit n) = true := by
  have all : ∀ n < 16, isUpperHex (hexDigit n) = true := by decide
  exact all n h

theorem encoded_chunk (b : UInt8) {rest : List Char} (encoded : Encoded rest) :
    Encoded (chunk isUnreserved b ++ rest) := by
  unfold chunk
  split
  · rename_i kept
    have all : ∀ n < 256, isUnreserved (.ofNat n) = true → isPlain (.ofNat n) = true := by
      decide +kernel
    exact .plain (all b.toNat b.toNat_lt (by rwa [UInt8.ofNat_toNat])) encoded
  · have small : b.toNat < 256 := b.toNat_lt
    exact .triple (isUpperHex_hexDigit (by omega)) (isUpperHex_hexDigit (by omega)) encoded

theorem encoded_segment (s : String) : Encoded (segment s) := by
  unfold segment
  rw [encode_eq]
  induction Utf8.bytes s with
  | nil => exact .nil
  | cons b bytes ih =>
      rw [List.flatMap_cons]
      exact encoded_chunk b ih

theorem segment_append (s t : String) : segment (s ++ t) = segment s ++ segment t := by
  have bytes : Utf8.bytes (s ++ t) = Utf8.bytes s ++ Utf8.bytes t := by simp [Utf8.bytes]
  rw [segment, bytes, encode_eq, List.flatMap_append]
  rfl

/-- Segments are encoded texts, they are decoded to the bytes of what they stand for, no two texts
share one, and they are put together as their texts are. No character in them ends a segment or a
path, and no percent sign stands alone. -/
theorem segments_lossless :
    (∀ s, Encoded (segment s)) ∧ (∀ s, decode (segment s) = Utf8.bytes s) ∧
      Function.Injective segment ∧ (∀ s t, segment (s ++ t) = segment s ++ segment t) ∧
      (∀ s, '/' ∉ segment s ∧ '?' ∉ segment s ∧ '#' ∉ segment s ∧ ' ' ∉ segment s) ∧
      ∀ s, ¬HasBarePercent (segment s) := by
  refine ⟨encoded_segment, decode_segment, fun _ _ => segment_injective, segment_append,
    fun s => ?_, fun s => (encoded_segment s).not_hasBarePercent⟩
  have encoded := encoded_segment s
  exact ⟨encoded.not_mem rfl (by decide) rfl, encoded.not_mem rfl (by decide) rfl,
    encoded.not_mem rfl (by decide) rfl, encoded.not_mem rfl (by decide) rfl⟩

example : segment "a b/ü" = "a%20b%2F%C3%BC".toList := by decide +kernel

end FleetWatch.Percent
