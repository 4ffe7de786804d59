import FleetWatch.Proofs.Text.Utf8
import FleetWatch.Url.Percent

/-! # What percent-encoding keeps

A byte is written as itself or as a triple, and either is read as that byte, so an encoded text is
decoded to its bytes and texts that differ are encoded differently. A segment holds letters, digits,
four marks and percent signs, which all stand in a path as they are.
-/

namespace FleetWatch.Percent

/-- A byte as it is written: itself if it is kept, or its triple. -/
def chunk (keeps : UInt8 → Bool) (b : UInt8) : List Char :=
  if keeps b then [.ofNat b.toNat] else triple b

theorem encode_eq (keeps : UInt8 → Bool) (bytes : Bytes) :
    encode keeps bytes = bytes.flatMap (chunk keeps) := rfl

/-! ## Decoding -/

theorem hexValue?_hexDigit {n : Nat} (h : n < 16) : hexValue? (hexDigit n) = some n := by
  have all : ∀ n < 16, hexValue? (hexDigit n) = some n := by decide
  exact all n h

theorem decode_cons {c : Char} (kept : c ≠ '%') (rest : List Char) :
    decode (c :: rest) = Utf8.ofChars [c] ++ decode rest := by
  rw [decode]
  rintro a b rest rfl
  contradiction

theorem decode_triple (b : UInt8) (rest : List Char) :
    decode (triple b ++ rest) = b :: decode rest := by
  have small : b.toNat < 256 := b.toNat_lt
  have high := hexValue?_hexDigit (n := b.toNat / 16) (by omega)
  have low := hexValue?_hexDigit (n := b.toNat % 16) (by omega)
  have whole : 16 * (b.toNat / 16) + b.toNat % 16 = b.toNat := by omega
  simp [triple, decode, high, low, whole]

theorem decode_chunk (b : UInt8) (rest : List Char) :
    decode (chunk isUnreserved b ++ rest) = b :: decode rest := by
  unfold chunk
  split
  · rename_i kept
    have plain : ∀ n < 256, isUnreserved (.ofNat n) = true →
        n < 0x80 ∧ Char.ofNat n ≠ '%' := by decide +kernel
    obtain ⟨ascii, other⟩ := plain b.toNat b.toNat_lt (by rwa [UInt8.ofNat_toNat])
    have code := Utf8.toNat_ofNat_byte b
    have single : Utf8.ofChars [.ofNat b.toNat] = [b] := by
      rw [Utf8.ofChars_of_ascii (by simpa [code] using ascii), List.map_singleton, code,
        UInt8.ofNat_toNat]
    rw [List.singleton_append, decode_cons other, single]
    rfl
  · exact decode_triple b rest

/-- An encoded segment is decoded to the bytes of its text. -/
theorem decode_segment (s : String) : decode (segment s) = Utf8.bytes s := by
  unfold segment
  rw [encode_eq]
  induction Utf8.bytes s with
  | nil => rfl
  | cons b bytes ih => rw [List.flatMap_cons, decode_chunk, ih]

theorem segment_injective {a b : String} (same : segment a = segment b) : a = b := by
  apply Utf8.bytes_injective
  rw [← decode_segment, same, decode_segment]

/-! ## Standing in a path -/

/-- Whether a character stands in a segment of a path as it is. -/
def standsInPath (c : Char) : Bool :=
  c.toNat < 0x80 && inPath (.ofNat c.toNat) && c ≠ '/' && c ≠ '\\'

theorem standsInPath_of_mem_segment {s : String} {c : Char} (listed : c ∈ segment s) :
    standsInPath c = true := by
  have all : ∀ n < 256, (chunk isUnreserved (.ofNat n)).all standsInPath = true := by
    decide +kernel
  obtain ⟨b, -, listed⟩ := List.mem_flatMap.mp listed
  have chars := all b.toNat b.toNat_lt
  rw [UInt8.ofNat_toNat] at chars
  exact List.all_eq_true.mp chars c listed

theorem not_separator_of_standsInPath {c : Char} (h : standsInPath c = true) :
    0x20 < c.toNat ∧ c ≠ '/' ∧ c ≠ '\\' ∧ c ≠ '?' ∧ c ≠ '#' := by
  have all : ∀ n < 0x80, standsInPath (.ofNat n) = true →
      0x20 < n ∧ Char.ofNat n ≠ '/' ∧ Char.ofNat n ≠ '\\' ∧ Char.ofNat n ≠ '?' ∧
        Char.ofNat n ≠ '#' := by decide +kernel
  have ascii : c.toNat < 0x80 := by
    simp only [standsInPath, Bool.and_eq_true, decide_eq_true_eq] at h
    exact h.1.1.1
  have marks := all c.toNat ascii
  rw [Char.ofNat_toNat] at marks
  exact marks h

/-- What stands in a path as it is, is not encoded again when the path is read. -/
theorem encode_ofChars_of_standsInPath {cs : List Char} (h : ∀ c ∈ cs, standsInPath c = true) :
    encode inPath (Utf8.ofChars cs) = cs := by
  have kept : ∀ c ∈ cs, c.toNat < 0x80 ∧ inPath (.ofNat c.toNat) = true := by
    intro c listed
    have stands := h c listed
    simp only [standsInPath, Bool.and_eq_true, decide_eq_true_eq] at stands
    exact stands.1.1
  rw [Utf8.ofChars_of_ascii fun c listed => (kept c listed).1, encode_eq, List.flatMap_map]
  have single : ∀ c ∈ cs, chunk inPath (.ofNat c.toNat) = [c] := by
    intro c listed
    obtain ⟨ascii, stays⟩ := kept c listed
    have code : (UInt8.ofNat c.toNat).toNat = c.toNat :=
      UInt8.toNat_ofNat_of_lt' (Nat.lt_trans ascii (by decide))
    rw [chunk, if_pos stays, code, Char.ofNat_toNat]
  calc cs.flatMap (fun c => chunk inPath (.ofNat c.toNat))
    _ = cs.flatMap (fun c => [c]) := by
      rw [List.flatMap_def, List.map_congr_left single, List.flatMap_def]
    _ = cs := List.flatMap_singleton' cs

end FleetWatch.Percent
