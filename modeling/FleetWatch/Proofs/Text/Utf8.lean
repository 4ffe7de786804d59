import FleetWatch.Text.Utf8

/-! # Bytes of a text, character by character

The UTF-8 form of a text is made of the forms of its characters, an ASCII character is the byte of
its code, and texts that differ have different forms.
-/

namespace FleetWatch.Utf8

theorem ofChars_eq (cs : List Char) : ofChars cs = cs.flatMap String.utf8EncodeChar := by
  simp [ofChars, bytes, List.utf8Encode]

theorem ofChars_of_ascii {cs : List Char} (ascii : ∀ c ∈ cs, c.toNat < 0x80) :
    ofChars cs = cs.map fun c => UInt8.ofNat c.toNat := by
  rw [ofChars_eq]
  induction cs with
  | nil => rfl
  | cons c cs ih =>
      have small : c.val.toNat ≤ 127 := Nat.le_of_lt_succ (ascii c List.mem_cons_self)
      rw [List.flatMap_cons, String.utf8EncodeChar, if_pos small,
        ih fun d listed => ascii d (List.mem_cons_of_mem _ listed)]
      rfl

theorem bytes_injective {a b : String} (same : bytes a = bytes b) : a = b := by
  have read := text?_bytes a
  rw [same, text?_bytes] at read
  exact (Option.some.inj read).symm

theorem toNat_ofNat_byte (b : UInt8) : (Char.ofNat b.toNat).toNat = b.toNat := by
  have valid : b.toNat.isValidChar := .inl (Nat.lt_trans b.toNat_lt (by decide))
  rw [Char.ofNat, dif_pos valid]
  rfl

end FleetWatch.Utf8
