import FleetWatch.Proofs.Collation.Order

/-! # Names of ASCII characters

ASCII characters are their own decomposed forms, no contraction goes on with one and none is a
combining mark. So a text of them is weighed character by character, and a control that has no
elements is passed over wherever it stands.
-/

namespace FleetWatch

theorem Text.combiningClass_of_ascii {c : Char} (ascii : c.toNat < 0x80) : combiningClass c = 0 :=
  if_pos (Nat.lt_trans ascii (by decide))

namespace Collation

theorem longest?_of_ascii (c : Char) {rest : List Char} (ascii : ∀ d ∈ rest, d.toNat < 0x80) :
    longest? c rest = none := by
  cases rest with
  | nil => rfl
  | cons d rest => exact if_pos (ascii d List.mem_cons_self)

theorem Growing.absorb_of_ascii (first : Char) (g : Growing) (left : Nat) {text : List Char}
    (ascii : ∀ d ∈ text, d.toNat < 0x80) : g.absorb first left text = (g, text) := by
  cases text with
  | nil => rfl
  | cons d rest => exact if_pos (Text.combiningClass_of_ascii (ascii d List.mem_cons_self))

theorem takeFirst_of_ascii (c : Char) {rest : List Char} (ascii : ∀ d ∈ rest, d.toNat < 0x80) :
    takeFirst c rest = (charElements c, rest) := by
  simp only [takeFirst, longest?_of_ascii c ascii, Growing.absorb_of_ascii c _ 0 ascii]

theorem elementsOf_of_ascii {text : List Char} (ascii : ∀ c ∈ text, c.toNat < 0x80) :
    elementsOf text = text.flatMap asciiElements := by
  induction text with
  | nil => simp [elementsOf]
  | cons c rest ih =>
      have first : charElements c = asciiElements c := if_pos (ascii c List.mem_cons_self)
      have others : ∀ d ∈ rest, d.toNat < 0x80 := fun d hd => ascii d (List.mem_cons_of_mem _ hd)
      rw [elementsOf, takeFirst_of_ascii c others, first, ih others, List.flatMap_cons]

/-- The key of an ASCII name comes from its characters one by one. -/
theorem key_of_ascii {name : String} (ascii : ∀ c ∈ name.toList, c.toNat < 0x80) :
    key name = .ofElements (name.toList.flatMap asciiElements) := by
  rw [key, elements, Text.decomposed_of_ascii ascii, elementsOf_of_ascii ascii]

theorem compareNames_of_ascii {a b : String} (asciiA : ∀ c ∈ a.toList, c.toNat < 0x80)
    (asciiB : ∀ c ∈ b.toList, c.toNat < 0x80) :
    compareNames a b = (Key.ofElements (a.toList.flatMap asciiElements)).compare
      (.ofElements (b.toList.flatMap asciiElements)) := by
  rw [compareNames, key_of_ascii asciiA, key_of_ascii asciiB]

/-- A character that weighs nothing leaves no trace in the order, wherever it is put. -/
theorem compareNames_insert_silent {a b : List Char} {c : Char}
    (ascii : ∀ d ∈ a ++ c :: b, d.toNat < 0x80) (silent : asciiElements c = []) :
    compareNames (.ofList (a ++ c :: b)) (.ofList (a ++ b)) = .eq := by
  have others : ∀ d ∈ a ++ b, d.toNat < 0x80 := by
    intro d listed
    refine ascii d ?_
    rw [List.mem_append] at listed ⊢
    exact listed.imp id (List.mem_cons_of_mem c)
  rw [compareNames_eq_iff, key_of_ascii (by simpa using ascii),
    key_of_ascii (by simpa using others)]
  simp [silent]

end Collation

end FleetWatch
