import FleetWatch.Proofs.Binary64.Counts
import FleetWatch.Proofs.Binary64.Literals
import FleetWatch.Proofs.Cluster.Wire

/-! # Whole numbers with a point read back

A count that is kept as a binary64 number is written with a point and one place, which makes it
another literal of the format than the digits alone, and it is read as the number that it was.
-/

namespace FleetWatch.Json

open Token

/-- The binary64 number nearest to a number. -/
def float? : Json → Option Binary64
  | .number literal => do
    let (negative, digits) := Binary64.splitSign (← Utf8.text? literal).toList
    Binary64.unsigned? negative digits
  | _ => none

theorem isNumber_decimal_point (n : Nat) : IsNumber (decimal n ++ [0x2e, 0x30]) := by
  intro found rest ends
  obtain ⟨part, here, read⟩ := scanFrom?_decimal n
  have point : part.next? 0x2e = some .point := by rcases here with rfl | rfl <;> rfl
  have place : NumberPart.point.next? 0x30 = some .places := rfl
  have complete : NumberPart.places.isComplete = true := rfl
  have behind : scanFrom? (.number part (decimal n).reverse) found ([0x2e, 0x30] ++ rest) =
      scanFrom? (.number .places (0x30 :: 0x2e :: (decimal n).reverse)) found rest := by
    simp [scanFrom?, step?, point, place]
  rw [List.append_assoc, read, behind, scanFrom?_complete complete _ _ ends]
  simp

section Whole

variable {n : Nat} (small : n < 2 ^ 53)
include small

theorem float_whole :
    float (Binary64.whole n) = .number (Utf8.ofChars (Digits.ofNat n ++ ['.', '0'])) := by
  have room : ∀ lead : Int, 0 ≤ lead → lead < 16 → floatStyle.isPositional lead = true := by
    intro lead low high
    simp [floatStyle]
    omega
  rw [float, Binary64.write_whole room small]
  rfl

theorem sound_float_whole : (float (Binary64.whole n)).Sound := by
  have bytes : Utf8.ofChars (Digits.ofNat n ++ ['.', '0']) = decimal n ++ [0x2e, 0x30] := by
    rw [decimal, Utf8.ofChars_eq, Utf8.ofChars_eq, List.flatMap_append]
    rfl
  rw [float_whole small, bytes]
  exact .number (isNumber_decimal_point n)

theorem float?_float_whole : (float (Binary64.whole n)).float? = some (Binary64.whole n) := by
  have text : Utf8.text? (Utf8.ofChars (Digits.ofNat n ++ ['.', '0'])) =
      some (String.ofList (Digits.ofNat n ++ ['.', '0'])) := Utf8.text?_bytes _
  have unsigned := Binary64.splitSign_of_isDigit (Digits.ofNat_ne_nil n)
    (fun _ listed => Digits.isDigit_of_mem_ofNat listed) ['.', '0']
  rw [float_whole small, float?, text]
  simp only [Option.bind_eq_bind, Option.bind_some, String.toList_ofList, unsigned]
  exact Binary64.unsigned?_whole small

end Whole

end FleetWatch.Json
