/-! # Searching texts

Whether one text stands somewhere in another.
-/

namespace FleetWatch.Text

/-- Whether a text holds a part, as one piece. -/
def holds (part : List Char) : List Char → Bool
  | [] => part.isEmpty
  | c :: rest => part.isPrefixOf (c :: rest) || holds part rest

theorem holds_iff {part text : List Char} : holds part text = true ↔ part <:+: text := by
  induction text with
  | nil => simp [holds]
  | cons c rest ih =>
    rw [holds, Bool.or_eq_true, ih, List.isPrefixOf_iff_prefix, List.infix_cons_iff]

end FleetWatch.Text
