import FleetWatch.Proofs.Json.Documents

/-! # A document spread over lines reads back

Spread over lines, a value is written with the same tokens as without blanks, and between them line
breaks, indentation and the blank behind a colon, none of which is a token. So both forms read as
the same value.
-/

namespace FleetWatch.Json

open Token

theorem spaces_read (n : Nat) : Reads (List.replicate n 0x20) [] := by
  intro found rest
  induction n with
  | zero => rfl
  | succ n ih => exact ih

theorem newline_reads (level : Nat) : Reads (newline level) [] := by
  intro found rest
  exact spaces_read (2 * level) found rest

theorem ends_prettyItems (level : Nat) (vs : List Json) (rest : Bytes) :
    Ends (prettyItems level vs ++ rest) := by
  cases vs <;> simp [prettyItems, newline, Ends]

theorem ends_prettyMembers (level : Nat) (ms : List (Bytes × Json)) (rest : Bytes) :
    Ends (prettyMembers level ms ++ rest) := by
  cases ms <;> simp [prettyMembers, newline, Ends]

theorem member_line_reads (level : Nat) {k bytes : Bytes} {ts : List Token} (name : IsBody k)
    (value : Reads bytes ts) :
    Reads (newline level ++ stringBytes k ++ 0x3a :: 0x20 :: bytes)
      (.string k :: .colon :: ts) := by
  have colon : Reads [0x3a, 0x20] [.colon] := fun _ _ => rfl
  exact ((newline_reads level).append (stringBytes_reads name)).append (colon.append value)

mutual

theorem prettyAt_readsValue (level : Nat) {v : Json} (sound : Sound v) :
    ReadsValue (prettyAt level v) (tokens v) := by
  cases sound with
  | null => exact fun _ _ _ => rfl
  | bool b => cases b <;> exact fun _ _ _ => rfl
  | number h => rwa [prettyAt, tokens]
  | string h =>
      rw [prettyAt, tokens]
      exact (stringBytes_reads h).value
  | @array items values =>
      cases items with
      | nil => exact fun _ _ _ => rfl
      | cons v vs =>
          have opened : Reads (0x5b :: newline (level + 1)) [.openArray] :=
            fun found rest => newline_reads (level + 1) (.openArray :: found) rest
          have first := prettyAt_readsValue (level + 1) (values v List.mem_cons_self)
          have others := prettyItems_read level
            fun w listed => values w (List.mem_cons_of_mem _ listed)
          have items := opened.append (first.append others (ends_prettyItems level vs))
          rw [prettyAt, tokens]
          simpa using items.value
  | @object members names values =>
      cases members with
      | nil => exact fun _ _ _ => rfl
      | cons m ms =>
          obtain ⟨k, v⟩ := m
          have opened : Reads [0x7b] [.openObject] := fun _ _ => rfl
          have first := prettyAt_readsValue (level + 1) (values _ List.mem_cons_self)
          have others := prettyMembers_read level
            (fun m listed => names m (List.mem_cons_of_mem _ listed))
            fun m listed => values m (List.mem_cons_of_mem _ listed)
          have member := member_line_reads (level + 1) (names _ List.mem_cons_self)
            (first.append others (ends_prettyMembers level ms))
          rw [prettyAt, tokens]
          simpa using (opened.append member).value

theorem prettyItems_read (level : Nat) {vs : List Json} (sound : ∀ v ∈ vs, Sound v) :
    Reads (prettyItems level vs) (itemTokens vs) := by
  cases vs with
  | nil =>
      have closed : Reads [0x5d] [.closeArray] := fun _ _ => rfl
      exact (newline_reads level).append closed
  | cons v vs =>
      have comma : Reads (0x2c :: newline (level + 1)) [.comma] :=
        fun found rest => newline_reads (level + 1) (.comma :: found) rest
      have first := prettyAt_readsValue (level + 1) (sound v List.mem_cons_self)
      have others := prettyItems_read level fun w listed => sound w (List.mem_cons_of_mem _ listed)
      have items := comma.append (first.append others (ends_prettyItems level vs))
      rw [prettyItems, itemTokens]
      simpa using items

theorem prettyMembers_read (level : Nat) {ms : List (Bytes × Json)}
    (names : ∀ m ∈ ms, IsBody m.1) (values : ∀ m ∈ ms, Sound m.2) :
    Reads (prettyMembers level ms) (memberTokens ms) := by
  cases ms with
  | nil =>
      have closed : Reads [0x7d] [.closeObject] := fun _ _ => rfl
      exact (newline_reads level).append closed
  | cons m ms =>
      obtain ⟨k, v⟩ := m
      have comma : Reads [0x2c] [.comma] := fun _ _ => rfl
      have first := prettyAt_readsValue (level + 1) (values _ List.mem_cons_self)
      have others := prettyMembers_read level
        (fun m listed => names m (List.mem_cons_of_mem _ listed))
        fun m listed => values m (List.mem_cons_of_mem _ listed)
      have member := member_line_reads (level + 1) (names _ List.mem_cons_self)
        (first.append others (ends_prettyMembers level ms))
      rw [prettyMembers, memberTokens]
      simpa using comma.append member

end

/-- A value that can be written is what its form on lines reads as. -/
theorem read?_pretty {v : Json} (sound : Sound v) : read? (pretty v) = some v := by
  have scanned : Token.scan? (pretty v) = some (tokens v) := by
    have bytes := prettyAt_readsValue 0 sound [] [] trivial
    simpa [pretty, Token.scan?, Token.scanFrom?, Token.finish?] using bytes
  rw [read?, scanned]
  exact ofTokens?_tokens v

end FleetWatch.Json
