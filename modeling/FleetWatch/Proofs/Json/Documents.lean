import FleetWatch.Json.Reader
import FleetWatch.Json.Writer

/-! # A written document reads back

A document is read by two machines, one that takes bytes and one that takes tokens. The bytes of a
value are read as the value's tokens, whatever was found before them and whatever follows, as long
as what follows may stand behind a value; and the tokens of a value are read as the value, whatever
is open around it. So a value whose numbers and strings are well formed is what its compact form
reads as.
-/

namespace FleetWatch.Json

namespace Token

/-- Bytes are read as tokens, whatever was found before them and whatever follows. -/
def Reads (bytes : Bytes) (ts : List Token) : Prop :=
  ∀ found rest,
    scanFrom? .idle found (bytes ++ rest) = scanFrom? .idle (ts.reverse ++ found) rest

/-- What may stand behind a value in a document: nothing, a comma, a line break, or the end of an
array or an object. -/
def Ends : Bytes → Prop
  | [] => True
  | b :: _ => b = 0x2c ∨ b = 0x0a ∨ b = 0x5d ∨ b = 0x7d

/-- Bytes are read as tokens where a value may end behind them. Digits need this, since more of them
would go on with the number. -/
def ReadsValue (bytes : Bytes) (ts : List Token) : Prop :=
  ∀ found rest, Ends rest →
    scanFrom? .idle found (bytes ++ rest) = scanFrom? .idle (ts.reverse ++ found) rest

/-- A literal that is read as one number. -/
def IsNumber (literal : Bytes) : Prop := ReadsValue literal [.number literal]

/-- Bytes that may stand between quotes: they are read without leaving the string. -/
def IsBody (body : Bytes) : Prop :=
  ∀ read found rest,
    scanFrom? (.string read) found (body ++ rest) =
      scanFrom? (.string (body.reverse ++ read)) found rest

theorem Reads.value {bytes : Bytes} {ts : List Token} (h : Reads bytes ts) : ReadsValue bytes ts :=
  fun found rest _ => h found rest

theorem Reads.append {a b : Bytes} {s t : List Token} (first : Reads a s) (second : Reads b t) :
    Reads (a ++ b) (s ++ t) := by
  intro found rest
  rw [List.append_assoc, first, second, List.reverse_append, List.append_assoc]

theorem ReadsValue.append {a b : Bytes} {s t : List Token} (first : ReadsValue a s)
    (second : Reads b t) (ends : ∀ rest, Ends (b ++ rest)) : Reads (a ++ b) (s ++ t) := by
  intro found rest
  rw [List.append_assoc, first _ _ (ends rest), second, List.reverse_append, List.append_assoc]

theorem isBody_nil : IsBody [] := fun _ _ _ => rfl

theorem IsBody.append {a b : Bytes} (first : IsBody a) (second : IsBody b) : IsBody (a ++ b) := by
  intro read found rest
  rw [List.append_assoc, first, second, List.reverse_append, List.append_assoc]

theorem stringBytes_reads {body : Bytes} (h : IsBody body) :
    Reads (stringBytes body) [.string body] := by
  intro found rest
  have opened : scanFrom? .idle found (stringBytes body ++ rest) =
      scanFrom? (.string []) found (body ++ 0x22 :: rest) := by
    rw [stringBytes, List.append_assoc]
    rfl
  rw [opened, h, List.append_nil]
  simp [scanFrom?, step?]

end Token

/-- A value that can be written: its literals are numbers, and its names and strings can stand
between quotes. -/
inductive Sound : Json → Prop where
  | null : Sound .null
  | bool (b : Bool) : Sound (.bool b)
  | number {literal : Bytes} (h : Token.IsNumber literal) : Sound (.number literal)
  | string {body : Bytes} (h : Token.IsBody body) : Sound (.string body)
  | array {items : List Json} (values : ∀ v ∈ items, Sound v) : Sound (.array items)
  | object {members : List (Bytes × Json)} (names : ∀ m ∈ members, Token.IsBody m.1)
      (values : ∀ m ∈ members, Sound m.2) : Sound (.object members)

mutual

def tokens : Json → List Token
  | .null => [.null]
  | .bool b => [.bool b]
  | .number literal => [.number literal]
  | .string body => [.string body]
  | .array [] => [.openArray, .closeArray]
  | .array (v :: vs) => .openArray :: (tokens v ++ itemTokens vs)
  | .object [] => [.openObject, .closeObject]
  | .object ((k, v) :: ms) => .openObject :: .string k :: .colon :: (tokens v ++ memberTokens ms)

def itemTokens : List Json → List Token
  | [] => [.closeArray]
  | v :: vs => .comma :: (tokens v ++ itemTokens vs)

def memberTokens : List (Bytes × Json) → List Token
  | [] => [.closeObject]
  | (k, v) :: ms => .comma :: .string k :: .colon :: (tokens v ++ memberTokens ms)

end

/-! ## From bytes to tokens -/

section Scanning

open Token

theorem ends_compactItems (vs : List Json) (rest : Bytes) : Ends (compactItems vs ++ rest) := by
  cases vs <;> simp [compactItems, Ends]

theorem ends_compactMembers (ms : List (Bytes × Json)) (rest : Bytes) :
    Ends (compactMembers ms ++ rest) := by
  cases ms <;> simp [compactMembers, Ends]

theorem member_reads {k bytes : Bytes} {ts : List Token} (name : IsBody k)
    (value : Reads bytes ts) :
    Reads (stringBytes k ++ 0x3a :: bytes) (.string k :: .colon :: ts) := by
  have colon : Reads [0x3a] [.colon] := fun _ _ => rfl
  exact (stringBytes_reads name).append (colon.append value)

mutual

theorem compact_readsValue {v : Json} (sound : Sound v) : ReadsValue (compact v) (tokens v) := by
  cases sound with
  | null => exact fun _ _ _ => rfl
  | bool b => cases b <;> exact fun _ _ _ => rfl
  | number h => rwa [compact, tokens]
  | string h =>
      rw [compact, tokens]
      exact (stringBytes_reads h).value
  | @array items values =>
      cases items with
      | nil => exact fun _ _ _ => rfl
      | cons v vs =>
          have opened : Reads [0x5b] [.openArray] := fun _ _ => rfl
          have first := compact_readsValue (values v List.mem_cons_self)
          have others := compactItems_reads fun w listed => values w (List.mem_cons_of_mem _ listed)
          rw [compact, tokens]
          exact (opened.append (first.append others (ends_compactItems vs))).value
  | @object members names values =>
      cases members with
      | nil => exact fun _ _ _ => rfl
      | cons m ms =>
          obtain ⟨k, v⟩ := m
          have opened : Reads [0x7b] [.openObject] := fun _ _ => rfl
          have first := compact_readsValue (values _ List.mem_cons_self)
          have others := compactMembers_reads
            (fun m listed => names m (List.mem_cons_of_mem _ listed))
            fun m listed => values m (List.mem_cons_of_mem _ listed)
          have member := member_reads (names _ List.mem_cons_self)
            (first.append others (ends_compactMembers ms))
          rw [compact, tokens, List.append_assoc]
          exact (opened.append member).value

theorem compactItems_reads {vs : List Json} (sound : ∀ v ∈ vs, Sound v) :
    Reads (compactItems vs) (itemTokens vs) := by
  cases vs with
  | nil => exact fun _ _ => rfl
  | cons v vs =>
      have comma : Reads [0x2c] [.comma] := fun _ _ => rfl
      have first := compact_readsValue (sound v List.mem_cons_self)
      have others := compactItems_reads fun w listed => sound w (List.mem_cons_of_mem _ listed)
      rw [compactItems, itemTokens]
      exact comma.append (first.append others (ends_compactItems vs))

theorem compactMembers_reads {ms : List (Bytes × Json)} (names : ∀ m ∈ ms, IsBody m.1)
    (values : ∀ m ∈ ms, Sound m.2) : Reads (compactMembers ms) (memberTokens ms) := by
  cases ms with
  | nil => exact fun _ _ => rfl
  | cons m ms =>
      obtain ⟨k, v⟩ := m
      have comma : Reads [0x2c] [.comma] := fun _ _ => rfl
      have first := compact_readsValue (values _ List.mem_cons_self)
      have others := compactMembers_reads (fun m listed => names m (List.mem_cons_of_mem _ listed))
        fun m listed => values m (List.mem_cons_of_mem _ listed)
      have member := member_reads (names _ List.mem_cons_self)
        (first.append others (ends_compactMembers ms))
      rw [compactMembers, memberTokens, List.append_assoc]
      exact comma.append member

end

end Scanning

/-! ## From tokens to the value -/

namespace Awaits

/-- No value begins with the end of an array, so where the first item may come a value is read as
one. -/
theorem run?_item_tokens (v : Json) (stack : List Frame) (ts : List Token) :
    run? (.item stack) (tokens v ++ ts) = run? (.value stack) (tokens v ++ ts) := by
  cases v with
  | null | bool | number | string => rfl
  | array items => cases items <;> rfl
  | object members => cases members <;> rfl

mutual

theorem run?_tokens (v : Json) (stack : List Frame) (ts : List Token) :
    run? (.value stack) (tokens v ++ ts) = run? (.next v stack) ts := by
  cases v with
  | null | bool | number | string => rfl
  | array items =>
      cases items with
      | nil => rfl
      | cons v vs =>
          rw [tokens, List.cons_append, List.append_assoc]
          calc run? (.item (.array [] :: stack)) (tokens v ++ (itemTokens vs ++ ts))
            _ = run? (.value (.array [] :: stack)) (tokens v ++ (itemTokens vs ++ ts)) :=
                run?_item_tokens v _ _
            _ = run? (.next v (.array [] :: stack)) (itemTokens vs ++ ts) := run?_tokens v _ _
            _ = run? (.next (.array (v :: vs)) stack) ts := run?_itemTokens vs v [] stack ts
  | object members =>
      cases members with
      | nil => rfl
      | cons m ms =>
          obtain ⟨k, v⟩ := m
          rw [tokens, List.cons_append, List.cons_append, List.cons_append, List.append_assoc]
          calc run? (.value (.object [] k :: stack)) (tokens v ++ (memberTokens ms ++ ts))
            _ = run? (.next v (.object [] k :: stack)) (memberTokens ms ++ ts) := run?_tokens v _ _
            _ = run? (.next (.object ((k, v) :: ms)) stack) ts :=
                run?_memberTokens ms v k [] stack ts

theorem run?_itemTokens (vs : List Json) (v : Json) (items : List Json) (stack : List Frame)
    (ts : List Token) :
    run? (.next v (.array items :: stack)) (itemTokens vs ++ ts) =
      run? (.next (.array ((v :: items).reverse ++ vs)) stack) ts := by
  cases vs with
  | nil =>
      rw [List.append_nil]
      rfl
  | cons w vs =>
      rw [itemTokens, List.cons_append, List.append_assoc]
      calc run? (.value (.array (v :: items) :: stack)) (tokens w ++ (itemTokens vs ++ ts))
        _ = run? (.next w (.array (v :: items) :: stack)) (itemTokens vs ++ ts) :=
            run?_tokens w _ _
        _ = run? (.next (.array ((w :: v :: items).reverse ++ vs)) stack) ts :=
            run?_itemTokens vs w _ stack ts
        _ = _ := by rw [List.reverse_cons, List.append_assoc]; rfl

theorem run?_memberTokens (ms : List (Bytes × Json)) (v : Json) (k : Bytes)
    (members : List (Bytes × Json)) (stack : List Frame) (ts : List Token) :
    run? (.next v (.object members k :: stack)) (memberTokens ms ++ ts) =
      run? (.next (.object (((k, v) :: members).reverse ++ ms)) stack) ts := by
  cases ms with
  | nil =>
      rw [List.append_nil]
      rfl
  | cons m ms =>
      obtain ⟨l, w⟩ := m
      rw [memberTokens, List.cons_append, List.cons_append, List.cons_append, List.append_assoc]
      calc run? (.value (.object ((k, v) :: members) l :: stack))
              (tokens w ++ (memberTokens ms ++ ts))
        _ = run? (.next w (.object ((k, v) :: members) l :: stack)) (memberTokens ms ++ ts) :=
            run?_tokens w _ _
        _ = run? (.next (.object (((l, w) :: (k, v) :: members).reverse ++ ms)) stack) ts :=
            run?_memberTokens ms w l _ stack ts
        _ = _ := by rw [List.reverse_cons, List.append_assoc]; rfl

end

end Awaits

theorem ofTokens?_tokens (v : Json) : ofTokens? (tokens v) = some v := by
  have read := Awaits.run?_tokens v [] []
  rw [List.append_nil] at read
  rw [ofTokens?, read]
  rfl

/-- A value that can be written is what its compact form reads as. -/
theorem read?_compact {v : Json} (sound : Sound v) : read? (compact v) = some v := by
  have scanned : Token.scan? (compact v) = some (tokens v) := by
    have bytes := compact_readsValue sound [] [] trivial
    simpa [Token.scan?, Token.scanFrom?, Token.finish?] using bytes
  rw [read?, scanned]
  exact ofTokens?_tokens v

end FleetWatch.Json
