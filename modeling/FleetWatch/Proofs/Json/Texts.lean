import FleetWatch.Proofs.Json.Literals
import Mathlib.Data.List.Chain

/-! # The texts of a value

A value has many texts: its tokens stay the same, and blanks may stand in front of each of them and
behind the last. What tokens are made of is the format's grammar, which is stated here on its own
and not through the machine that reads. Main statement: every text of a value whose tokens keep to
the grammar is read, and as that value.
-/

namespace FleetWatch.Json

namespace Token

/-! ## The grammar of tokens -/

/-- Digits, none included. -/
def AllDigits (digits : Bytes) : Prop := ∀ b ∈ digits, isDigit b = true

/-- What a number begins with behind its sign: a zero alone, or digits of which the first is
none. -/
inductive Whole : Bytes → Prop where
  | zero : Whole [0x30]
  | digits {d : UInt8} {ds : Bytes} (first : isDigit d = true) (notZero : d ≠ 0x30)
      (others : AllDigits ds) : Whole (d :: ds)

/-- The decimal places of a number. -/
inductive Places : Bytes → Prop where
  | absent : Places []
  | present {ds : Bytes} (filled : ds ≠ []) (digits : AllDigits ds) : Places (0x2e :: ds)

/-- The power of ten of a number. -/
inductive Power : Bytes → Prop where
  | absent : Power []
  | plain {e : UInt8} {ds : Bytes} (mark : e = 0x65 ∨ e = 0x45) (filled : ds ≠ [])
      (digits : AllDigits ds) : Power (e :: ds)
  | signed {e s : UInt8} {ds : Bytes} (mark : e = 0x65 ∨ e = 0x45) (sign : s = 0x2b ∨ s = 0x2d)
      (filled : ds ≠ []) (digits : AllDigits ds) : Power (e :: s :: ds)

inductive Unsigned : Bytes → Prop where
  | mk {whole places power : Bytes} (leads : Whole whole) (follows : Places places)
      (scales : Power power) : Unsigned (whole ++ (places ++ power))

inductive Literal : Bytes → Prop where
  | plain {number : Bytes} (unsigned : Unsigned number) : Literal number
  | negative {number : Bytes} (unsigned : Unsigned number) : Literal (0x2d :: number)

/-- What may stand between quotes: bytes that are no control character, quote or backslash, and
escapes. -/
inductive Body : Bytes → Prop where
  | nil : Body []
  | plain {b : UInt8} {rest : Bytes} (high : ¬ b < 0x20) (notQuote : b ≠ 0x22)
      (notBackslash : b ≠ 0x5c) (others : Body rest) : Body (b :: rest)
  | escape {e : UInt8} {rest : Bytes} (known : isEscape e = true) (others : Body rest) :
      Body (0x5c :: e :: rest)
  | code {a b c d : UInt8} {rest : Bytes} (hex : ∀ x ∈ [a, b, c, d], isHex x = true)
      (others : Body rest) : Body (0x5c :: 0x75 :: a :: b :: c :: d :: rest)

/-- Whether a token keeps to the grammar. -/
def Grammatical : Token → Prop
  | number literal => Literal literal
  | string body => Body body
  | _ => True

def bytes : Token → Bytes
  | openArray => [0x5b]
  | closeArray => [0x5d]
  | openObject => [0x7b]
  | closeObject => [0x7d]
  | comma => [0x2c]
  | colon => [0x3a]
  | null => [0x6e, 0x75, 0x6c, 0x6c]
  | bool true => [0x74, 0x72, 0x75, 0x65]
  | bool false => [0x66, 0x61, 0x6c, 0x73, 0x65]
  | number literal => literal
  | string body => stringBytes body

/-- Blanks, none included: spaces, tabs, line feeds and carriage returns. -/
def Blank (blanks : Bytes) : Prop := ∀ b ∈ blanks, b = 0x20 ∨ b = 0x09 ∨ b = 0x0a ∨ b = 0x0d

/-- Tokens one after the other, with blanks wherever there is no token. -/
inductive Layout : List Token → Bytes → Prop where
  | done {blanks : Bytes} (blank : Blank blanks) : Layout [] blanks
  | token {blanks rest : Bytes} {ts : List Token} (blank : Blank blanks) (t : Token)
      (others : Layout ts rest) : Layout (t :: ts) (blanks ++ (t.bytes ++ rest))

end Token

/-- Whether the numbers, strings and names of a value keep to the grammar. -/
def Grammatical (v : Json) : Prop := ∀ t ∈ tokens v, t.Grammatical

/-- A text of a value. -/
def IsText (v : Json) (text : Bytes) : Prop := Token.Layout (tokens v) text

namespace Token

/-! ## Numbers -/

/-- The part of a number that bytes lead to from another one. -/
def NumberPart.after? (part : NumberPart) (bytes : Bytes) : Option NumberPart :=
  bytes.foldlM NumberPart.next? part

theorem NumberPart.after?_append {part middle last : NumberPart} {a b : Bytes}
    (first : part.after? a = some middle) (second : middle.after? b = some last) :
    part.after? (a ++ b) = some last := by
  rw [after?] at first
  rw [after?, List.foldlM_append, first]
  exact second

theorem scanFrom?_after {part last : NumberPart} {bytes : Bytes}
    (leads : part.after? bytes = some last) (read : Bytes) (found : List Token) (rest : Bytes) :
    scanFrom? (.number part read) found (bytes ++ rest) =
      scanFrom? (.number last (bytes.reverse ++ read)) found rest := by
  induction bytes generalizing part read with
  | nil =>
      obtain rfl := Option.some.inj leads
      rfl
  | cons b bytes ih =>
      rw [NumberPart.after?, List.foldlM_cons] at leads
      obtain ⟨middle, goesOn, leads⟩ := Option.bind_eq_some_iff.mp leads
      have others := ih leads (b :: read)
      simpa [scanFrom?, step?, goesOn] using others

theorem NumberPart.after?_digits {part : NumberPart} {digits : Bytes} (all : AllDigits digits)
    (goesOn : ∀ b, isDigit b = true → part.next? b = some part) :
    part.after? digits = some part := by
  induction digits with
  | nil => rfl
  | cons b digits ih =>
      have others := ih fun d listed => all d (List.mem_cons_of_mem _ listed)
      rw [after?, List.foldlM_cons, goesOn b (all b List.mem_cons_self)]
      exact others

theorem NumberPart.after?_filled (part : NumberPart) {next : NumberPart} {digits : Bytes}
    (filled : digits ≠ []) (all : AllDigits digits)
    (first : ∀ b, isDigit b = true → part.next? b = some next)
    (goesOn : ∀ b, isDigit b = true → next.next? b = some next) :
    part.after? digits = some next := by
  cases digits with
  | nil => contradiction
  | cons b digits =>
      have others := after?_digits (fun d listed => all d (List.mem_cons_of_mem _ listed)) goesOn
      rw [after?, List.foldlM_cons, first b (all b List.mem_cons_self)]
      exact others

theorem next?_of_isDigit (part : NumberPart) {next : NumberPart} {b : UInt8}
    (digit : isDigit b = true)
    (leads : (part, next) ∈ [(NumberPart.whole, NumberPart.whole), (.point, .places),
      (.places, .places), (.mark, .power), (.markSign, .power), (.power, .power)]) :
    part.next? b = some next := by
  have notSign : ¬ (b = 43 ∨ b = 45) := by
    rintro (rfl | rfl) <;> simp [isDigit] at digit
  simp only [List.mem_cons, Prod.mk.injEq, List.not_mem_nil, or_false] at leads
  rcases leads with ⟨rfl, rfl⟩ | ⟨rfl, rfl⟩ | ⟨rfl, rfl⟩ | ⟨rfl, rfl⟩ | ⟨rfl, rfl⟩ | ⟨rfl, rfl⟩ <;>
    simp [NumberPart.next?, digit, notSign]

theorem Whole.after? {whole : Bytes} (leads : Whole whole) :
    ∃ part, (part = .zero ∨ part = .whole) ∧ NumberPart.sign.after? whole = some part := by
  cases leads with
  | zero => exact ⟨.zero, .inl rfl, rfl⟩
  | @digits d ds first notZero others =>
      have begun : NumberPart.sign.next? d = some .whole := by
        simp [NumberPart.next?, first, notZero]
      have more := NumberPart.after?_digits others fun b digit =>
        next?_of_isDigit .whole digit (by simp)
      exact ⟨.whole, .inr rfl,
        NumberPart.after?_append (a := [d]) (by simp [NumberPart.after?, begun]) more⟩

theorem Places.after? {places : Bytes} (follows : Places places) {part : NumberPart}
    (here : part = .zero ∨ part = .whole) :
    ∃ next, (next = part ∨ next = .places) ∧ part.after? places = some next := by
  cases follows with
  | absent => exact ⟨part, .inl rfl, rfl⟩
  | @present ds filled digits =>
      have point : part.next? 0x2e = some .point := by rcases here with rfl | rfl <;> rfl
      have more := NumberPart.after?_filled .point filled digits
        (fun b digit => next?_of_isDigit _ digit (by simp))
        fun b digit => next?_of_isDigit .places digit (by simp)
      exact ⟨.places, .inr rfl,
        NumberPart.after?_append (a := [0x2e]) (by simp [NumberPart.after?, point]) more⟩

theorem Power.after? {power : Bytes} (scales : Power power) {part : NumberPart}
    (here : part = .zero ∨ part = .whole ∨ part = .places) :
    ∃ next : NumberPart, next.isComplete = true ∧ part.after? power = some next := by
  have marked : ∀ e : UInt8, e = 0x65 ∨ e = 0x45 → part.after? [e] = some .mark := by
    rintro e (rfl | rfl) <;> rcases here with rfl | rfl | rfl <;> rfl
  cases scales with
  | absent => exact ⟨part, by rcases here with rfl | rfl | rfl <;> rfl, rfl⟩
  | @plain e ds mark filled digits =>
      have more := NumberPart.after?_filled .mark filled digits
        (fun b digit => next?_of_isDigit _ digit (by simp))
        fun b digit => next?_of_isDigit .power digit (by simp)
      exact ⟨.power, rfl, NumberPart.after?_append (marked e mark) more⟩
  | @signed e s ds mark sign filled digits =>
      have signed : NumberPart.mark.after? [s] = some .markSign := by
        rcases sign with rfl | rfl <;> rfl
      have more := NumberPart.after?_filled .markSign filled digits
        (fun b digit => next?_of_isDigit _ digit (by simp))
        fun b digit => next?_of_isDigit .power digit (by simp)
      exact ⟨.power, rfl,
        NumberPart.after?_append (marked e mark) (NumberPart.after?_append signed more)⟩

/-- A number without its sign leads from where a sign may stand to where the number may end. -/
theorem Unsigned.after? {number : Bytes} (unsigned : Unsigned number) :
    ∃ last : NumberPart, last.isComplete = true ∧ NumberPart.sign.after? number = some last := by
  obtain ⟨leads, follows, scales⟩ := unsigned
  obtain ⟨here, zeroOrWhole, led⟩ := leads.after?
  obtain ⟨there, hereOrPlaces, followed⟩ := follows.after? zeroOrWhole
  have ends : there = .zero ∨ there = .whole ∨ there = .places := by
    rcases hereOrPlaces with rfl | rfl
    · exact zeroOrWhole.imp id .inl
    · exact .inr (.inr rfl)
  obtain ⟨last, complete, scaled⟩ := scales.after? ends
  exact ⟨last, complete,
    NumberPart.after?_append led (NumberPart.after?_append followed scaled)⟩

theorem start?_of_isDigit {b : UInt8} (digit : isDigit b = true) :
    start? b = step? (.number .sign []) b := by
  have all : ∀ n < 58, 48 ≤ n →
      start? (.ofNat n) = step? (.number .sign []) (.ofNat n) := by decide
  obtain ⟨low, high⟩ := isDigit_iff.mp digit
  have begun := all b.toNat (Nat.lt_succ_of_le high) low
  rwa [UInt8.ofNat_toNat] at begun

theorem Whole.exists_first {whole : Bytes} (leads : Whole whole) :
    ∃ d ds, whole = d :: ds ∧ isDigit d = true := by
  cases leads with
  | zero => exact ⟨_, _, rfl, rfl⟩
  | digits first => exact ⟨_, _, rfl, first⟩

theorem Literal.read {literal : Bytes} (h : Literal literal) :
    ∃ last : NumberPart, last.isComplete = true ∧ ∀ found rest,
      scanFrom? .idle found (literal ++ rest) =
        scanFrom? (.number last literal.reverse) found rest := by
  cases h with
  | plain unsigned =>
      obtain ⟨last, complete, leads⟩ := unsigned.after?
      obtain ⟨d, ds, rfl, digit⟩ : ∃ d ds, literal = d :: ds ∧ isDigit d = true := by
        obtain ⟨whole, -, -⟩ := unsigned
        obtain ⟨d, ds, rfl, digit⟩ := whole.exists_first
        exact ⟨d, _, rfl, digit⟩
      refine ⟨last, complete, fun found rest => ?_⟩
      have begun : scanFrom? .idle found (d :: ds ++ rest) =
          scanFrom? (.number .sign []) found (d :: ds ++ rest) := by
        rw [List.cons_append, scanFrom?, scanFrom?, ← start?_of_isDigit digit]
        rfl
      rw [begun, scanFrom?_after leads, List.append_nil]
  | @negative number unsigned =>
      obtain ⟨last, complete, leads⟩ := unsigned.after?
      refine ⟨last, complete, fun found rest => ?_⟩
      calc scanFrom? .idle found (0x2d :: number ++ rest)
        _ = scanFrom? (.number .sign [0x2d]) found (number ++ rest) := rfl
        _ = scanFrom? (.number last (number.reverse ++ [0x2d])) found rest :=
            scanFrom?_after leads _ _ _
        _ = _ := by rw [List.reverse_cons]

/-! ## Tokens -/

/-- Whether numbers are written with a byte. -/
def isNumberByte (b : UInt8) : Bool :=
  isDigit b || b == 0x2b || b == 0x2d || b == 0x2e || b == 0x45 || b == 0x65

/-- Whether no number goes on with a text. -/
def Stops (rest : Bytes) : Prop := ∀ b ∈ rest.head?, isNumberByte b = false

theorem next?_of_stops {b : UInt8} {rest : Bytes} (stops : Stops (b :: rest))
    (part : NumberPart) : part.next? b = none := by
  have other := stops b rfl
  simp only [isNumberByte, Bool.or_eq_false_iff, beq_eq_false_iff_ne] at other
  have notZero : b ≠ 0x30 := by
    rintro rfl
    exact absurd other.1.1.1.1.1 (by decide)
  cases part <;> simp [NumberPart.next?, other, notZero]

theorem scanFrom?_of_stops {part : NumberPart} (complete : part.isComplete = true) {rest : Bytes}
    (stops : Stops rest) (read : Bytes) (found : List Token) :
    scanFrom? (.number part read) found rest =
      scanFrom? .idle (.number read.reverse :: found) rest := by
  cases rest with
  | nil => simp [scanFrom?, finish?, complete]
  | cons b rest =>
      simp only [scanFrom?, step?, next?_of_stops stops part, complete, if_true]
      cases start? b with
      | none => rfl
      | some begun => simp

theorem Body.isBody {body : Bytes} (h : Body body) : IsBody body := by
  induction h with
  | nil => exact isBody_nil
  | @plain b rest high notQuote notBackslash _ ih =>
      intro read found behind
      have others := ih (b :: read) found behind
      simpa [scanFrom?, step?, high, notQuote, notBackslash] using others
  | @escape e rest known _ ih =>
      intro read found behind
      have notCode : e ≠ 0x75 := by rintro rfl; simp [isEscape] at known
      have others := ih (e :: 0x5c :: read) found behind
      simpa [scanFrom?, step?, known, notCode] using others
  | @code a b c d rest hex _ ih =>
      intro read found behind
      simp only [List.mem_cons, List.not_mem_nil, or_false, forall_eq_or_imp, forall_eq] at hex
      have others := ih (d :: c :: b :: a :: 0x75 :: 0x5c :: read) found behind
      simpa [scanFrom?, step?, hex] using others

/-- A token that keeps to the grammar is read, a number where none goes on behind it. -/
theorem scanFrom?_bytes {t : Token} (grammatical : t.Grammatical) {rest : Bytes}
    (stops : (∃ literal, t = .number literal) → Stops rest) (found : List Token) :
    scanFrom? .idle found (t.bytes ++ rest) = scanFrom? .idle (t :: found) rest := by
  cases t with
  | bool b => cases b <;> rfl
  | number literal =>
      obtain ⟨last, complete, read⟩ := Literal.read grammatical
      rw [bytes, read, scanFrom?_of_stops complete (stops ⟨literal, rfl⟩), List.reverse_reverse]
  | string body => exact stringBytes_reads grammatical.isBody found rest
  | _ => rfl

/-! ## Layouts -/

theorem blanks_read {blanks : Bytes} (blank : Blank blanks) : Reads blanks [] := by
  intro found rest
  induction blanks with
  | nil => rfl
  | cons b blanks ih =>
      have others := ih fun c listed => blank c (List.mem_cons_of_mem _ listed)
      rcases blank b List.mem_cons_self with rfl | rfl | rfl | rfl <;> exact others

/-- Whether no token of a list is a number right behind another one. -/
def Apart (ts : List Token) : Prop :=
  ts.IsChain fun a b => (∃ l, a = .number l) → ∀ l, b ≠ .number l

theorem Apart.cons {t : Token} {ts : List Token} (other : ∀ l, t ≠ .number l) (apart : Apart ts) :
    Apart (t :: ts) :=
  List.isChain_cons.mpr ⟨fun _ _ ⟨l, same⟩ => absurd same (other l), apart⟩

theorem Layout.tight (ts : List Token) : Layout ts (ts.flatMap bytes) := by
  have none : Blank [] := by simp [Blank]
  induction ts with
  | nil => exact .done none
  | cons t ts ih => exact .token none t ih

theorem Layout.stops {ts : List Token} {text : Bytes} (h : Layout ts text)
    (other : ∀ t ∈ ts.head?, ∀ l, t ≠ .number l) : Stops text := by
  have ofBlank : ∀ {blanks : Bytes}, Blank blanks → ∀ b ∈ blanks, isNumberByte b = false := by
    intro blanks blank b listed
    rcases blank b listed with rfl | rfl | rfl | rfl <;> rfl
  cases h with
  | done blank => exact fun b first => ofBlank blank b (List.mem_of_mem_head? first)
  | @token blanks rest ts blank t _ =>
      intro b first
      cases blanks with
      | cons c blanks =>
          obtain rfl : c = b := by simpa using first
          exact ofBlank blank c List.mem_cons_self
      | nil =>
          cases t with
          | number literal => exact absurd rfl (other _ rfl literal)
          | bool value => cases value <;> (obtain rfl := Option.some.inj first; rfl)
          | _ => obtain rfl := Option.some.inj first; rfl

/-- A text laid out from tokens that keep to the grammar is read as these tokens. -/
theorem Layout.scanned {ts : List Token} {text : Bytes} (h : Layout ts text)
    (grammatical : ∀ t ∈ ts, t.Grammatical) (apart : Apart ts) (found : List Token) :
    scanFrom? .idle found text = some (found.reverse ++ ts) := by
  induction h generalizing found with
  | @done blanks blank =>
      have read := blanks_read blank found []
      rw [List.append_nil] at read
      simpa [Token.scanFrom?, finish?] using read
  | @token blanks rest ts blank t others ih =>
      obtain ⟨neighbours, apart⟩ := List.isChain_cons.mp apart
      have stops : (∃ literal, t = .number literal) → Stops rest := fun number =>
        others.stops fun u first => neighbours u first number
      have read := ih (fun u listed => grammatical u (List.mem_cons_of_mem _ listed)) apart
      calc Token.scanFrom? .idle found (blanks ++ (t.bytes ++ rest))
        _ = Token.scanFrom? .idle found (t.bytes ++ rest) := blanks_read blank _ _
        _ = Token.scanFrom? .idle (t :: found) rest :=
            scanFrom?_bytes (grammatical t List.mem_cons_self) stops found
        _ = some ((t :: found).reverse ++ ts) := read (t :: found)
        _ = _ := by simp

end Token

/-! ## Values -/

section Values

open Token

theorem other_itemTokens (vs : List Json) (rest : List Token) :
    ∀ t ∈ (itemTokens vs ++ rest).head?, ∀ l, t ≠ .number l := by
  cases vs <;> simp [itemTokens]

theorem other_memberTokens (ms : List (Bytes × Json)) (rest : List Token) :
    ∀ t ∈ (memberTokens ms ++ rest).head?, ∀ l, t ≠ .number l := by
  rcases ms with _ | ⟨⟨k, v⟩, ms⟩ <;> simp [memberTokens]

mutual

theorem apart_tokens (v : Json) {rest : List Token} (apart : Apart rest)
    (other : ∀ t ∈ rest.head?, ∀ l, t ≠ .number l) : Apart (tokens v ++ rest) := by
  cases v with
  | null | bool | string => exact apart.cons (by simp)
  | number literal => exact List.isChain_cons.mpr ⟨fun t first _ => other t first, apart⟩
  | array items =>
      cases items with
      | nil => exact (apart.cons (by simp)).cons (by simp)
      | cons v vs =>
          have first := apart_tokens v (apart_itemTokens vs apart) (other_itemTokens vs rest)
          rw [tokens, List.cons_append, List.append_assoc]
          exact first.cons (by simp)
  | object members =>
      cases members with
      | nil => exact (apart.cons (by simp)).cons (by simp)
      | cons m ms =>
          obtain ⟨k, v⟩ := m
          have first := apart_tokens v (apart_memberTokens ms apart) (other_memberTokens ms rest)
          rw [tokens, List.cons_append, List.cons_append, List.cons_append, List.append_assoc]
          exact ((first.cons (by simp)).cons (by simp)).cons (by simp)

theorem apart_itemTokens (vs : List Json) {rest : List Token} (apart : Apart rest) :
    Apart (itemTokens vs ++ rest) := by
  cases vs with
  | nil => exact apart.cons (by simp)
  | cons v vs =>
      have next := apart_tokens v (apart_itemTokens vs apart) (other_itemTokens vs rest)
      rw [itemTokens, List.cons_append, List.append_assoc]
      exact next.cons (by simp)

theorem apart_memberTokens (ms : List (Bytes × Json)) {rest : List Token} (apart : Apart rest) :
    Apart (memberTokens ms ++ rest) := by
  cases ms with
  | nil => exact apart.cons (by simp)
  | cons m ms =>
      obtain ⟨k, v⟩ := m
      have next := apart_tokens v (apart_memberTokens ms apart) (other_memberTokens ms rest)
      rw [memberTokens, List.cons_append, List.cons_append, List.cons_append, List.append_assoc]
      exact ((next.cons (by simp)).cons (by simp)).cons (by simp)

end

theorem apart_value (v : Json) : Apart (tokens v) := by
  have behind : Apart (tokens v ++ []) := apart_tokens v List.isChain_nil (by simp)
  rwa [List.append_nil] at behind

end Values

/-- Every text of a value that keeps to the grammar is read as that value. -/
theorem IsText.read? {v : Json} {text : Bytes} (written : v.IsText text)
    (grammatical : v.Grammatical) : read? text = some v := by
  have scanned : Token.scan? text = some (tokens v) :=
    Token.Layout.scanned written grammatical (apart_value v) []
  rw [Json.read?, scanned]
  exact ofTokens?_tokens v

end FleetWatch.Json
