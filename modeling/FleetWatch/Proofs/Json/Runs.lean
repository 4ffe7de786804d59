import FleetWatch.Proofs.Json.Texts

/-! # Runs of number characters

Where a number is due, any run of the characters that numbers are written with may stand, and it
need not be a number of the format. Such a run is read as one number, or it is cut into several, or
it is refused; and no value has two numbers side by side. Main statement: a text with runs in the
place of numbers is read as the value that was written or not at all, and in what is read no zero is
in front of other digits.
-/

namespace FleetWatch.Json

namespace Token

/-- A run of characters that numbers are written with. -/
structure Run (literal : Bytes) : Prop where
  filled : literal ≠ []
  bytes : ∀ b ∈ literal, isNumberByte b = true

/-- Whether no zero stands in front of other digits. -/
def Unpadded (literal : Bytes) : Prop := ∀ d ds, literal = 0x30 :: d :: ds → isDigit d = false

/-- A token that keeps to the grammar, but for numbers, which may be any run. -/
def Loose : Token → Prop
  | number literal => Run literal
  | string body => Body body
  | _ => True

/-! ## Numbers of the format are runs -/

theorem isNumberByte_of_isDigit {b : UInt8} (digit : isDigit b = true) : isNumberByte b = true := by
  simp [isNumberByte, digit]

theorem Unsigned.run {number : Bytes} (h : Unsigned number) : Run number := by
  obtain ⟨leads, follows, scales⟩ := h
  have ofDigits : ∀ {ds}, AllDigits ds → ∀ b ∈ ds, isNumberByte b = true :=
    fun all b listed => isNumberByte_of_isDigit (all b listed)
  refine ⟨?_, ?_⟩
  · cases leads <;> simp
  · simp only [List.forall_mem_append]
    refine ⟨?_, ?_, ?_⟩
    · cases leads with
      | zero => simp [isNumberByte, isDigit]
      | digits first _ others =>
          exact List.forall_mem_cons.mpr ⟨isNumberByte_of_isDigit first, ofDigits others⟩
    · cases follows with
      | absent => simp
      | present _ digits => exact List.forall_mem_cons.mpr ⟨rfl, ofDigits digits⟩
    · cases scales with
      | absent => simp
      | plain mark _ digits =>
          refine List.forall_mem_cons.mpr ⟨?_, ofDigits digits⟩
          rcases mark with rfl | rfl <;> rfl
      | signed mark sign _ digits =>
          refine List.forall_mem_cons.mpr ⟨?_, List.forall_mem_cons.mpr ⟨?_, ofDigits digits⟩⟩
          · rcases mark with rfl | rfl <;> rfl
          · rcases sign with rfl | rfl <;> rfl

theorem Literal.run {literal : Bytes} (h : Literal literal) : Run literal := by
  cases h with
  | plain unsigned => exact unsigned.run
  | negative unsigned =>
      exact ⟨by simp, List.forall_mem_cons.mpr ⟨rfl, unsigned.run.bytes⟩⟩

theorem Grammatical.loose {t : Token} (h : t.Grammatical) : t.Loose := by
  cases t with
  | number literal => exact Literal.run h
  | string body => exact h
  | _ => trivial

/-! ## What is made of tokens with runs -/

/-- Whether two numbers stand side by side somewhere. -/
def Crowded (ts : List Token) : Prop :=
  ∃ front a b behind, ts = front ++ .number a :: .number b :: behind

/-- What may be found where tokens were written: these, no number of them with a zero too many, or
several numbers in the place of one. -/
def Gives (ts us : List Token) : Prop :=
  Crowded us ∨ us = ts ∧ ∀ literal, .number literal ∈ ts → Unpadded literal

/-- A machine gives up in a text, or finds what tokens give in front of the rest of it. -/
def ReadsRuns (scan : Scan) (found : List Token) (text : Bytes) (ts : List Token)
    (rest : Bytes) : Prop :=
  scanFrom? scan found text = none ∨
    ∃ us, Gives ts us ∧ scanFrom? scan found text = scanFrom? .idle (us.reverse ++ found) rest

theorem Crowded.append_left {us : List Token} (h : Crowded us) (ts : List Token) :
    Crowded (ts ++ us) := by
  obtain ⟨front, a, b, behind, rfl⟩ := h
  exact ⟨ts ++ front, a, b, behind, by rw [List.append_assoc]⟩

theorem Crowded.append_right {us : List Token} (h : Crowded us) (ts : List Token) :
    Crowded (us ++ ts) := by
  obtain ⟨front, a, b, behind, rfl⟩ := h
  exact ⟨front, a, b, behind ++ ts, by simp⟩

theorem Gives.append {ts us ts' us' : List Token} (first : Gives ts us) (second : Gives ts' us') :
    Gives (ts ++ ts') (us ++ us') := by
  rcases first with crowded | ⟨rfl, unpadded⟩
  · exact .inl (crowded.append_right us')
  · rcases second with crowded | ⟨rfl, unpadded'⟩
    · exact .inl (crowded.append_left us)
    · refine .inr ⟨rfl, fun literal listed => ?_⟩
      exact (List.mem_append.mp listed).elim (unpadded literal) (unpadded' literal)

theorem gives_number {literal : Bytes} (unpadded : Unpadded literal) :
    Gives [.number literal] [.number literal] := by
  refine .inr ⟨rfl, fun other listed => ?_⟩
  obtain rfl : other = literal := by simpa using listed
  exact unpadded

theorem gives_other {t : Token} (other : ∀ l, t ≠ .number l) : Gives [t] [t] :=
  .inr ⟨rfl, fun literal listed => absurd (List.mem_singleton.mp listed).symm (other literal)⟩

/-- A second number right behind a first one is one too many. -/
theorem Gives.behind_number {literal : Bytes} {us : List Token} (h : Gives [.number literal] us)
    (first : Bytes) : Crowded (.number first :: us) := by
  rcases h with crowded | ⟨rfl, -⟩
  · exact crowded.append_left [.number first]
  · exact ⟨[], first, literal, [], rfl⟩

/-! ## Runs -/

theorem Unpadded.snoc {literal : Bytes} (h : Unpadded literal) {b : UInt8}
    (zero : literal = [0x30] → isDigit b = false) : Unpadded (literal ++ [b]) := by
  intro d ds same
  match literal with
  | [] => simp at same
  | [c] =>
      simp only [List.cons_append, List.nil_append, List.cons.injEq] at same
      obtain ⟨rfl, rfl, -⟩ := same
      exact zero rfl
  | c :: e :: rest =>
      simp only [List.cons_append, List.cons.injEq] at same
      obtain ⟨rfl, rfl, -⟩ := same
      exact h _ _ rfl

theorem start?_of_isNumberByte {b : UInt8} (h : isNumberByte b = true) :
    start? b = none ∨
      ∃ part, start? b = some (.number part [b], []) ∧ (b = 0x30 → part = .zero) := by
  simp only [isNumberByte, Bool.or_eq_true, beq_iff_eq] at h
  rcases h with ((((digit | rfl) | rfl) | rfl) | rfl) | rfl
  · rw [start?_of_isDigit digit]
    by_cases zero : b = 0x30
    · exact .inr ⟨.zero, by rw [zero]; rfl, fun _ => rfl⟩
    · refine .inr ⟨.whole, ?_, fun same => absurd same zero⟩
      simp [step?, NumberPart.next?, digit, zero]
  · exact .inl rfl
  · exact .inr ⟨.sign, rfl, by decide⟩
  · exact .inl rfl
  · exact .inl rfl
  · exact .inl rfl

theorem isDigit_of_zero_next? {b : UInt8} {next : NumberPart}
    (goesOn : NumberPart.zero.next? b = some next) : isDigit b = false := by
  have byte : b = 46 ∨ b = 101 ∨ b = 69 := by
    simp only [NumberPart.next?] at goesOn
    grind
  rcases byte with rfl | rfl | rfl <;> rfl

theorem readsRuns_from {literal rest : Bytes} (all : ∀ b ∈ literal, isNumberByte b = true)
    (stops : Stops rest) (part : NumberPart) {read : Bytes} (begun : read ≠ [])
    (unpadded : Unpadded read.reverse) (zero : read.reverse = [0x30] → part = .zero)
    (found : List Token) :
    ReadsRuns (.number part read) found (literal ++ rest) [.number (read.reverse ++ literal)]
      rest := by
  induction literal generalizing part read found with
  | nil =>
      rw [List.append_nil, List.nil_append]
      cases complete : part.isComplete with
      | true =>
          exact .inr ⟨_, gives_number unpadded, scanFrom?_of_stops complete stops read found⟩
      | false =>
          refine .inl ?_
          cases rest with
          | nil => simp [scanFrom?, finish?, complete]
          | cons b rest => simp [scanFrom?, step?, complete, next?_of_stops stops]
  | cons b literal ih =>
      have others : ∀ c ∈ literal, isNumberByte c = true := fun c listed =>
        all c (List.mem_cons_of_mem _ listed)
      cases goesOn : part.next? b with
      | some next =>
          have longer : Unpadded (b :: read).reverse := by
            rw [List.reverse_cons]
            refine unpadded.snoc fun same => ?_
            rw [zero same] at goesOn
            exact isDigit_of_zero_next? goesOn
          have notAlone : (b :: read).reverse ≠ [0x30] := fun same =>
            begun (by simpa using congrArg List.length same)
          have step : scanFrom? (.number part read) found (b :: literal ++ rest) =
              scanFrom? (.number next (b :: read)) found (literal ++ rest) := by
            simp [scanFrom?, step?, goesOn]
          have more := ih others next (List.cons_ne_nil b read) longer
            (fun same => absurd same notAlone) found
          rw [List.reverse_cons, List.append_assoc] at more
          rw [ReadsRuns, step]
          exact more
      | none =>
          cases complete : part.isComplete with
          | false => exact .inl (by simp [scanFrom?, step?, goesOn, complete])
          | true =>
              rcases start?_of_isNumberByte (all b List.mem_cons_self) with
                stuck | ⟨next, starts, first⟩
              · exact .inl (by simp [scanFrom?, step?, goesOn, complete, stuck])
              · -- The number ends here and another one begins right behind it.
                have step : scanFrom? (.number part read) found (b :: literal ++ rest) =
                    scanFrom? (.number next [b]) (.number read.reverse :: found)
                      (literal ++ rest) := by
                  simp [scanFrom?, step?, goesOn, complete, starts]
                have more := ih others next (List.cons_ne_nil b []) (by simp [Unpadded])
                  (fun same => first (by simpa using same)) (.number read.reverse :: found)
                rw [ReadsRuns, step]
                rcases more with stuck | ⟨us, gives, goes⟩
                · exact .inl stuck
                · exact .inr ⟨.number read.reverse :: us, .inl (gives.behind_number _),
                    by simpa using goes⟩

theorem Run.reads {literal : Bytes} (h : Run literal) (found : List Token) {rest : Bytes}
    (stops : Stops rest) : ReadsRuns .idle found (literal ++ rest) [.number literal] rest := by
  obtain ⟨filled, all⟩ := h
  cases literal with
  | nil => contradiction
  | cons b literal =>
      rcases start?_of_isNumberByte (all b List.mem_cons_self) with stuck | ⟨part, starts, first⟩
      · exact .inl (by simp [scanFrom?, step?, stuck])
      · have step : scanFrom? .idle found (b :: literal ++ rest) =
            scanFrom? (.number part [b]) found (literal ++ rest) := by
          simp [scanFrom?, step?, starts]
        rw [ReadsRuns, step]
        exact readsRuns_from (fun c listed => all c (List.mem_cons_of_mem _ listed)) stops part
          (List.cons_ne_nil b []) (by simp [Unpadded]) (fun same => first (by simpa using same))
          found

theorem Loose.reads {t : Token} (loose : t.Loose) (found : List Token) {rest : Bytes}
    (stops : (∃ literal, t = .number literal) → Stops rest) :
    ReadsRuns .idle found (t.bytes ++ rest) [t] rest := by
  by_cases number : ∃ literal, t = .number literal
  · obtain ⟨literal, rfl⟩ := number
    exact Run.reads loose found (stops ⟨literal, rfl⟩)
  · have other : ∀ l, t ≠ .number l := not_exists.mp number
    have grammatical : t.Grammatical := by
      cases t with
      | number literal => exact absurd rfl (other literal)
      | string body => exact loose
      | _ => trivial
    exact .inr ⟨[t], gives_other other, scanFrom?_bytes grammatical stops found⟩

theorem Layout.reads {ts : List Token} {text : Bytes} (h : Layout ts text)
    (loose : ∀ t ∈ ts, t.Loose) (apart : Apart ts) (found : List Token) :
    ReadsRuns .idle found text ts [] := by
  induction h generalizing found with
  | @done blanks blank =>
      have read := blanks_read blank found []
      rw [List.append_nil] at read
      exact .inr ⟨[], .inr ⟨rfl, by simp⟩, read⟩
  | @token blanks rest ts blank t others ih =>
      obtain ⟨neighbours, apart⟩ := List.isChain_cons.mp apart
      have stops : (∃ literal, t = .number literal) → Stops rest := fun number =>
        others.stops fun u first => neighbours u first number
      rw [ReadsRuns, blanks_read blank]
      rcases (loose t List.mem_cons_self).reads found stops with stuck | ⟨us, gives, goes⟩
      · exact .inl stuck
      · have more := ih (fun u listed => loose u (List.mem_cons_of_mem _ listed)) apart
          (us.reverse ++ found)
        rcases more with stuck | ⟨vs, gives', goes'⟩
        · exact .inl (goes.trans stuck)
        · exact .inr ⟨us ++ vs, gives.append gives', by simpa using goes.trans goes'⟩

end Token

/-! ## Values -/

namespace Awaits

theorem run?_append (s : Awaits) (front behind : List Token) :
    run? s (front ++ behind) = (run? s front).bind fun s => run? s behind := by
  induction front generalizing s with
  | nil => rfl
  | cons t front ih => simp [run?, ih, Option.bind_assoc]

/-- A number is a value wherever it may come, and behind a value no number may. -/
theorem step?_number {s s' : Awaits} {literal : Bytes} (h : step? s (.number literal) = some s') :
    ∃ v stack, s' = .next v stack := by
  cases s with
  | value stack => exact ⟨_, _, (Option.some.inj h).symm⟩
  | item stack =>
      refine ⟨.number literal, stack, (Option.some.inj ?_).symm⟩
      simpa [step?, value?] using h
  | name => simp [step?] at h
  | colon => simp [step?] at h
  | next v stack => rcases stack with _ | ⟨_ | _, _⟩ <;> simp [step?] at h

theorem step?_next_number (v : Json) (stack : List Frame) (literal : Bytes) :
    step? (.next v stack) (.number literal) = none := by
  rcases stack with _ | ⟨_ | _, _⟩ <;> rfl

theorem run?_of_crowded {ts : List Token} (crowded : Token.Crowded ts) (s : Awaits) :
    run? s ts = none := by
  obtain ⟨front, a, b, behind, rfl⟩ := crowded
  rw [run?_append]
  refine Option.bind_eq_none_iff.mpr fun s' _ => ?_
  rw [run?]
  refine Option.bind_eq_none_iff.mpr fun next first => ?_
  obtain ⟨v, stack, rfl⟩ := step?_number first
  rw [run?, step?_next_number, Option.bind_none]

end Awaits

/-- Whether a value keeps to the grammar, but for numbers, which may be any run. -/
def Loose (v : Json) : Prop := ∀ t ∈ tokens v, t.Loose

/-- A text with runs in the place of numbers is read as the value that was written or not at all,
and not if a number has a zero too many. -/
theorem IsText.read?_loose {v w : Json} {text : Bytes} (written : v.IsText text) (loose : v.Loose)
    (read : Json.read? text = some w) :
    w = v ∧ ∀ literal, .number literal ∈ tokens v → Token.Unpadded literal := by
  rw [Json.read?, Token.scan?] at read
  obtain ⟨us, scanned, value⟩ := Option.bind_eq_some_iff.mp read
  rcases Token.Layout.reads written loose (apart_value v) [] with stuck | ⟨ts, gives, goes⟩
  · rw [stuck] at scanned
    contradiction
  · obtain rfl : ts = us := by
      rw [goes] at scanned
      simpa [Token.scanFrom?, Token.finish?] using scanned
    rcases gives with crowded | ⟨rfl, unpadded⟩
    · simp [ofTokens?, Awaits.run?_of_crowded crowded] at value
    · rw [ofTokens?_tokens] at value
      exact ⟨(Option.some.inj value).symm, unpadded⟩

end FleetWatch.Json
