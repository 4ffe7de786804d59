import FleetWatch.Proofs.Cluster.Members
import FleetWatch.Proofs.Dashboard.History
import FleetWatch.Proofs.Json.Runs
import Mathlib.Data.Nat.Digits.Defs

/-! # Counts off the wire

A count is a plain whole number of at most 32 bits. Whatever else stands in its place is refused: a
sign, decimal places, a power of ten, a zero too many, or a value beyond the 32 bits, however long.
Main statement: counts are read if and only if each of them is such a number, and then they are the
values of these numbers, also where the dashboard keeps them.
-/

namespace FleetWatch

namespace Json

open Token

/-- The value of digits, the last of which counts the ones. -/
def digitsValue (digits : Bytes) : Nat :=
  Nat.ofDigits 10 (digits.reverse.map fun b => b.toNat - 48)

theorem foldl_digits (digits : Bytes) :
    digits.foldl (fun n b => 10 * n + (b.toNat - 48)) 0 = digitsValue digits := by
  induction digits using List.reverseRecOn with
  | nil => rfl
  | append_singleton digits b ih =>
      rw [List.foldl_append, ih, digitsValue, digitsValue, List.reverse_append]
      simp [Nat.ofDigits_cons, Nat.add_comm]

theorem naturalOf?_eq_some {literal : Bytes} {n : Nat} :
    naturalOf? literal = some n ↔
      (literal ≠ [] ∧ AllDigits literal) ∧ digitsValue literal = n := by
  rw [naturalOf?, foldl_digits]
  by_cases digits : literal ≠ [] ∧ AllDigits literal
  · simp_all [AllDigits]
  · have refused : (literal.isEmpty || !literal.all isDigit) = true := by
      simp only [AllDigits, not_and_or, not_not] at digits
      simpa using digits
    simp [refused, digits]

theorem whole_iff {literal : Bytes} :
    Whole literal ↔ (literal ≠ [] ∧ AllDigits literal) ∧ Unpadded literal := by
  constructor
  · intro leads
    cases leads with
    | zero => simp [AllDigits, Unpadded, isDigit]
    | digits first notZero others =>
        refine ⟨⟨by simp, List.forall_mem_cons.mpr ⟨first, others⟩⟩, ?_⟩
        intro e es same
        exact absurd (List.cons.inj same).1 notZero
  · rintro ⟨⟨filled, digits⟩, unpadded⟩
    cases literal with
    | nil => contradiction
    | cons d ds =>
        obtain ⟨first, others⟩ := List.forall_mem_cons.mp digits
        by_cases zero : d = 0x30
        · cases ds with
          | nil => exact zero ▸ .zero
          | cons e es =>
              have noDigit := unpadded e es (zero ▸ rfl)
              rw [others e List.mem_cons_self] at noDigit
              contradiction
        · exact .digits first zero others

/-- Whether a literal is a plain whole number, and a count its value. -/
structure IsCount (literal : Bytes) (count : UInt32) : Prop where
  whole : Whole literal
  value : digitsValue literal = count.toNat

theorem count?_number {literal : Bytes} {count : UInt32} :
    (Json.number literal).count? = some count ↔
      (literal ≠ [] ∧ AllDigits literal) ∧ digitsValue literal = count.toNat := by
  simp only [count?, Option.bind_eq_some_iff, naturalOf?_eq_some]
  constructor
  · rintro ⟨n, ⟨digits, rfl⟩, bounded⟩
    split at bounded
    · rename_i small
      obtain rfl := Option.some.inj bounded
      exact ⟨digits, (UInt32.toNat_ofNat_of_lt' small).symm⟩
    · contradiction
  · rintro ⟨digits, value⟩
    refine ⟨_, ⟨digits, rfl⟩, ?_⟩
    rw [value, if_pos count.toNat_lt, UInt32.ofNat_toNat]

theorem IsCount.count? {literal : Bytes} {count : UInt32} (h : IsCount literal count) :
    (Json.number literal).count? = some count :=
  count?_number.mpr ⟨(whole_iff.mp h.whole).1, h.value⟩

theorem exists_isCount {literal : Bytes} :
    (∃ count, IsCount literal count) ↔ Whole literal ∧ digitsValue literal ≤ 2 ^ 32 - 1 := by
  constructor
  · rintro ⟨count, whole, value⟩
    exact ⟨whole, value ▸ Nat.le_sub_one_of_lt count.toNat_lt⟩
  · rintro ⟨whole, small⟩
    have small : digitsValue literal < 2 ^ 32 := by omega
    exact ⟨.ofNat (digitsValue literal), whole, (UInt32.toNat_ofNat_of_lt' small).symm⟩

theorem Token.Whole.grammatical {literal : Bytes} (leads : Whole literal) :
    (Json.number literal).Grammatical := by
  intro t listed
  obtain rfl : t = .number literal := by simpa [tokens] using listed
  exact leads.literal

theorem loose_number {literal : Bytes} (run : Token.Run literal) : (Json.number literal).Loose := by
  intro t listed
  obtain rfl : t = .number literal := by simpa [tokens] using listed
  exact run

/-- A text that holds runs in the place of numbers is read only if these have no zero too many. -/
theorem Holds.fields?_of_read {known : List String} {own : List (String × Json)} {text : Bytes}
    (h : Holds known own text) (distinct : (own.map Prod.fst).Nodup)
    (loose : ∀ m ∈ own, m.2.Loose) {v : Json} (read : Json.read? text = some v) :
    v.fields? known = some (known.map fun name => own.lookup name) ∧
      ∀ m ∈ own, ∀ literal, m.2 = .number literal → Unpadded literal := by
  obtain ⟨members, written, parts, found, ownWritten⟩ :=
    h.exists_members distinct loose fun v grammatical t listed => (grammatical t listed).loose
  have object : (Json.object members).Loose :=
    forall_tokens_object (by simp [Token.Loose]) (fun w listed => (parts w listed).1)
      fun w listed => (parts w listed).2
  obtain ⟨rfl, unpadded⟩ := written.read?_loose object read
  refine ⟨found, fun m listed literal number => unpadded literal ?_⟩
  obtain ⟨w, given, value⟩ := ownWritten m listed
  exact mem_tokens_object_of_value given (by simp [value, number, tokens])

end Json

theorem Series.latest?_push (series : Series) (x : Sample) : (series.push x).latest? = some x :=
  List.getLast?_concat

namespace Stats

open Json

/-- The members of counts with some literals in the place of the numbers. -/
def written (literal : String → Bytes) : List (String × Json) :=
  format.known.map fun name => (name, .number (literal name))

/-- Whether the literals of the members are plain whole numbers, and counts their values. -/
structure SaidBy (s : Stats) (literal : String → Bytes) : Prop where
  totalWorkers : IsCount (literal "total_workers") s.totalWorkers
  runningQueries : IsCount (literal "running_queries") s.runningQueries
  blockedQueries : IsCount (literal "blocked_queries") s.blockedQueries
  queuedQueries : IsCount (literal "queued_queries") s.queuedQueries

variable {literal : String → Bytes} {text : Bytes}

theorem ofJson?_of_written {v : Json}
    (found : v.fields? format.known =
      some (format.known.map fun name => (written literal).lookup name)) :
    ofJson? v = (do
      return ⟨← (Json.number (literal "total_workers")).count?,
        ← (Json.number (literal "running_queries")).count?,
        ← (Json.number (literal "blocked_queries")).count?,
        ← (Json.number (literal "queued_queries")).count?⟩) := by
  have fields : v.fields?
      ["total_workers", "running_queries", "blocked_queries", "queued_queries"] =
      some [some (.number (literal "total_workers")), some (.number (literal "running_queries")),
        some (.number (literal "blocked_queries")), some (.number (literal "queued_queries"))] :=
    found
  rw [ofJson?, fields]

theorem distinct_written : ((written literal).map Prod.fst).Nodup := by
  simp [written, format]

theorem decode?_of_saidBy {s : Stats} (said : s.SaidBy literal)
    (holds : Holds format.known (written literal) text) : codec.decode? text = some s := by
  have grammatical : ∀ m ∈ written literal, m.2.Grammatical := by
    simp [written, format, said.totalWorkers.whole.grammatical,
      said.runningQueries.whole.grammatical, said.blockedQueries.whole.grammatical,
      said.queuedQueries.whole.grammatical]
  obtain ⟨v, read, found⟩ := holds.read? distinct_written grammatical
  have parsed : ofJson? v = some s := by
    rw [ofJson?_of_written found, said.totalWorkers.count?, said.runningQueries.count?,
      said.blockedQueries.count?, said.queuedQueries.count?]
    rfl
  rw [Codec.decode?, read, Option.bind_some]
  exact parsed

theorem saidBy_of_decode? (runs : ∀ name ∈ format.known, Token.Run (literal name))
    (holds : Holds format.known (written literal) text) {s : Stats}
    (decoded : codec.decode? text = some s) : s.SaidBy literal := by
  obtain ⟨v, read, parsed⟩ := Option.bind_eq_some_iff.mp decoded
  have loose : ∀ m ∈ written literal, m.2.Loose := fun m listed => by
    obtain ⟨name, known, rfl⟩ := List.mem_map.mp listed
    exact loose_number (runs name known)
  obtain ⟨found, unpadded⟩ := holds.fields?_of_read distinct_written loose read
  -- The number of each member has no zero too many, and what counts are read from are digits.
  have counts : ∀ name ∈ format.known, ∀ count,
      (Json.number (literal name)).count? = some count → IsCount (literal name) count := by
    intro name known count counted
    obtain ⟨digits, value⟩ := count?_number.mp counted
    exact ⟨whole_iff.mpr ⟨digits, unpadded _ (List.mem_map_of_mem known) _ rfl⟩, value⟩
  have parsed : ofJson? v = some s := parsed
  simp only [ofJson?_of_written found, Option.bind_eq_bind, Option.bind_eq_some_iff,
    Option.pure_def, Option.some.injEq] at parsed
  obtain ⟨total, totalCount, running, runningCount, blocked, blockedCount, queued, queuedCount,
    rfl⟩ := parsed
  exact ⟨counts _ (by simp [format]) _ totalCount, counts _ (by simp [format]) _ runningCount,
    counts _ (by simp [format]) _ blockedCount, counts _ (by simp [format]) _ queuedCount⟩

theorem exists_saidBy :
    (∃ s : Stats, s.SaidBy literal) ↔
      ∀ name ∈ format.known,
        Token.Whole (literal name) ∧ digitsValue (literal name) ≤ 2 ^ 32 - 1 := by
  simp only [← exists_isCount]
  constructor
  · rintro ⟨s, total, running, blocked, queued⟩
    simp only [format, List.forall_mem_cons]
    exact ⟨⟨_, total⟩, ⟨_, running⟩, ⟨_, blocked⟩, ⟨_, queued⟩, by simp⟩
  · intro each
    simp only [format, List.forall_mem_cons] at each
    obtain ⟨⟨total, first⟩, ⟨running, second⟩, ⟨blocked, third⟩, ⟨queued, fourth⟩, -⟩ := each
    exact ⟨⟨total, running, blocked, queued⟩, first, second, third, fourth⟩

/-- Counts are read from runs if and only if each is a plain whole number of no more than 32 bits.
Then they are the values of these numbers, and the dashboard keeps these values as they are. -/
theorem read_iff_plain_numbers (runs : ∀ name ∈ format.known, Token.Run (literal name))
    (holds : Holds format.known (written literal) text) :
    (∀ s : Stats, codec.decode? text = some s ↔ s.SaidBy literal) ∧
      ((codec.decode? text).isSome = true ↔ ∀ name ∈ format.known,
        Token.Whole (literal name) ∧ digitsValue (literal name) ≤ 2 ^ 32 - 1) ∧
      ∀ s, codec.decode? text = some s → ∀ (d : Dashboard) (now : Moment),
        (d.apply (.stats (.ok s)) now).1.stats = s ∧
          (d.apply (.stats (.ok s)) now).1.running.latest? =
            some ⟨now.time, .whole (digitsValue (literal "running_queries"))⟩ ∧
          (d.apply (.stats (.ok s)) now).1.blocked.latest? =
            some ⟨now.time, .whole (digitsValue (literal "blocked_queries"))⟩ := by
  have decoded : ∀ s : Stats, codec.decode? text = some s ↔ s.SaidBy literal := fun s =>
    ⟨saidBy_of_decode? runs holds, fun said => decode?_of_saidBy said holds⟩
  refine ⟨decoded, ?_, fun s read d now => ⟨rfl, ?_, ?_⟩⟩
  · simp only [Option.isSome_iff_exists, decoded, exists_saidBy]
  · rw [((decoded s).mp read).runningQueries.value, ← Dashboard.countSample_eq]
    exact Series.latest?_push ..
  · rw [((decoded s).mp read).blockedQueries.value, ← Dashboard.countSample_eq]
    exact Series.latest?_push ..

/-- Counts up to the largest one there is. -/
theorem largest_count_read :
    let literal (name : String) : Bytes :=
      if name = "total_workers" then Utf8.bytes "4294967295"
      else if name = "running_queries" then Utf8.bytes "12" else Utf8.bytes "0"
    let text := Utf8.bytes ("\x7b\"total_workers\":4294967295,\"running_queries\":12," ++
      "\"blocked_queries\":0,\"queued_queries\":0\x7d")
    (∀ name ∈ format.known, Token.Run (literal name)) ∧
      Holds format.known (written literal) text ∧
      codec.decode? text = some ⟨4294967295, 12, 0, 0⟩ ∧
      (⟨4294967295, 12, 0, 0⟩ : Stats).SaidBy literal := by
  intro literal text
  have runs : ∀ name ∈ format.known, Token.Run (literal name) := by
    intro name known
    simp only [format, List.mem_cons, List.not_mem_nil, or_false] at known
    rcases known with rfl | rfl | rfl | rfl <;> exact ⟨by decide, List.all_eq_true.mp rfl⟩
  have plain : ∀ m ∈ written literal, ∀ c ∈ m.1.toList,
      0x20 ≤ c.toNat ∧ c ≠ '"' ∧ c ≠ '\\' := by
    intro m listed
    obtain ⟨name, known, rfl⟩ := List.mem_map.mp listed
    have all : format.known.all (fun name => name.toList.all fun c =>
        0x20 ≤ c.toNat ∧ c ≠ '"' ∧ c ≠ '\\') = true := by decide +kernel
    intro c given
    simpa using List.all_eq_true.mp (List.all_eq_true.mp all name known) c given
  have holds : Holds format.known (written literal) text := by
    have tight : text = (tokens (.object ((written literal).map fun m =>
        (m.1.toList.flatMap String.utf8EncodeChar, m.2)))).flatMap Token.bytes := by
      decide +kernel
    exact tight ▸ holds_tight plain
  have decoded : codec.decode? text = some ⟨4294967295, 12, 0, 0⟩ := by decide +kernel
  exact ⟨runs, holds, decoded, ((read_iff_plain_numbers runs holds).1 _).mp decoded⟩

end Stats

end FleetWatch
