import FleetWatch.Proofs.Cluster.Wire
import FleetWatch.Proofs.Json.Spellings

/-! # Records from any text of their members

The gateway is free in how it writes a record: its members may come in any order, spelled and laid
out in any way, with others among them that nobody asked for. What is asked for is found by its name
all the same, and what is not is passed over, whatever it holds. Main statement: a text with each
member of a record once is read as that record, as long as the names of the others are texts.
-/

namespace FleetWatch

namespace Json

open Token

/-! ## Objects that keep to the grammar -/

section Objects

variable {members : List (Bytes × Json)}

section Every

variable {P : Token → Prop}
  (marks : ∀ t ∈ [Token.comma, .colon, .openObject, .closeObject], P t)
  (names : ∀ m ∈ members, P (.string m.1)) (values : ∀ m ∈ members, ∀ t ∈ tokens m.2, P t)
include marks names values

theorem forall_memberTokens : ∀ t ∈ memberTokens members, P t := by
  induction members with
  | nil => exact List.forall_mem_singleton.mpr (marks _ (by simp))
  | cons m ms ih =>
      obtain ⟨k, v⟩ := m
      obtain ⟨name, names⟩ := List.forall_mem_cons.mp names
      obtain ⟨value, values⟩ := List.forall_mem_cons.mp values
      simp only [memberTokens, List.forall_mem_cons, List.forall_mem_append]
      exact ⟨marks _ (by simp), name, marks _ (by simp), value, ih names values⟩

/-- The tokens of an object are its names, those of its values, and marks between them. -/
theorem forall_tokens_object : ∀ t ∈ tokens (.object members), P t := by
  cases members with
  | nil => simp [tokens, marks]
  | cons m ms =>
      -- The tokens are those of further members but for the first one, which is no comma.
      obtain ⟨k, v⟩ := m
      have further := forall_memberTokens marks names values
      simp only [memberTokens, List.forall_mem_cons] at further
      simp only [tokens, List.forall_mem_cons]
      exact ⟨marks _ (by simp), further.2⟩

end Every

theorem mem_memberTokens_of_value {m : Bytes × Json} {t : Token} (given : m ∈ members)
    (listed : t ∈ tokens m.2) : t ∈ memberTokens members := by
  induction members with
  | nil => contradiction
  | cons first ms ih =>
      obtain ⟨k, v⟩ := first
      simp only [memberTokens, List.mem_cons, List.mem_append]
      rcases List.mem_cons.mp given with rfl | given
      · exact .inr (.inr (.inr (.inl listed)))
      · exact .inr (.inr (.inr (.inr (ih given))))

theorem mem_tokens_object_of_value {m : Bytes × Json} {t : Token} (given : m ∈ members)
    (listed : t ∈ tokens m.2) : t ∈ tokens (.object members) := by
  cases members with
  | nil => contradiction
  | cons first ms =>
      obtain ⟨k, v⟩ := first
      simp only [tokens, List.mem_cons, List.mem_append]
      rcases List.mem_cons.mp given with rfl | given
      · exact .inr (.inr (.inr (.inl listed)))
      · exact .inr (.inr (.inr (.inr (mem_memberTokens_of_value given listed))))

theorem grammatical_object (parts : ∀ m ∈ members, Body m.1 ∧ m.2.Grammatical) :
    (Json.object members).Grammatical :=
  forall_tokens_object (by simp [Token.Grammatical]) (fun m listed => (parts m listed).1)
    fun m listed => (parts m listed).2

end Objects

theorem Token.Whole.literal {whole : Bytes} (leads : Whole whole) : Literal whole := by
  simpa using Literal.plain (.mk leads .absent .absent)

theorem literal_decimal (n : Nat) : Literal (decimal n) := by
  rcases Nat.eq_zero_or_pos n with rfl | positive
  · exact Whole.zero.literal
  · obtain ⟨k, others, one, nine, written⟩ := exists_first_digit positive
    have first : ∀ k < 10, 0 < k → isDigit (.ofNat (Nat.digitChar k).toNat) = true ∧
        UInt8.ofNat (Nat.digitChar k).toNat ≠ 0x30 := by decide
    obtain ⟨digit, notZero⟩ := first k nine one
    have digits : AllDigits (decimal n) := fun b listed => isDigit_decimal listed
    rw [decimal_eq, written, List.map_cons] at digits ⊢
    have others : AllDigits _ := fun b listed => digits b (List.mem_cons_of_mem _ listed)
    exact (Whole.digits digit notZero others).literal

/-! ## Members by their names -/

/-- Members under spellings of their names. -/
def SpelledAs (named : List (String × Json)) (members : List (Bytes × Json)) : Prop :=
  List.Forall₂ (fun m written => Spells m.1.toList written.1 ∧ written.2 = m.2) named members

/-- A text that is an object with some members of its own, each of them once, and any others whose
names are not known, in whatever order, spelling and layout. -/
structure Holds (known : List String) (own : List (String × Json)) (text : Bytes) : Prop where
  exists_object : ∃ others named members, named.Perm (own ++ others) ∧
    (∀ m ∈ others, m.1 ∉ known ∧ m.2.Grammatical) ∧ SpelledAs named members ∧
    (Json.object members).IsText text

theorem SpelledAs.parts {P : Json → Prop} {named : List (String × Json)}
    {members : List (Bytes × Json)} (h : SpelledAs named members) (values : ∀ m ∈ named, P m.2) :
    ∀ written ∈ members, Body written.1 ∧ P written.2 := by
  induction h with
  | nil => simp
  | @cons m written named members first _ ih =>
      obtain ⟨value, values⟩ := List.forall_mem_cons.mp values
      exact List.forall_mem_cons.mpr ⟨⟨first.1.body, first.2 ▸ value⟩, ih values⟩

theorem SpelledAs.exists_written {named : List (String × Json)} {members : List (Bytes × Json)}
    (h : SpelledAs named members) {m : String × Json} (listed : m ∈ named) :
    ∃ written ∈ members, written.2 = m.2 := by
  induction h with
  | nil => contradiction
  | @cons first written named members spelled _ ih =>
      rcases List.mem_cons.mp listed with rfl | listed
      · exact ⟨written, List.mem_cons_self, spelled.2⟩
      · obtain ⟨other, given, same⟩ := ih listed
        exact ⟨other, List.mem_cons_of_mem _ given, same⟩

theorem lookup_eq (members : List (String × Json)) (name : String) :
    members.lookup name = (members.filter (·.1 = name)).head?.map Prod.snd := by
  induction members with
  | nil => rfl
  | cons m members ih =>
      obtain ⟨k, v⟩ := m
      by_cases same : k = name
      · simp [same]
      · have other : (name == k) = false := by simpa using Ne.symm same
        simp [List.lookup_cons, other, same, ih]

section Finding

variable {own others named : List (String × Json)} {known : List String}
  (distinct : (own.map Prod.fst).Nodup) (shuffled : named.Perm (own ++ others))
include distinct shuffled

/-- A name that no other member has leads to what the members of its own say. -/
theorem member?_of_perm {name : String} (fresh : ∀ m ∈ others, m.1 ≠ name) :
    member? named name = some (own.lookup name) := by
  have none : others.filter (·.1 = name) = [] :=
    List.filter_eq_nil_iff.mpr fun m listed => by simpa using fresh m listed
  have found := shuffled.filter (·.1 = name)
  rw [List.filter_append, none, List.append_nil] at found
  rw [lookup_eq, member?]
  by_cases given : ∃ m ∈ own, m.1 = name
  · obtain ⟨m, listed, rfl⟩ := given
    rw [filter_name_of_mem distinct listed] at found ⊢
    rw [List.perm_singleton.mp found]
    rfl
  · have missing : own.filter (·.1 = name) = [] :=
      List.filter_eq_nil_iff.mpr fun m listed => by simpa using fun same => given ⟨m, listed, same⟩
    rw [missing] at found ⊢
    rw [List.perm_nil.mp found]
    rfl

/-- Names that are spelled in any way, in any order and among others lead to the values of the
members of its own. -/
theorem fields?_of_spelledAs {members : List (Bytes × Json)} {names : List String}
    (unknown : ∀ m ∈ others, m.1 ∉ names) (spelled : SpelledAs named members) :
    (Json.object members).fields? names = some (names.map fun name => own.lookup name) := by
  have read : members.mapM (fun written => (unquoted? written.1).map (·, written.2)) =
      some named := by
    clear shuffled
    induction spelled with
    | nil => rfl
    | @cons m written named members first _ ih =>
        obtain ⟨spells, same⟩ := first
        rw [List.mapM_cons, ih, spells.unquoted?, same, String.ofList_toList]
        rfl
  have found : names.mapM (member? named) = some (names.map fun name => own.lookup name) :=
    mapM_eq_some_map fun name listed =>
      member?_of_perm distinct shuffled fun m given same => unknown m given (same ▸ listed)
  have opened : (Json.object members).fields? names =
      (members.mapM fun written => (unquoted? written.1).map (·, written.2)).bind
        fun named => names.mapM (member? named) := rfl
  rw [opened, read, Option.bind_some, found]

end Finding

theorem holds_tight {known : List String} {own : List (String × Json)}
    (plain : ∀ m ∈ own, ∀ c ∈ m.1.toList, 0x20 ≤ c.toNat ∧ c ≠ '"' ∧ c ≠ '\\') :
    Holds known own ((tokens (.object (own.map fun m =>
      (m.1.toList.flatMap String.utf8EncodeChar, m.2)))).flatMap Token.bytes) := by
  refine ⟨[], own, _, by rw [List.append_nil], by simp, ?_, Token.Layout.tight _⟩
  rw [SpelledAs, List.forall₂_map_right_iff]
  exact List.forall₂_same.mpr fun m listed => ⟨spells_plain (plain m listed), rfl⟩

/-- What a text of an object was written from: the members of its own are found, and what is true of
their values, and of all values that keep to the grammar, is true of the values that are written. -/
theorem Holds.exists_members {P : Json → Prop} {known : List String} {own : List (String × Json)}
    {text : Bytes} (h : Holds known own text) (distinct : (own.map Prod.fst).Nodup)
    (values : ∀ m ∈ own, P m.2) (grammatical : ∀ v : Json, v.Grammatical → P v) :
    ∃ members, (Json.object members).IsText text ∧ (∀ w ∈ members, Body w.1 ∧ P w.2) ∧
      (Json.object members).fields? known = some (known.map fun name => own.lookup name) ∧
      ∀ m ∈ own, ∃ w ∈ members, w.2 = m.2 := by
  obtain ⟨others, named, members, shuffled, unknown, spelled, written⟩ := h.exists_object
  have values : ∀ m ∈ named, P m.2 := fun m listed => by
    rcases List.mem_append.mp (shuffled.mem_iff.mp listed) with listed | listed
    · exact values m listed
    · exact grammatical _ (unknown m listed).2
  refine ⟨members, written, spelled.parts values,
    fields?_of_spelledAs distinct shuffled (fun m listed => (unknown m listed).1) spelled, ?_⟩
  exact fun m listed =>
    spelled.exists_written (shuffled.mem_iff.mpr (List.mem_append_left others listed))

theorem Holds.read? {known : List String} {own : List (String × Json)} {text : Bytes}
    (h : Holds known own text) (distinct : (own.map Prod.fst).Nodup)
    (grammatical : ∀ m ∈ own, m.2.Grammatical) :
    ∃ v, read? text = some v ∧ v.fields? known = some (known.map fun name => own.lookup name) := by
  obtain ⟨members, written, parts, found, -⟩ := h.exists_members distinct grammatical fun _ => id
  exact ⟨_, written.read? (grammatical_object parts), found⟩

/-- The strings that mean a text. -/
def WritesText (s : String) (v : Json) : Prop := ∃ body, v = .string body ∧ Spells s.toList body

theorem WritesText.text? {s : String} {v : Json} (h : WritesText s v) : v.text? = some s := by
  obtain ⟨body, rfl, spells⟩ := h
  rw [Json.text?, spells.unquoted?, String.ofList_toList]

theorem WritesText.grammatical {s : String} {v : Json} (h : WritesText s v) : v.Grammatical := by
  obtain ⟨body, rfl, spells⟩ := h
  simpa [Json.Grammatical, tokens, Token.Grammatical] using spells.body

theorem grammatical_null : Json.null.Grammatical := by
  simp [Json.Grammatical, tokens, Token.Grammatical]

theorem grammatical_bool (b : Bool) : (Json.bool b).Grammatical := by
  simp [Json.Grammatical, tokens, Token.Grammatical]

theorem grammatical_nat (n : Nat) : (Json.nat n).Grammatical := by
  have literal : Literal (Utf8.ofChars (Digits.ofNat n)) := literal_decimal n
  simpa [Json.Grammatical, Json.nat, tokens, Token.Grammatical] using literal

theorem grammatical_text (s : String) : (Json.text s).Grammatical := by
  simpa [Json.Grammatical, Json.text, tokens, Token.Grammatical] using body_quoted s

end Json

/-! ## Labels -/

namespace Tags

theorem perm_insertEntry {key : String} (value : String) {entries : List (String × String)}
    (fresh : ∀ e ∈ entries, e.1 ≠ key) :
    (insertEntry key value entries).Perm ((key, value) :: entries) := by
  induction entries with
  | nil => exact .refl _
  | cons e entries ih =>
      have other : key ≠ e.1 := (fresh e List.mem_cons_self).symm
      have others := ih fun d listed => fresh d (List.mem_cons_of_mem _ listed)
      rw [insertEntry, if_neg other]
      split
      · exact .refl _
      · exact (others.cons e).trans (.swap ..)

theorem perm_foldl_insert (rest : List (String × String)) (tags : Tags)
    (distinct : ((tags.entries ++ rest).map Prod.fst).Nodup) :
    (rest.foldl (fun tags (key, value) => tags.insert key value) tags).entries.Perm
      (tags.entries ++ rest) := by
  induction rest generalizing tags with
  | nil => simp
  | cons e rest ih =>
      obtain ⟨key, value⟩ := e
      have middle : (tags.entries ++ (key, value) :: rest).Perm
          ((key, value) :: (tags.entries ++ rest)) := List.perm_middle
      have apart := ((middle.map Prod.fst).nodup_iff.mp distinct)
      have fresh : ∀ e ∈ tags.entries, e.1 ≠ key := by
        intro e listed same
        have given : e.1 ∈ (tags.entries ++ rest).map Prod.fst :=
          List.mem_map_of_mem (List.mem_append_left rest listed)
        exact (List.nodup_cons.mp apart).1 (same ▸ given)
      have put : (tags.insert key value).entries.Perm ((key, value) :: tags.entries) :=
        perm_insertEntry value fresh
      have both : ((tags.insert key value).entries ++ rest).Perm
          (tags.entries ++ (key, value) :: rest) := (put.append_right rest).trans middle.symm
      exact (ih (tags.insert key value) ((both.map Prod.fst).nodup_iff.mpr distinct)).trans both

theorem ofList_of_perm {entries : List (String × String)} {tags : Tags}
    (shuffled : entries.Perm tags.entries) : ofList entries = tags := by
  have keys : (tags.entries.map Prod.fst).Nodup :=
    List.pairwise_map.mpr (tags.sorted.imp fun before => Std.ne_of_lt before)
  have distinct : (entries.map Prod.fst).Nodup := (shuffled.map Prod.fst).nodup_iff.mpr keys
  have same : (ofList entries).entries.Perm tags.entries :=
    (perm_foldl_insert entries empty distinct).trans shuffled
  refine eq_of_entries (same.eq_of_pairwise ?_ (ofList entries).sorted tags.sorted)
  intro a b _ _ before after
  exact absurd after (String.lt_asymm before)

/-- The objects that hold labels, in any order and under any spellings of their keys. -/
def WrittenAs (tags : Tags) (v : Json) : Prop :=
  ∃ entries members, v = .object members ∧ entries.Perm tags.entries ∧
    List.Forall₂ (fun entry member =>
      Json.Spells entry.1.toList member.1 ∧ Json.WritesText entry.2 member.2) entries members

variable {tags : Tags} {v : Json}

theorem WrittenAs.ofJson? (h : tags.WrittenAs v) : ofJson? (some v) = some tags := by
  obtain ⟨entries, members, rfl, shuffled, written⟩ := h
  let read (m : Bytes × Json) : Option (String × String) := do
    return (← Json.unquoted? m.1, ← m.2.text?)
  have found : members.mapM read = some entries := by
    clear shuffled
    induction written with
    | nil => rfl
    | @cons entry member entries members first _ ih =>
        obtain ⟨key, value⟩ := first
        have here : read member = some entry := by
          simp [read, key.unquoted?, value.text?]
        rw [List.mapM_cons, here, ih]
        rfl
  have parsed : Tags.ofJson? (some (.object members)) = (members.mapM read).map ofList := rfl
  rw [parsed, found, Option.map_some, ofList_of_perm shuffled]

theorem WrittenAs.grammatical (h : tags.WrittenAs v) : v.Grammatical := by
  obtain ⟨entries, members, rfl, -, written⟩ := h
  refine Json.grammatical_object ?_
  induction written with
  | nil => simp
  | cons first _ ih => exact List.forall_mem_cons.mpr ⟨⟨first.1.body, first.2.grammatical⟩, ih⟩

/-- The members that labels may be given by: a map, and if there are none also a null or nothing. -/
inductive GivenBy (tags : Tags) : List (String × Json) → Prop where
  | map {v : Json} (written : tags.WrittenAs v) : GivenBy tags [("tags", v)]
  | null (none : tags = empty) : GivenBy tags [("tags", .null)]
  | absent (none : tags = empty) : GivenBy tags []

end Tags

/-! ## Records -/

/-- How the values of a type are written as members, and which names reading knows. -/
structure Format (α : Type) extends Codec α where
  known : List String
  /-- The members that a value may be given by, in their usual order. -/
  GivenBy : α → List (String × Json) → Prop

namespace Format

variable {α : Type} (f : Format α)

/-- A value is read from every text that has its members. -/
def ReadsAnyText : Prop :=
  ∀ v own text, f.GivenBy v own → Json.Holds f.known own text → f.decode? text = some v

variable {f}

theorem readsAnyText (distinct : ∀ v own, f.GivenBy v own → (own.map Prod.fst).Nodup)
    (grammatical : ∀ v own, f.GivenBy v own → ∀ m ∈ own, m.2.Grammatical)
    (inverts : ∀ v own w, f.GivenBy v own →
      w.fields? f.known = some (f.known.map fun name => own.lookup name) → f.ofJson? w = some v) :
    f.ReadsAnyText := by
  intro v own text given holds
  obtain ⟨w, read, found⟩ := holds.read? (distinct v own given) (grammatical v own given)
  rw [Codec.decode?, read, Option.bind_some]
  exact inverts v own w given found

end Format

namespace Stats

def format : Format Stats where
  toCodec := codec
  known := ["total_workers", "running_queries", "blocked_queries", "queued_queries"]
  GivenBy s own := own =
    [("total_workers", .nat s.totalWorkers.toNat), ("running_queries", .nat s.runningQueries.toNat),
      ("blocked_queries", .nat s.blockedQueries.toNat),
      ("queued_queries", .nat s.queuedQueries.toNat)]

theorem format_readsAnyText : format.ReadsAnyText := by
  refine Format.readsAnyText ?_ ?_ ?_
  · rintro s own rfl
    simp
  · rintro s own rfl
    simp [Json.grammatical_nat]
  · rintro s own w rfl found
    have fields : w.fields?
        ["total_workers", "running_queries", "blocked_queries", "queued_queries"] =
        some [some (.nat s.totalWorkers.toNat), some (.nat s.runningQueries.toNat),
          some (.nat s.blockedQueries.toNat), some (.nat s.queuedQueries.toNat)] := found
    simp [format, codec, ofJson?, fields, Json.count?_nat]

end Stats

namespace Cluster

def format : Format Cluster where
  toCodec := codec
  known := ["name", "host", "available", "enabled", "tags"]
  GivenBy c own := ∃ name host tags, Json.WritesText c.name name ∧ Json.WritesText c.host host ∧
    c.tags.GivenBy tags ∧
    own = [("name", name), ("host", host), ("available", .bool c.available),
      ("enabled", .bool c.enabled)] ++ tags

theorem format_readsAnyText : format.ReadsAnyText := by
  refine Format.readsAnyText ?_ ?_ ?_
  · rintro c own ⟨name, host, tags, -, -, given, rfl⟩
    cases given <;> simp
  · rintro c own ⟨name, host, tags, named, hosted, given, rfl⟩
    cases given with
    | map written =>
        simp [named.grammatical, hosted.grammatical, Json.grammatical_bool, written.grammatical]
    | null none =>
        simp [named.grammatical, hosted.grammatical, Json.grammatical_bool, Json.grammatical_null]
    | absent none => simp [named.grammatical, hosted.grammatical, Json.grammatical_bool]
  · rintro c own w ⟨name, host, tags, named, hosted, given, rfl⟩ found
    have labels : Tags.ofJson? (tags.lookup "tags") = some c.tags := by
      cases given with
      | map written => exact written.ofJson?
      | null none => rw [none]; rfl
      | absent none => rw [none]; rfl
    have fields : w.fields? ["name", "host", "available", "enabled", "tags"] =
        some [some name, some host, some (.bool c.available), some (.bool c.enabled),
          tags.lookup "tags"] := found
    simp [format, codec, ofJson?, fields, named.text?, hosted.text?, Json.bool?, labels]

end Cluster

namespace UpdateRequest

def format : Format UpdateRequest where
  toCodec := codec
  known := ["name", "enabled"]
  GivenBy r own := ∃ name, Json.WritesText r.name name ∧
    own = [("name", name), ("enabled", .bool r.enabled)]

theorem format_readsAnyText : format.ReadsAnyText := by
  refine Format.readsAnyText ?_ ?_ ?_
  · rintro r own ⟨name, -, rfl⟩
    simp
  · rintro r own ⟨name, named, rfl⟩
    simp [named.grammatical, Json.grammatical_bool]
  · rintro r own w ⟨name, named, rfl⟩ found
    have fields : w.fields? ["name", "enabled"] = some [some name, some (.bool r.enabled)] := found
    simp [format, codec, ofJson?, fields, named.text?, Json.bool?]

end UpdateRequest

namespace AddRequest

def format : Format AddRequest where
  toCodec := codec
  known := ["name", "url", "enabled"]
  GivenBy r own := ∃ name url, Json.WritesText r.name name ∧ Json.WritesText r.url url ∧
    own = [("name", name), ("url", url), ("enabled", .bool r.enabled)]

theorem format_readsAnyText : format.ReadsAnyText := by
  refine Format.readsAnyText ?_ ?_ ?_
  · rintro r own ⟨name, url, -, -, rfl⟩
    simp
  · rintro r own ⟨name, url, named, located, rfl⟩
    simp [named.grammatical, located.grammatical, Json.grammatical_bool]
  · rintro r own w ⟨name, url, named, located, rfl⟩ found
    have fields : w.fields? ["name", "url", "enabled"] =
        some [some name, some url, some (.bool r.enabled)] := found
    simp [format, codec, ofJson?, fields, named.text?, located.text?, Json.bool?]

end AddRequest

/-- Counts, clusters and both requests are read from every text that has their members. -/
theorem formats_read_any_text :
    Stats.format.ReadsAnyText ∧ Cluster.format.ReadsAnyText ∧ UpdateRequest.format.ReadsAnyText ∧
      AddRequest.format.ReadsAnyText :=
  ⟨Stats.format_readsAnyText, Cluster.format_readsAnyText, UpdateRequest.format_readsAnyText,
    AddRequest.format_readsAnyText⟩

/-- The members of a cluster from the last one to the first, behind another one that holds a list in
an object. One name has a letter written by its code, and a null stands for the labels. -/
theorem cluster_read_from_reversed :
    let text := Utf8.bytes ("\x7b \"x\":\x7b\"a\":[1,null]\x7d,\"tags\":null,\"enabled\":true," ++
      "\"available\":false,\"host\":\"http://e:80\",\"n\\u0061me\":\"etl\"\x7d")
    let c : Cluster := ⟨"etl", "http://e:80", false, true, .empty⟩
    ∃ own, Cluster.format.GivenBy c own ∧ Json.Holds Cluster.format.known own text ∧
      Cluster.format.decode? text = some c := by
  intro text c
  let plain (s : String) : Bytes := s.toList.flatMap String.utf8EncodeChar
  have spells (cs : List Char)
      (simple : cs.all fun c => 0x20 ≤ c.toNat && c ≠ '"' && c ≠ '\\' := by rfl) :
      Json.Spells cs (cs.flatMap String.utf8EncodeChar) :=
    Json.spells_plain fun c among => by simpa [and_assoc] using List.all_eq_true.mp simple c among
  let coded : Bytes := String.utf8EncodeChar 'n' ++
    ([0x5c, 0x75, 0x30, 0x30, 0x36, 0x31] ++ ['m', 'e'].flatMap String.utf8EncodeChar)
  let nested : Json := .object [(plain "a", .array [.nat 1, .null])]
  let own : List (String × Json) := [("name", .string (plain "etl")),
    ("host", .string (plain "http://e:80")), ("available", .bool false), ("enabled", .bool true)] ++
      [("tags", .null)]
  let members : List (Bytes × Json) := [(plain "x", nested), (plain "tags", .null),
    (plain "enabled", .bool true), (plain "available", .bool false),
    (plain "host", .string (plain "http://e:80")),
    (coded, .string (plain "etl"))]
  have given : Cluster.format.GivenBy c own :=
    ⟨_, _, _, ⟨_, rfl, spells "etl".toList⟩, ⟨_, rfl, spells "http://e:80".toList⟩, .null rfl, rfl⟩
  have listed : (Json.array [.nat 1, .null]).Grammatical := by
    have one : Json.Token.Literal (Utf8.ofChars (Digits.ofNat 1)) := Json.literal_decimal 1
    simp [Json.Grammatical, Json.nat, Json.tokens, Json.itemTokens, Json.Token.Grammatical, one]
  have grammatical : nested.Grammatical :=
    Json.grammatical_object
      (List.forall_mem_singleton.mpr ⟨(spells "a".toList).body, listed⟩)
  have letters : "name".toList = ['n', 'a', 'm', 'e'] := by decide
  have code : Json.Spells "name".toList coded :=
    letters ▸ .cons (.plain (by decide) (by decide) (by decide))
      (.cons (.code (by decide)) (spells ['m', 'e']))
  have spelled : Json.SpelledAs (own ++ [("x", nested)]).reverse members :=
    .cons ⟨spells "x".toList, rfl⟩ (.cons ⟨spells "tags".toList, rfl⟩
      (.cons ⟨spells "enabled".toList, rfl⟩ (.cons ⟨spells "available".toList, rfl⟩
        (.cons ⟨spells "host".toList, rfl⟩ (.cons ⟨code, rfl⟩ .nil)))))
  have written : (Json.object members).IsText text := by
    have blank : Json.Token.Blank [0x20] := by simp [Json.Token.Blank]
    have behind := Json.Token.Layout.tight ((Json.tokens (.object members)).drop 2)
    have laid : text = [] ++ (Json.Token.openObject.bytes ++ ([0x20] ++
        ((Json.Token.string (plain "x")).bytes ++
          ((Json.tokens (.object members)).drop 2).flatMap Json.Token.bytes))) := by
      decide +kernel
    exact laid ▸ .token (by simp [Json.Token.Blank]) _ (.token blank _ behind)
  have holds : Json.Holds Cluster.format.known own text := by
    refine ⟨[("x", nested)], _, members, List.reverse_perm _, ?_, spelled, written⟩
    exact List.forall_mem_singleton.mpr ⟨by decide, grammatical⟩
  exact ⟨own, given, holds, formats_read_any_text.2.1 c own text given holds⟩

/-- One half of a surrogate pair is a name of the grammar that no text has. A request with both of
its members is refused when a member with this name is among them. -/
theorem half_pair_name_refused :
    let text := Utf8.bytes "\x7b\"\\ud800\":1,\"name\":\"a\",\"enabled\":true\x7d"
    let members : List (Bytes × Json) :=
      [(Utf8.bytes "\\ud800", .nat 1), (Json.quoted "name", .text "a"),
        (Json.quoted "enabled", .bool true)]
    (Json.object members).IsText text ∧ (Json.object members).Grammatical ∧
      members.map (fun m => Json.unquoted? m.1) = [none, some "name", some "enabled"] ∧
      UpdateRequest.codec.decode? text = none ∧
      UpdateRequest.ofJson? (.object members.tail) = some ⟨"a", true⟩ := by
  intro text members
  have written : text = (Json.tokens (.object members)).flatMap Json.Token.bytes := by
    decide +kernel
  refine ⟨written ▸ Json.Token.Layout.tight _, ?_, by decide +kernel, by decide +kernel,
    by decide +kernel⟩
  have half : Json.Token.Body (Utf8.bytes "\\ud800") := .code (List.all_eq_true.mp rfl) .nil
  refine Json.grammatical_object ?_
  simp [members, half, Json.body_quoted, Json.grammatical_bool, Json.grammatical_text,
    Json.grammatical_nat]

end FleetWatch
