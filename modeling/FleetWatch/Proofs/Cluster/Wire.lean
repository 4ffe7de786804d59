import FleetWatch.Proofs.Json.Literals

/-! # What is written for the wire reads back

A record is an object whose names are quoted and all different, so each of its fields is found again
under its name. Labels come in the order of their keys, so putting them in one by one gives the same
labels. With the values themselves read back, so are the counts, the clusters, lists of them, and
both requests.
-/

namespace FleetWatch

namespace Json

theorem mapM_eq_some_map {α β : Type} {f : α → Option β} {g : α → β} {items : List α}
    (each : ∀ x ∈ items, f x = some (g x)) : items.mapM f = some (items.map g) := by
  induction items with
  | nil => rfl
  | cons x items ih =>
      rw [List.mapM_cons, each x List.mem_cons_self,
        ih fun y listed => each y (List.mem_cons_of_mem _ listed)]
      rfl

/-! ## Values -/

theorem text?_text (s : String) : (text s).text? = some s := unquoted?_quoted s

theorem count?_nat (n : UInt32) : (nat n.toNat).count? = some n := by
  have read : naturalOf? (Utf8.ofChars (Digits.ofNat n.toNat)) = some n.toNat :=
    naturalOf?_decimal n.toNat
  have fits : n.toNat < 0x100000000 := n.toNat_lt
  simp [nat, count?, read, fits]

theorem sound_text (s : String) : Sound (text s) := .string (isBody_quoted s)

theorem sound_nat (n : Nat) : Sound (nat n) := .number (isNumber_decimal n)

theorem sound_record {members : List (String × Json)} (values : ∀ m ∈ members, Sound m.2) :
    Sound (record members) := by
  refine .object ?_ ?_
  · intro m listed
    obtain ⟨⟨name, v⟩, -, rfl⟩ := List.mem_map.mp listed
    exact isBody_quoted name
  · intro m listed
    obtain ⟨⟨name, v⟩, given, rfl⟩ := List.mem_map.mp listed
    exact values _ given

/-! ## Records -/

theorem filter_name_of_mem {members : List (String × Json)}
    (distinct : (members.map Prod.fst).Nodup) {m : String × Json} (listed : m ∈ members) :
    members.filter (·.1 = m.1) = [m] := by
  induction members with
  | nil => contradiction
  | cons first others ih =>
      obtain ⟨fresh, distinct⟩ := List.nodup_cons.mp distinct
      rcases List.mem_cons.mp listed with rfl | listed
      · have none : others.filter (·.1 = m.1) = [] := by
          refine List.filter_eq_nil_iff.mpr fun other given same => fresh ?_
          rw [← of_decide_eq_true same]
          exact List.mem_map_of_mem given
        simp [none]
      · have other : first.1 ≠ m.1 := fun same => fresh (same ▸ List.mem_map_of_mem listed)
        rw [List.filter_cons_of_neg (by simpa using other), ih distinct listed]

theorem record_eq (members : List (String × Json)) :
    record members = .object (members.map fun m => (quoted m.1, m.2)) := rfl

theorem fields?_record_of_subset {members : List (String × Json)}
    (distinct : (members.map Prod.fst).Nodup) (asked : List (String × Json))
    (given : ∀ m ∈ asked, m ∈ members) :
    (record members).fields? (asked.map Prod.fst) = some (asked.map fun m => some m.2) := by
  have named : (members.map fun m => (quoted m.1, m.2)).mapM
      (fun e => (unquoted? e.1).map (·, e.2)) = some members := by
    rw [List.mapM_map, mapM_eq_some_map (g := id), List.map_id]
    intro m _
    simp [unquoted?_quoted]
  have found : (asked.map Prod.fst).mapM (member? members) =
      some (asked.map fun m => some m.2) := by
    rw [List.mapM_map]
    refine mapM_eq_some_map fun m listed => ?_
    simp only [Function.comp_apply, member?, filter_name_of_mem distinct (given m listed)]
  have read : (record members).fields? (asked.map Prod.fst) =
      ((members.map fun m => (quoted m.1, m.2)).mapM fun e => (unquoted? e.1).map (·, e.2)).bind
        fun named => (asked.map Prod.fst).mapM (member? named) := rfl
  rw [read, named, Option.bind_some, found]

theorem fields?_record {members : List (String × Json)}
    (distinct : (members.map Prod.fst).Nodup) :
    (record members).fields? (members.map Prod.fst) = some (members.map fun m => some m.2) :=
  fields?_record_of_subset distinct members fun _ listed => listed

end Json

/-! ## Labels -/

namespace Tags

theorem insertEntry_of_lt {key : String} (value : String) {entries : List (String × String)}
    (last : ∀ e ∈ entries, e.1 < key) :
    insertEntry key value entries = entries ++ [(key, value)] := by
  induction entries with
  | nil => rfl
  | cons e entries ih =>
      have before : e.1 < key := last e List.mem_cons_self
      have different : key ≠ e.1 := (Std.ne_of_lt before).symm
      rw [insertEntry, if_neg (String.lt_asymm before), if_neg different,
        ih fun d listed => last d (List.mem_cons_of_mem _ listed)]
      rfl

theorem entries_foldl_insert (rest : List (String × String)) (tags : Tags)
    (sorted : (tags.entries ++ rest).Pairwise fun a b => a.1 < b.1) :
    (rest.foldl (fun tags (key, value) => tags.insert key value) tags).entries =
      tags.entries ++ rest := by
  induction rest generalizing tags with
  | nil => simp
  | cons e rest ih =>
      obtain ⟨key, value⟩ := e
      have last : ∀ e ∈ tags.entries, e.1 < key := fun e listed =>
        (List.pairwise_append.mp sorted).2.2 e listed _ List.mem_cons_self
      have put : (tags.insert key value).entries = tags.entries ++ [(key, value)] :=
        insertEntry_of_lt value last
      have others := ih (tags.insert key value) (by rw [put]; simpa using sorted)
      rw [put] at others
      simpa using others

theorem eq_of_entries {a b : Tags} (same : a.entries = b.entries) : a = b := by
  cases a
  cases b
  cases same
  rfl

theorem ofList_entries (tags : Tags) : ofList tags.entries = tags :=
  eq_of_entries (entries_foldl_insert tags.entries empty tags.sorted)

theorem sound_toJson (tags : Tags) : tags.toJson.Sound := by
  refine Json.sound_record fun m listed => ?_
  obtain ⟨⟨key, value⟩, -, rfl⟩ := List.mem_map.mp listed
  exact Json.sound_text value

theorem ofJson?_toJson (tags : Tags) : ofJson? (some tags.toJson) = some tags := by
  let read (m : Bytes × Json) : Option (String × String) := do
    return (← Json.unquoted? m.1, ← m.2.text?)
  have entries : (tags.entries.map fun e => (Json.quoted e.1, Json.text e.2)).mapM read =
      some tags.entries := by
    rw [List.mapM_map, Json.mapM_eq_some_map (g := id), List.map_id]
    intro e _
    simp [read, Json.unquoted?_quoted, Json.text?_text]
  have written : tags.toJson =
      .object (tags.entries.map fun e => (Json.quoted e.1, Json.text e.2)) := by
    rw [toJson, Json.record_eq, List.map_map]
    rfl
  have parsed : ofJson? (some tags.toJson) =
      ((tags.entries.map fun e => (Json.quoted e.1, Json.text e.2)).mapM read).map ofList := by
    rw [written]
    rfl
  rw [parsed, entries, Option.map_some, ofList_entries]

end Tags

/-! ## Codecs -/

/-- How the values of a type are written and how they are read. -/
structure Codec (α : Type) where
  toJson : α → Json
  ofJson? : Json → Option α

namespace Codec

variable {α : Type} (c : Codec α)

def encode (v : α) : Bytes := (c.toJson v).compact

def decode? (text : Bytes) : Option α := (Json.read? text).bind c.ofJson?

/-- Nothing is lost on the wire: what was written reads back, and what was read from any text is
written in a form that reading and writing again keep. -/
structure Lossless : Prop where
  decode_encode : ∀ v, c.decode? (c.encode v) = some v
  settled : ∀ text v, c.decode? text = some v →
    (c.decode? (c.encode v)).map c.encode = some (c.encode v)

variable {c}

theorem lossless (sound : ∀ v, (c.toJson v).Sound)
    (inverts : ∀ v, c.ofJson? (c.toJson v) = some v) :
    c.Lossless := by
  have back : ∀ v, c.decode? (c.encode v) = some v := by
    intro v
    rw [decode?, encode, Json.read?_compact (sound v), Option.bind_some, inverts]
  exact ⟨back, fun text v _ => by rw [back, Option.map_some]⟩

end Codec

namespace Cluster

def codec : Codec Cluster := ⟨toJson, ofJson?⟩

def listCodec : Codec (List Cluster) := ⟨listToJson, listOfJson?⟩

theorem sound_toJson (c : Cluster) : c.toJson.Sound := by
  refine Json.sound_record fun m listed => ?_
  simp only [List.mem_cons, List.not_mem_nil, or_false] at listed
  rcases listed with rfl | rfl | rfl | rfl | rfl
  · exact Json.sound_text _
  · exact Json.sound_text _
  · exact .bool _
  · exact .bool _
  · exact c.tags.sound_toJson

theorem ofJson?_toJson (c : Cluster) : ofJson? c.toJson = some c := by
  have distinct : ([("name", .text c.name), ("host", .text c.host),
      ("available", .bool c.available), ("enabled", .bool c.enabled),
      ("tags", c.tags.toJson)] : List (String × Json)).map Prod.fst |>.Nodup := by simp
  have fields : c.toJson.fields? ["name", "host", "available", "enabled", "tags"] =
      some [some (.text c.name), some (.text c.host), some (.bool c.available),
        some (.bool c.enabled), some c.tags.toJson] := Json.fields?_record distinct
  simp [ofJson?, fields, Json.text?_text, Json.bool?, Tags.ofJson?_toJson]

theorem sound_listToJson (cs : List Cluster) : (listToJson cs).Sound := by
  refine .array fun v listed => ?_
  obtain ⟨c, -, rfl⟩ := List.mem_map.mp listed
  exact sound_toJson c

theorem listOfJson?_listToJson (cs : List Cluster) : listOfJson? (listToJson cs) = some cs := by
  rw [listToJson, listOfJson?, List.mapM_map, Json.mapM_eq_some_map (g := id), List.map_id]
  intro c _
  exact ofJson?_toJson c

end Cluster

namespace Stats

def codec : Codec Stats := ⟨toJson, ofJson?⟩

theorem sound_toJson (s : Stats) : s.toJson.Sound := by
  refine Json.sound_record fun m listed => ?_
  simp only [List.mem_cons, List.not_mem_nil, or_false] at listed
  rcases listed with rfl | rfl | rfl | rfl <;> exact Json.sound_nat _

theorem ofJson?_toJson (s : Stats) : ofJson? s.toJson = some s := by
  have distinct : ([("total_workers", .nat s.totalWorkers.toNat),
      ("running_queries", .nat s.runningQueries.toNat),
      ("blocked_queries", .nat s.blockedQueries.toNat),
      ("queued_queries", .nat s.queuedQueries.toNat)] : List (String × Json)).map Prod.fst
        |>.Nodup := by simp
  have fields : s.toJson.fields?
      ["total_workers", "running_queries", "blocked_queries", "queued_queries"] =
      some [some (.nat s.totalWorkers.toNat), some (.nat s.runningQueries.toNat),
        some (.nat s.blockedQueries.toNat), some (.nat s.queuedQueries.toNat)] :=
    Json.fields?_record distinct
  simp [ofJson?, fields, Json.count?_nat]

end Stats

namespace UpdateRequest

def codec : Codec UpdateRequest := ⟨toJson, ofJson?⟩

theorem sound_toJson (r : UpdateRequest) : r.toJson.Sound := by
  refine Json.sound_record fun m listed => ?_
  simp only [List.mem_cons, List.not_mem_nil, or_false] at listed
  rcases listed with rfl | rfl
  · exact Json.sound_text _
  · exact .bool _

theorem ofJson?_toJson (r : UpdateRequest) : ofJson? r.toJson = some r := by
  have distinct : ([("name", .text r.name), ("enabled", .bool r.enabled)] :
      List (String × Json)).map Prod.fst |>.Nodup := by simp
  have fields : r.toJson.fields? ["name", "enabled"] =
      some [some (.text r.name), some (.bool r.enabled)] := Json.fields?_record distinct
  simp [ofJson?, fields, Json.text?_text, Json.bool?]

theorem lossless_codec : codec.Lossless := Codec.lossless sound_toJson ofJson?_toJson

end UpdateRequest

namespace AddRequest

def codec : Codec AddRequest := ⟨toJson, ofJson?⟩

theorem sound_toJson (r : AddRequest) : r.toJson.Sound := by
  refine Json.sound_record fun m listed => ?_
  simp only [List.mem_cons, List.not_mem_nil, or_false] at listed
  rcases listed with rfl | rfl | rfl
  · exact Json.sound_text _
  · exact Json.sound_text _
  · exact .bool _

theorem ofJson?_toJson (r : AddRequest) : ofJson? r.toJson = some r := by
  have distinct : ([("name", .text r.name), ("url", .text r.url),
      ("enabled", .bool r.enabled)] : List (String × Json)).map Prod.fst |>.Nodup := by simp
  have fields : r.toJson.fields? ["name", "url", "enabled"] =
      some [some (.text r.name), some (.text r.url), some (.bool r.enabled)] :=
    Json.fields?_record distinct
  simp [ofJson?, fields, Json.text?_text, Json.bool?]

end AddRequest

/-- Counts, clusters, lists of clusters and both requests all read back as they were written. -/
theorem wire_codecs_lossless :
    Stats.codec.Lossless ∧ Cluster.codec.Lossless ∧ Cluster.listCodec.Lossless ∧
      UpdateRequest.codec.Lossless ∧ AddRequest.codec.Lossless :=
  ⟨Codec.lossless Stats.sound_toJson Stats.ofJson?_toJson,
    Codec.lossless Cluster.sound_toJson Cluster.ofJson?_toJson,
    Codec.lossless Cluster.sound_listToJson Cluster.listOfJson?_listToJson,
    UpdateRequest.lossless_codec,
    Codec.lossless AddRequest.sound_toJson AddRequest.ofJson?_toJson⟩

end FleetWatch
