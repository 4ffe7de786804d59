import FleetWatch.Text.Utf8

/-! # Clusters

The query clusters behind a gateway, the counts that the gateway keeps over them, and the two
requests that change the fleet.
-/

namespace FleetWatch

/-- Free-form labels: keys in ascending order of their code points, each with one value. -/
structure Tags where
  entries : List (String × String)
  sorted : entries.Pairwise fun a b => a.1 < b.1
  deriving DecidableEq

namespace Tags

instance : Repr Tags := ⟨fun tags n => reprPrec tags.entries n⟩

def empty : Tags := ⟨[], .nil⟩

instance : Inhabited Tags := ⟨empty⟩

/-- Puts an entry in its place; a key that is there already gets the new value. -/
def insertEntry (key value : String) : List (String × String) → List (String × String)
  | [] => [(key, value)]
  | (k, v) :: rest =>
    if key < k then (key, value) :: (k, v) :: rest
    else if key = k then (key, value) :: rest
    else (k, v) :: insertEntry key value rest

theorem mem_insertEntry {key value : String} {entries : List (String × String)}
    {e : String × String} (h : e ∈ insertEntry key value entries) :
    e = (key, value) ∨ e ∈ entries := by
  induction entries with
  | nil => simpa [insertEntry] using h
  | cons head rest ih =>
    obtain ⟨k, v⟩ := head
    simp only [insertEntry] at h
    split at h
    · simpa using h
    · split at h
      · rcases List.mem_cons.1 h with rfl | h
        · exact .inl rfl
        · exact .inr (List.mem_cons_of_mem _ h)
      · rcases List.mem_cons.1 h with rfl | h
        · exact .inr (by simp)
        · exact (ih h).imp id (List.mem_cons_of_mem _)

theorem pairwise_insertEntry {key value : String} {entries : List (String × String)}
    (h : entries.Pairwise fun a b => a.1 < b.1) :
    (insertEntry key value entries).Pairwise fun a b => a.1 < b.1 := by
  induction entries with
  | nil => simp [insertEntry]
  | cons head rest ih =>
    obtain ⟨k, v⟩ := head
    obtain ⟨first, others⟩ := List.pairwise_cons.1 h
    simp only [insertEntry]
    split
    · rename_i before
      refine List.pairwise_cons.2 ⟨fun e he => ?_, h⟩
      rcases List.mem_cons.1 he with rfl | he
      · exact before
      · exact String.lt_trans before (first e he)
    · split
      · rename_i same
        exact List.pairwise_cons.2 ⟨fun e he => same ▸ first e he, others⟩
      · rename_i after other
        refine List.pairwise_cons.2 ⟨fun e he => ?_, ih others⟩
        rcases mem_insertEntry he with rfl | he
        · exact Std.lt_of_le_of_ne after (Ne.symm other)
        · exact first e he

def insert (tags : Tags) (key value : String) : Tags :=
  ⟨insertEntry key value tags.entries, pairwise_insertEntry tags.sorted⟩

/-- The labels of a list of entries; of entries with one key the last counts. -/
def ofList (entries : List (String × String)) : Tags :=
  entries.foldl (fun tags (key, value) => tags.insert key value) empty

/-- The labels as `key=value` in key order, or a dash when there are none. -/
def summary (tags : Tags) : String :=
  if tags.entries.isEmpty then "-"
  else ", ".intercalate (tags.entries.map fun (key, value) => key ++ "=" ++ value)

end Tags

structure Cluster where
  name : String
  /-- Where its coordinator is. -/
  host : String
  /-- Whether its coordinator can be reached. -/
  available : Bool
  /-- Whether the gateway sends queries to it. -/
  enabled : Bool
  tags : Tags
  deriving Repr, DecidableEq, Inhabited

/-- Counts over all enabled clusters. -/
structure Stats where
  totalWorkers : UInt32
  runningQueries : UInt32
  blockedQueries : UInt32
  queuedQueries : UInt32
  deriving Repr, DecidableEq, Inhabited

namespace Stats

def zero : Stats := ⟨0, 0, 0, 0⟩

end Stats

/-- Asks for a cluster to be enabled or disabled. -/
structure UpdateRequest where
  name : String
  enabled : Bool
  deriving Repr, DecidableEq

/-- Asks for a cluster to be made known to the gateway. -/
structure AddRequest where
  name : String
  url : String
  enabled : Bool
  deriving Repr, DecidableEq

end FleetWatch
