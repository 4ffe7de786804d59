import FleetWatch.Toml.Reader

/-! # Keys of a document

A table under construction gets a new entry only where its key is not yet in use, and any other
change puts a node in the place of another. So no key of a document that was read stands there
twice.
-/

namespace FleetWatch.Toml

namespace Node

/-- A table no key of which stands there twice. -/
def Distinct : Node → Prop
  | .table _ entries => (entries.map Prod.fst).Nodup
  | _ => False

theorem keys_replace (key : String) (node : Node) (entries : List (String × Node)) :
    (replace key node entries).map Prod.fst = entries.map Prod.fst := by
  rw [replace, List.map_map]
  refine List.map_congr_left fun entry _ => ?_
  by_cases same : entry.1 = key <;> simp [same]

variable {key : String} {origin : Origin} {entries : List (String × Node)}

theorem distinct_snoc (node : Node) (distinct : Distinct (.table origin entries))
    (fresh : entries.lookup key = none) : Distinct (.table origin (entries ++ [(key, node)])) := by
  have unused : key ∉ entries.map Prod.fst := by
    intro used
    obtain ⟨entry, listed, same⟩ := List.mem_map.mp used
    have other := List.lookup_eq_none_iff.mp fresh entry listed
    simp [same] at other
  rw [Distinct, List.map_append]
  refine List.nodup_append.mpr ⟨distinct, by simp, fun a listed b last same => unused ?_⟩
  rwa [same, List.mem_singleton.mp last] at listed

theorem distinct_replace (node : Node) (distinct : Distinct (.table origin entries)) :
    Distinct (.table origin (replace key node entries)) := by
  rw [Distinct, keys_replace]
  exact distinct

variable {node node' : Node}

theorem distinct_alter? {isDotted : Bool} {change : Node → Option Node} {path : List String}
    (kept : ∀ {n n'}, Distinct n → change n = some n' → Distinct n') (distinct : Distinct node)
    (altered : alter? isDotted change path node = some node') : Distinct node' := by
  cases path with
  | nil =>
      rw [alter?] at altered
      exact kept distinct altered
  | cons key path =>
      cases node with
      | value | tables => simp [alter?] at altered
      | table origin entries =>
          rw [alter?] at altered
          split at altered
          · obtain ⟨child, -, rfl⟩ := Option.map_eq_some_iff.mp altered
            exact distinct_snoc child distinct ‹_›
          · split at altered
            · cases altered
            · obtain ⟨child, -, rfl⟩ := Option.map_eq_some_iff.mp altered
              exact distinct_replace child distinct
          · obtain ⟨child, -, rfl⟩ := Option.map_eq_some_iff.mp altered
            exact distinct_replace _ distinct
          · cases altered

theorem distinct_put? {isDotted : Bool} {v : Toml} (distinct : Distinct node)
    (put : put? isDotted key v node = some node') : Distinct node' := by
  cases node with
  | value | tables => cases put
  | table origin entries =>
      rw [put?] at put
      split at put
      · cases put
      · rename_i free
        cases put
        refine distinct_snoc _ distinct ?_
        simpa using (Bool.or_eq_false_iff.mp (Bool.eq_false_iff.mpr free)).2

theorem distinct_assign? {path : List String} {v : Toml} (distinct : Distinct node)
    (assigned : assign? path v node = some node') : Distinct node' := by
  unfold assign? at assigned
  split at assigned
  · cases assigned
  · exact distinct_alter? distinct_put? distinct assigned

theorem distinct_openTable? (distinct : Distinct node) (opened : openTable? key node = some node') :
    Distinct node' := by
  cases node with
  | value | tables => cases opened
  | table origin entries =>
      rw [openTable?] at opened
      split at opened
      · cases opened
        exact distinct_snoc _ distinct ‹_›
      · cases opened
        exact distinct_replace _ distinct
      · cases opened

theorem distinct_addTable? (distinct : Distinct node) (added : addTable? key node = some node') :
    Distinct node' := by
  cases node with
  | value | tables => cases added
  | table origin entries =>
      rw [addTable?] at added
      split at added
      · cases added
        exact distinct_snoc _ distinct ‹_›
      · cases added
        exact distinct_replace _ distinct
      · cases added

theorem distinct_header? {isArray : Bool} {path : List String} (distinct : Distinct node)
    (named : header? isArray path node = some node') : Distinct node' := by
  unfold header? at named
  split at named
  · cases named
  · refine distinct_alter? ?_ distinct named
    cases isArray
    · exact distinct_openTable?
    · exact distinct_addTable?

theorem keys_entriesToToml (entries : List (String × Node)) :
    (entriesToToml entries).map Prod.fst = entries.map Prod.fst := by
  induction entries with
  | nil => rfl
  | cons entry entries ih => rw [entriesToToml, List.map_cons, ih, List.map_cons]

end Node

theorem distinct_lines? {fuel : Nat} {current : List String} {node node' : Node} {cs : List Char}
    (distinct : node.Distinct) (read : lines? fuel current node cs = some node') :
    node'.Distinct := by
  induction fuel generalizing current node cs with
  | zero => simp [lines?] at read
  | succ fuel ih =>
      simp only [lines?, Option.bind_eq_bind, Option.bind_eq_some_iff] at read
      obtain ⟨rest, skipped, read⟩ := read
      split at read
      · cases read
        exact distinct
      · simp only [Option.bind_eq_some_iff] at read
        obtain ⟨_, _, headed, named, _, _, _, _, read⟩ := read
        exact ih (Node.distinct_header? distinct named) read
      · simp only [Option.bind_eq_some_iff] at read
        obtain ⟨_, _, read⟩ := read
        split at read
        · simp only [Option.bind_eq_some_iff] at read
          obtain ⟨_, _, assigned, altered, _, _, read⟩ := read
          exact ih (Node.distinct_alter? Node.distinct_assign? distinct altered) read
        · cases read

/-- No key stands twice in a document that was read. -/
theorem nodup_keys_of_read? {document : String} {entries : List (String × Toml)}
    (read : read? document = some entries) : (entries.map Prod.fst).Nodup := by
  unfold read? at read
  dsimp only at read
  split at read
  · rename_i finished
    cases read
    obtain ⟨node, built, whole⟩ := Option.map_eq_some_iff.mp finished
    have start : Node.root.Distinct := List.nodup_nil
    have distinct : node.Distinct := distinct_lines? start built
    cases node with
    | value | tables => cases distinct
    | table origin children =>
        rw [Node.toToml] at whole
        cases whole
        rwa [Node.keys_entriesToToml]
  · cases read

end FleetWatch.Toml
