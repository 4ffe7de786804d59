import FleetWatch.Toml

/-! # TOML tables under construction

A document names its tables in pieces, and what may still be added to a table hangs on how it came
to be: a table written in braces is complete, a header may be given once for a table, and tables
that keys with dots made are not to be opened by a header.
-/

namespace FleetWatch.Toml

/-- How a table came to be. -/
inductive Origin where
  /-- On the way to the table of a header. -/
  | implied
  /-- By a key with dots. -/
  | dotted
  /-- By its own header, or as the document itself. -/
  | header
  deriving Repr, DecidableEq

/-- A document under construction. -/
inductive Node where
  /-- A complete value. -/
  | value (v : Toml)
  | table (origin : Origin) (entries : List (String × Node))
  /-- An array of tables, the one added last first. -/
  | tables (items : List Node)
  deriving Repr, Inhabited

namespace Node

def root : Node := .table .header []

/-- Puts a node in the place of the one with a key. -/
def replace (key : String) (node : Node) (entries : List (String × Node)) : List (String × Node) :=
  entries.map fun entry => if entry.1 = key then (key, node) else entry

/-- Changes the table at the end of a path; tables that are missing on the way are made. A path of
a dotted key does not lead through a table that has its own header, and no path leads through a
complete value. -/
def alter? (isDotted : Bool) (change : Node → Option Node) : List String → Node → Option Node
  | [], node => change node
  | key :: path, .table origin entries =>
    match entries.lookup key with
    | none =>
      (alter? isDotted change path (.table (if isDotted then .dotted else .implied) [])).map
        fun child => .table origin (entries ++ [(key, child)])
    | some (.table inner children) =>
      if isDotted && inner = .header then none
      else (alter? isDotted change path (.table inner children)).map
        fun child => .table origin (replace key child entries)
    | some (.tables (last :: earlier)) =>
      (alter? isDotted change path last).map
        fun child => .table origin (replace key (.tables (child :: earlier)) entries)
    | some _ => none
  | _ :: _, _ => none

/-- Puts a value under a new key of a table, reached by a dotted key or not. -/
def put? (isDotted : Bool) (key : String) (v : Toml) : Node → Option Node
  | .table origin entries =>
    if (origin = .dotted) ≠ isDotted || (entries.lookup key).isSome then none
    else some (.table origin (entries ++ [(key, .value v)]))
  | _ => none

def assign? (path : List String) (v : Toml) (node : Node) : Option Node :=
  match path.reverse with
  | [] => none
  | key :: way => node.alter? true (put? (!way.isEmpty) key v) way.reverse

def openTable? (key : String) : Node → Option Node
  | .table origin entries =>
    match entries.lookup key with
    | none => some (.table origin (entries ++ [(key, .table .header [])]))
    | some (.table .implied children) =>
      some (.table origin (replace key (.table .header children) entries))
    | some _ => none
  | _ => none

/-- Adds a table to the array of tables of a header. -/
def addTable? (key : String) : Node → Option Node
  | .table origin entries =>
    match entries.lookup key with
    | none => some (.table origin (entries ++ [(key, .tables [.table .header []])]))
    | some (.tables items) =>
      some (.table origin (replace key (.tables (.table .header [] :: items)) entries))
    | some _ => none
  | _ => none

/-- Opens what a header names: a table, or one more table of an array. -/
def header? (isArray : Bool) (path : List String) (node : Node) : Option Node :=
  match path.reverse with
  | [] => none
  | key :: way =>
    node.alter? false (if isArray then addTable? key else openTable? key) way.reverse

mutual

def toToml : Node → Toml
  | .value v => v
  | .table _ entries => .table (entriesToToml entries)
  | .tables items => .array (itemsToToml items).reverse

def entriesToToml : List (String × Node) → List (String × Toml)
  | [] => []
  | (key, node) :: rest => (key, toToml node) :: entriesToToml rest

def itemsToToml : List Node → List Toml
  | [] => []
  | node :: rest => toToml node :: itemsToToml rest

end

end Node

end FleetWatch.Toml
