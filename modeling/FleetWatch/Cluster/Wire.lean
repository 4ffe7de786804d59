import FleetWatch.Cluster
import FleetWatch.Json.Reader
import FleetWatch.Json.Writer

/-! # Wire form of clusters, counts and requests

Records are written as objects with their fields in a fixed order. They are read from objects with
their fields in any order, others among them passed over, or from arrays with the fields in the
fixed order; a field given twice is refused. Labels may be null or left out when there are none.
-/

namespace FleetWatch

namespace Json

def text? : Json → Option String
  | .string body => unquoted? body
  | _ => none

def bool? : Json → Option Bool
  | .bool b => some b
  | _ => none

/-- The natural number whose digits a literal is; a sign, a point or an exponent is refused. -/
def naturalOf? (literal : Bytes) : Option Nat :=
  if literal.isEmpty || !literal.all Token.isDigit then none
  else some (literal.foldl (fun n b => 10 * n + (b.toNat - 48)) 0)

def count? : Json → Option UInt32
  | .number literal =>
    (naturalOf? literal).bind fun n => if n < 0x100000000 then some (UInt32.ofNat n) else none
  | _ => none

/-- The one member with a name: nothing when there is none, a refusal when there are more. -/
def member? (members : List (String × Json)) (name : String) : Option (Option Json) :=
  match members.filter (·.1 = name) with
  | [] => some none
  | [(_, v)] => some (some v)
  | _ => none

/-- The values of the named fields of a record, in the order of the names. -/
def fields? (names : List String) : Json → Option (List (Option Json))
  | .object members => do
    let named ← members.mapM fun (key, v) => (unquoted? key).map (·, v)
    names.mapM (member? named)
  | .array items =>
    if items.length ≤ names.length then
      some (items.map some ++ List.replicate (names.length - items.length) none)
    else none
  | _ => none

end Json

namespace Tags

def toJson (tags : Tags) : Json :=
  Json.record (tags.entries.map fun (key, value) => (key, Json.text value))

def ofJson? : Option Json → Option Tags
  | none => some empty
  | some .null => some empty
  | some (.object members) =>
    (members.mapM fun (m : Bytes × Json) => do
      return (← Json.unquoted? m.1, ← m.2.text?)).map ofList
  | some _ => none

end Tags

namespace Cluster

def toJson (c : Cluster) : Json :=
  Json.record
    [("name", .text c.name), ("host", .text c.host), ("available", .bool c.available),
      ("enabled", .bool c.enabled), ("tags", c.tags.toJson)]

def ofJson? (v : Json) : Option Cluster :=
  match v.fields? ["name", "host", "available", "enabled", "tags"] with
  | some [some name, some host, some available, some enabled, tags] => do
    return ⟨← name.text?, ← host.text?, ← available.bool?, ← enabled.bool?, ← Tags.ofJson? tags⟩
  | _ => none

def listToJson (cs : List Cluster) : Json := .array (cs.map toJson)

def listOfJson? : Json → Option (List Cluster)
  | .array items => items.mapM ofJson?
  | _ => none

end Cluster

namespace Stats

def toJson (s : Stats) : Json :=
  Json.record
    [("total_workers", .nat s.totalWorkers.toNat), ("running_queries", .nat s.runningQueries.toNat),
      ("blocked_queries", .nat s.blockedQueries.toNat),
      ("queued_queries", .nat s.queuedQueries.toNat)]

def ofJson? (v : Json) : Option Stats :=
  match v.fields? ["total_workers", "running_queries", "blocked_queries", "queued_queries"] with
  | some [some total, some running, some blocked, some queued] => do
    return ⟨← total.count?, ← running.count?, ← blocked.count?, ← queued.count?⟩
  | _ => none

end Stats

namespace UpdateRequest

def toJson (r : UpdateRequest) : Json :=
  Json.record [("name", .text r.name), ("enabled", .bool r.enabled)]

def ofJson? (v : Json) : Option UpdateRequest :=
  match v.fields? ["name", "enabled"] with
  | some [some name, some enabled] => do return ⟨← name.text?, ← enabled.bool?⟩
  | _ => none

end UpdateRequest

namespace AddRequest

def toJson (r : AddRequest) : Json :=
  Json.record [("name", .text r.name), ("url", .text r.url), ("enabled", .bool r.enabled)]

def ofJson? (v : Json) : Option AddRequest :=
  match v.fields? ["name", "url", "enabled"] with
  | some [some name, some url, some enabled] => do
    return ⟨← name.text?, ← url.text?, ← enabled.bool?⟩
  | _ => none

end AddRequest

end FleetWatch
