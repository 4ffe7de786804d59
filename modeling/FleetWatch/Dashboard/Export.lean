import FleetWatch.Cluster.Wire
import FleetWatch.Dashboard

/-! # The exported document

What the operator can save of the dashboard: a JSON document with the members of every object in
the order of their names. Times in it are in Coordinated Universal Time; samples mark it with `Z`
and the time of the export with `+00:00`.
-/

namespace FleetWatch

def Sample.exported (s : Sample) : Json :=
  Json.record [("timestamp", .text (s.timestamp.rfc3339 "Z")), ("value", .float s.value)]

/-- A series in the exported document, oldest sample first. -/
def Series.exported (s : Series) : Json := .array (s.samples.map Sample.exported)

def Cluster.exported (c : Cluster) : Json :=
  Json.record
    [("available", .bool c.available), ("enabled", .bool c.enabled), ("host", .text c.host),
      ("name", .text c.name), ("tags", c.tags.toJson)]

def Stats.exported (s : Stats) : Json :=
  Json.record
    [("blocked_queries", .nat s.blockedQueries.toNat),
      ("queued_queries", .nat s.queuedQueries.toNat),
      ("running_queries", .nat s.runningQueries.toNat),
      ("total_workers", .nat s.totalWorkers.toNat)]

namespace Dashboard

/-- The document as a value. The endpoint is where the gateway was asked, null when the data did
not come from one. -/
def exported (d : Dashboard) (endpoint : Option String) (time : Timestamp) : Json :=
  Json.record
    [("clusters", .array (d.clusters.map Cluster.exported)),
      ("endpoint", .orNull (endpoint.map .text)),
      ("exported_at", .text (time.rfc3339 "+00:00")),
      ("series", Json.record
        [("blocked_queries", d.blocked.exported), ("running_queries", d.running.exported)]),
      ("stats", d.stats.exported)]

def exportDocument (d : Dashboard) (endpoint : Option String) (time : Timestamp) : Bytes :=
  (d.exported endpoint time).pretty

end Dashboard

end FleetWatch
