import FleetWatch.Clock
import FleetWatch.Collation
import FleetWatch.Duration
import FleetWatch.Feed
import FleetWatch.Series

/-! # The dashboard

What is known of the fleet: the latest counts, how the running and blocked queries went over the
last refreshes, and the clusters in the order of their names. Events are taken in as they arrive
and the last one wins; a fetch that failed changes nothing that is shown. At most one command is
under way at a time, and it ends when its outcome is taken in.
-/

namespace FleetWatch

inductive NoticeLevel where
  | info
  | error
  deriving Repr, DecidableEq, Inhabited

/-- A short message to the operator. -/
structure Notice where
  level : NoticeLevel
  message : String
  deriving Repr, DecidableEq, Inhabited

/-- Everything that is known of the fleet. -/
structure Dashboard where
  /-- The latest counts, all zero before any arrived. -/
  stats : Stats
  /-- Running queries over the last refreshes. -/
  running : Series
  /-- Blocked queries over the last refreshes. -/
  blocked : Series
  /-- The clusters of the latest list, by name. -/
  clusters : List Cluster
  /-- Whether a command is under way. -/
  isUpdating : Bool
  /-- When counts last arrived, on the steady clock. -/
  statsUpdated : Option Nat
  /-- When a list of clusters last arrived, on the steady clock. -/
  clustersUpdated : Option Nat
  deriving DecidableEq

/-- Clusters in the order of their names; those whose names are equal in order stay in the order
in which they were given. -/
def Cluster.sort (clusters : List Cluster) : List Cluster :=
  clusters.mergeSort fun a b => Collation.le a.name b.name

/-- What to tell the operator when a command has come to its end. -/
def Notice.ofOutcome (command : Command) (result : Except Fault Unit) : Notice :=
  match command, result with
  | .setEnabled name enabled, .ok _ =>
    ⟨.info, "cluster " ++ name ++ (if enabled then " enabled" else " disabled")⟩
  | .setEnabled name _, .error _ => ⟨.error, "error updating cluster " ++ name⟩
  | .discover, .ok _ => ⟨.info, "cluster discovery completed"⟩
  | .discover, .error _ => ⟨.error, "cluster discovery error"⟩
  | .add request, .ok _ => ⟨.info, "cluster " ++ request.name ++ " added"⟩
  | .add request, .error _ => ⟨.error, "error adding cluster " ++ request.name⟩

namespace Dashboard

/-- Nothing is known and nothing is under way. -/
def empty : Dashboard := ⟨Stats.zero, Series.empty, Series.empty, [], false, none, none⟩

instance : Inhabited Dashboard := ⟨empty⟩

def countSample (time : Timestamp) (count : UInt32) : Sample := ⟨time, Binary64.ofNat count.toNat⟩

/-- Takes in counts, with one sample in each series. -/
def recordStats (d : Dashboard) (stats : Stats) (now : Moment) : Dashboard :=
  { d with
    stats := stats
    running := d.running.push (countSample now.time stats.runningQueries)
    blocked := d.blocked.push (countSample now.time stats.blockedQueries)
    statsUpdated := some now.steady }

def recordClusters (d : Dashboard) (clusters : List Cluster) (now : Moment) : Dashboard :=
  { d with clusters := Cluster.sort clusters, clustersUpdated := some now.steady }

/-- Takes in an event; the notice is for the operator. -/
def apply (d : Dashboard) (event : FeedEvent) (now : Moment) : Dashboard × Option Notice :=
  match event with
  | .stats (.ok stats) => (d.recordStats stats now, none)
  | .stats (.error _) => (d, some ⟨.error, "error refreshing statistics"⟩)
  | .clusters (.ok clusters) => (d.recordClusters clusters now, none)
  | .clusters (.error _) => (d, some ⟨.error, "error refreshing cluster topology"⟩)
  | .settled command result => ({ d with isUpdating := false }, some (.ofOutcome command result))

/-- The dashboard once a command is under way; nothing when one already is. -/
def begin? (d : Dashboard) : Option Dashboard :=
  if d.isUpdating then none else some { d with isUpdating := true }

/-- Whether anything has arrived. -/
def hasData (d : Dashboard) : Bool := d.statsUpdated.isSome || d.clustersUpdated.isSome

def lastUpdated? (d : Dashboard) : Option Nat :=
  match d.statsUpdated, d.clustersUpdated with
  | some a, some b => some (max a b)
  | some a, none => some a
  | none, b => b

/-- How long ago anything last arrived. -/
def age? (d : Dashboard) (steady : Nat) : Option Duration :=
  d.lastUpdated?.map fun last => ⟨steady - last⟩

/-- The first cluster with a name. -/
def find? (d : Dashboard) (name : String) : Option Cluster := d.clusters.find? (·.name = name)

def enabledCount (d : Dashboard) : Nat := d.clusters.countP Cluster.enabled

def unavailableCount (d : Dashboard) : Nat := d.clusters.countP fun c => !c.available

end Dashboard

end FleetWatch
