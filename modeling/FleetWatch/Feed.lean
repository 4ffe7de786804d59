import FleetWatch.Cluster
import FleetWatch.Fault

/-! # The feed

What the operator asks of the gateway, and what comes back for the dashboard to take in.
-/

namespace FleetWatch

/-- An operation that changes the fleet. -/
inductive Command where
  /-- Enable or disable a cluster. -/
  | setEnabled (name : String) (enabled : Bool)
  /-- Let the gateway look for clusters. -/
  | discover
  /-- Make a cluster known. -/
  | add (request : AddRequest)
  deriving Repr, DecidableEq, Inhabited

def Command.label : Command → String
  | setEnabled .. => "set-enabled"
  | discover => "discover"
  | add _ => "add-cluster"

/-- Something for the dashboard to take in. -/
inductive FeedEvent where
  /-- Counts were fetched, or could not be. -/
  | stats (result : Except Fault Stats)
  /-- The list of clusters was fetched, or could not be. -/
  | clusters (result : Except Fault (List Cluster))
  /-- A command came to its end. -/
  | settled (command : Command) (result : Except Fault Unit)
  deriving Repr, Inhabited

/-- What the operator's side asks of a source of events. -/
inductive SourceRequest where
  /-- Fetch counts and clusters now. -/
  | refresh
  /-- Carry out a command. -/
  | dispatch (command : Command)
  deriving Repr, DecidableEq, Inhabited

end FleetWatch
