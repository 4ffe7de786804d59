import FleetWatch.Feed

/-! # Relays

A source whose events are pushed by someone instead of being fetched. It has two sides: the feed
pushes events and takes requests, the source takes events and makes requests. Both queues are
unbounded and keep their order; what was queued before one side went away still reaches the
other.
-/

namespace FleetWatch

/-- The two queues and which sides are there. -/
structure Relay where
  description : String
  /-- Events accepted and not yet taken, oldest first. -/
  events : List FeedEvent
  /-- Requests made and not yet taken, oldest first. -/
  requests : List SourceRequest
  hasFeed : Bool
  hasSource : Bool
  deriving Repr

namespace Relay

/-- A relay with both sides. -/
def connect (name : String) : Relay := ⟨"channel: " ++ name, [], [], true, true⟩

/-- The feed pushes an event. It is accepted as long as the source is there. -/
def send (r : Relay) (event : FeedEvent) : Relay × Bool :=
  if r.hasSource then ({ r with events := r.events ++ [event] }, true) else (r, false)

/-- The source takes the oldest event, if there is one. -/
def poll (r : Relay) : Relay × Option FeedEvent :=
  match r.events with
  | [] => (r, none)
  | event :: rest => ({ r with events := rest }, some event)

/-- The source makes a request; nobody hears it once the feed is gone. -/
def ask (r : Relay) (request : SourceRequest) : Relay :=
  if r.hasFeed then { r with requests := r.requests ++ [request] } else r

/-- The feed takes the oldest request, if there is one. -/
def nextRequest (r : Relay) : Relay × Option SourceRequest :=
  match r.requests with
  | [] => (r, none)
  | request :: rest => ({ r with requests := rest }, some request)

/-- What waiting for a request gives. -/
inductive Awaited where
  /-- The oldest request. -/
  | request (request : SourceRequest)
  /-- There will be no more requests. -/
  | ended
  /-- There is no request yet. -/
  | pending
  deriving Repr, DecidableEq, Inhabited

/-- The feed waits for a request. -/
def awaitRequest (r : Relay) : Relay × Awaited :=
  match r.nextRequest with
  | (r', some request) => (r', .request request)
  | (r', none) => (r', if r.hasSource then .pending else .ended)

/-- The feed goes away, and the requests that it did not take with it. -/
def dropFeed (r : Relay) : Relay := { r with requests := [], hasFeed := false }

def dropSource (r : Relay) : Relay := { r with events := [], hasSource := false }

end Relay

end FleetWatch
