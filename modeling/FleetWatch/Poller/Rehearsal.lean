import FleetWatch.Poller

/-! # Rehearsals

A poller run against a gateway that answers by a script, each answer after a delay. Everything
happens in one order: what has been set out on is started in the order of setting out, calls that
end at one time end in the order of their deadlines and then of their starts, and all signals are
taken up when nothing else is left to do.
-/

namespace FleetWatch

/-- How a scripted call ends, and how long after its start. -/
structure Answer (α : Type) where
  result : α
  delay : Duration

/-- The answers of a scripted gateway, call by call; the last one is given again and again. -/
structure Script where
  stats : List (Answer (Except Fault Stats))
  clusters : List (Answer (Except Fault (List Cluster)))
  commands : List (Answer (Except Fault Unit))

namespace Script

/-- The next answer of a list and the answers behind it, with one given where there is none. -/
def next {α : Type} (fallback : α) : List (Answer α) → Answer α × List (Answer α)
  | [] => (⟨fallback, ⟨0⟩⟩, [])
  | [last] => (last, [last])
  | first :: rest => (first, rest)

/-- The event that a call ends with, its delay, and the script behind it. -/
def answer (s : Script) : Call → FeedEvent × Duration × Script
  | .stats =>
    let (a, rest) := next (.ok Stats.zero) s.stats
    (.stats a.result, a.delay, { s with stats := rest })
  | .clusters =>
    let (a, rest) := next (.ok []) s.clusters
    (.clusters a.result, a.delay, { s with clusters := rest })
  | .command c =>
    let (a, rest) := next (.ok ()) s.commands
    (.settled c a.result, a.delay, { s with commands := rest })

end Script

/-- A call whose end is known and not yet reached. -/
structure Sleeper where
  deadline : Nat
  id : Nat
  event : FeedEvent

/-- A poller, the clock, the script, and what is to come. -/
structure Rehearsal where
  poller : Poller
  now : Nat
  script : Script
  /-- In the order of their starts. -/
  sleepers : List Sleeper
  /-- The calls that the gateway received, oldest first. -/
  calls : List Call

namespace Rehearsal

/-- Starts the call of one task. -/
def startCall (r : Rehearsal) (task : Task) : Rehearsal :=
  let (event, delay, script) := r.script.answer task.call
  let called := { r with
    poller := r.poller.call task.id, script := script, calls := r.calls ++ [task.call] }
  if delay.nanos = 0 then { called with poller := called.poller.finish task.id event }
  else { called with sleepers := called.sleepers ++ [⟨r.now + delay.nanos, task.id, event⟩] }

/-- Starts the calls of all tasks that have only set out. -/
def startCalls (r : Rehearsal) : Rehearsal := (r.poller.tasks.filter Task.isReady).foldl startCall r

/-- Takes up all signals, and waits for the next one. -/
def consumeAll (r : Rehearsal) : Rehearsal :=
  { r with poller := (r.poller.refresher.queue.foldl (fun p _ => p.consume) r.poller).consume }

/-- Goes on until nothing can be done before the clock moves. -/
def settle (r : Rehearsal) : Rehearsal := r.startCalls.consumeAll.startCalls

/-- Begins at a time on the steady clock. -/
def start (endpoint : String) (period : Duration) (script : Script) (now : Nat) : Rehearsal :=
  settle ⟨(Poller.launch endpoint period).wake now, now, script, [], []⟩

/-- Moves the clock at once; whatever has become due happens at the new time. -/
def advance (r : Rehearsal) (span : Duration) : Rehearsal :=
  let now := r.now + span.nanos
  let due := r.sleepers.filter fun s => s.deadline ≤ now
  let ended := (due.mergeSort fun a b => a.deadline ≤ b.deadline).foldl
    (fun p s => p.finish s.id s.event) (r.poller.wake now)
  settle { r with
    poller := ended, now := now, sleepers := r.sleepers.filter fun s => now < s.deadline }

def dispatch (r : Rehearsal) (command : Command) : Rehearsal :=
  settle { r with poller := r.poller.dispatch command }

def refresh (r : Rehearsal) : Rehearsal := settle { r with poller := r.poller.refresh }

def stop (r : Rehearsal) : Rehearsal := { r with poller := r.poller.stop }

/-- Nobody takes events any more. -/
def drop (r : Rehearsal) : Rehearsal := { r with poller := r.poller.drop }

/-- Takes all events and the calls received since they were last taken. -/
def collect (r : Rehearsal) : Rehearsal × List Call × List FeedEvent :=
  ({ r with poller := { r.poller with events := [] }, calls := [] }, r.calls, r.poller.events)

end Rehearsal

end FleetWatch
