import FleetWatch.Feed
import FleetWatch.Refresh

/-! # The poller

The source that asks a gateway. For every refresh signal it fetches the counts and the list of
clusters, each by itself; a command is carried out by itself too, and when it comes to its end
there is one more refresh. Calls may overlap and are answered in any order. The poller is a state
and the steps that it can make; who decides which step comes next is not part of it.
-/

namespace FleetWatch

/-- What the gateway is called for. -/
inductive Call where
  /-- The counts. -/
  | stats
  /-- The list of clusters. -/
  | clusters
  /-- A command. -/
  | command (command : Command)
  deriving Repr, DecidableEq, Inhabited

def Call.isCommand : Call → Bool
  | command _ => true
  | _ => false

/-- Whether an event is how a call may end. -/
def Call.yields : Call → FeedEvent → Bool
  | stats, .stats _ => true
  | clusters, .clusters _ => true
  | command c, .settled c' _ => c = c'
  | _, _ => false

/-- How far a call is. -/
inductive Stage where
  /-- The gateway has not been called yet. -/
  | ready
  /-- The answer is awaited. -/
  | calling
  /-- The answer has come, and is to be told. -/
  | answered (event : FeedEvent)
  deriving Repr, Inhabited

/-- A call on its way. -/
structure Task where
  id : Nat
  call : Call
  stage : Stage
  deriving Repr, Inhabited

namespace Task

/-- Whether the gateway has not been called yet. -/
def isReady (task : Task) : Bool :=
  match task.stage with
  | .ready => true
  | _ => false

/-- Whether the answer is awaited. -/
def isCalling (task : Task) : Bool :=
  match task.stage with
  | .calling => true
  | _ => false

/-- The answer that is to be told. -/
def answer? (task : Task) : Option FeedEvent :=
  match task.stage with
  | .answered event => some event
  | _ => none

end Task

structure Poller where
  endpoint : String
  /-- The loop that takes up its signals is its receiver. -/
  refresher : Refresher
  /-- Calls on their way, oldest first. -/
  tasks : List Task
  /-- What the next task is told apart by. -/
  nextId : Nat
  /-- Events that have arrived and are not yet taken, oldest first. -/
  events : List FeedEvent
  /-- Whether there is anyone to take events. -/
  isOpen : Bool

namespace Poller

/-- A poller that has just been set up. It asks for a refresh at once. -/
def launch (endpoint : String) (period : Duration) : Poller :=
  ⟨endpoint, (Refresher.launch period).trigger, [], 0, [], true⟩

/-- How the status bar names the poller. -/
def description (p : Poller) : String := "api: " ++ p.endpoint

def spawn (p : Poller) (call : Call) : Poller :=
  { p with tasks := p.tasks ++ [⟨p.nextId, call, .ready⟩], nextId := p.nextId + 1 }

/-- The timer looks at the clock. -/
def wake (p : Poller) (now : Nat) : Poller := { p with refresher := p.refresher.wake now }

/-- Someone asks for a refresh. -/
def refresh (p : Poller) : Poller := { p with refresher := p.refresher.trigger }

/-- Someone asks for a command. It keeps a handle, to ask for a refresh with at its end. -/
def dispatch (p : Poller) (command : Command) : Poller :=
  { p with refresher := p.refresher.clone : Poller }.spawn (.command command)

/-- Takes the oldest refresh signal, or waits for it, and sets out on both fetches. The loop ends
when there will be no more signals, or nobody is left to take events. -/
def consume (p : Poller) : Poller :=
  if p.refresher.hasReceiver then
    match p.refresher.await with
    | (refresher, .signal _) =>
      if p.isOpen then ({ p with refresher := refresher : Poller }.spawn .stats).spawn .clusters
      else { p with refresher := refresher.dropReceiver }
    | (refresher, .ended) => { p with refresher := refresher.dropReceiver }
    | (refresher, .pending) => { p with refresher := refresher }
  else p

def task? (p : Poller) (id : Nat) : Option Task := p.tasks.find? fun task => task.id = id

def moveTo (p : Poller) (id : Nat) (stage : Stage) : Poller :=
  { p with tasks := p.tasks.map fun task =>
      if task.id = id then { task with stage := stage } else task }

/-- A task that has set out calls the gateway. -/
def call (p : Poller) (id : Nat) : Poller :=
  match p.task? id with
  | some task => if task.isReady then p.moveTo id .calling else p
  | none => p

/-- The gateway answers a call. The end of a command asks for a refresh before it is told. -/
def answer (p : Poller) (id : Nat) (event : FeedEvent) : Poller :=
  match p.task? id with
  | some task =>
    if task.isCalling && task.call.yields event then
      let answered := p.moveTo id (.answered event)
      if task.call.isCommand then answered.refresh else answered
    else p
  | none => p

/-- Queues an event as long as there is anyone to take it. -/
def enqueue (p : Poller) (event : FeedEvent) : Poller :=
  if p.isOpen then { p with events := p.events ++ [event] } else p

/-- A task tells its answer and is done; a command gives its handle back. -/
def deliver (p : Poller) (id : Nat) : Poller :=
  match p.task? id with
  | some task =>
    match task.answer? with
    | some event =>
      let rest := p.tasks.filter fun other => other.id ≠ id
      let told := { p with tasks := rest : Poller }.enqueue event
      if task.call.isCommand then { told with refresher := told.refresher.drop } else told
    | none => p
  | none => p

/-- A call ends with an event, which is told at once. -/
def finish (p : Poller) (id : Nat) (event : FeedEvent) : Poller := (p.answer id event).deliver id

/-- The oldest event is taken, if there is one. -/
def poll (p : Poller) : Poller × Option FeedEvent :=
  match p.events with
  | [] => (p, none)
  | event :: rest => ({ p with events := rest }, some event)

/-- Stops fetching for good. Commands are still carried out. -/
def stop (p : Poller) : Poller := { p with refresher := p.refresher.stop }

/-- Nobody takes events any more, those that were not taken are lost, and the handle is given
back. -/
def drop (p : Poller) : Poller :=
  { p with refresher := p.refresher.stop.drop, events := [], isOpen := false }

end Poller

end FleetWatch
