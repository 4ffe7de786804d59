import FleetWatch.Poller
import FleetWatch.Proofs.Refresh.Delivery
import Mathlib.Data.List.Nodup
import Mathlib.Data.List.Perm.Subperm

/-! # Runs of a poller

A poller goes from state to state by its timer, by what it is asked, by the loop that takes up its
signals, and by its calls, in any order. The gateway answers a call whenever it likes, well or not,
with an event of the kind that the call asks for. What each of these steps does is said once, in
`Effect`: what it is to the refresher, which calls it takes off their way and which it puts there,
and what it does to the queue of events.
-/

namespace FleetWatch

open scoped List

/-- The call that an event is the end of. -/
def FeedEvent.call : FeedEvent → Call
  | stats _ => .stats
  | clusters _ => .clusters
  | settled command _ => .command command

theorem Call.yields_iff {call : Call} {event : FeedEvent} :
    call.yields event = true ↔ event.call = call := by
  cases call <;> cases event <;> simp [Call.yields, FeedEvent.call, eq_comm]

namespace Poller

/-- One thing that happens to a poller, as it is seen from outside. Calls are told apart by the
numbers of their tasks. -/
inductive Deed where
  /-- The timer has a look at the clock or at what is announced, and does not go off. -/
  | look
  /-- The timer goes off. -/
  | tick
  /-- A refresh is asked for. -/
  | refresh
  /-- A command is asked for. -/
  | dispatch (id : Nat) (command : Command)
  /-- The loop finds no signal and waits for one. -/
  | wait
  /-- The loop takes up a signal. It sets out on the counts, and on the list by the next number. -/
  | consume (signal : RefreshSignal) (id : Nat)
  /-- The loop hears that there will be no more signals, and ends. -/
  | leave
  /-- The gateway is called. -/
  | call (id : Nat) (call : Call)
  /-- The gateway answers. -/
  | answer (id : Nat) (event : FeedEvent)
  /-- An answer is put into the queue of events. -/
  | tell (id : Nat) (event : FeedEvent)
  /-- An event is taken if there is one. -/
  | poll (got : Option FeedEvent)
  | stop

namespace Deed

/-- What a deed is to the refresher, if it is anything to it. -/
def ofRefresher? : Deed → Option Refresher.Deed
  | look => some .look
  | tick => some .tick
  | refresh => some .trigger
  | dispatch .. => some .clone
  | wait => some (.receive .pending)
  | consume signal _ => some (.receive (.signal signal))
  | answer _ (.settled ..) => some .trigger
  | tell _ (.settled ..) => some .drop
  | stop => some .stop
  | _ => none

/-- The calls that a deed takes off their way, as they were. -/
def gone : Deed → List Task
  | call id asked => [⟨id, asked, .ready⟩]
  | answer id event => [⟨id, event.call, .calling⟩]
  | tell id event => [⟨id, event.call, .answered event⟩]
  | _ => []

/-- The calls that a deed puts on their way, as they are then. -/
def come : Deed → List Task
  | dispatch id command => [⟨id, .command command, .ready⟩]
  | consume _ id => [⟨id, .stats, .ready⟩, ⟨id + 1, .clusters, .ready⟩]
  | call id asked => [⟨id, asked, .calling⟩]
  | answer id event => [⟨id, event.call, .answered event⟩]
  | _ => []

/-- The calls that a deed sets out on, each with its number. -/
def started : Deed → List (Nat × Call)
  | dispatch id command => [(id, .command command)]
  | consume _ id => [(id, .stats), (id + 1, .clusters)]
  | _ => []

def called : Deed → List (Nat × Call)
  | call id asked => [(id, asked)]
  | _ => []

def answered : Deed → List (Nat × FeedEvent)
  | answer id event => [(id, event)]
  | _ => []

def told : Deed → List (Nat × FeedEvent)
  | tell id event => [(id, event)]
  | _ => []

def polled : Deed → List FeedEvent
  | poll got => got.toList
  | _ => []

end Deed

/-- What a poller may do next, as long as nobody gives it up. -/
inductive Step : Poller → Deed → Poller → Prop where
  | begin (p : Poller) (now : Nat) : Step p .look { p with refresher := p.refresher.begin now }
  | heed (p : Poller) : Step p .look { p with refresher := p.refresher.heed }
  | tick (p : Poller) (now : Nat) (due : p.refresher.ticker.isDue now = true) :
      Step p .tick { p with refresher := p.refresher.ring now }
  | refresh (p : Poller) : Step p .refresh p.refresh
  | dispatch (p : Poller) (command : Command) :
      Step p (.dispatch p.nextId command) (p.dispatch command)
  | wait (p : Poller) (loops : p.refresher.hasReceiver = true)
      (nothing : p.refresher.await.2 = .pending) : Step p .wait p.consume
  | consume (p : Poller) (loops : p.refresher.hasReceiver = true) (signal : RefreshSignal)
      (taken : p.refresher.await.2 = .signal signal) : Step p (.consume signal p.nextId) p.consume
  | leave (p : Poller) (loops : p.refresher.hasReceiver = true)
      (hears : p.refresher.await.2 = .ended) : Step p .leave p.consume
  | call (p : Poller) (id : Nat) (call : Call) (found : p.task? id = some ⟨id, call, .ready⟩) :
      Step p (.call id call) (p.call id)
  | answer (p : Poller) (id : Nat) (call : Call) (event : FeedEvent)
      (found : p.task? id = some ⟨id, call, .calling⟩) (fits : call.yields event = true) :
      Step p (.answer id event) (p.answer id event)
  | tell (p : Poller) (id : Nat) (call : Call) (event : FeedEvent)
      (found : p.task? id = some ⟨id, call, .answered event⟩) :
      Step p (.tell id event) (p.deliver id)
  | poll (p : Poller) : Step p (.poll p.poll.2) p.poll.1
  | stop (p : Poller) : Step p .stop p.stop

abbrev Run : Poller → List Deed → Poller → Prop := FleetWatch.Run Step

/-- What every run of a poller keeps. The poller itself and each command on its way have a handle,
so that handles given back never stop the refresher. -/
structure Sound (p : Poller) : Prop where
  handles : p.refresher.handles = 1 + p.tasks.countP fun task => task.call.isCommand
  isOpen : p.isOpen = true
  /-- No two tasks have one number, and the next number is new. -/
  numbers : p.tasks.map Task.id <+~ List.range p.nextId
  answers : ∀ task ∈ p.tasks, ∀ event, task.stage = .answered event → event.call = task.call

/-- What a deed does. -/
structure Effect (p : Poller) (deed : Deed) (p' : Poller) : Prop where
  refresher : (∃ inner, deed.ofRefresher? = some inner ∧ p.refresher.Step inner p'.refresher) ∨
    deed.ofRefresher? = none ∧ (p'.refresher = p.refresher ∨
      p.refresher.await.2 = .ended ∧ p'.refresher = p.refresher.await.1.dropReceiver)
  tasks : p'.tasks ++ deed.gone ~ p.tasks ++ deed.come
  numbers : p'.nextId = p.nextId + deed.started.length ∧
    deed.started.map Prod.fst = List.range' p.nextId deed.started.length
  events : deed.polled ++ p'.events = p.events ++ deed.told.map Prod.snd
  isOpen : p'.isOpen = p.isOpen

theorem nodup_of_numbers {numbers : List Nat} {nextId : Nat}
    (among : numbers <+~ List.range nextId) : numbers.Nodup := by
  obtain ⟨_, perm, sublist⟩ := among
  exact perm.nodup_iff.mp (sublist.nodup List.nodup_range)

/-! ## The task that is found -/

def others (p : Poller) (id : Nat) : List Task := p.tasks.filter fun task => task.id ≠ id

variable {p p' : Poller} {id : Nat} {call : Call} {stage : Stage} {event : FeedEvent}

theorem perm_of_found {tasks : List Task} (distinct : (tasks.map Task.id).Nodup) {task : Task}
    (found : (tasks.find? fun task => task.id = id) = some task) :
    tasks ~ task :: tasks.filter fun task => task.id ≠ id := by
  induction tasks with
  | nil => simp at found
  | cons first rest ih =>
      obtain ⟨new, distinct⟩ := List.nodup_cons.mp distinct
      by_cases here : first.id = id
      · -- No other task has the number, so the filter takes off just the first.
        have same : first = task := by simpa [here] using found
        have apart : rest.filter (fun task => task.id ≠ id) = rest := by
          refine List.filter_eq_self.mpr fun other among => ?_
          simpa using fun equal : other.id = id =>
            new (List.mem_map.mpr ⟨other, among, equal.trans here.symm⟩)
        rw [List.filter_cons_of_neg (by simpa using here), apart, same]
      · rw [List.find?_cons_of_neg (by simpa using here)] at found
        rw [List.filter_cons_of_pos (by simpa using here)]
        exact ((ih distinct found).cons first).trans (.swap ..)

/-! Moving a task to another stage keeps its number, and it leaves the others alone. -/

theorem moved_id (next : Stage) (task : Task) :
    (if task.id = id then { task with stage := next } else task).id = task.id := by
  split <;> rfl

theorem map_others (next : Stage) : (p.others id).map
    (fun task => if task.id = id then { task with stage := next } else task) = p.others id := by
  refine (List.map_congr_left fun task among => ?_).trans (List.map_id _)
  have other : task.id ≠ id := by simpa using (List.mem_filter.mp among).2
  exact if_neg other

theorem others_moveTo (next : Stage) : (p.moveTo id next).others id = p.others id := by
  rw [others, moveTo, List.filter_map]
  simp only [Function.comp_def, moved_id]
  exact map_others next

theorem task?_moveTo (found : p.task? id = some ⟨id, call, stage⟩) (next : Stage) :
    (p.moveTo id next).task? id = some ⟨id, call, next⟩ := by
  unfold task? at found
  rw [task?, moveTo, List.find?_map]
  simp only [Function.comp_def, moved_id]
  rw [found, Option.map_some, if_pos rfl]

namespace Sound

theorem distinct (h : Sound p) : (p.tasks.map Task.id).Nodup := nodup_of_numbers h.numbers

theorem perm (h : Sound p) (found : p.task? id = some ⟨id, call, stage⟩) :
    p.tasks ~ ⟨id, call, stage⟩ :: p.others id := perm_of_found h.distinct found

theorem perm_moveTo (h : Sound p) (found : p.task? id = some ⟨id, call, stage⟩) (next : Stage) :
    (p.moveTo id next).tasks ~ ⟨id, call, next⟩ :: p.others id := by
  have moved := (h.perm found).map fun task =>
    if task.id = id then { task with stage := next } else task
  rwa [List.map_cons, map_others, if_pos rfl] at moved

theorem found (h : Sound p) {task : Task} (among : task ∈ p.tasks) :
    p.task? task.id = some task := by
  have isThere : (p.task? task.id).isSome = true :=
    List.find?_isSome.mpr ⟨task, among, decide_eq_true rfl⟩
  obtain ⟨other, found⟩ := Option.isSome_iff_exists.mp isThere
  have same := List.find?_some found
  rw [found, List.inj_on_of_nodup_map h.distinct (List.mem_of_find?_eq_some found) among
    (of_decide_eq_true same)]

end Sound

/-! ## What each step does -/

theorem call_eq (found : p.task? id = some ⟨id, call, .ready⟩) :
    p.call id = p.moveTo id .calling := by
  simp [Poller.call, found, Task.isReady]

theorem answer_eq (found : p.task? id = some ⟨id, event.call, .calling⟩) :
    p.answer id event = { p.moveTo id (.answered event) with
      refresher := if event.call.isCommand then p.refresher.trigger else p.refresher } := by
  have fits : event.call.yields event = true := Call.yields_iff.mpr rfl
  simp only [answer, found, Task.isCalling, fits, Bool.and_self, if_true]
  split <;> rfl

theorem deliver_eq (h : Sound p) (found : p.task? id = some ⟨id, event.call, .answered event⟩) :
    p.deliver id = { p with
      tasks := p.others id
      events := p.events ++ [event]
      refresher := if event.call.isCommand then p.refresher.drop else p.refresher } := by
  simp only [deliver, found, Task.answer?, enqueue, h.isOpen, if_true, others]
  split <;> rfl

theorem consume_pending (loops : p.refresher.hasReceiver = true)
    (nothing : p.refresher.await.2 = .pending) :
    p.consume = { p with refresher := p.refresher.await.1 } := by
  rcases heard : p.refresher.await with ⟨refresher, got⟩
  rw [heard] at nothing
  cases nothing
  simp [consume, loops, heard]

theorem consume_ended (loops : p.refresher.hasReceiver = true)
    (hears : p.refresher.await.2 = .ended) :
    p.consume = { p with refresher := p.refresher.await.1.dropReceiver } := by
  rcases heard : p.refresher.await with ⟨refresher, got⟩
  rw [heard] at hears
  cases hears
  simp [consume, loops, heard]

theorem consume_signal (h : Sound p) (loops : p.refresher.hasReceiver = true)
    {signal : RefreshSignal} (taken : p.refresher.await.2 = .signal signal) :
    p.consume =
      ({ p with refresher := p.refresher.await.1 : Poller }.spawn .stats).spawn .clusters := by
  rcases heard : p.refresher.await with ⟨refresher, got⟩
  rw [heard] at taken
  cases taken
  simp [consume, loops, heard, h.isOpen]

theorem poll_eq : p.poll = ({ p with events := p.events.tail }, p.events.head?) := by
  cases p with
  | mk endpoint refresher tasks nextId events => cases events <;> rfl

theorem Run.finish {before : Poller} {deeds : List Deed} (run : Run before deeds p) (id : Nat)
    (event : FeedEvent) (found : p.task? id = some ⟨id, event.call, .calling⟩) :
    Run before (deeds ++ [.answer id event] ++ [.tell id event]) (p.finish id event) := by
  have answered := run.step (.answer p id _ event found (Call.yields_iff.mpr rfl))
  refine answered.step (.tell _ id event.call event ?_)
  rw [answer_eq found]
  exact task?_moveTo found _

theorem Sound.moved (h : Sound p) (found : p.task? id = some ⟨id, call, stage⟩) (next : Stage) :
    (p.moveTo id next).tasks ++ [⟨id, call, stage⟩] ~ p.tasks ++ [⟨id, call, next⟩] := by
  have after := ((h.perm_moveTo found next).append_right [⟨id, call, stage⟩]).trans
    (List.perm_append_singleton ..)
  have before := ((h.perm found).append_right [⟨id, call, next⟩]).trans
    (List.perm_append_singleton ..)
  exact after.trans ((List.Perm.swap ..).trans before.symm)

theorem Step.effect (h : Sound p) {deed : Deed} (step : Step p deed p') : Effect p deed p' := by
  have held : 0 < p.refresher.handles := by rw [h.handles]; omega
  cases step with
  | begin now =>
      exact ⟨.inl ⟨_, rfl, .begin ..⟩, .refl _, ⟨rfl, rfl⟩, (List.append_nil _).symm, rfl⟩
  | heed => exact ⟨.inl ⟨_, rfl, .heed _⟩, .refl _, ⟨rfl, rfl⟩, (List.append_nil _).symm, rfl⟩
  | tick now due =>
      exact ⟨.inl ⟨_, rfl, .tick _ now due⟩, .refl _, ⟨rfl, rfl⟩, (List.append_nil _).symm, rfl⟩
  | refresh =>
      exact ⟨.inl ⟨_, rfl, .trigger _ held⟩, .refl _, ⟨rfl, rfl⟩, (List.append_nil _).symm, rfl⟩
  | dispatch command =>
      refine ⟨.inl ⟨_, rfl, .clone _ held⟩, ?_, ⟨rfl, rfl⟩, (List.append_nil _).symm, rfl⟩
      exact .of_eq (List.append_nil _)
  | wait loops nothing =>
      have received := Refresher.Step.receive p.refresher
      rw [nothing] at received
      rw [consume_pending loops nothing]
      exact ⟨.inl ⟨_, rfl, received⟩, .refl _, ⟨rfl, rfl⟩, (List.append_nil _).symm, rfl⟩
  | consume loops signal taken =>
      have received := Refresher.Step.receive p.refresher
      rw [taken] at received
      rw [consume_signal h loops taken]
      refine ⟨.inl ⟨_, rfl, received⟩, ?_, ⟨rfl, rfl⟩, (List.append_nil _).symm, rfl⟩
      exact .of_eq ((List.append_nil _).trans (List.append_assoc ..))
  | leave loops hears =>
      rw [consume_ended loops hears]
      exact ⟨.inr ⟨rfl, .inr ⟨hears, rfl⟩⟩, .refl _, ⟨rfl, rfl⟩, (List.append_nil _).symm, rfl⟩
  | call id call found =>
      rw [call_eq found]
      exact ⟨.inr ⟨rfl, .inl rfl⟩, h.moved found _, ⟨rfl, rfl⟩, (List.append_nil _).symm, rfl⟩
  | answer id call event found fits =>
      obtain rfl := Call.yields_iff.mp fits
      rw [answer_eq found]
      refine ⟨?_, h.moved found _, ⟨rfl, rfl⟩, (List.append_nil _).symm, rfl⟩
      cases event with
      | stats | clusters => exact .inr ⟨rfl, .inl rfl⟩
      | settled => exact .inl ⟨_, rfl, .trigger _ held⟩
  | tell id call event found =>
      have among := List.mem_of_find?_eq_some found
      -- The label only shows the event. That it is the end of this task's call is part of `Sound`.
      obtain rfl := h.answers _ among event rfl
      rw [deliver_eq h found]
      refine ⟨?_, ?_, ⟨rfl, rfl⟩, rfl, rfl⟩
      · cases event with
        | stats | clusters => exact .inr ⟨rfl, .inl rfl⟩
        | settled => exact .inl ⟨_, rfl, .drop _ held⟩
      · refine (List.perm_append_singleton ..).trans ?_
        exact (h.perm found).symm.trans (.of_eq (List.append_nil _).symm)
  | poll =>
      rw [poll_eq]
      have whole := (Refresher.head_append_tail p.events).trans (List.append_nil _).symm
      exact ⟨.inr ⟨rfl, .inl rfl⟩, .refl _, ⟨rfl, rfl⟩, whole, rfl⟩
  | stop =>
      exact ⟨.inl ⟨_, rfl, .stop _ held⟩, .refl _, ⟨rfl, rfl⟩, (List.append_nil _).symm, rfl⟩

/-! ## What every run keeps -/

namespace Deed

variable {deed : Deed}

theorem handles_ofRefresher {inner : Refresher.Deed} (told : deed.ofRefresher? = some inner)
    {held : Nat} (some : 0 < held) :
    inner.handles held + deed.gone.countP (fun task => task.call.isCommand) =
      held + deed.come.countP fun task => task.call.isCommand := by
  cases deed with
  | look | tick | refresh | wait | consume | dispatch | stop =>
      cases told
      rfl
  | answer id event =>
      cases event <;> cases told
      rfl
  | tell id event =>
      cases event <;> cases told
      exact Nat.sub_add_cancel some
  | call | poll | leave => cases told

theorem handles_quiet (quiet : deed.ofRefresher? = none) :
    deed.gone.countP (fun task => task.call.isCommand) =
      deed.come.countP fun task => task.call.isCommand := by
  cases deed with
  | look | tick | refresh | wait | consume | dispatch | stop => cases quiet
  | answer id event | tell id event =>
      cases event <;> cases quiet
      all_goals rfl
  | call | poll | leave => rfl

theorem ofRefresher_ne_stop {inner : Refresher.Deed} (told : deed.ofRefresher? = some inner)
    (goes : deed ≠ .stop) : inner ≠ .stop := by
  rintro rfl
  cases deed with
  | answer id event | tell id event => cases event <;> cases told
  | stop => exact goes rfl
  | _ => cases told

/-- A call that comes is one that has been set out on just now, or was there at an earlier stage. -/
theorem come_ids :
    deed.come.map Task.id <+~ deed.started.map Prod.fst ++ deed.gone.map Task.id := by
  cases deed <;> first | exact .refl _ | exact List.nil_subperm

theorem come_answers {task : Task} (among : task ∈ deed.come) {event : FeedEvent}
    (answered : task.stage = .answered event) : event.call = task.call := by
  cases deed with
  | answer id told =>
      cases List.mem_singleton.mp among
      cases answered
      rfl
  | dispatch | call =>
      cases List.mem_singleton.mp among
      cases answered
  | consume =>
      rcases List.mem_pair.mp among with rfl | rfl <;> cases answered
  | _ => cases among

end Deed

theorem launch_sound (endpoint : String) (period : Duration) : Sound (launch endpoint period) where
  handles := rfl
  isOpen := rfl
  numbers := .refl _
  answers := fun _ among => nomatch among

theorem Effect.range_nextId {deed : Deed} (effect : Effect p deed p') : List.range p'.nextId =
    List.range p.nextId ++ List.range' p.nextId deed.started.length := by
  rw [effect.numbers.1, List.range_eq_range', List.range_eq_range', ← List.range'_append_1,
    Nat.zero_add]

theorem Effect.handles {deed : Deed} (effect : Effect p deed p') (held : 0 < p.refresher.handles) :
    p'.refresher.handles + deed.gone.countP (fun task => task.call.isCommand) =
      p.refresher.handles + deed.come.countP fun task => task.call.isCommand := by
  rcases effect.refresher with ⟨inner, told, taken⟩ | ⟨quiet, same | ⟨-, left⟩⟩
  · rw [taken.handles_eq]
    exact Deed.handles_ofRefresher told held
  · rw [same, Deed.handles_quiet quiet]
  · rw [left, Deed.handles_quiet quiet]
    exact congrArg (· + _) p.refresher.await_frame.1

theorem Sound.step (h : Sound p) {deed : Deed} (step : Step p deed p') : Sound p' := by
  have effect := step.effect h
  refine ⟨?_, effect.isOpen.trans h.isOpen, ?_, fun task among => ?_⟩
  · -- The poller's own handle is never given back, so there is one left whichever command ends.
    have before := h.handles
    have after := effect.handles (by omega)
    have commands := effect.tasks.countP_eq fun task => task.call.isCommand
    rw [List.countP_append, List.countP_append] at commands
    omega
  · -- What comes is either new, and numbered from `nextId` on, or has the number of what is gone.
    have ids := effect.tasks.map Task.id
    rw [List.map_append, List.map_append] at ids
    have bound := ids.subperm.trans (h.numbers.append Deed.come_ids)
    rw [← List.append_assoc, List.subperm_append_right] at bound
    rwa [effect.numbers.2, ← effect.range_nextId] at bound
  · rcases List.mem_append.mp (effect.tasks.subset (List.mem_append_left _ among)) with old | new
    · exact h.answers task old
    · exact fun event => Deed.come_answers new

theorem Run.sound {endpoint : String} {period : Duration} {deeds : List Deed}
    (run : Run (launch endpoint period) deeds p) : Sound p :=
  run.keeps (fun h step => h.step step) (launch_sound endpoint period)

end Poller

end FleetWatch
