import FleetWatch.Proofs.Poller.Runs

/-! # The accounts of a poller

Nothing that a poller sets out on is lost, done twice or merged with anything else. The signals that
its loop takes up are those that were emitted, in order. The calls follow one law of conservation:
those on their way, with those that were taken off it, are those that were put there. Read stage by
stage, the law says that every call set out on is made, answered and told just once.
-/

namespace FleetWatch

open scoped List

def Call.command? : Call → Option Command
  | command c => some c
  | _ => none

namespace Task

def ready? (task : Task) : Option (Nat × Call) :=
  match task.stage with
  | .ready => some (task.id, task.call)
  | _ => none

def calling? (task : Task) : Option (Nat × Call) :=
  match task.stage with
  | .calling => some (task.id, task.call)
  | _ => none

def toTell? (task : Task) : Option (Nat × FeedEvent) :=
  match task.stage with
  | .answered event => some (task.id, event)
  | _ => none

end Task

namespace Poller

namespace Deed

def consumed : Deed → List RefreshSignal
  | consume signal _ => [signal]
  | _ => []

def dispatched : Deed → List Command
  | dispatch _ command => [command]
  | _ => []

/-- The signal that is emitted. The end of a command emits one. -/
def emitted : Deed → List RefreshSignal
  | tick => [.tick]
  | refresh | answer _ (.settled ..) => [.manual]
  | _ => []

def isTick : Deed → Bool
  | tick => true
  | _ => false

def isRefresh : Deed → Bool
  | refresh => true
  | _ => false

def isSettlement : Deed → Bool
  | answer _ (.settled ..) => true
  | _ => false

end Deed

/-- What the deeds are to the refresher. Setting up asks for a refresh. -/
def ofRefresher (deeds : List Deed) : List Refresher.Deed :=
  .trigger :: deeds.filterMap Deed.ofRefresher?

/-- The signals emitted, oldest first. The first one comes of setting up. -/
def emitted (deeds : List Deed) : List RefreshSignal := .manual :: deeds.flatMap Deed.emitted

def consumed (deeds : List Deed) : List RefreshSignal := deeds.flatMap Deed.consumed

def dispatched (deeds : List Deed) : List Command := deeds.flatMap Deed.dispatched

def started (deeds : List Deed) : List (Nat × Call) := deeds.flatMap Deed.started

def called (deeds : List Deed) : List (Nat × Call) := deeds.flatMap Deed.called

def answered (deeds : List Deed) : List (Nat × FeedEvent) := deeds.flatMap Deed.answered

def told (deeds : List Deed) : List (Nat × FeedEvent) := deeds.flatMap Deed.told

def polled (deeds : List Deed) : List FeedEvent := deeds.flatMap Deed.polled

/-- The call that an answer ends. -/
def ended (answer : Nat × FeedEvent) : Nat × Call := (answer.1, answer.2.call)

/-- What has become of the signals and the calls of a poller. -/
structure Accounts (deeds : List Deed) (p : Poller) : Prop where
  /-- The signals taken up, and then the ones queued, are those that were emitted. -/
  signals : consumed deeds ++ p.refresher.queue = emitted deeds
  /-- One signal comes of setting up, and one of each tick, each refresh asked for and each command
  that comes to its end. -/
  count : (emitted deeds).length =
    1 + deeds.countP Deed.isTick + deeds.countP Deed.isRefresh + deeds.countP Deed.isSettlement
  /-- Every call set out on has a number of its own. -/
  numbers : (started deeds).map Prod.fst = List.range p.nextId
  /-- Each signal taken up sets out on the counts once and on the list once. -/
  fetches : ∀ fetch : Call, fetch.isCommand = false →
    (started deeds).countP (fun call => call.2 = fetch) = (consumed deeds).length
  /-- Each command that is asked for is set out on once. -/
  commands : (started deeds).filterMap (fun call => call.2.command?) = dispatched deeds
  /-- What is set out on is called, or is still to be. -/
  calls : started deeds ~ called deeds ++ p.tasks.filterMap Task.ready?
  /-- What is called is answered, with an event of its own kind, or still awaits it. -/
  answers : called deeds ~ (answered deeds).map ended ++ p.tasks.filterMap Task.calling?
  /-- What is answered is told, as it was answered, or is still to be. -/
  reports : answered deeds ~ told deeds ++ p.tasks.filterMap Task.toTell?
  /-- What is told is taken in the same order, or still queued. -/
  events : (told deeds).map Prod.snd = polled deeds ++ p.events

variable {deeds : List Deed} {p : Poller} {endpoint : String} {period : Duration}

/-! ## The signals -/

theorem filterMap_ofRefresher {f : Refresher.Deed → Option RefreshSignal}
    {g : Deed → List RefreshSignal} (same : ∀ deed, (deed.ofRefresher?.bind f).toList = g deed) :
    (deeds.filterMap Deed.ofRefresher?).filterMap f = deeds.flatMap g := by
  rw [List.filterMap_filterMap, List.filterMap_eq_flatMap_toList]
  exact List.flatMap_congr fun deed _ => same deed

theorem emitted_ofRefresher : Refresher.emitted (ofRefresher deeds) = emitted deeds := by
  refine congrArg (RefreshSignal.manual :: ·) (filterMap_ofRefresher fun deed => ?_)
  cases deed with
  | answer id event | tell id event => cases event <;> rfl
  | _ => rfl

theorem received_ofRefresher : Refresher.received (ofRefresher deeds) = consumed deeds := by
  refine filterMap_ofRefresher fun deed => ?_
  cases deed with
  | answer id event | tell id event => cases event <;> rfl
  | _ => rfl

theorem Deed.length_emitted (deed : Deed) : deed.emitted.length =
    (if deed.isTick then 1 else 0) + (if deed.isRefresh then 1 else 0) +
      if deed.isSettlement then 1 else 0 := by
  cases deed with
  | answer id event => cases event <;> rfl
  | _ => rfl

theorem length_emitted : (emitted deeds).length =
    1 + deeds.countP Deed.isTick + deeds.countP Deed.isRefresh +
      deeds.countP Deed.isSettlement := by
  rw [emitted, List.length_cons]
  induction deeds with
  | nil => rfl
  | cons deed rest ih =>
      have one := deed.length_emitted
      simp only [List.flatMap_cons, List.length_append, List.countP_cons]
      omega

/-- As long as a poller is not stopped, neither is its refresher, and a run of the one is a run of
the other. -/
theorem Run.refresher_run (run : Run (launch endpoint period) deeds p) (goes : .stop ∉ deeds) :
    (Refresher.launch period).Run (ofRefresher deeds) p.refresher ∧
      p.refresher.isStopped = false := by
  induction run with
  | refl => exact ⟨.step .refl (.trigger _ Nat.zero_lt_one), rfl⟩
  | @step deeds deed q q' run step ih =>
      rw [List.mem_append, List.mem_singleton, not_or] at goes
      obtain ⟨inside, going⟩ := ih goes.1
      rw [ofRefresher, List.filterMap_append, ← List.cons_append]
      rcases (step.effect (Run.sound run)).refresher with
        ⟨inner, told, taken⟩ | ⟨quiet, same | ⟨hears, -⟩⟩
      · have held : q'.refresher.handles ≠ 0 := by
          rw [(Run.sound (run.step step)).handles]
          omega
        rw [List.filterMap_cons_some told]
        exact ⟨inside.step taken,
          taken.keeps_going going (Deed.ofRefresher_ne_stop told (Ne.symm goes.2)) held⟩
      · rw [List.filterMap_cons_none quiet, same]
        exact ⟨(List.append_nil _).symm ▸ inside, going⟩
      · -- The loop only ends when it hears of an end, and there is none yet.
        exact absurd hears (Refresher.await_ne_ended (Refresher.Run.coherent inside) going)

theorem Run.signals (run : Run (launch endpoint period) deeds p) (goes : .stop ∉ deeds) :
    consumed deeds ++ p.refresher.queue = emitted deeds := by
  obtain ⟨inside, going⟩ := run.refresher_run goes
  have delivered := inside.delivers (Refresher.launch_coherent period) going
  rwa [received_ofRefresher, emitted_ofRefresher] at delivered

/-! ## The calls -/

/-- The calls on their way, with those that were taken off it, are those that were put there. -/
theorem Run.conserves (run : Run (launch endpoint period) deeds p) :
    p.tasks ++ deeds.flatMap Deed.gone ~ deeds.flatMap Deed.come := by
  induction run with
  | refl => exact .refl _
  | @step deeds deed q q' run step ih =>
      -- What is gone by now is exchanged with what this deed makes go and come.
      have moved := (step.effect (Run.sound run)).tasks
      simp only [List.flatMap_append, List.flatMap_singleton]
      calc q'.tasks ++ (deeds.flatMap Deed.gone ++ deed.gone)
        _ ~ q'.tasks ++ deed.gone ++ deeds.flatMap Deed.gone := by
            rw [List.append_assoc]
            exact List.perm_append_comm.append_left _
        _ ~ q.tasks ++ deed.come ++ deeds.flatMap Deed.gone := moved.append_right _
        _ ~ q.tasks ++ deeds.flatMap Deed.gone ++ deed.come := by
            rw [List.append_assoc, List.append_assoc]
            exact List.perm_append_comm.append_left _
        _ ~ deeds.flatMap Deed.come ++ deed.come := ih.append_right _

theorem Run.conserves_stage {α : Type} (run : Run (launch endpoint period) deeds p)
    (stage : Task → Option α) {into out : Deed → List α}
    (comes : ∀ deed, deed.come.filterMap stage = into deed)
    (goes : ∀ deed, deed.gone.filterMap stage = out deed) :
    deeds.flatMap into ~ deeds.flatMap out ++ p.tasks.filterMap stage := by
  have law := run.conserves.filterMap stage
  simp only [List.filterMap_append, List.filterMap_flatMap, comes, goes] at law
  exact law.symm.trans List.perm_append_comm

theorem Run.numbers (run : Run (launch endpoint period) deeds p) :
    (started deeds).map Prod.fst = List.range p.nextId := by
  induction run with
  | refl => rfl
  | @step deeds deed q q' run step ih =>
      have effect := step.effect (Run.sound run)
      rw [started, List.flatMap_append, List.flatMap_singleton, List.map_append, effect.numbers.2,
        effect.range_nextId]
      exact congrArg (· ++ _) ih

theorem Run.events (run : Run (launch endpoint period) deeds p) :
    (told deeds).map Prod.snd = polled deeds ++ p.events := by
  induction run with
  | refl => rfl
  | @step deeds deed q q' run step ih =>
      rw [told, polled, List.flatMap_append, List.flatMap_append, List.flatMap_singleton,
        List.flatMap_singleton, List.map_append, List.append_assoc,
        (step.effect (Run.sound run)).events, ← List.append_assoc]
      exact congrArg (· ++ _) ih

theorem started_fetches {fetch : Call} (fetches : fetch.isCommand = false) :
    (started deeds).countP (fun call => call.2 = fetch) = (consumed deeds).length := by
  induction deeds with
  | nil => rfl
  | cons deed rest ih =>
      have one : deed.started.countP (fun call => call.2 = fetch) = deed.consumed.length := by
        cases fetch with
        | stats | clusters => cases deed <;> rfl
        | command => cases fetches
      rw [started, consumed, List.flatMap_cons, List.flatMap_cons, List.countP_append,
        List.length_append, one]
      exact congrArg (_ + ·) ih

theorem started_commands :
    (started deeds).filterMap (fun call => call.2.command?) = dispatched deeds := by
  rw [started, List.filterMap_flatMap]
  exact List.flatMap_congr fun deed _ => by cases deed <;> rfl

theorem Run.calls (run : Run (launch endpoint period) deeds p) :
    started deeds ~ called deeds ++ p.tasks.filterMap Task.ready? :=
  run.conserves_stage Task.ready? (fun deed => by cases deed <;> rfl)
    fun deed => by cases deed <;> rfl

theorem Run.answers (run : Run (launch endpoint period) deeds p) :
    called deeds ~ (answered deeds).map ended ++ p.tasks.filterMap Task.calling? := by
  rw [answered, List.map_flatMap]
  exact run.conserves_stage Task.calling? (fun deed => by cases deed <;> rfl)
    fun deed => by cases deed <;> rfl

theorem Run.reports (run : Run (launch endpoint period) deeds p) :
    answered deeds ~ told deeds ++ p.tasks.filterMap Task.toTell? :=
  run.conserves_stage Task.toTell? (fun deed => by cases deed <;> rfl)
    fun deed => by cases deed <;> rfl

theorem Run.accounts (run : Run (launch endpoint period) deeds p) (goes : .stop ∉ deeds) :
    Accounts deeds p where
  signals := run.signals goes
  count := length_emitted
  numbers := run.numbers
  fetches _ := started_fetches
  commands := started_commands
  calls := run.calls
  answers := run.answers
  reports := run.reports
  events := run.events

namespace Accounts

variable (h : Accounts deeds p)
include h

theorem once : ((called deeds).map Prod.fst).Nodup ∧
    ((answered deeds).map Prod.fst).Nodup ∧ ((told deeds).map Prod.fst).Nodup := by
  -- Each list is part of the one before it, and the first is numbered from zero on.
  have numbers {first rest all : List Nat} (parts : all ~ first ++ rest)
      (among : all <+~ List.range p.nextId) : first <+~ List.range p.nextId :=
    (List.sublist_append_left first rest).subperm.trans (parts.symm.subperm.trans among)
  have called := numbers (List.map_append ▸ h.calls.map Prod.fst) (h.numbers ▸ .refl _)
  have answered := numbers (List.map_append ▸ h.answers.map Prod.fst) called
  rw [List.map_map] at answered
  have told := numbers (List.map_append ▸ h.reports.map Prod.fst) answered
  exact ⟨nodup_of_numbers called, nodup_of_numbers answered, nodup_of_numbers told⟩

/-- When nothing is on its way, the events told are the ends of the calls set out on. -/
theorem told_started (quiet : p.tasks = []) :
    (told deeds).map ended ~ started deeds := by
  have called := h.calls
  have answered := h.answers
  have told := h.reports
  rw [quiet, List.filterMap_nil, List.append_nil] at called answered told
  exact (told.symm.map ended).trans (answered.symm.trans called.symm)

/-- When no signal is queued either, each signal has come to one event for either fetch, and each
command to its end. -/
theorem told_counts (taken : p.refresher.queue = []) (quiet : p.tasks = []) :
    (∀ fetch : Call, fetch.isCommand = false →
      (told deeds).countP (fun answer => answer.2.call = fetch) =
        (emitted deeds).length) ∧
      (told deeds).countP (fun answer => answer.2.call.isCommand) =
        (dispatched deeds).length := by
  have ends := h.told_started quiet
  have signals := h.signals
  rw [taken, List.append_nil] at signals
  refine ⟨fun fetch fetches => ?_, ?_⟩
  · have count := ends.countP_eq fun call => call.2 = fetch
    rw [List.countP_map, h.fetches fetch fetches, signals] at count
    exact count
  · have count := ends.countP_eq fun call => call.2.isCommand
    rw [List.countP_map] at count
    rw [← h.commands, List.length_filterMap_eq_countP]
    refine count.trans (congrArg (List.countP · _) (funext fun call => ?_))
    cases call.2 <;> rfl

end Accounts

/-- Whatever happens to a poller that is not stopped, in any order: its accounts are right, and no
call is made, answered or told twice. Once nothing is on its way, as many events tell of the counts,
and as many of the list, as signals were emitted, and as many of a command's end as commands were
asked for. -/
theorem run_settles_accounts (run : Run (launch endpoint period) deeds p) (goes : .stop ∉ deeds) :
    Accounts deeds p ∧
      (((called deeds).map Prod.fst).Nodup ∧ ((answered deeds).map Prod.fst).Nodup ∧
        ((told deeds).map Prod.fst).Nodup) ∧
      (p.refresher.queue = [] → p.tasks = [] →
        (told deeds).map ended ~ started deeds ∧
        (told deeds).countP (fun answer => answer.2.call = .stats) = (emitted deeds).length ∧
        (told deeds).countP (fun answer => answer.2.call = .clusters) = (emitted deeds).length ∧
        (told deeds).countP (fun answer => answer.2.call.isCommand) =
          (dispatched deeds).length) := by
  have accounts := run.accounts goes
  refine ⟨accounts, accounts.once, fun taken quiet => ?_⟩
  obtain ⟨fetches, commands⟩ := accounts.told_counts taken quiet
  exact ⟨accounts.told_started quiet, fetches .stats rfl, fetches .clusters rfl, commands⟩

/-- A command fails while the first fetches are on their way. They are overtaken by those that its
end asks for; in the end there are two events for either fetch and one for the command. -/
theorem overtaken_fetches_settled :
    ∃ deeds p, Run (launch "gateway" Refresher.defaultPeriod) deeds p ∧
      p.refresher.queue = [] ∧ p.tasks = [] ∧ dispatched deeds = [.discover] ∧
      (told deeds).countP (fun answer => answer.2.call = .stats) = 2 ∧
      (told deeds).countP (fun answer => answer.2.call = .clusters) = 2 ∧
      (told deeds).countP (fun answer => answer.2.call.isCommand) = 1 := by
  let counts : FeedEvent := .stats (.ok .zero)
  let list : FeedEvent := .clusters (.ok [])
  let refusal : FeedEvent := .settled .discover (.error (.request "refused"))
  let start := launch "gateway" Refresher.defaultPeriod
  let state (tasks : List Task) (nextId : Nat) (events : List FeedEvent)
      (queue : List RefreshSignal) (handles : Nat) : Poller :=
    { start with
      tasks := tasks, nextId := nextId, events := events
      refresher := { start.refresher with queue := queue, handles := handles } }
  have first : Run start _ (state
      [⟨0, .stats, .ready⟩, ⟨1, .clusters, .ready⟩, ⟨2, .command .discover, .ready⟩] 3 [] [] 2) :=
    .step (.step .refl (.consume _ rfl .manual rfl)) (.dispatch _ .discover)
  have called : Run start _
      (state [⟨0, .stats, .calling⟩, ⟨1, .clusters, .calling⟩, ⟨2, .command .discover, .calling⟩]
        3 [] [] 2) :=
    ((first.step (.call _ 0 .stats rfl)).step (.call _ 1 .clusters rfl)).step
      (.call _ 2 (.command .discover) rfl)
  have refused : Run start _
      (state [⟨0, .stats, .calling⟩, ⟨1, .clusters, .calling⟩] 3 [refusal] [.manual] 1) :=
    called.finish 2 refusal rfl
  have second : Run start _
      (state [⟨0, .stats, .calling⟩, ⟨1, .clusters, .calling⟩, ⟨3, .stats, .calling⟩,
        ⟨4, .clusters, .calling⟩] 5 [refusal] [] 1) :=
    ((refused.step (.consume _ rfl .manual rfl)).step (.call _ 3 .stats rfl)).step
      (.call _ 4 .clusters rfl)
  have listed : Run start _
      (state [⟨0, .stats, .calling⟩, ⟨1, .clusters, .calling⟩, ⟨3, .stats, .calling⟩] 5
        [refusal, list] [] 1) :=
    second.finish 4 list rfl
  have counted : Run start _
      (state [⟨0, .stats, .calling⟩, ⟨1, .clusters, .calling⟩] 5 [refusal, list, counts] [] 1) :=
    listed.finish 3 counts rfl
  have late : Run start _
      (state [⟨1, .clusters, .calling⟩] 5 [refusal, list, counts, counts] [] 1) :=
    counted.finish 0 counts rfl
  have quiet : Run start _
      (state [] 5 [refusal, list, counts, counts, list] [] 1) :=
    late.finish 1 list rfl
  obtain ⟨-, -, settled⟩ := run_settles_accounts quiet (by simp)
  obtain ⟨-, stats, clusters, commands⟩ := settled rfl rfl
  exact ⟨_, _, quiet, rfl, rfl, by decide, stats.trans (by decide), clusters.trans (by decide),
    commands.trans (by decide)⟩

end Poller

end FleetWatch
