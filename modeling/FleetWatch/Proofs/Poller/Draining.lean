import FleetWatch.Proofs.Poller.Accounts

/-! # A poller that is stopped

Stopping may come between any two deeds, with signals queued, fetches half done and commands about
to end. The signals and the calls part there. No signal is taken up any more, whether it was queued,
comes of the timer or of the end of a command, or is asked for. The calls on their way are not
touched: each is made once and told once, and so are the commands that are asked for later.
-/

namespace FleetWatch

open scoped List

/-- What a task was set out on, with its number. -/
def Task.asked (task : Task) : Nat × Call := (task.id, task.call)

/-- An event that a task may still be told to end with: any answer to its call as long as there is
none yet. -/
structure Task.MayEndIn (task : Task) (event : FeedEvent) : Prop where
  call : event.call = task.call
  answered : ∀ given, task.stage = .answered given → given = event

namespace Poller

variable {before later deeds : List Deed} {deed : Deed} {p p' q : Poller} {task : Task}
  {event : FeedEvent} {endpoint : String} {period : Duration}

/-! ## The signals -/

/-- As long as the loop goes on, whatever happens to the refresher is one of its own steps. -/
theorem Step.keeps_refresher (Kept : Refresher → Prop)
    (kept : ∀ {r inner r'}, Kept r → Refresher.Step r inner r' → Kept r') (h : Sound p)
    (step : Step p deed p') (now : p.refresher.hasReceiver = true → Kept p.refresher)
    (loops : p'.refresher.hasReceiver = true) : Kept p'.refresher := by
  rcases (step.effect h).refresher with ⟨inner, -, taken⟩ | ⟨-, same | ⟨-, left⟩⟩
  · exact kept (now (taken.hasReceiver_eq ▸ loops)) taken
  · rw [same] at loops ⊢
    exact now loops
  · rw [left] at loops
    cases loops

theorem Run.coherent (run : Run (launch endpoint period) deeds p)
    (loops : p.refresher.hasReceiver = true) : Refresher.Coherent p.refresher := by
  induction run with
  | refl => exact (Refresher.launch_coherent period).trigger
  | step run step ih =>
      exact step.keeps_refresher _ (fun h inner => h.step inner) (Run.sound run) ih loops

/-- The loop is over, or will hear of the end as soon as it looks. -/
def Ended (p : Poller) : Prop :=
  p.refresher.hasReceiver = true → Refresher.Coherent p.refresher ∧ p.refresher.isStopped = true

theorem stop_ended (run : Run (launch endpoint period) deeds p) : Ended p.stop :=
  fun loops => ⟨(Run.coherent run loops).stop, rfl⟩

namespace Ended

variable (ended : Ended p)
include ended

theorem step (h : Sound p) (step : Step p deed p') : Ended p' :=
  step.keeps_refresher (fun r => Refresher.Coherent r ∧ r.isStopped = true)
    (fun kept inner => ⟨kept.1.step inner, (inner.of_stopped kept.1 kept.2).1⟩) h ended

theorem hears (loops : p.refresher.hasReceiver = true) : p.refresher.await.2 = .ended := by
  obtain ⟨coherent, stopped⟩ := ended loops
  obtain ⟨heard, told⟩ := Refresher.await_of_stopped coherent stopped
  rw [told]

theorem consumed_eq_nil (step : Step p deed p') : deed.consumed = [] := by
  cases step with
  | consume loops signal taken =>
      rw [ended.hears loops] at taken
      cases taken
  | _ => rfl

theorem run (h : Sound p) (run : Run p later q) : Ended q ∧ consumed later = [] := by
  have all : Sound q ∧ Ended q ∧ consumed later = [] := by
    induction run with
    | refl => exact ⟨h, ended, rfl⟩
    | step _ step ih =>
        obtain ⟨sound, ended, nothing⟩ := ih
        refine ⟨sound.step step, ended.step sound step, ?_⟩
        rw [consumed, List.flatMap_append, List.flatMap_singleton, ended.consumed_eq_nil step,
          List.append_nil]
        exact nothing
  exact all.2

end Ended

/-! ## Fetches and the signals that they belong to -/

theorem started_of_mem {asked : Nat × Call} (among : asked ∈ started deeds) :
    asked.2.isCommand = true ∨ ∃ signal first, .consume signal first ∈ deeds ∧
      asked ∈ (Deed.consume signal first).started := by
  obtain ⟨deed, happened, among⟩ := List.mem_flatMap.mp among
  cases deed with
  | dispatch id command =>
      obtain rfl := List.mem_singleton.mp among
      exact .inl rfl
  | consume signal first => exact .inr ⟨signal, first, happened, among⟩
  | _ => cases among

theorem not_consumed (nothing : consumed deeds = []) (signal : RefreshSignal) (first : Nat) :
    .consume signal first ∉ deeds := by
  intro happened
  have among : signal ∈ consumed deeds :=
    List.mem_flatMap.mpr ⟨_, happened, List.mem_singleton_self signal⟩
  rw [nothing] at among
  cases among

theorem isCommand_of_started (nothing : consumed deeds = []) {asked : Nat × Call}
    (among : asked ∈ started deeds) : asked.2.isCommand = true := by
  rcases started_of_mem among with command | ⟨signal, first, happened, -⟩
  · exact command
  · exact absurd happened (not_consumed nothing signal first)

/-! ## The calls, to their ends -/

theorem Run.asked (run : Run (launch endpoint period) deeds p) :
    started deeds ~ (told deeds).map ended ++ p.tasks.map Task.asked := by
  have one (deed : Deed) : deed.come.map Task.asked ++ deed.told.map ended =
      deed.started ++ deed.gone.map Task.asked := by
    cases deed <;> rfl
  have all : (deeds.flatMap Deed.come).map Task.asked ++ (told deeds).map ended ~
      started deeds ++ (deeds.flatMap Deed.gone).map Task.asked := by
    rw [told, started, List.map_flatMap, List.map_flatMap, List.map_flatMap]
    have each := List.flatMap_congr fun deed (_ : deed ∈ deeds) => one deed
    exact (List.flatMap_append_perm ..).trans
      ((List.Perm.of_eq each).trans (List.flatMap_append_perm ..).symm)
  have law := run.conserves.map Task.asked
  rw [List.map_append] at law
  -- Whatever is gone once came, so it may be taken off both sides.
  refine (List.perm_append_right_iff ((deeds.flatMap Deed.gone).map Task.asked)).mp ?_
  calc started deeds ++ (deeds.flatMap Deed.gone).map Task.asked
    _ ~ (deeds.flatMap Deed.come).map Task.asked ++ (told deeds).map ended := all.symm
    _ ~ (told deeds).map ended ++ (deeds.flatMap Deed.come).map Task.asked :=
        List.perm_append_comm
    _ ~ (told deeds).map ended ++ (p.tasks.map Task.asked ++
          (deeds.flatMap Deed.gone).map Task.asked) := law.symm.append_left _
    _ = (told deeds).map ended ++ p.tasks.map Task.asked ++
          (deeds.flatMap Deed.gone).map Task.asked := (List.append_assoc ..).symm

theorem Run.count_started (run : Run (launch endpoint period) deeds p) {asked : Nat × Call}
    (among : asked ∈ started deeds) : (started deeds).count asked = 1 := by
  have numbered : ((started deeds).map Prod.fst).Nodup := run.numbers ▸ List.nodup_range
  exact List.count_eq_one_of_mem (List.Nodup.of_map Prod.fst numbered) among

/-- A call on its way may be told to end in an event, and nothing else on its way is touched. -/
def MayTell (p : Poller) (id : Nat) (event : FeedEvent) : Prop :=
  ∃ rest p', Run p rest p' ∧ told rest = [(id, event)] ∧ p'.tasks = p.others id ∧
    p'.events = p.events ++ [event]

variable {id : Nat} {call : Call} {stage : Stage}

theorem MayTell.after {p₁ : Poller} (may : MayTell p₁ id event) (step : Step p deed p₁)
    (quiet : deed.told = []) (others : p₁.others id = p.others id)
    (events : p₁.events = p.events) : MayTell p id event := by
  obtain ⟨rest, p', run, told, tasks, queued⟩ := may
  refine ⟨[deed] ++ rest, p', (FleetWatch.Run.step .refl step).trans run, ?_, ?_, ?_⟩
  · rw [Poller.told, List.flatMap_append, List.flatMap_singleton, quiet, List.nil_append]
    exact told
  · exact tasks.trans others
  · rw [queued, events]

theorem mayTell_of_answered (h : Sound p)
    (found : p.task? id = some ⟨id, event.call, .answered event⟩) : MayTell p id event := by
  refine ⟨[.tell id event], p.deliver id, .step .refl (.tell p id _ event found), rfl, ?_⟩
  rw [deliver_eq h found]
  exact ⟨rfl, rfl⟩

theorem mayTell_of_calling (h : Sound p)
    (found : p.task? id = some ⟨id, event.call, .calling⟩) : MayTell p id event := by
  have step : Step p (.answer id event) (p.answer id event) :=
    .answer p id _ event found (Call.yields_iff.mpr rfl)
  have sound := h.step step
  rw [answer_eq found] at step sound
  exact (mayTell_of_answered sound (task?_moveTo found _)).after step rfl (others_moveTo _) rfl

theorem mayTell_of_ready (h : Sound p)
    (found : p.task? id = some ⟨id, event.call, .ready⟩) : MayTell p id event := by
  have step : Step p (.call id event.call) (p.call id) := .call p id _ found
  have sound := h.step step
  rw [call_eq found] at step sound
  exact (mayTell_of_calling sound (task?_moveTo found _)).after step rfl (others_moveTo _) rfl

theorem Sound.mayTell (h : Sound p) (among : task ∈ p.tasks) (may : task.MayEndIn event) :
    MayTell p task.id event := by
  have found := h.found among
  obtain ⟨id, call, stage⟩ := task
  obtain ⟨rfl, answered⟩ := may
  cases stage with
  | ready => exact mayTell_of_ready h found
  | calling => exact mayTell_of_calling h found
  | answered given =>
      -- The gateway has had its say: there is one event left to end in.
      obtain rfl := answered given rfl
      exact mayTell_of_answered h found

theorem Sound.mayEnd (h : Sound p) (among : task ∈ p.tasks) : ∃ event, task.MayEndIn event := by
  obtain ⟨id, call, stage⟩ := task
  obtain ⟨event, ends⟩ : ∃ event : FeedEvent, event.call = call := by
    cases call with
    | stats => exact ⟨.stats (.error .timeout), rfl⟩
    | clusters => exact ⟨.clusters (.error .timeout), rfl⟩
    | command c => exact ⟨.settled c (.error .timeout), rfl⟩
  cases stage with
  | ready | calling => exact ⟨event, ends, nofun⟩
  | answered given => exact ⟨given, h.answers _ among given rfl, fun | _, rfl => rfl⟩

/-- What becomes of the calls. -/
structure Settles (deeds : List Deed) (p : Poller) : Prop where
  /-- Each signal taken up sets out on the counts once and on the list once. -/
  fetches : ∀ fetch : Call, fetch.isCommand = false →
    (started deeds).countP (fun call => call.2 = fetch) = (consumed deeds).length
  /-- Each command that is asked for is set out on once. -/
  commands : (started deeds).filterMap (fun call => call.2.command?) = dispatched deeds
  /-- What is set out on is made once, or is still to be. -/
  calls : ∀ asked ∈ started deeds,
    (called deeds).count asked + (p.tasks.filterMap Task.ready?).count asked = 1
  /-- What is set out on is told once, or is still on its way. -/
  tells : ∀ asked ∈ started deeds,
    ((told deeds).map ended).count asked + (p.tasks.map Task.asked).count asked = 1
  /-- What is told is queued, in the same order, and stays so until it is taken. -/
  events : (told deeds).map Prod.snd = polled deeds ++ p.events
  /-- What is on its way comes to an end, whichever the gateway gives it. -/
  ends : ∀ task ∈ p.tasks, (∃ event, task.MayEndIn event) ∧
    ∀ event, task.MayEndIn event → MayTell p task.id event

theorem Run.settles (run : Run (launch endpoint period) deeds p) : Settles deeds p where
  fetches _ := started_fetches
  commands := started_commands
  calls asked among := by
    rw [← List.count_append, ← run.calls.count_eq, run.count_started among]
  tells asked among := by
    rw [← List.count_append, ← run.asked.count_eq, run.count_started among]
  events := run.events
  ends task among := ⟨run.sound.mayEnd among, fun _ => run.sound.mayTell among⟩

theorem Settles.told_once (h : Settles deeds p) (quiet : p.tasks = []) {asked : Nat × Call}
    (among : asked ∈ started deeds) : ((told deeds).map ended).count asked = 1 := by
  have tells := h.tells asked among
  rwa [quiet, List.map_nil, List.count_nil, Nat.add_zero] at tells

/-- What becomes of the signals after a stop. -/
structure Silent (before later : List Deed) (q : Poller) : Prop where
  /-- None is taken up, whether it was queued or comes later, of the timer, of a refresh that is
  asked for or of the end of a command. -/
  nothing : consumed later = []
  /-- So no fetch is set out on. -/
  commands : ∀ asked ∈ started later, asked.2.isCommand = true
  /-- The loop is over, or ends as soon as it looks. -/
  ends : q.refresher.hasReceiver = true → q.refresher.await.2 = .ended
  /-- Fetches that are still made belong to signals that were taken up before. -/
  belongs : ∀ id fetch, (id, fetch) ∈ called later → fetch.isCommand = false →
    ∃ signal first, .consume signal first ∈ before ∧
      (id, fetch) ∈ (Deed.consume signal first).started

/-- A stop comes at any point of a run, and the run goes on in any way, with more stops perhaps. No
signal is taken up any more, and the fetches still made belong to those that were. All calls are
made once and told once, those that were on their way and the commands that are asked for later. -/
theorem run_drains_after_stop (run : Run (launch endpoint period) before p)
    (afterwards : Run p.stop later q) :
    Silent before later q ∧ Settles (before ++ [.stop] ++ later) q := by
  have stops : Run (launch endpoint period) (before ++ [.stop]) p.stop := run.step (.stop p)
  have whole : Run (launch endpoint period) (before ++ [.stop] ++ later) q := stops.trans afterwards
  obtain ⟨hushed, nothing⟩ := (stop_ended run).run stops.sound afterwards
  refine ⟨⟨nothing, fun asked => isCommand_of_started nothing, hushed.hears,
    fun id fetch made fetches => ?_⟩, whole.settles⟩
  have among : (id, fetch) ∈ called (before ++ [.stop] ++ later) := by
    rw [called, List.flatMap_append]
    exact List.mem_append_right _ made
  -- What is called was set out on, and what is no command was so with a signal of some time.
  rcases started_of_mem (whole.calls.mem_iff.mpr (List.mem_append_left _ among)) with
    command | ⟨signal, first, happened, set⟩
  · rw [fetches] at command
    cases command
  · refine ⟨signal, first, ?_, set⟩
    rcases List.mem_append.mp happened with earlier | afterStop
    · simpa using earlier
    · exact absurd afterStop (not_consumed nothing signal first)

/-- The counts are being fetched, the list not yet, a command is about to end and a refresh has been
asked for when the stop comes. Another command is asked for after it. Everything comes to its end
but the refresh, and those that the ends of the commands ask for. -/
theorem stopped_with_fetches_half_done :
    ∃ before later p q, Run (launch "gateway" Refresher.defaultPeriod) before p ∧
      p.refresher.queue = [.manual] ∧ Run p.stop later q ∧ consumed later = [] ∧
      called later = [(1, .clusters), (3, .command .discover)] ∧ q.tasks = [] ∧
      ((told (before ++ [.stop] ++ later)).map ended).count (0, .stats) = 1 ∧
      ((told (before ++ [.stop] ++ later)).map ended).count (1, .clusters) = 1 ∧
      ((told (before ++ [.stop] ++ later)).map ended).count (2, .command .discover) = 1 ∧
      ((told (before ++ [.stop] ++ later)).map ended).count (3, .command .discover) = 1 := by
  let counts : FeedEvent := .stats (.ok .zero)
  let list : FeedEvent := .clusters (.ok [])
  let settled : FeedEvent := .settled .discover (.ok ())
  let start := launch "gateway" Refresher.defaultPeriod
  let state (tasks : List Task) (nextId : Nat) (events : List FeedEvent)
      (queue : List RefreshSignal) (handles : Nat) : Poller :=
    { start with
      tasks := tasks, nextId := nextId, events := events
      refresher := { start.refresher with queue := queue, handles := handles } }
  have fetching : Run start _
      (state [⟨0, .stats, .calling⟩, ⟨1, .clusters, .ready⟩] 2 [] [] 1) :=
    (FleetWatch.Run.refl.step (.consume _ rfl .manual rfl)).step (.call _ 0 .stats rfl)
  let halfDone :=
    state [⟨0, .stats, .calling⟩, ⟨1, .clusters, .ready⟩, ⟨2, .command .discover, .calling⟩] 3 []
      [.manual] 2
  have busy : Run start _ halfDone :=
    ((fetching.step (.refresh _)).step (.dispatch _ .discover)).step
      (.call _ 2 (.command .discover) rfl)
  let closed (tasks : List Task) (nextId : Nat) (events : List FeedEvent) (handles : Nat) :
      Poller :=
    { start with
      tasks := tasks, nextId := nextId, events := events
      refresher :=
        { start.refresher with
          queue := [], handles := handles, isStopped := true, announced := 2
          hasReceiver := false } }
  have asked : Run halfDone.stop _ halfDone.stop := .step .refl (.refresh _)
  have left : Run halfDone.stop _
      (closed [⟨0, .stats, .calling⟩, ⟨1, .clusters, .ready⟩] 3 [settled] 1) :=
    ((asked.finish 2 settled rfl).step (.stop _)).step (.leave _ rfl rfl)
  have drains : Run halfDone.stop _
      (closed [⟨0, .stats, .calling⟩, ⟨1, .clusters, .calling⟩, ⟨3, .command .discover, .calling⟩] 4
        [settled] 2) :=
    ((left.step (.dispatch _ .discover)).step (.call _ 1 .clusters rfl)).step
      (.call _ 3 (.command .discover) rfl)
  have listed : Run halfDone.stop _
      (closed [⟨0, .stats, .calling⟩, ⟨3, .command .discover, .calling⟩] 4 [settled, list] 2) :=
    drains.finish 1 list rfl
  have counted : Run halfDone.stop _
      (closed [⟨3, .command .discover, .calling⟩] 4 [settled, list, counts] 2) :=
    listed.finish 0 counts rfl
  let done := closed [] 4 [settled, list, counts, settled] 1
  have quiet : Run halfDone.stop _ done := counted.finish 3 settled rfl
  obtain ⟨silent, settles⟩ := run_drains_after_stop busy quiet
  have once {asked : Nat × Call} (among : asked ∈ started _) := settles.told_once rfl among
  exact ⟨_, _, _, _, busy, rfl, quiet, silent.nothing, by decide, rfl, once (by decide),
    once (by decide), once (by decide), once (by decide)⟩

end Poller

end FleetWatch
