import FleetWatch.Proofs.Console.Runs

/-! # Sessions with a source

A console and its source go on side by side. The source comes to the end of a command whenever it
likes, well or not, but only of a command that it was given and only once; what it has then waits
until the console takes it in. Counting the commands on their way shows that there is never more
than one, and that the dashboard knows of it.
-/

namespace FleetWatch

/-- A console with its source. -/
structure Session where
  console : Console
  /-- The commands that the source was given and has not come to the end of. -/
  outstanding : List Command
  /-- What the source has for the console. -/
  waiting : List FeedEvent
  /-- How many commands the source was given. -/
  dispatched : Nat
  /-- How many ends of commands the console took in. -/
  settled : Nat

namespace Session

def start (source : SourceInfo) : Session := ⟨.start source, [], [], 0, 0⟩

def commandsIn : Option SourceRequest → List Command
  | some (.dispatch command) => [command]
  | _ => []

/-- Passes what a key asks on to the source. -/
def pass (s : Session) (reaction : Console.Reaction) : Session :=
  { s with
    console := reaction.console
    outstanding := s.outstanding ++ commandsIn reaction.request
    dispatched := s.dispatched + (commandsIn reaction.request).length }

/-- One thing that happens in a session. -/
inductive Step : Session → Session → Prop where
  | key (s : Session) (press : KeyPress) (saving : Except String Unit) (now : Moment) :
      Step s (s.pass (s.console.strike press saving now))
  | mouse (s : Session) (event : MouseEvent) (tableHeader : Nat) :
      Step s { s with console := s.console.mouse event tableHeader }
  | draw (s : Session) (scroll : Nat) :
      Step s { s with console := { s.console with scroll := scroll } }
  /-- The console takes in what is waiting, or the beginning of it if more came meanwhile. -/
  | reload (s : Session) (arrivals : Dashboard.History) (rest : List FeedEvent)
      (waiting : s.waiting = arrivals.map Prod.fst ++ rest) :
      Step s { s with
        console := s.console.drain arrivals
        waiting := rest
        settled := s.settled + (arrivals.map Prod.fst).countP FeedEvent.isSettled }
  /-- The source has counts or a list, or could not get them. -/
  | fetch (s : Session) (event : FeedEvent) (fetched : event.isSettled = false) :
      Step s { s with waiting := s.waiting ++ [event] }
  /-- The source comes to the end of some command that it was given. -/
  | settle (s : Session) (command : Command) (result : Except Fault Unit)
      (given : command ∈ s.outstanding) :
      Step s { s with
        outstanding := s.outstanding.erase command
        waiting := s.waiting ++ [.settled command result] }

/-- The sessions that a run from a fresh one gets to. -/
inductive Reachable : Session → Prop where
  | start (source : SourceInfo) : Reachable (.start source)
  | step {s s' : Session} (before : Reachable s) (step : Step s s') : Reachable s'

/-- Commands that the source was given and whose end the console has not taken in. -/
def underWay (s : Session) : Nat := s.waiting.countP FeedEvent.isSettled + s.outstanding.length

/-- Every command given is either settled or under way, and one is under way just when the dashboard
says so. -/
structure Balanced (s : Session) : Prop where
  account : s.dispatched = s.settled + s.underWay
  known : s.underWay = s.console.dashboard.isUpdating.toNat

theorem start_balanced (source : SourceInfo) : Balanced (start source) := ⟨rfl, rfl⟩

namespace Balanced

variable {s : Session}

theorem quiet (h : Balanced s) {c : Console} (change : Console.Quiet s.console c) :
    Balanced { s with console := c } where
  account := h.account
  known := by
    rw [change.dashboard]
    exact h.known

/-- A command is given only while none is under way. -/
theorem pass (h : Balanced s) {reaction : Console.Reaction}
    (effect : Console.Effect s.console reaction) : Balanced (s.pass reaction) := by
  cases effect with
  | quiet change => simpa [Session.pass, commandsIn] using h.quiet change
  | refresh => simpa [Session.pass, commandsIn] using h
  | give change idle command =>
      have nothing : s.underWay = 0 := by
        rw [h.known, ← change.dashboard, idle]
        rfl
      constructor
      · have account := h.account
        simp only [Session.pass, commandsIn, underWay, List.length_append, List.length_singleton]
          at account ⊢
        omega
      · simp only [Session.pass, commandsIn, underWay, List.length_append, List.length_singleton]
          at nothing ⊢
        rw [← Nat.add_assoc, nothing]
        rfl

theorem isUpdating_replay (d : Dashboard) (arrivals : Dashboard.History)
    (ends : (arrivals.map Prod.fst).countP FeedEvent.isSettled ≤ d.isUpdating.toNat) :
    (d.replay arrivals).isUpdating.toNat =
      d.isUpdating.toNat - (arrivals.map Prod.fst).countP FeedEvent.isSettled := by
  have reflected := (Dashboard.replay_reflects d arrivals).isUpdating
  rw [List.countP_map] at ends ⊢
  cases ended : arrivals.any fun arrival => arrival.1.isSettled with
  | true =>
      have positive : 0 < arrivals.countP (FeedEvent.isSettled ∘ Prod.fst) := by
        rw [List.countP_pos_iff]
        exact List.any_eq_true.mp ended
      rw [reflected, ended, Bool.not_true, Bool.and_false]
      have most := Bool.toNat_le d.isUpdating
      simp only [Bool.toNat_false]
      omega
  | false =>
      have untouched : arrivals.countP (FeedEvent.isSettled ∘ Prod.fst) = 0 := by
        rw [List.countP_eq_zero]
        exact List.any_eq_false.mp ended
      rw [reflected, ended, untouched, Bool.not_false, Bool.and_true, Nat.sub_zero]

theorem step (h : Balanced s) {s' : Session} (step : Step s s') : Balanced s' := by
  obtain ⟨account, known⟩ := h
  cases step with
  | key press saving now => exact pass ⟨account, known⟩ (Console.strike_effect ..)
  | mouse event tableHeader => exact quiet ⟨account, known⟩ (Console.mouse_quiet ..)
  | draw scroll => exact quiet ⟨account, known⟩ (.aside rfl rfl rfl)
  | reload arrivals rest waiting =>
      -- At most one command is under way, so at most one end is among what is taken in.
      rw [underWay, waiting, List.countP_append] at account known
      have taken := isUpdating_replay s.console.dashboard arrivals (by omega)
      constructor
      · simp only [underWay]
        omega
      · simp only [underWay, Console.drain_dashboard]
        omega
  | fetch event fetched =>
      have same : (s.waiting ++ [event]).countP FeedEvent.isSettled =
          s.waiting.countP FeedEvent.isSettled := by
        simp [fetched]
      constructor
      · simpa only [underWay, same] using account
      · simpa only [underWay, same] using known
  | settle command result given =>
      have moved : (s.waiting ++ [FeedEvent.settled command result]).countP FeedEvent.isSettled =
          s.waiting.countP FeedEvent.isSettled + 1 := by
        simp [FeedEvent.isSettled]
      have erased : (s.outstanding.erase command).length + 1 = s.outstanding.length :=
        List.length_erase_add_one given
      simp only [underWay] at account known
      constructor
      · simp only [underWay, moved]
        omega
      · simp only [underWay, moved]
        omega

end Balanced

theorem reachable_balanced {s : Session} (h : Reachable s) : Balanced s := by
  induction h with
  | start source => exact start_balanced source
  | step _ step ih => exact ih.step step

/-- Of the commands that the source was given, the console has taken in the end of all, or of all
but one, and it is updating just in the second case. -/
theorem reachable_one_under_way {s : Session} (h : Reachable s) :
    (s.dispatched = s.settled ∨ s.dispatched = s.settled + 1) ∧
      (s.console.dashboard.isUpdating = true ↔ s.dispatched = s.settled + 1) := by
  obtain ⟨account, known⟩ := reachable_balanced h
  rw [known] at account
  cases updating : s.console.dashboard.isUpdating with
  | false =>
      simp only [updating, Bool.toNat_false] at account
      exact ⟨.inl account, by simp [account]⟩
  | true =>
      simp only [updating, Bool.toNat_true] at account
      exact ⟨.inr account, by simp [account]⟩

/-- The key for a discovery is struck; then the discovery comes to its end, and that is taken in. -/
theorem discovery_under_way_then_settled :
    ∃ s s', Reachable s ∧ s.dispatched = s.settled + 1 ∧ s.console.dashboard.isUpdating = true ∧
      Reachable s' ∧ s'.dispatched = s.dispatched ∧ s'.settled = s'.dispatched ∧
      s'.console.dashboard.isUpdating = false := by
  have struck := (Reachable.start default).step
    (.key _ ⟨.character 'd', false, false, false⟩ (.ok ()) default)
  have ended := struck.step (.settle _ .discover (.ok ()) (List.mem_singleton.mpr rfl))
  have taken := ended.step (.reload _ [(.settled .discover (.ok ()), default)] [] rfl)
  have idle := mt (reachable_one_under_way taken).2.mp (by decide)
  exact ⟨_, _, struck, rfl, (reachable_one_under_way struck).2.mpr rfl, taken, rfl, rfl,
    Bool.eq_false_iff.mpr idle⟩

end Session

end FleetWatch
