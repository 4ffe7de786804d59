import FleetWatch.Proofs.Refresh.Waking

/-! # Runs with a clock

A refresher next to the clock of its timer. The clock jumps, and each time the timer does whatever
it can do before the next jump; in between the handles and the receiver are used. To set a refresher
up does not make its timer run. It counts from its first look at the clock, and that is when it
first gets to run: with the first jump, or before it if whoever uses the refresher has to wait for
something, such as a receive that is pending. Ticks are emitted by the timer alone and none gets
lost, so as long as a refresher is not stopped they can be counted among the signals that were
received and those that are queued.
-/

namespace FleetWatch

namespace Refresher

theorem Step.ticker_eq {r r' : Refresher} {deed : Deed} (step : Step r deed r')
    (apart : deed ≠ .look ∧ deed ≠ .tick) : r'.ticker = r.ticker := by
  cases step with
  | begin | heed => exact absurd rfl apart.1
  | tick => exact absurd rfl apart.2
  | giveUp | clone | stop => rfl
  | trigger =>
      unfold Refresher.trigger emit
      (repeat' split) <;> rfl
  | tryReceive =>
      unfold take
      (repeat' split) <;> rfl
  | receive =>
      unfold await listen
      (repeat' split) <;> rfl
  | drop =>
      unfold Refresher.drop
      dsimp only
      split <;> rfl

end Refresher

/-- A refresher, and the time on the steady clock that its timer looks at. -/
structure Clocked where
  refresher : Refresher
  now : Nat

namespace Clocked

variable {c c' : Clocked}

/-- A refresher is set up, and its timer has not looked at the clock yet. -/
def launch (period : Duration) (now : Nat) : Clocked := ⟨Refresher.launch period, now⟩

/-- The clock jumps by so many nanoseconds, and the timer does whatever it can do then. -/
def advance (c : Clocked) (span : Nat) : Clocked :=
  ⟨c.refresher.wake (c.now + span), c.now + span⟩

/-- The timer gets to run while the clock stands. -/
def look (c : Clocked) : Clocked := ⟨c.refresher.wake c.now, c.now⟩

/-! ## Steps and runs -/

/-- One thing that happens to a refresher or to its clock. -/
inductive Deed where
  /-- The clock jumps. -/
  | advance (span : Nat)
  /-- The timer gets to run, as everyone else waits. -/
  | look
  /-- A handle or the receiver is used. -/
  | use (deed : Refresher.Deed)
  deriving Repr, DecidableEq

namespace Deed

/-- How far the clock jumps. -/
def span : Deed → Nat
  | advance span => span
  | look | use _ => 0

def received? : Deed → Option RefreshSignal
  | advance _ | look => none
  | use deed => deed.received?

end Deed

inductive Step : Clocked → Deed → Clocked → Prop where
  | advance (c : Clocked) (span : Nat) : Step c (.advance span) (c.advance span)
  | look (c : Clocked) : Step c .look c.look
  | use (c : Clocked) {deed : Refresher.Deed} {r : Refresher}
      (step : Refresher.Step c.refresher deed r) (apart : deed ≠ .look ∧ deed ≠ .tick) :
      Step c (.use deed) ⟨r, c.now⟩

theorem Step.trigger (c : Clocked) (held : 0 < c.refresher.handles) :
    Step c (.use .trigger) ⟨c.refresher.trigger, c.now⟩ :=
  .use c (.trigger _ held) ⟨by simp, by simp⟩

theorem Step.receive (c : Clocked) :
    Step c (.use (.receive c.refresher.await.2)) ⟨c.refresher.await.1, c.now⟩ :=
  .use c (.receive _) ⟨by simp, by simp⟩

theorem Step.tryReceive (c : Clocked) (free : c.refresher.isAwaited = false) :
    Step c (.use (.tryReceive c.refresher.take.2)) ⟨c.refresher.take.1, c.now⟩ :=
  .use c (.tryReceive _ free) ⟨by simp, by simp⟩

abbrev Run : Clocked → List Deed → Clocked → Prop := FleetWatch.Run Step

def elapsed : List Deed → Nat
  | [] => 0
  | deed :: deeds => deed.span + elapsed deeds

def received (deeds : List Deed) : List RefreshSignal := deeds.filterMap Deed.received?

/-- How many ticks have been emitted: those that were received, and those that are queued. -/
def ticks (deeds : List Deed) (c : Clocked) : Nat :=
  (received deeds ++ c.refresher.queue).count .tick

theorem elapsed_append (earlier later : List Deed) :
    elapsed (earlier ++ later) = elapsed earlier + elapsed later := by
  induction earlier with
  | nil => exact (Nat.zero_add _).symm
  | cons deed earlier ih => rw [List.cons_append, elapsed, ih, elapsed, Nat.add_assoc]

theorem elapsed_snoc (deeds : List Deed) (deed : Deed) :
    elapsed (deeds ++ [deed]) = elapsed deeds + deed.span :=
  elapsed_append ..

theorem received_snoc (deeds : List Deed) (deed : Deed) :
    received (deeds ++ [deed]) = received deeds ++ deed.received?.toList :=
  filterMap_snoc ..

theorem Step.now_eq {deed : Deed} (step : Step c deed c') : c'.now = c.now + deed.span := by
  cases step <;> rfl

theorem Run.now_eq {deeds : List Deed} (run : Run c deeds c') :
    c'.now = c.now + elapsed deeds := by
  induction run with
  | refl => rfl
  | step _ step ih => rw [step.now_eq, ih, elapsed_snoc, Nat.add_assoc]

theorem Step.refresher {deed : Deed} (step : Step c deed c') :
    ∃ deeds, Refresher.Run c.refresher deeds c'.refresher := by
  cases step with
  | advance span =>
      obtain ⟨rung, run⟩ := c.refresher.wake_run (c.now + span)
      exact ⟨_, run⟩
  | look =>
      obtain ⟨rung, run⟩ := c.refresher.wake_run c.now
      exact ⟨_, run⟩
  | use step => exact ⟨_, .step .refl step⟩

theorem Run.refresher {deeds : List Deed} (run : Run c deeds c') :
    ∃ inner, Refresher.Run c.refresher inner c'.refresher := by
  induction run with
  | refl => exact ⟨[], .refl⟩
  | step _ step ih =>
      obtain ⟨_, before⟩ := ih
      obtain ⟨_, after⟩ := step.refresher
      exact ⟨_, before.trans after⟩

theorem Run.keeps_coherent (coherent : Refresher.Coherent c.refresher) {deeds : List Deed}
    (run : Run c deeds c') : Refresher.Coherent c'.refresher := by
  obtain ⟨_, inner⟩ := run.refresher
  exact coherent.run inner

theorem Run.coherent {period : Duration} {begun : Nat} {deeds : List Deed}
    (run : Run (launch period begun) deeds c) : Refresher.Coherent c.refresher :=
  run.keeps_coherent (Refresher.launch_coherent period)

theorem Run.going_before (coherent : Refresher.Coherent c.refresher) {deeds : List Deed}
    (run : Run c deeds c') (still : c'.refresher.isStopped = false) :
    c.refresher.isStopped = false := by
  obtain ⟨_, inner⟩ := run.refresher
  exact inner.going_before coherent still

/-! ## Ticks that are added -/

theorem ticks_advance {deeds : List Deed} {span : Nat} {rung : List RefreshSignal}
    (left : (c.advance span).refresher.queue = c.refresher.queue ++ rung) :
    ticks (deeds ++ [.advance span]) (c.advance span) = ticks deeds c + rung.count .tick := by
  have none : received (deeds ++ [.advance span]) = received deeds :=
    (received_snoc ..).trans (List.append_nil _)
  rw [ticks, ticks, none, left, ← List.append_assoc, List.count_append]

theorem ticks_advance_of_going {deeds : List Deed} (coherent : Refresher.Coherent c.refresher)
    (going : c.refresher.isStopped = false) (span : Nat) :
    ticks (deeds ++ [.advance span]) (c.advance span) =
      ticks deeds c + (c.refresher.ticker.begin (c.now + span)).rings (c.now + span) := by
  have woken := Refresher.wake_of_going coherent going (c.now + span)
  rw [ticks_advance (congrArg Refresher.queue woken), List.count_replicate_self]

/-- A look at a clock that stands counts like a jump over nothing. -/
theorem ticks_look (deeds : List Deed) (c : Clocked) :
    ticks (deeds ++ [.look]) c = ticks (deeds ++ [.advance 0]) c := by
  rw [ticks, ticks, received_snoc, received_snoc]
  rfl

theorem ticks_use (coherent : Refresher.Coherent c.refresher)
    (going : c.refresher.isStopped = false) {deeds : List Deed} {deed : Refresher.Deed}
    {r : Refresher} (step : Refresher.Step c.refresher deed r)
    (apart : deed ≠ .look ∧ deed ≠ .tick) (still : r.isStopped = false) (now : Nat) :
    ticks (deeds ++ [.use deed]) ⟨r, now⟩ = ticks deeds c := by
  have delivered := step.delivers coherent going still
  have none : deed.emitted?.toList.count .tick = 0 := by
    cases deed with
    | tick => exact absurd rfl apart.2
    | _ => rfl
  rw [ticks, ticks, received_snoc, List.append_assoc, Deed.received?, delivered,
    ← List.append_assoc, List.count_append, none, Nat.add_zero]

/-! ## What a step does to the timer -/

/-- Whether the timer gets to run: when the clock jumps, and when everyone else waits. -/
def Deed.wakes : Deed → Bool
  | advance _ | look => true
  | use _ => false

/-- A timer that gets to run goes by the clock and by nothing else, and one that does not stays as
it is. -/
theorem Step.timer {deed : Deed} (step : Step c deed c') (deeds : List Deed)
    (coherent : Refresher.Coherent c.refresher) (going : c.refresher.isStopped = false)
    (still : c'.refresher.isStopped = false) :
    deed.wakes = true ∧
        c'.refresher.ticker = (c.refresher.ticker.begin c'.now).settled c'.now ∧
        ticks (deeds ++ [deed]) c' =
          ticks deeds c + (c.refresher.ticker.begin c'.now).rings c'.now ∨
      deed.wakes = false ∧ c'.now = c.now ∧ c'.refresher.ticker = c.refresher.ticker ∧
        ticks (deeds ++ [deed]) c' = ticks deeds c := by
  cases step with
  | advance span =>
      refine .inl ⟨rfl, ?_, ticks_advance_of_going coherent going span⟩
      rw [Clocked.advance, Refresher.wake_of_going coherent going]
  | look =>
      refine .inl ⟨rfl, ?_, (ticks_look ..).trans (ticks_advance_of_going coherent going 0)⟩
      rw [Clocked.look, Refresher.wake_of_going coherent going]
  | use step apart =>
      exact .inr ⟨rfl, rfl, step.ticker_eq apart, ticks_use coherent going step apart still _⟩

/-! ## The first look -/

/-- The time at which the timer has its first look at the clock, if the clock says so much before.
-/
def firstLook? (now : Nat) : List Deed → Option Nat
  | [] => none
  | deed :: deeds => if deed.wakes then some (now + deed.span) else firstLook? now deeds

theorem firstLook?_append (now : Nat) (earlier later : List Deed) :
    firstLook? now (earlier ++ later) = (firstLook? now earlier).or (firstLook? now later) := by
  induction earlier with
  | nil => rfl
  | cons deed earlier ih =>
      rw [List.cons_append, firstLook?, firstLook?, ih]
      split <;> rfl

/-- What holds of a refresher whose timer has not looked at the clock yet. -/
structure Unseen (period : Duration) (begun : Nat) (deeds : List Deed) (c : Clocked) : Prop where
  unlooked : firstLook? begun deeds = none
  now : c.now = begun
  ticker : c.refresher.ticker = .ofPeriod period
  ticks : ticks deeds c = 0

section FirstLook

variable {period : Duration} {begun base : Nat} {deeds : List Deed}

theorem Run.unseen (run : Run (launch period begun) deeds c)
    (going : c.refresher.isStopped = false) (none : firstLook? begun deeds = none) :
    Unseen period begun deeds c := by
  induction run with
  | refl => exact ⟨rfl, rfl, rfl, rfl⟩
  | @step deeds deed c c' run step ih =>
      have unlooked := none
      rw [firstLook?_append, Option.or_eq_none_iff] at unlooked
      have before := Run.going_before (Run.coherent run) (.step .refl step) going
      have unseen := ih before unlooked.1
      rcases step.timer deeds (Run.coherent run) before going with
        ⟨wakes, -⟩ | ⟨-, now, ticker, same⟩
      · simp [firstLook?, wakes] at unlooked
      · exact ⟨none, now.trans unseen.now, ticker.trans unseen.ticker, same.trans unseen.ticks⟩

/-- With its first look at the clock the timer begins to wait, and does nothing else. -/
theorem Unseen.first_look (unseen : Unseen period begun deeds c) {deed : Deed}
    (step : Step c deed c') (coherent : Refresher.Coherent c.refresher)
    (going : c.refresher.isStopped = false) (still : c'.refresher.isStopped = false)
    (wakes : deed.wakes = true) :
    c'.refresher.ticker = (Ticker.ofPeriod period).begin c'.now ∧
      Clocked.ticks (deeds ++ [deed]) c' = 0 := by
  have early : ¬((Ticker.ofPeriod period).begin c'.now).isDue c'.now = true :=
    Ticker.isDue_of_early rfl (Nat.lt_add_of_pos_right (Ticker.period_pos _))
  rcases step.timer deeds coherent going still with ⟨-, ticker, more⟩ | ⟨apart, -⟩
  · rw [unseen.ticker] at ticker more
    rw [unseen.ticks, Ticker.rings_of_early early] at more
    exact ⟨ticker.trans (Ticker.settled_of_early early), more⟩
  · simp [wakes] at apart

/-- What the first look at the clock brings about, and every step behind it keeps, holds of every
run with that first look. -/
theorem Run.since_first_look (Kept : List Deed → Clocked → Prop)
    (first : ∀ {deeds deed c c'}, Unseen period begun deeds c → Step c deed c' →
      deed.wakes = true → c'.now = base →
      c'.refresher.ticker = (Ticker.ofPeriod period).begin base →
      ticks (deeds ++ [deed]) c' = 0 → Kept (deeds ++ [deed]) c')
    (kept : ∀ {deeds deed c c'}, Run (launch period begun) deeds c → Kept deeds c →
      Step c deed c' → c.refresher.isStopped = false → c'.refresher.isStopped = false →
      Kept (deeds ++ [deed]) c')
    (run : Run (launch period begun) deeds c) (looked : firstLook? begun deeds = some base)
    (going : c.refresher.isStopped = false) : Kept deeds c := by
  induction run with
  | refl => cases looked
  | @step deeds deed c c' run step ih =>
      have coherent := Run.coherent run
      have before := Run.going_before coherent (.step .refl step) going
      rw [firstLook?_append] at looked
      cases seen : firstLook? begun deeds with
      | some time =>
          rw [seen, Option.some_or] at looked
          exact kept run (ih (seen.trans looked) before) step before going
      | none =>
          have unseen := Run.unseen run before seen
          have now : c'.now = begun + deed.span := unseen.now ▸ step.now_eq
          rw [seen, Option.none_or, firstLook?, firstLook?, ← now,
            Option.ite_none_right_eq_some] at looked
          obtain ⟨wakes, looked⟩ := looked
          obtain rfl := Option.some.inj looked
          obtain ⟨ticker, none⟩ := unseen.first_look step coherent before going wakes
          exact first unseen step wakes rfl ticker none

end FirstLook

end Clocked

end FleetWatch
