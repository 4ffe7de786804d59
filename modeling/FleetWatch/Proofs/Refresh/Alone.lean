import FleetWatch.Proofs.Refresh.Schedule

/-! # Timers left alone

Whatever the handles and the receiver of a refresher are used for, its timer goes on as if nobody
used them: where it is, and how many ticks it has emitted, depends on its first look at the clock,
on the jumps of the clock, and on nothing else. So two runs with the same first look and the same
jumps, over however many periods, have emitted as many ticks.

Whoever uses a refresher has a hand in the first look alone. To wait for a signal before the clock
moves gives the timer its first look, and then it is ahead of one that gets to look at the clock
only when that has jumped.
-/

namespace FleetWatch

namespace Clocked

variable {c c' c₁ c₂ : Clocked} {period : Duration} {begun base span : Nat}
  {deeds deeds₁ deeds₂ : List Deed}

/-! ## The jumps of a run -/

/-- How far the clock jumps, if it does. -/
def Deed.jump? : Deed → Option Nat
  | advance span => some span
  | look | use _ => none

def jumps (deeds : List Deed) : List Nat := deeds.filterMap Deed.jump?

theorem jumps_snoc (deeds : List Deed) (deed : Deed) :
    jumps (deeds ++ [deed]) = jumps deeds ++ deed.jump?.toList :=
  filterMap_snoc ..

theorem jumps_of_unlooked (none : firstLook? begun deeds = none) : jumps deeds = [] := by
  induction deeds with
  | nil => rfl
  | cons deed deeds ih =>
      cases deed with
      | advance | look => cases none
      | use => exact ih none

/-- Before the only jump or with it, the timer has its first look at the clock. -/
theorem firstLook?_of_jump (once : jumps deeds = [span]) :
    firstLook? begun deeds = some begun ∨ firstLook? begun deeds = some (begun + span) := by
  induction deeds with
  | nil => cases once
  | cons deed deeds ih =>
      cases deed with
      | advance first =>
          obtain ⟨rfl, -⟩ := List.cons.inj once
          exact .inr rfl
      | look => exact .inl rfl
      | use => exact ih once

/-! ## The timer by itself -/

/-- A timer, the time on its clock, and how many ticks it has emitted. -/
structure Timing where
  ticker : Ticker
  now : Nat
  ticks : Nat

/-- The clock jumps, and the timer gets to run. -/
def Timing.jump (t : Timing) (span : Nat) : Timing :=
  ⟨(t.ticker.begin (t.now + span)).settled (t.now + span), t.now + span,
    t.ticks + (t.ticker.begin (t.now + span)).rings (t.now + span)⟩

/-- A timer, before the clock moves, that has its first look at the clock at some time. -/
def Timing.ofFirstLook (period : Duration) (begun base : Nat) : Timing :=
  ⟨(Ticker.ofPeriod period).begin base, begun, 0⟩

/-- The timer of a refresher, at some point of a run. -/
def timing (deeds : List Deed) (c : Clocked) : Timing := ⟨c.refresher.ticker, c.now, ticks deeds c⟩

theorem isIdle_first_look (period : Duration) (base : Nat) :
    ((Ticker.ofPeriod period).begin base).IsIdle base := by
  have early : ¬((Ticker.ofPeriod period).begin base).isDue base = true :=
    Ticker.isDue_of_early rfl (Nat.lt_add_of_pos_right (Ticker.period_pos _))
  rw [Ticker.IsIdle, Ticker.begin_of_waiting rfl]
  exact ⟨Ticker.settled_of_early early, Ticker.rings_of_early early⟩

theorem jump_ofFirstLook (there : begun + span = base) :
    (Timing.ofFirstLook period begun base).jump span =
      ⟨(Ticker.ofPeriod period).begin base, base, 0⟩ := by
  obtain ⟨same, none⟩ := isIdle_first_look period base
  rw [Timing.jump, Timing.ofFirstLook, there, same, none]

theorem Step.timing_eq {deed : Deed} (step : Step c deed c')
    (coherent : Refresher.Coherent c.refresher) (going : c.refresher.isStopped = false)
    (still : c'.refresher.isStopped = false) (idle : c.refresher.ticker.IsIdle c.now) :
    c'.refresher.ticker.IsIdle c'.now ∧
      timing (deeds ++ [deed]) c' = deed.jump?.toList.foldl Timing.jump (timing deeds c) := by
  have timer := step.timer deeds coherent going still
  cases step with
  | advance span =>
      obtain ⟨-, settled, more⟩ | ⟨apart, -⟩ := timer
      · refine ⟨settled ▸ Ticker.isIdle_settled .., ?_⟩
        rw [timing, settled, more]
        rfl
      · cases apart
  | look =>
      obtain ⟨-, settled, more⟩ | ⟨apart, -⟩ := timer
      · have same : c.look.refresher.ticker = c.refresher.ticker := settled.trans idle.1
        have rest : ticks (deeds ++ [.look]) c.look = ticks deeds c :=
          more.trans (congrArg (ticks deeds c + ·) idle.2)
        refine ⟨same ▸ idle, ?_⟩
        rw [timing, same, rest]
        rfl
      · cases apart
  | use step apart =>
      obtain ⟨wakes, -⟩ | ⟨-, -, same, rest⟩ := timer
      · cases wakes
      · refine ⟨same ▸ idle, ?_⟩
        rw [timing, same, rest]
        rfl

theorem Run.timing_eq (run : Run (launch period begun) deeds c)
    (looked : firstLook? begun deeds = some base) (going : c.refresher.isStopped = false) :
    timing deeds c = (jumps deeds).foldl Timing.jump (.ofFirstLook period begun base) := by
  have whole : c.refresher.ticker.IsIdle c.now ∧
      timing deeds c = (jumps deeds).foldl Timing.jump (.ofFirstLook period begun base) := by
    refine Run.since_first_look (fun deeds c => c.refresher.ticker.IsIdle c.now ∧
      timing deeds c = (jumps deeds).foldl Timing.jump (.ofFirstLook period begun base))
      ?_ ?_ run looked going
    · intro deeds deed c c' unseen step _ now ticker none
      refine ⟨ticker ▸ now ▸ isIdle_first_look period base, ?_⟩
      rw [jumps_snoc, jumps_of_unlooked unseen.unlooked, timing, ticker, none, now]
      cases step with
      | advance span => exact (jump_ofFirstLook (unseen.now ▸ now)).symm
      | look =>
          obtain rfl : base = begun := now.symm.trans unseen.now
          rfl
      | use => contradiction
    · intro deeds deed c c' run ⟨idle, ih⟩ step before still
      rw [jumps_snoc, List.foldl_append, ← ih]
      exact step.timing_eq (Run.coherent run) before still idle
  exact whole.2

/-! ## Two runs with the same jumps -/

/-- Whether a deed may be the end of a refresher: a stop, or a handle that is given back. -/
def Deed.mayEnd : Deed → Bool
  | use .stop | use .drop => true
  | _ => false

theorem Run.goes_on (run : Run (launch period begun) deeds c)
    (kept : ∀ deed ∈ deeds, deed.mayEnd = false) :
    c.refresher.isStopped = false ∧ c.refresher.handles ≠ 0 := by
  induction run with
  | refl => exact ⟨rfl, Nat.one_ne_zero⟩
  | @step deeds deed c c' run step ih =>
      obtain ⟨going, held⟩ := ih fun deed among => kept deed (List.mem_append_left _ among)
      have last : deed.mayEnd = false := kept deed (by simp)
      have woken (now : Nat) : (c.refresher.wake now).isStopped = false ∧
          (c.refresher.wake now).handles ≠ 0 := by
        obtain ⟨handles, flag⟩ := c.refresher.wake_frame now
        exact ⟨flag.trans going, fun none => held (handles.symm.trans none)⟩
      cases step with
      | advance span => exact woken _
      | look => exact woken _
      | @use deed r step apart =>
          have still : r.handles ≠ 0 := by
            rw [step.handles_eq]
            cases deed with
            | clone => exact Nat.succ_ne_zero _
            | drop => cases last
            | _ => exact held
          refine ⟨step.keeps_going going ?_ still, still⟩
          rintro rfl
          cases last

theorem Run.timing_alike (run₁ : Run (launch period begun) deeds₁ c₁)
    (run₂ : Run (launch period begun) deeds₂ c₂) (going₁ : c₁.refresher.isStopped = false)
    (going₂ : c₂.refresher.isStopped = false) (same : jumps deeds₁ = jumps deeds₂)
    (looks : firstLook? begun deeds₁ = firstLook? begun deeds₂) :
    timing deeds₁ c₁ = timing deeds₂ c₂ := by
  cases looked : firstLook? begun deeds₁ with
  | none =>
      have unseen₁ := Run.unseen run₁ going₁ looked
      have unseen₂ := Run.unseen run₂ going₂ (looks.symm.trans looked)
      rw [timing, timing, unseen₁.now, unseen₁.ticker, unseen₁.ticks, unseen₂.now, unseen₂.ticker,
        unseen₂.ticks]
  | some base =>
      rw [Run.timing_eq run₁ looked going₁, same,
        ← Run.timing_eq run₂ (looks.symm.trans looked) going₂]

/-- A jump over more than a period brings a tick just if the timer looked at the clock before it. -/
theorem Run.ticks_of_jump (run : Run (launch period begun) deeds c)
    (going : c.refresher.isStopped = false) (once : jumps deeds = [span])
    (long : Ticker.effectivePeriod period + Ticker.resolution ≤ span) :
    ticks deeds c ≠ 0 ↔ firstLook? begun deeds = some begun := by
  simp only [Ticker.resolution] at long
  rcases firstLook?_of_jump once with looked | looked
  · have timed := Run.timing_eq run looked going
    rw [once] at timed
    have due : ((Ticker.ofPeriod period).begin begun).isDue (begun + span) = true := by
      refine Ticker.isDue_iff.mpr ⟨begun + Ticker.effectivePeriod period, rfl, ?_⟩
      simp only [Ticker.resolution]
      omega
    have some : ticks deeds c =
        0 + (((Ticker.ofPeriod period).begin begun).begin (begun + span)).rings (begun + span) :=
      congrArg Timing.ticks timed
    rw [Ticker.begin_of_waiting rfl, Ticker.rings_of_due due] at some
    simp [looked, some]
  · have timed := Run.timing_eq run looked going
    rw [once] at timed
    have none : ticks deeds c = 0 := congrArg Timing.ticks (timed.trans (jump_ofFirstLook rfl))
    have far : span ≠ 0 := by omega
    simp [looked, none, far]

/-- Two runs of a refresher that is set up with one period at one time, and neither stopped nor
given back in either of them. Wherever the clock has made the same jumps in both, of whatever
length, and the timer had its first look at the clock at the same time, it is in the same state and
has emitted as many ticks, however refreshes were asked for and signals received before, between and
behind the jumps. If the first looks differ then so do the ticks when the first jump, if it is over
more than a period and a millisecond, has been made. -/
theorem run_ticks_alike_iff (run₁ : Run (launch period begun) deeds₁ c₁)
    (run₂ : Run (launch period begun) deeds₂ c₂) (same : jumps deeds₁ = jumps deeds₂)
    (kept₁ : ∀ deed ∈ deeds₁, deed.mayEnd = false)
    (kept₂ : ∀ deed ∈ deeds₂, deed.mayEnd = false) :
    (firstLook? begun deeds₁ = firstLook? begun deeds₂ → c₁.now = c₂.now ∧
      c₁.refresher.ticker = c₂.refresher.ticker ∧ ticks deeds₁ c₁ = ticks deeds₂ c₂) ∧
    (∀ span, jumps deeds₁ = [span] →
      Ticker.effectivePeriod period + Ticker.resolution ≤ span →
        (ticks deeds₁ c₁ = ticks deeds₂ c₂ ↔
          firstLook? begun deeds₁ = firstLook? begun deeds₂)) := by
  have going₁ := (Run.goes_on run₁ kept₁).1
  have going₂ := (Run.goes_on run₂ kept₂).1
  have alike (looks : firstLook? begun deeds₁ = firstLook? begun deeds₂) :
      c₁.refresher.ticker = c₂.refresher.ticker ∧ c₁.now = c₂.now ∧
        ticks deeds₁ c₁ = ticks deeds₂ c₂ :=
    Timing.mk.inj (Run.timing_alike run₁ run₂ going₁ going₂ same looks)
  refine ⟨fun looks => ?_, fun span once long => ⟨fun equal => ?_, fun looks => ?_⟩⟩
  · exact ⟨(alike looks).2.1, (alike looks).1, (alike looks).2.2⟩
  · have timely₁ := Run.ticks_of_jump run₁ going₁ once long
    have timely₂ := Run.ticks_of_jump run₂ going₂ (same.symm.trans once) long
    have agree : firstLook? begun deeds₁ = some begun ↔ firstLook? begun deeds₂ = some begun := by
      rw [← timely₁, ← timely₂, equal]
    rcases firstLook?_of_jump once with looked₁ | looked₁
    · exact looked₁.trans (agree.mp looked₁).symm
    · rcases firstLook?_of_jump (same.symm.trans once) with looked₂ | looked₂
      · exact (agree.mpr looked₂).trans looked₂.symm
      · exact looked₁.trans looked₂.symm
  · exact (alike looks).2.2

/-- With the shortest period, and a first look at once, the clock jumps over three periods and then
over seven. The timer goes off three times at once and then a fourth time, too late to make up for
the rest, whether or not a refresh is asked for before the first jump and two signals are received
behind it. -/
theorem four_ticks_in_two_jumps :
    ∃ deeds₁ deeds₂ c₁ c₂, Run (launch ⟨0⟩ 0) deeds₁ c₁ ∧ Run (launch ⟨0⟩ 0) deeds₂ c₂ ∧
      jumps deeds₁ = [3000000, 7000000] ∧ jumps deeds₂ = [3000000, 7000000] ∧
      received deeds₁ = [] ∧ received deeds₂ = [.manual, .tick] ∧
      ticks deeds₁ c₁ = 4 ∧ ticks deeds₂ c₂ = 4 := by
  let begun := (launch ⟨0⟩ 0).look
  let jumped := advance ⟨begun.refresher.trigger, begun.now⟩ 3000000
  let received : Clocked := ⟨jumped.refresher.await.1, jumped.now⟩
  have looks : Run (launch ⟨0⟩ 0) [.look] begun := .step .refl (.look _)
  have quiet := (looks.step (.advance _ 3000000)).step (.advance _ 7000000)
  have asks : Run (launch ⟨0⟩ 0) [.look, .use .trigger, .advance 3000000] jumped :=
    (looks.step (.trigger begun (by decide +kernel))).step (.advance _ 3000000)
  have receives := asks.step (.receive _)
  have takes := receives.step (.tryReceive received (by decide +kernel))
  have busy := takes.step (.advance _ 7000000)
  have four : ticks [.look, .advance 3000000, .advance 7000000]
      ((begun.advance 3000000).advance 7000000) = 4 := by
    decide +kernel
  obtain ⟨same, -⟩ := run_ticks_alike_iff quiet busy rfl (by simp [Deed.mayEnd])
    (by simp [Deed.mayEnd])
  exact ⟨_, _, _, _, quiet, busy, rfl, rfl, rfl, by decide +kernel, four,
    (same rfl).2.2.symm.trans four⟩

/-- Someone waits for a signal before the clock moves, and receives the one that is asked for; then
the clock jumps over the first period. The timer has gone off by then, and it has not if nobody had
waited. -/
theorem receive_brings_tick :
    ∃ deeds₁ deeds₂ c₁ c₂, Run (launch Refresher.defaultPeriod 0) deeds₁ c₁ ∧
      Run (launch Refresher.defaultPeriod 0) deeds₂ c₂ ∧
      jumps deeds₁ = [2000000000] ∧ jumps deeds₂ = [2000000000] ∧
      received deeds₁ = [.manual] ∧ received deeds₂ = [] ∧
      ticks deeds₁ c₁ = 1 ∧ ticks deeds₂ c₂ = 0 := by
  let fresh := launch Refresher.defaultPeriod 0
  let waiting : Clocked := ⟨fresh.refresher.await.1, fresh.now⟩
  let asked : Clocked := ⟨waiting.look.refresher.trigger, waiting.now⟩
  let received : Clocked := ⟨asked.refresher.await.1, asked.now⟩
  have waits : Run fresh [.use (.receive .pending), .look] waiting.look :=
    .step (.step .refl (.receive fresh)) (.look waiting)
  have asks := waits.step (.trigger _ (by decide +kernel))
  have receives := asks.step (.receive asked)
  have waited := receives.step (.advance received 2000000000)
  have alone : Run fresh [.advance 2000000000] (fresh.advance 2000000000) :=
    .step .refl (.advance _ _)
  exact ⟨_, _, _, _, waited, alone, rfl, rfl, by decide +kernel, rfl, by decide +kernel,
    by decide +kernel⟩

end Clocked

end FleetWatch
