import FleetWatch.Proofs.Refresh.Clocked

/-! # The schedule of the timer

The first tick is due a period after the timer's first look at the clock, and each one a period
after the one before it. As long as no jump of the clock passes over a multiple of the period, the
timer finds each deadline reached in time, so that there is one tick for every period that is over
since that look. A period and a first look in whole milliseconds keep every deadline at the end of a
millisecond, where a timer finds it reached at once.

It is the first look that counts, and not the time at which the refresher was set up. When the clock
jumps before the timer gets to run, the first tick is not there when the first period is over.
-/

namespace FleetWatch

namespace Ticker

variable {t : Ticker} {period begun now later ticks : Nat}

theorem effectivePeriod_of_whole {period : Duration} (positive : 0 < period.nanos)
    (whole : resolution ∣ period.nanos) : effectivePeriod period = period.nanos :=
  Nat.max_eq_left (Nat.le_of_dvd positive whole)

/-- After so many ticks the timer waits for the end of the period behind the last one, and the clock
has not come to it yet. -/
structure OnSchedule (period begun : Nat) (t : Ticker) (now ticks : Nat) : Prop where
  periodic : t.period = period
  waits : t.phase = .waiting (begun + (ticks + 1) * period)
  reached : begun + ticks * period ≤ now
  ahead : now < begun + (ticks + 1) * period

/-- At its deadline the timer goes off once, and then waits for another period. -/
theorem wake_in_time {deadline : Nat} (waits : t.phase = .waiting deadline)
    (whole : resolution ∣ deadline) :
    t.rings deadline = 1 ∧
      t.settled deadline = { t with phase := .waiting (deadline + t.period) } := by
  have due : t.isDue deadline = true := (isDue_deadline_iff waits).mpr whole
  have next : t.next deadline = { t with phase := .waiting (deadline + t.period) } := by
    simp [Ticker.next, waits]
  have early : ¬(t.next deadline).isDue deadline = true := by
    rw [next]
    exact isDue_of_early rfl (Nat.lt_add_of_pos_right t.period_pos)
  rw [rings_of_due due, settled_of_due due, rings_of_early early, settled_of_early early]
  exact ⟨rfl, next⟩

theorem OnSchedule.wake (h : OnSchedule period begun t now ticks) (whole : resolution ∣ period)
    (aligned : resolution ∣ begun) (passed : now ≤ later)
    (lands : later ≤ begun + (ticks + 1) * period) :
    OnSchedule period begun ((t.begin later).settled later) later
      (ticks + (t.begin later).rings later) := by
  rw [begin_of_waiting h.waits]
  rcases Nat.lt_or_eq_of_le lands with early | rfl
  · have idle := isDue_of_early h.waits early
    rw [settled_of_early idle, rings_of_early idle]
    exact ⟨h.periodic, h.waits, Nat.le_trans h.reached passed, early⟩
  · have wholeDeadline : resolution ∣ begun + (ticks + 1) * period :=
      Nat.dvd_add aligned (Nat.dvd_mul_left_of_dvd whole _)
    obtain ⟨once, settled⟩ := wake_in_time h.waits wholeDeadline
    have behind : begun + (ticks + 1) * period + period = begun + (ticks + 1 + 1) * period := by
      rw [Nat.succ_mul (ticks + 1), Nat.add_assoc]
    have positive : 0 < period := h.periodic ▸ t.period_pos
    rw [once, settled]
    refine ⟨h.periodic, congrArg Phase.waiting ?_, Nat.le_refl _, ?_⟩
    · exact h.periodic ▸ behind
    · exact behind ▸ Nat.lt_add_of_pos_right positive

theorem onSchedule_begin {period : Duration} (positive : 0 < period.nanos)
    (whole : resolution ∣ period.nanos) (base : Nat) :
    OnSchedule period.nanos base ((ofPeriod period).begin base) base 0 := by
  have lasts : effectivePeriod period = period.nanos := effectivePeriod_of_whole positive whole
  refine ⟨lasts, congrArg Phase.waiting ?_, Nat.le_of_eq ?_, ?_⟩
  · exact congrArg (base + ·) (lasts.trans (Nat.one_mul _).symm)
  · exact congrArg (base + ·) (Nat.zero_mul _)
  · exact Nat.lt_add_of_pos_right (Nat.mul_pos Nat.one_pos positive)

end Ticker

namespace Clocked

variable {c c' : Clocked}

/-! ## Jumps that land on the schedule -/

/-- Whether no jump passes over a multiple of the period, though it may end on one, when the clock
has come so far before the first of them. -/
def LandsOn (period : Nat) : Nat → List Deed → Prop
  | _, [] => True
  | passed, deed :: deeds =>
    (∀ n, passed < n * period → passed + deed.span ≤ n * period) ∧
      LandsOn period (passed + deed.span) deeds

theorem landsOn_append {period passed : Nat} {earlier later : List Deed} :
    LandsOn period passed (earlier ++ later) ↔
      LandsOn period passed earlier ∧ LandsOn period (passed + elapsed earlier) later := by
  induction earlier generalizing passed with
  | nil => simp [LandsOn, elapsed]
  | cons deed earlier ih =>
      rw [List.cons_append, LandsOn, LandsOn, ih, elapsed, ← Nat.add_assoc, and_assoc]

/-- The clock does not get beyond a period without having been at its end. -/
theorem Run.reaches {period : Nat} (positive : 0 < period) {first : Clocked} {deeds : List Deed}
    (run : Run first deeds c) (lands : LandsOn period 0 deeds) (ended : period ≤ elapsed deeds) :
    ∃ earlier later c', deeds = earlier ++ later ∧ Run first earlier c' ∧ Run c' later c ∧
      elapsed earlier = period := by
  induction run with
  | refl => exact absurd ended (Nat.not_le.mpr positive)
  | @step deeds deed c c' run step ih =>
      obtain ⟨landed, last, -⟩ := landsOn_append.mp lands
      rcases Nat.lt_or_ge (elapsed deeds) period with within | before
      · have most := last 1
        rw [Nat.zero_add, Nat.one_mul] at most
        rw [elapsed_snoc] at ended
        refine ⟨deeds ++ [deed], [], c', (List.append_nil _).symm, run.step step, .refl, ?_⟩
        exact (elapsed_snoc ..).trans (Nat.le_antisymm (most within) ended)
      · obtain ⟨earlier, later, middle, rfl, run₁, run₂, exact⟩ := ih landed before
        exact ⟨earlier, later ++ [deed], middle, List.append_assoc .., run₁, run₂.step step, exact⟩

/-! ## Ticks in time -/

section Schedule

variable {period : Duration} {begun base : Nat} {deeds : List Deed}

/-- Until it finds its first deadline reached, which is a period behind its first look at the clock,
the timer does not go off. -/
theorem Run.awaits_first (run : Run (launch period begun) deeds c)
    (looked : firstLook? begun deeds = some base) (going : c.refresher.isStopped = false)
    (early : ¬((Ticker.ofPeriod period).begin base).isDue c.now = true) :
    ticks deeds c = 0 := by
  let waiting := (Ticker.ofPeriod period).begin base
  have waits : ¬waiting.isDue c.now = true → c.refresher.ticker = waiting ∧ ticks deeds c = 0 := by
    refine Run.since_first_look (fun deeds c => ¬waiting.isDue c.now = true →
      c.refresher.ticker = waiting ∧ ticks deeds c = 0) ?_ ?_ run looked going
    · intro _ _ _ _ _ _ _ _ ticker none _
      exact ⟨ticker, none⟩
    · intro deeds deed c c' run ih step before still early
      have passed : c.now ≤ c'.now := step.now_eq ▸ Nat.le_add_right ..
      obtain ⟨ticker, none⟩ := ih fun due => early (Ticker.isDue_mono passed due)
      rcases step.timer deeds (Run.coherent run) before still with
        ⟨-, settled, more⟩ | ⟨-, -, same, rest⟩
      · have begun : waiting.begin c'.now = waiting := Ticker.begin_of_waiting rfl _
        rw [ticker, begun, Ticker.settled_of_early early] at settled
        rw [ticker, begun, Ticker.rings_of_early early, none] at more
        exact ⟨settled, more⟩
      · exact ⟨same.trans ticker, rest.trans none⟩
  exact (waits early).2

theorem Run.onSchedule (positive : 0 < period.nanos) (whole : Ticker.resolution ∣ period.nanos)
    (aligned : Ticker.resolution ∣ begun) (run : Run (launch period begun) deeds c)
    (looked : firstLook? begun deeds = some begun) (going : c.refresher.isStopped = false)
    (lands : LandsOn period.nanos 0 deeds) :
    Ticker.OnSchedule period.nanos begun c.refresher.ticker c.now (ticks deeds c) := by
  refine Run.since_first_look (fun deeds c => LandsOn period.nanos 0 deeds →
    Ticker.OnSchedule period.nanos begun c.refresher.ticker c.now (ticks deeds c))
    ?_ ?_ run looked going lands
  · intro _ _ _ _ _ _ _ now ticker none _
    rw [now, ticker, none]
    exact Ticker.onSchedule_begin positive whole begun
  · intro deeds deed c c' run ih step before still lands
    obtain ⟨landed, last, -⟩ := landsOn_append.mp lands
    have scheduled := ih landed
    have passed : c.now ≤ c'.now := step.now_eq ▸ Nat.le_add_right ..
    rcases step.timer deeds (Run.coherent run) before still with
      ⟨-, settled, more⟩ | ⟨-, now, same, rest⟩
    · -- The deadline is the first multiple behind the clock, so a jump ends there at the latest.
      have within : c'.now ≤ begun + (ticks deeds c + 1) * period.nanos := by
        have bound := last (ticks deeds c + 1)
        have ahead := scheduled.ahead
        have now : c.now = begun + elapsed deeds := run.now_eq
        have now' := step.now_eq
        omega
      rw [settled, more]
      exact scheduled.wake whole aligned passed within
    · rw [now, same, rest]
      exact scheduled

theorem le_of_firstLook? (looked : firstLook? begun deeds = some base) : begun ≤ base := by
  induction deeds with
  | nil => cases looked
  | cons deed deeds ih =>
      rw [firstLook?] at looked
      split at looked
      · cases looked
        exact Nat.le_add_right ..
      · exact ih looked

theorem le_of_isDue_first (looked : firstLook? begun deeds = some base) {now : Nat}
    (due : ((Ticker.ofPeriod period).begin base).isDue now = true) :
    begun ≤ base ∧ base + Ticker.effectivePeriod period ≤ now :=
  ⟨le_of_firstLook? looked, Ticker.le_of_isDue rfl due⟩

/-- A timer that looks in time, or for less than a period, keeps time. -/
theorem Run.ticks_eq (positive : 0 < period.nanos) (whole : Ticker.resolution ∣ period.nanos)
    (run : Run (launch period begun) deeds c) (going : c.refresher.isStopped = false)
    (lands : LandsOn period.nanos 0 deeds)
    (seen : elapsed deeds < period.nanos ∨ ∀ base, firstLook? begun deeds = some base →
      base = begun ∧ Ticker.resolution ∣ begun) :
    ticks deeds c = elapsed deeds / period.nanos := by
  have now : c.now = begun + elapsed deeds := run.now_eq
  cases looked : firstLook? begun deeds with
  | none =>
      have unseen := Run.unseen run going looked
      have still : elapsed deeds = 0 := Nat.left_eq_add.mp (unseen.now.symm.trans now)
      rw [unseen.ticks, still, Nat.zero_div]
  | some base =>
      rcases seen with short | timely
      · rw [Nat.div_eq_of_lt short]
        refine Run.awaits_first run looked going fun due => ?_
        obtain ⟨behind, reached⟩ := le_of_isDue_first looked due
        have lasts := Ticker.effectivePeriod_of_whole positive whole
        omega
      · obtain ⟨rfl, aligned⟩ := timely base looked
        have scheduled := Run.onSchedule positive whole aligned run looked going lands
        refine (Nat.div_eq_of_lt_le ?_ ?_).symm
        · exact Nat.le_of_add_le_add_left (now ▸ scheduled.reached)
        · exact Nat.lt_of_add_lt_add_left (now ▸ scheduled.ahead)

/-- At the end of the first period there is no tick if the clock had jumped before the timer got to
look at it. -/
theorem Run.misses_first (positive : 0 < period.nanos)
    (whole : Ticker.resolution ∣ period.nanos) (run : Run (launch period begun) deeds c)
    (going : c.refresher.isStopped = false) (ended : elapsed deeds = period.nanos)
    (late : ¬(firstLook? begun deeds = some begun ∧ Ticker.resolution ∣ begun)) :
    ticks deeds c = 0 := by
  have now : c.now = begun + elapsed deeds := run.now_eq
  cases looked : firstLook? begun deeds with
  | none => exact (Run.unseen run going looked).ticks
  | some base =>
      refine Run.awaits_first run looked going fun due => late ?_
      obtain ⟨behind, reached⟩ := le_of_isDue_first looked due
      have lasts := Ticker.effectivePeriod_of_whole positive whole
      -- A deadline that is reached by then leaves no time between the start and the first look.
      obtain rfl : base = begun := by omega
      rw [now, ended, ← lasts, Ticker.isDue_deadline_iff rfl, lasts] at due
      exact ⟨looked, (Nat.dvd_add_left whole).mp due⟩

/-- Whether the ticks emitted are as many as the periods that are over, after every step of a run.
-/
def KeepsTime (period : Nat) (first : Clocked) (deeds : List Deed) (c : Clocked) : Prop :=
  ∀ earlier later c', deeds = earlier ++ later → Run first earlier c' → Run c' later c →
    ticks earlier c' = elapsed earlier / period

/-- A refresher is set up with a period in whole milliseconds, and is not stopped. However its
handles and its receiver are used, and however the clock goes on as long as it does not pass over a
multiple of the period, the ticks emitted after each step are as many as the periods that are over
since then, if the timer had its first look at the clock before that moved, and at a whole
millisecond. Otherwise they are so only as long as no period is over, and there is no tick at the
end of the first one. -/
theorem run_keepsTime_iff (positive : 0 < period.nanos) (whole : Ticker.resolution ∣ period.nanos)
    (run : Run (launch period begun) deeds c) (lands : LandsOn period.nanos 0 deeds)
    (going : c.refresher.isStopped = false) :
    c.now = begun + elapsed deeds ∧
      (KeepsTime period.nanos (launch period begun) deeds c ↔ elapsed deeds < period.nanos ∨
        firstLook? begun deeds = some begun ∧ Ticker.resolution ∣ begun) ∧
      (elapsed deeds = period.nanos →
        ¬(firstLook? begun deeds = some begun ∧ Ticker.resolution ∣ begun) →
          ticks deeds c = 0) := by
  refine ⟨run.now_eq, ⟨fun keeps => ?_, fun seen => ?_⟩, Run.misses_first positive whole run going⟩
  · refine (Nat.lt_or_ge (elapsed deeds) period.nanos).imp_right fun ended => ?_
    obtain ⟨earlier, later, c', rfl, run₁, run₂, exact⟩ := run.reaches positive lands ended
    have going₁ := Run.going_before (Run.coherent run₁) run₂ going
    have once : ticks earlier c' = 1 := by
      rw [keeps earlier later c' rfl run₁ run₂, exact, Nat.div_self positive]
    have timely := mt (Run.misses_first positive whole run₁ going₁ exact) (once ▸ Nat.one_ne_zero)
    obtain ⟨looked, aligned⟩ := Classical.not_not.mp timely
    exact ⟨by rw [firstLook?_append, looked, Option.some_or], aligned⟩
  · rintro earlier later c' rfl run₁ run₂
    have going₁ := Run.going_before (Run.coherent run₁) run₂ going
    refine Run.ticks_eq positive whole run₁ going₁ (landsOn_append.mp lands).1 ?_
    refine seen.imp (fun short => ?_) fun timely base looked => ⟨?_, timely.2⟩
    · exact Nat.lt_of_le_of_lt (elapsed_append .. ▸ Nat.le_add_right ..) short
    · rw [firstLook?_append, looked, Option.some_or] at timely
      exact Option.some.inj timely.1

end Schedule

/-- The timer has its first look at once, and four seconds begin with a jump to a millisecond before
the end of the first period. A refresh is asked for and received there, and two more jumps end on
multiples of the period. -/
def fourSeconds (got : Refresher.Awaited) : List Deed :=
  [.look, .advance 1999000000, .use .trigger, .use (.receive got), .advance 1000000,
    .advance 2000000000]

theorem two_ticks_in_fourSeconds :
    ∃ got c, Run (launch Refresher.defaultPeriod 7000000) (fourSeconds got) c ∧
      LandsOn Refresher.defaultPeriod.nanos 0 (fourSeconds got) ∧
      c.refresher.isStopped = false ∧ ticks (fourSeconds got) c = 2 := by
  let begun := (launch Refresher.defaultPeriod 7000000).look
  let early := begun.advance 1999000000
  let asked : Clocked := ⟨early.refresher.trigger.await.1, early.now⟩
  let late := (asked.advance 1000000).advance 2000000000
  have held : 0 < early.refresher.handles := by
    simp [early, begun, advance, look, launch, Refresher.wake_frame, Refresher.launch]
  have going : late.refresher.isStopped = false := by
    simp [late, asked, early, begun, advance, look, launch, Refresher.wake_frame,
      Refresher.await_frame, Refresher.trigger_frame, Refresher.launch]
  have triggers : Run (launch Refresher.defaultPeriod 7000000)
      [.look, .advance 1999000000, .use .trigger] _ :=
    .step (.step (.step .refl (.look _)) (.advance begun 1999000000))
      (.trigger early held)
  have receives := triggers.step (.receive _)
  have run := (receives.step (.advance asked 1000000)).step (.advance _ 2000000000)
  have period : Refresher.defaultPeriod.nanos = 2000000000 := rfl
  have lands (got) : LandsOn Refresher.defaultPeriod.nanos 0 (fourSeconds got) := by
    simp only [fourSeconds, LandsOn, Deed.span, period]
    refine ⟨?_, ?_, ?_, ?_, ?_, ?_, trivial⟩ <;> omega
  have passed (got) : elapsed (fourSeconds got) / Refresher.defaultPeriod.nanos = 2 := by
    simp [fourSeconds, elapsed, Deed.span, period]
  obtain ⟨-, keeps, -⟩ := run_keepsTime_iff (by decide) (by decide) run (lands _) going
  have counted := keeps.mpr (.inr ⟨rfl, by decide⟩) _ [] _ (List.append_nil _).symm run .refl
  exact ⟨_, late, run, lands _, going, counted.trans (passed _)⟩

/-- The clock jumps over the first period at once, and ends on it. A period is over, and there was
no tick. -/
theorem no_tick_in_first_period :
    ∃ c, Run (launch Refresher.defaultPeriod 0) [.advance 2000000000] c ∧
      LandsOn Refresher.defaultPeriod.nanos 0 [.advance 2000000000] ∧
      c.refresher.isStopped = false ∧
      elapsed [.advance 2000000000] / Refresher.defaultPeriod.nanos = 1 ∧
      ticks [.advance 2000000000] c = 0 := by
  refine ⟨_, .step .refl (.advance _ 2000000000), ⟨fun n => ?_, trivial⟩, ?_, by decide, ?_⟩
  · have period : Refresher.defaultPeriod.nanos = 2000000000 := rfl
    rw [Deed.span, period]
    omega
  · exact (Refresher.wake_frame _ _).2
  · decide +kernel

end Clocked

end FleetWatch
