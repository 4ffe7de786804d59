import FleetWatch.Proofs.Refresh.Alone

/-! # The pace of the timer

A timer that wakes up late goes off at once, and again for each deadline that it has passed by then;
after too long a delay it counts from the clock. Either way the next deadline is at least a period
behind the last one, so that however the clock jumps there are never more ticks than periods that
are over. Nor is a deadline more than a period ahead of the clock, so that a jump that is long
enough is always met with a tick.
-/

namespace FleetWatch

namespace Ticker

variable {t : Ticker} {period begun now later ticks : Nat}

/-- A timer that was set to a period at some time, as the clock and its ticks so far have left it.
Before its first look at the clock it has no deadline. -/
structure Paced (period begun : Nat) (t : Ticker) (now ticks : Nat) : Prop where
  periodic : t.period = period
  /-- As many periods are over as there were ticks. -/
  reached : begun + ticks * period ≤ now
  /-- The next tick is due when one more period is over, or later, but within a period from now. -/
  waits : t.phase = .set ∧ ticks = 0 ∨ ∃ deadline, t.phase = .waiting deadline ∧
    begun + (ticks + 1) * period ≤ deadline ∧ deadline ≤ now + period

theorem paced_ofPeriod (period : Duration) (begun : Nat) :
    Paced (effectivePeriod period) begun (ofPeriod period) begun 0 where
  periodic := rfl
  reached := by simp
  waits := .inl ⟨rfl, rfl⟩

/-- Whether a tick is late or not, the next deadline is a period behind a time from the last
deadline on and up to the clock. -/
theorem next_of_isDue (due : t.isDue now = true) :
    ∃ deadline base, t.phase = .waiting deadline ∧ deadline ≤ base ∧ base ≤ now ∧
      t.next now = { t with phase := .waiting (base + t.period) } := by
  obtain ⟨deadline, waits, reached⟩ := isDue_iff.mp due
  have past : deadline ≤ now := by
    simp only [resolution] at reached
    omega
  refine ⟨deadline, if leeway < now - deadline then now else deadline, waits, ?_, ?_, ?_⟩
  · split
    · exact past
    · exact Nat.le_refl _
  · split
    · exact Nat.le_refl _
    · exact past
  · simp only [Ticker.next, waits]

namespace Paced

theorem begin (h : Paced period begun t now ticks) (passed : now ≤ later) :
    Paced period begun (t.begin later) later ticks := by
  have reached := Nat.le_trans h.reached passed
  rcases h.waits with ⟨set, none⟩ | ⟨deadline, waits, behind, near⟩
  · have begins : t.begin later = { t with phase := .waiting (later + t.period) } := by
      simp only [Ticker.begin, set]
    rw [begins]
    refine ⟨h.periodic, reached, .inr ⟨_, rfl, ?_, ?_⟩⟩
    · rw [none, Nat.zero_mul, Nat.add_zero] at reached
      rw [none, Nat.zero_add, Nat.one_mul, h.periodic]
      exact Nat.add_le_add_right reached period
    · exact Nat.le_of_eq (congrArg (later + ·) h.periodic)
  · rw [begin_of_waiting waits]
    have near := Nat.le_trans near (Nat.add_le_add_right passed period)
    exact ⟨h.periodic, reached, .inr ⟨deadline, waits, behind, near⟩⟩

theorem next (h : Paced period begun t now ticks) (due : t.isDue now = true) :
    Paced period begun (t.next now) now (ticks + 1) := by
  obtain ⟨deadline, base, waits, moved, past, next⟩ := next_of_isDue due
  rcases h.waits with ⟨set, -⟩ | ⟨deadline', waits', behind, -⟩
  · cases set.symm.trans waits
  · obtain rfl := Phase.waiting.inj (waits.symm.trans waits')
    rw [next]
    have behind := Nat.le_trans behind moved
    refine ⟨h.periodic, Nat.le_trans behind past, .inr ⟨_, rfl, ?_, ?_⟩⟩
    · rw [h.periodic, Nat.succ_mul (ticks + 1), ← Nat.add_assoc]
      exact Nat.add_le_add_right behind period
    · rw [h.periodic]
      exact Nat.add_le_add_right past period

theorem settled (h : Paced period begun t now ticks) :
    Paced period begun (t.settled now) now (ticks + t.rings now) := by
  induction t using rings.induct now generalizing ticks with
  | case1 t due ih =>
      rw [settled_of_due due, rings_of_due due, Nat.add_comm _ 1, ← Nat.add_assoc]
      exact ih (h.next due)
  | case2 t early =>
      rw [settled_of_early early, rings_of_early early]
      exact h

theorem rings_pos (h : Paced period begun t now ticks) (begins : t.phase ≠ .set) {span : Nat}
    (long : period + resolution ≤ span) : 0 < (t.begin (now + span)).rings (now + span) := by
  rcases h.waits with ⟨set, -⟩ | ⟨deadline, waits, -, near⟩
  · exact absurd set begins
  · have due : t.isDue (now + span) = true := by
      refine isDue_iff.mpr ⟨deadline, waits, ?_⟩
      simp only [resolution] at long ⊢
      omega
    rw [begin_of_waiting waits, rings_of_due due]
    exact Nat.succ_pos _

end Paced

end Ticker

namespace Refresher

variable {r r' : Refresher}

theorem Step.of_ending (going : r.isStopped = false) {deed : Deed} (step : Step r deed r')
    (ends : r'.isStopped = true) : r'.queue = r.queue ∧ deed.received? = none := by
  have kept (frame : r'.isStopped = r.isStopped) : False := by
    rw [frame, going] at ends
    cases ends
  cases step with
  | stop => exact ⟨rfl, rfl⟩
  | drop =>
      unfold Refresher.drop
      dsimp only
      split <;> exact ⟨rfl, rfl⟩
  | begin | giveUp | clone => exact (kept rfl).elim
  | heed => exact (kept r.heed_frame.2).elim
  | tick now => exact (kept (r.ring_frame now).2).elim
  | trigger => exact (kept r.trigger_frame.2).elim
  | tryReceive => exact (kept r.take_frame.2).elim
  | receive => exact (kept r.await_frame.2).elim

end Refresher

namespace Clocked

open Ticker (Paced)

variable {c c' : Clocked} {period : Duration} {begun : Nat} {deeds : List Deed}

/-! ## Ticks around the end -/

theorem ticks_of_use (coherent : Refresher.Coherent c.refresher) {deed : Refresher.Deed}
    {r : Refresher} (step : Refresher.Step c.refresher deed r)
    (apart : deed ≠ .look ∧ deed ≠ .tick) (now : Nat) :
    ticks (deeds ++ [.use deed]) ⟨r, now⟩ = ticks deeds c := by
  have untouched (left : r.queue = c.refresher.queue ∧ deed.received? = none) :
      ticks (deeds ++ [.use deed]) ⟨r, now⟩ = ticks deeds c := by
    rw [ticks, ticks, received_snoc, Deed.received?, left.1, left.2, Option.toList_none,
      List.append_nil]
  cases stopped : c.refresher.isStopped with
  | true => exact untouched (step.of_stopped coherent stopped).2
  | false =>
      cases ended : r.isStopped with
      | true => exact untouched (step.of_ending stopped ended)
      | false => exact ticks_use coherent stopped step apart ended now

theorem ticks_advance_of_stopped (coherent : Refresher.Coherent c.refresher)
    (stopped : c.refresher.isStopped = true) (span : Nat) :
    ticks (deeds ++ [.advance span]) (c.advance span) = ticks deeds c := by
  obtain ⟨_, run⟩ := c.refresher.wake_run (c.now + span)
  have left := (run.of_stopped coherent stopped).2.1
  exact ticks_advance (left.trans (List.append_nil _).symm)

/-! ## Whole runs -/

/-- What every run keeps. A refresher that is stopped emits nothing more, and the clock goes on. -/
structure KeepsPace (period begun : Nat) (c : Clocked) (ticks : Nat) : Prop where
  reached : begun + ticks * period ≤ c.now
  paced : c.refresher.isStopped = false → Paced period begun c.refresher.ticker c.now ticks

namespace KeepsPace

variable {period : Nat} (h : KeepsPace period begun c (ticks deeds c))
  (coherent : Refresher.Coherent c.refresher)
include h coherent

theorem advance (span : Nat) : KeepsPace period begun (c.advance span)
    (ticks (deeds ++ [.advance span]) (c.advance span)) := by
  have flag : (c.advance span).refresher.isStopped = c.refresher.isStopped :=
    (c.refresher.wake_frame _).2
  cases stopped : c.refresher.isStopped with
  | true =>
      -- There are no more ticks, and the bound only gets weaker as the clock goes on.
      rw [ticks_advance_of_stopped coherent stopped]
      refine ⟨Nat.le_trans h.reached (Nat.le_add_right ..), fun going => ?_⟩
      rw [flag, stopped] at going
      cases going
  | false =>
      have paced := ((h.paced stopped).begin (Nat.le_add_right c.now span)).settled
      rw [ticks_advance_of_going coherent stopped]
      refine ⟨paced.reached, fun _ => ?_⟩
      rw [Clocked.advance, Refresher.wake_of_going coherent stopped]
      exact paced

theorem use {deed : Refresher.Deed} {r : Refresher}
    (step : Refresher.Step c.refresher deed r) (apart : deed ≠ .look ∧ deed ≠ .tick) :
    KeepsPace period begun ⟨r, c.now⟩ (ticks (deeds ++ [.use deed]) ⟨r, c.now⟩) := by
  rw [ticks_of_use coherent step apart]
  refine ⟨h.reached, fun going => ?_⟩
  have before : c.refresher.isStopped = false :=
    Refresher.Run.going_before coherent (.step .refl step) going
  rw [step.ticker_eq apart]
  exact h.paced before

theorem step {deed : Deed} (step : Step c deed c') :
    KeepsPace period begun c' (ticks (deeds ++ [deed]) c') := by
  cases step with
  | advance span => exact h.advance coherent span
  | look =>
      rw [ticks_look]
      exact h.advance coherent 0
  | use step apart => exact h.use coherent step apart

end KeepsPace

theorem launch_keepsPace (period : Duration) (begun : Nat) :
    KeepsPace (Ticker.effectivePeriod period) begun (launch period begun)
      (ticks [] (launch period begun)) :=
  ⟨(Ticker.paced_ofPeriod period begun).reached, fun _ => Ticker.paced_ofPeriod period begun⟩

theorem Run.keepsPace (run : Run (launch period begun) deeds c) :
    KeepsPace (Ticker.effectivePeriod period) begun c (ticks deeds c) := by
  induction run with
  | refl => exact launch_keepsPace period begun
  | step run step ih => exact ih.step (Run.coherent run) step

/-- A refresher is set up, and its timer first looks at the clock whenever it gets to run. However
its handles and its receiver are used, and however the clock jumps, there have never been more ticks
than whole periods that are over since then, the period being the one that the timer really has. And
they do not fail to come: while it goes on, a jump over a period and a millisecond brings one. -/
theorem run_ticks_within_periods (run : Run (launch period begun) deeds c) :
    c.now = begun + elapsed deeds ∧
      ticks deeds c ≤ elapsed deeds / Ticker.effectivePeriod period ∧
      (c.refresher.isStopped = false → c.refresher.ticker.phase ≠ .set →
        ∀ span, Ticker.effectivePeriod period + Ticker.resolution ≤ span →
          ticks deeds c < ticks (deeds ++ [.advance span]) (c.advance span)) := by
  have pace := Run.keepsPace run
  have passed : c.now = begun + elapsed deeds := run.now_eq
  have positive : 0 < Ticker.effectivePeriod period := (Ticker.ofPeriod period).period_pos
  refine ⟨passed, ?_, fun going looked span long => ?_⟩
  · have reached := pace.reached
    rw [passed] at reached
    exact (Nat.le_div_iff_mul_le positive).mpr (Nat.le_of_add_le_add_left reached)
  · rw [ticks_advance_of_going (Run.coherent run) going]
    exact Nat.lt_add_of_pos_right ((pace.paced going).rings_pos looked long)

/-- With the shortest period, the timer takes its first look at the clock at once, a signal is asked
for and taken, and then the clock jumps over three periods: the three ticks are as many as there may
be. A jump over two more brings at least one. -/
theorem three_ticks_in_three_periods :
    ∃ deeds c, Run (launch ⟨0⟩ 0) deeds c ∧ elapsed deeds = 3000000 ∧ ticks deeds c = 3 ∧
      ticks deeds c ≤ elapsed deeds / Ticker.effectivePeriod ⟨0⟩ ∧
      ticks deeds c < ticks (deeds ++ [.advance 2000000]) (c.advance 2000000) := by
  let begun := (launch ⟨0⟩ 0).look
  have asks : Run (launch ⟨0⟩ 0) [.look, .use .trigger] _ :=
    (FleetWatch.Run.refl.step (.look _)).step
      (.trigger begun (by decide +kernel))
  have takes := asks.step (.tryReceive _ (by decide +kernel))
  have jumps := takes.step (.advance _ 3000000)
  obtain ⟨-, most, least⟩ := run_ticks_within_periods jumps
  exact ⟨_, _, jumps, by decide, by decide +kernel, most,
    least (by decide +kernel) (by decide +kernel) 2000000 (by decide)⟩

end Clocked

end FleetWatch
