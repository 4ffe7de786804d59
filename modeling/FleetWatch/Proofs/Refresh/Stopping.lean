import FleetWatch.Proofs.Refresh.Runs

/-! # Stopping is final

A refresher is stopped through any of its handles, or by the last of them being dropped. From then
on the flag stays set and the queue stays as it is: the timer ends instead of going off, a trigger
does nothing, what was queued is not taken any more, and a receive that was pending when it happened
is told of the end like any later one.
-/

namespace FleetWatch.Refresher

variable {r r' : Refresher}

theorem take_of_stopped (stopped : r.isStopped = true) : r.take = (r, none) := if_pos stopped

theorem trigger_of_stopped (stopped : r.isStopped = true) : r.trigger = r := if_pos stopped

theorem ring_of_stopped (stopped : r.isStopped = true) (now : Nat) :
    ∃ ticker, r.ring now = { r with ticker := ticker } := by
  unfold ring
  split
  · rw [stopped]
    exact ⟨_, rfl⟩
  · exact ⟨r.ticker, rfl⟩

/-- A receive that is begun sees the flag, and one that is pending hears the announcement. -/
theorem await_of_stopped (h : Coherent r) (stopped : r.isStopped = true) :
    ∃ heard, r.await = ({ r with heard := heard, isAwaited := false }, .ended) := by
  cases pending : r.isAwaited with
  | false =>
      refine ⟨r.heard, ?_⟩
      have sees : r.await = (r, .ended) := if_pos (by simp [pending, stopped])
      rw [sees, ← pending]
  | true =>
      refine ⟨r.announced, ?_⟩
      have goesOn : r.await = r.listen := if_neg (by simp [pending])
      rw [goesOn]
      exact if_pos (h.tellsEnd_eq_true stopped pending)

/-- Once stopped, nothing that happens clears the flag, touches the queue or is received. -/
theorem Step.of_stopped (h : Coherent r) (stopped : r.isStopped = true) {deed : Deed}
    (step : Step r deed r') :
    r'.isStopped = true ∧ r'.queue = r.queue ∧ deed.received? = none := by
  cases step with
  | begin | giveUp | clone => exact ⟨stopped, rfl, rfl⟩
  | heed =>
      unfold Refresher.heed
      split <;> exact ⟨stopped, rfl, rfl⟩
  | tick now =>
      obtain ⟨ticker, rung⟩ := ring_of_stopped stopped now
      rw [rung]
      exact ⟨stopped, rfl, rfl⟩
  | trigger =>
      rw [trigger_of_stopped stopped]
      exact ⟨stopped, rfl, rfl⟩
  | tryReceive =>
      rw [take_of_stopped stopped]
      exact ⟨stopped, rfl, rfl⟩
  | receive =>
      obtain ⟨heard, told⟩ := await_of_stopped h stopped
      rw [told]
      exact ⟨stopped, rfl, rfl⟩
  | drop =>
      unfold Refresher.drop
      dsimp only
      split
      · exact ⟨rfl, rfl, rfl⟩
      · exact ⟨stopped, rfl, rfl⟩
  | stop => exact ⟨rfl, rfl, rfl⟩

theorem Run.of_stopped (h : Coherent r) (stopped : r.isStopped = true) {deeds : List Deed}
    (run : Run r deeds r') :
    r'.isStopped = true ∧ r'.queue = r.queue ∧ received deeds = [] := by
  induction run with
  | refl => exact ⟨stopped, rfl, rfl⟩
  | step run step ih =>
      obtain ⟨flag, queue, nothing⟩ := ih
      obtain ⟨flag', queue', nothing'⟩ := step.of_stopped (h.run run) flag
      refine ⟨flag', queue'.trans queue, ?_⟩
      rw [received_snoc, nothing, nothing']
      rfl

theorem Run.going_before (h : Coherent r) {deeds : List Deed} (run : Run r deeds r')
    (still : r'.isStopped = false) : r.isStopped = false := by
  rw [Bool.eq_false_iff]
  intro stopped
  have flag := (run.of_stopped h stopped).1
  rw [still] at flag
  exact absurd flag (by decide)

theorem isStopped_of_ending {ended : Refresher}
    (ending : ended = r.stop ∨ r.handles = 1 ∧ ended = r.drop) :
    ended.isStopped = true ∧ ended.queue = r.queue := by
  rcases ending with rfl | ⟨last, rfl⟩
  · exact ⟨rfl, rfl⟩
  · simp only [drop, last, Nat.sub_self, if_true]
    exact ⟨rfl, rfl⟩

/-- After any run that ends by stopping or by dropping the last handle, whatever happens then: the
flag is set, nothing more is taken or awaited, not even by a receive that was pending, and the queue
is what it was although nothing was received, so nothing was emitted either. -/
theorem run_stop_final {period : Duration} {deeds later : List Deed} {ended : Refresher}
    (run : Run (launch period) deeds r) (held : 0 < r.handles)
    (ending : ended = r.stop ∨ r.handles = 1 ∧ ended = r.drop) (afterwards : Run ended later r') :
    r'.isStopped = true ∧ r'.take.2 = none ∧ r'.await.2 = .ended ∧
      received later = [] ∧ r'.queue = r.queue := by
  have coherent : Coherent ended := by
    rcases ending with rfl | ⟨-, rfl⟩
    · exact run.coherent.step (.stop r held)
    · exact run.coherent.step (.drop r held)
  obtain ⟨flag, left⟩ := isStopped_of_ending ending
  obtain ⟨stopped, queue, nothing⟩ := afterwards.of_stopped coherent flag
  refine ⟨stopped, ?_, ?_, nothing, queue.trans left⟩
  · rw [take_of_stopped stopped]
  · obtain ⟨heard, told⟩ := await_of_stopped (coherent.run afterwards) stopped
    rw [told]

/-- A receive is pending and a signal is queued when the only handle stops the refresher, or is
dropped instead. A trigger and another stop follow if there still is a handle, else a look at the
clock. -/
theorem stopped_while_awaited :
    ∃ r, Run (launch defaultPeriod) [.receive .pending, .trigger] r ∧ r.isAwaited = true ∧
      r.queue = [.manual] ∧
      (∃ r', Run r.stop [.trigger, .stop] r' ∧ r'.take.2 = none ∧ r'.await.2 = .ended) ∧
      ∃ r', Run r.drop [.look] r' ∧ r'.take.2 = none ∧ r'.await.2 = .ended := by
  have waits : Run (launch defaultPeriod) [.receive .pending] (launch defaultPeriod).await.1 :=
    .step .refl (.receive _)
  have asks := waits.step (.trigger _ (by decide))
  have again : Run _ [.trigger, .stop] _ :=
    .step (.step .refl (.trigger (launch defaultPeriod).await.1.trigger.stop (by decide)))
      (.stop _ (by decide))
  have looks : Run _ [.look] _ :=
    .step .refl (.begin (launch defaultPeriod).await.1.trigger.drop 0)
  obtain ⟨-, taken, ended, -, -⟩ := run_stop_final asks (by decide) (.inl rfl) again
  obtain ⟨-, taken', ended', -, -⟩ := run_stop_final asks (by decide) (.inr ⟨rfl, rfl⟩) looks
  exact ⟨_, asks, rfl, rfl, ⟨_, again, taken, ended⟩, _, looks, taken', ended'⟩

end FleetWatch.Refresher
