import FleetWatch.Proofs.Refresh.Stopping

/-! # Every signal is delivered once and in order

As long as a refresher is not stopped, the signals received so far and those still queued are all
that were emitted, in the order in which they were. One step either puts a signal at the end of the
queue as it is emitted, or takes the first one off as it is received, or leaves the queue alone.
-/

namespace FleetWatch.Refresher

variable {r r' : Refresher}

theorem trigger_of_going (h : Coherent r) (going : r.isStopped = false) :
    r.trigger = { r with queue := r.queue ++ [.manual] } := by
  rw [trigger, if_neg (by simp [going]), emit_eq h.receiver]

theorem ring_of_going (h : Coherent r) (going : r.isStopped = false) {now : Nat}
    (due : r.ticker.isDue now = true) :
    r.ring now = { r with ticker := r.ticker.next now, queue := r.queue ++ [.tick] } := by
  rw [ring, if_pos due, if_neg (by simp [going, h.receiver])]
  exact emit_eq (h.setTicker _).receiver .tick

theorem take_of_going (going : r.isStopped = false) :
    r.take = ({ r with queue := r.queue.tail }, r.queue.head?) := by
  rw [take, if_neg (by simp [going])]
  cases r with
  | mk ticker queue => cases queue <;> rfl

theorem await_of_going (h : Coherent r) (going : r.isStopped = false) :
    r.await = ({ r with queue := r.queue.tail, isAwaited := r.queue.isEmpty },
      r.queue.head?.elim .pending .signal) := by
  have told := h.tellsEnd_eq_false going
  rw [await, if_neg (by simp [going]), listen, if_neg (by simp [told])]
  cases queued : r.queue with
  | nil => simp
  | cons signal rest => simp [going]

theorem await_ne_ended (h : Coherent r) (going : r.isStopped = false) : r.await.2 ≠ .ended := by
  rw [await_of_going h going]
  cases r.queue <;> simp

theorem head_append_tail {α : Type} (queue : List α) :
    queue.head?.toList ++ queue.tail = queue := by
  cases queue <;> rfl

/-- What is received and what is queued after it are what was queued and what is emitted. -/
theorem Step.delivers (h : Coherent r) (going : r.isStopped = false) {deed : Deed}
    (step : Step r deed r') (still : r'.isStopped = false) :
    deed.received?.toList ++ r'.queue = r.queue ++ deed.emitted?.toList := by
  have whole := (head_append_tail r.queue).trans (List.append_nil _).symm
  cases step with
  | begin | giveUp | clone => exact (List.append_nil _).symm
  | heed =>
      unfold Refresher.heed
      split <;> exact (List.append_nil _).symm
  | tick now due => rw [ring_of_going h going due]; rfl
  | trigger => rw [trigger_of_going h going]; rfl
  | tryReceive =>
      rw [take_of_going going]
      exact whole
  | receive =>
      rw [await_of_going h going]
      refine Eq.trans ?_ whole
      cases r.queue <;> rfl
  | drop =>
      unfold Refresher.drop
      dsimp only
      split <;> exact (List.append_nil _).symm
  | stop => exact absurd still (by simp [Refresher.stop])

theorem Run.delivers (h : Coherent r) {deeds : List Deed} (run : Run r deeds r')
    (still : r'.isStopped = false) : received deeds ++ r'.queue = r.queue ++ emitted deeds := by
  induction run with
  | refl => exact (List.append_nil _).symm
  | @step deeds deed b c run step ih =>
      have going := Run.going_before (h.run run) (.step .refl step) still
      rw [received_snoc, emitted_snoc, List.append_assoc, step.delivers (h.run run) going still,
        ← List.append_assoc, ih going, List.append_assoc]

/-- In any run that has not been stopped, what was received, followed by what is queued, is what was
emitted, a tick for every time the timer went off and a manual one for every trigger. A receiver
comes away with nothing only when it has had all of it, and is never told of an end. -/
theorem run_delivers_all {period : Duration} {deeds : List Deed}
    (run : Run (launch period) deeds r) (going : r.isStopped = false) :
    received deeds ++ r.queue = emitted deeds ∧
      (r.take.2 = none → received deeds = emitted deeds) ∧
      (r.await.2 = .pending → received deeds = emitted deeds) ∧ r.await.2 ≠ .ended := by
  have delivered : received deeds ++ r.queue = emitted deeds :=
    run.delivers (launch_coherent period) going
  refine ⟨delivered, fun nothing => ?_, fun nothing => ?_, await_ne_ended run.coherent going⟩
  · rw [take_of_going going] at nothing
    rwa [List.head?_eq_none_iff.mp nothing, List.append_nil] at delivered
  · rw [await_of_going run.coherent going] at nothing
    cases queued : r.queue with
    | nil => rwa [queued, List.append_nil] at delivered
    | cons signal rest => simp [queued] at nothing

/-- A receive is pending when a refresh is asked for. The timer goes off, two more are asked for
through a second handle, and three signals are received in both ways; one is left. -/
theorem three_of_four_received :
    ∃ deeds r, Run (launch defaultPeriod) deeds r ∧
      emitted deeds = [.manual, .tick, .manual, .manual] ∧ r.queue = [.manual] ∧
      received deeds = [.manual, .tick, .manual] := by
  let begun := (launch defaultPeriod).begin 0
  have waits : Run (launch defaultPeriod) _ begun.await.1 :=
    .step (.step .refl (.begin _ 0)) (.receive begun)
  have rung := (waits.step (.trigger _ (by decide))).step (.tick _ 2000000000 (by decide))
  have asked := ((rung.step (.clone _ (by decide))).step (.trigger _ (by decide))).step
    (.trigger _ (by decide))
  have got := ((asked.step (.receive _)).step (.tryReceive _ (by decide))).step (.receive _)
  obtain ⟨whole, -, -, -⟩ := run_delivers_all got (by decide)
  exact ⟨_, _, got, by decide, by decide, List.append_cancel_right (whole.trans (by decide))⟩

end FleetWatch.Refresher
