import FleetWatch.Proofs.Run
import FleetWatch.Refresh

/-! # Runs of a refresher

A refresher goes from state to state by its timer, by its handles and by its receiver, in any order.
The timer may look at the clock at any time, and nothing is asked of what the clock says. What every
run keeps is how the three ways of telling the end go together: the flag is set exactly when the end
was announced, it is set when no handle is left, and a pending receive has heard nothing yet.
-/

namespace FleetWatch.Refresher

/-- One thing that happens to a refresher, as it is seen from outside. -/
inductive Deed where
  /-- The timer has a look at the clock or at what is announced, and does not go off. -/
  | look
  /-- The timer goes off. -/
  | tick
  /-- A refresh is asked for by hand. -/
  | trigger
  /-- A signal is taken if there is one. -/
  | tryReceive (got : Option RefreshSignal)
  /-- A receive is begun, or one that is pending goes on. -/
  | receive (got : Awaited)
  /-- A pending receive is given up. -/
  | giveUp
  | clone
  | drop
  | stop
  deriving Repr, DecidableEq

namespace Deed

/-- The signal that is emitted, as long as the refresher is not stopped. -/
def emitted? : Deed → Option RefreshSignal
  | tick => some .tick
  | trigger => some .manual
  | _ => none

/-- The signal that is received. -/
def received? : Deed → Option RefreshSignal
  | tryReceive got => got
  | receive (.signal signal) => some signal
  | _ => none

/-- How many handles there are when there were so many. -/
def handles (held : Nat) : Deed → Nat
  | clone => held + 1
  | drop => held - 1
  | _ => held

end Deed

/-- The signals emitted, oldest first. -/
def emitted (deeds : List Deed) : List RefreshSignal := deeds.filterMap Deed.emitted?

def received (deeds : List Deed) : List RefreshSignal := deeds.filterMap Deed.received?

theorem emitted_snoc (deeds : List Deed) (deed : Deed) :
    emitted (deeds ++ [deed]) = emitted deeds ++ deed.emitted?.toList :=
  filterMap_snoc ..

theorem received_snoc (deeds : List Deed) (deed : Deed) :
    received (deeds ++ [deed]) = received deeds ++ deed.received?.toList :=
  filterMap_snoc ..

/-- What a refresher may do next. Who has no handle cannot use one, and while a receive is pending
there is no other. -/
inductive Step : Refresher → Deed → Refresher → Prop where
  | begin (r : Refresher) (now : Nat) : Step r .look (r.begin now)
  | heed (r : Refresher) : Step r .look r.heed
  | tick (r : Refresher) (now : Nat) (due : r.ticker.isDue now = true) : Step r .tick (r.ring now)
  | trigger (r : Refresher) (held : 0 < r.handles) : Step r .trigger r.trigger
  | tryReceive (r : Refresher) (free : r.isAwaited = false) :
      Step r (.tryReceive r.take.2) r.take.1
  | receive (r : Refresher) : Step r (.receive r.await.2) r.await.1
  | giveUp (r : Refresher) : Step r .giveUp r.giveUp
  | clone (r : Refresher) (held : 0 < r.handles) : Step r .clone r.clone
  | drop (r : Refresher) (held : 0 < r.handles) : Step r .drop r.drop
  | stop (r : Refresher) (held : 0 < r.handles) : Step r .stop r.stop

/-! ## What leaves the handles and the flag alone -/

section Frame

variable (r : Refresher)

theorem emit_frame (signal : RefreshSignal) :
    (r.emit signal).handles = r.handles ∧ (r.emit signal).isStopped = r.isStopped := by
  unfold emit
  split <;> exact ⟨rfl, rfl⟩

theorem heed_frame : r.heed.handles = r.handles ∧ r.heed.isStopped = r.isStopped := by
  unfold heed
  split <;> exact ⟨rfl, rfl⟩

theorem ring_frame (now : Nat) :
    (r.ring now).handles = r.handles ∧ (r.ring now).isStopped = r.isStopped := by
  unfold ring
  split
  · split
    · exact ⟨rfl, rfl⟩
    · exact emit_frame _ .tick
  · exact ⟨rfl, rfl⟩

theorem trigger_frame : r.trigger.handles = r.handles ∧ r.trigger.isStopped = r.isStopped := by
  unfold trigger
  split
  · exact ⟨rfl, rfl⟩
  · exact r.emit_frame .manual

theorem take_frame : r.take.1.handles = r.handles ∧ r.take.1.isStopped = r.isStopped := by
  unfold take
  (repeat' split) <;> exact ⟨rfl, rfl⟩

theorem await_frame : r.await.1.handles = r.handles ∧ r.await.1.isStopped = r.isStopped := by
  unfold await listen
  (repeat' split) <;> exact ⟨rfl, rfl⟩

end Frame

theorem Step.handles_eq {r r' : Refresher} {deed : Deed} (step : Step r deed r') :
    r'.handles = deed.handles r.handles := by
  cases step with
  | begin | giveUp | clone | stop => rfl
  | heed => exact r.heed_frame.1
  | tick now => exact (r.ring_frame now).1
  | trigger => exact r.trigger_frame.1
  | tryReceive => exact r.take_frame.1
  | receive => exact r.await_frame.1
  | drop =>
      unfold Refresher.drop
      dsimp only
      split <;> rfl

theorem Step.hasReceiver_eq {r r' : Refresher} {deed : Deed} (step : Step r deed r') :
    r'.hasReceiver = r.hasReceiver := by
  cases step with
  | begin | giveUp | clone | stop => rfl
  | heed =>
      unfold Refresher.heed
      split <;> rfl
  | tick now =>
      unfold ring emit
      (repeat' split) <;> rfl
  | trigger =>
      unfold Refresher.trigger emit
      (repeat' split) <;> rfl
  | tryReceive =>
      unfold take
      (repeat' split) <;> rfl
  | receive =>
      unfold await listen
      (repeat' split) <;> rfl
  | drop =>
      unfold Refresher.drop
      dsimp only
      split <;> rfl

theorem Step.keeps_going {r r' : Refresher} {deed : Deed} (step : Step r deed r')
    (going : r.isStopped = false) (goes : deed ≠ .stop) (held : r'.handles ≠ 0) :
    r'.isStopped = false := by
  cases step with
  | begin | giveUp | clone => exact going
  | heed => exact r.heed_frame.2.trans going
  | tick now => exact (r.ring_frame now).2.trans going
  | trigger => exact r.trigger_frame.2.trans going
  | tryReceive => exact r.take_frame.2.trans going
  | receive => exact r.await_frame.2.trans going
  | drop =>
      unfold Refresher.drop at held ⊢
      dsimp only at held ⊢
      split
      · rename_i gone
        rw [if_pos gone] at held
        exact absurd gone held
      · exact going
  | stop => exact absurd rfl goes

abbrev Run : Refresher → List Deed → Refresher → Prop := FleetWatch.Run Step

theorem ringAll_run (r : Refresher) (now : Nat) :
    ∃ ticks, Run r (List.replicate ticks .tick) (r.ringAll now) := by
  induction r using ringAll.induct now with
  | case1 r due ih =>
      obtain ⟨ticks, rest⟩ := ih
      rw [ringAll, dif_pos due]
      exact ⟨ticks + 1, Run.trans (.step .refl (.tick r now due)) rest⟩
  | case2 r waits =>
      rw [ringAll, dif_neg waits]
      exact ⟨0, .refl⟩

theorem wake_run (r : Refresher) (now : Nat) :
    ∃ ticks, Run r (.look :: .look :: List.replicate ticks .tick) (r.wake now) := by
  obtain ⟨ticks, rung⟩ := ringAll_run (r.begin now).heed now
  have looks : Run r [.look, .look] (r.begin now).heed :=
    .step (.step .refl (.begin r now)) (.heed _)
  exact ⟨ticks, looks.trans rung⟩

/-! ## What is known of the end -/

/-- The ways in which the end is known agree with each other. -/
structure Coherent (r : Refresher) : Prop where
  announced : r.announced = 0 ↔ r.isStopped = false
  handles : r.handles = 0 → r.isStopped = true
  heard : r.heard ≤ r.announced
  awaited : r.isAwaited = true → r.heard = 0
  receiver : r.hasReceiver = true

theorem launch_coherent (period : Duration) : Coherent (launch period) where
  announced := by simp [launch]
  handles := by simp [launch]
  heard := Nat.le_refl _
  awaited := fun _ => rfl
  receiver := rfl

theorem emit_eq {r : Refresher} (receiver : r.hasReceiver = true) (signal : RefreshSignal) :
    r.emit signal = { r with queue := r.queue ++ [signal] } := if_pos receiver

namespace Coherent

variable {r : Refresher}

theorem tellsEnd_eq_false (h : Coherent r) (going : r.isStopped = false) :
    r.tellsEnd r.heard = false := by
  have none : r.announced = 0 := h.announced.mpr going
  have heard := h.heard
  have held : r.handles ≠ 0 := fun gone => by simp [h.handles gone] at going
  simp only [tellsEnd, none, Bool.or_eq_false_iff, decide_eq_false_iff_not]
  omega

theorem tellsEnd_eq_true (h : Coherent r) (stopped : r.isStopped = true)
    (pending : r.isAwaited = true) : r.tellsEnd r.heard = true := by
  have some : r.announced ≠ 0 := fun none => by simp [h.announced.mp none] at stopped
  simp [tellsEnd, h.awaited pending, some]

theorem emit (h : Coherent r) (signal : RefreshSignal) : Coherent (r.emit signal) := by
  rw [emit_eq h.receiver]
  exact ⟨h.announced, h.handles, h.heard, h.awaited, h.receiver⟩

theorem setTicker (h : Coherent r) (ticker : Ticker) : Coherent { r with ticker := ticker } :=
  ⟨h.announced, h.handles, h.heard, h.awaited, h.receiver⟩

theorem heed (h : Coherent r) : Coherent r.heed := by
  unfold Refresher.heed
  split
  · exact h.setTicker _
  · exact h

theorem ring (h : Coherent r) (now : Nat) : Coherent (r.ring now) := by
  unfold Refresher.ring
  split
  · split
    · exact h.setTicker _
    · exact (h.setTicker _).emit .tick
  · exact h

theorem trigger (h : Coherent r) : Coherent r.trigger := by
  unfold Refresher.trigger
  split
  · exact h
  · exact h.emit .manual

theorem setQueue (h : Coherent r) (queue : List RefreshSignal) :
    Coherent { r with queue := queue } :=
  ⟨h.announced, h.handles, h.heard, h.awaited, h.receiver⟩

theorem take (h : Coherent r) : Coherent r.take.1 := by
  unfold Refresher.take
  split
  · exact h
  · split
    · exact h
    · exact h.setQueue _

theorem listen (h : Coherent r) (unheard : r.heard = 0) : Coherent r.listen.1 := by
  unfold Refresher.listen
  split
  · exact ⟨h.announced, h.handles, Nat.le_refl _, by simp, h.receiver⟩
  · split
    · exact ⟨h.announced, h.handles, h.heard, fun _ => unheard, h.receiver⟩
    · exact ⟨h.announced, h.handles, h.heard, by simp, h.receiver⟩

theorem await (h : Coherent r) : Coherent r.await.1 := by
  unfold Refresher.await
  split
  · exact h
  · rename_i listens
    refine h.listen ?_
    cases pending : r.isAwaited with
    | true => exact h.awaited pending
    | false =>
        have going : r.isStopped = false := by simpa [pending] using listens
        exact Nat.le_zero.mp (h.announced.mpr going ▸ h.heard)

theorem stop (h : Coherent r) : Coherent r.stop where
  announced := by simp [Refresher.stop]
  handles := fun _ => rfl
  heard := Nat.le_succ_of_le h.heard
  awaited := h.awaited
  receiver := h.receiver

theorem setHandles (h : Coherent r) {handles : Nat} (held : handles ≠ 0) :
    Coherent { r with handles := handles } :=
  ⟨h.announced, fun gone => absurd gone held, h.heard, h.awaited, h.receiver⟩

theorem drop (h : Coherent r) : Coherent r.drop := by
  unfold Refresher.drop
  dsimp only
  split
  · exact ⟨by simp [Refresher.stop], fun _ => rfl, Nat.le_succ_of_le h.heard, h.awaited, h.receiver⟩
  · rename_i held
    exact h.setHandles held

theorem step (h : Coherent r) {deed : Deed} {r' : Refresher} (step : Step r deed r') :
    Coherent r' := by
  cases step with
  | begin => exact h.setTicker _
  | heed => exact h.heed
  | tick now => exact h.ring now
  | trigger => exact h.trigger
  | tryReceive => exact h.take
  | receive => exact h.await
  | giveUp => exact ⟨h.announced, h.handles, h.heard, by simp [giveUp], h.receiver⟩
  | clone => exact h.setHandles (Nat.succ_ne_zero _)
  | drop => exact h.drop
  | stop => exact h.stop

theorem run (h : Coherent r) {deeds : List Deed} {r' : Refresher} (run : Run r deeds r') :
    Coherent r' := run.keeps (fun h step => h.step step) h

end Coherent

theorem Run.coherent {period : Duration} {deeds : List Deed} {r : Refresher}
    (run : Run (launch period) deeds r) : Coherent r := (launch_coherent period).run run

end FleetWatch.Refresher
