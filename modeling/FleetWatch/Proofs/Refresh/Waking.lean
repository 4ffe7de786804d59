import FleetWatch.Proofs.Refresh.Delivery

/-! # What a timer does when it gets to run

As long as a refresher is not stopped, all that its timer does at one time depends on the timer and
on the clock. It goes off as often as it finds its deadline reached, puts as many ticks behind what
is queued, and touches nothing else. Having done so it waits for a deadline that is not reached, so
that another look at the same time changes nothing.
-/

namespace FleetWatch

namespace Ticker

/-- How often a timer goes off that looks at the clock. -/
def rings (t : Ticker) (now : Nat) : Nat :=
  if _ : t.isDue now = true then (t.next now).rings now + 1 else 0
termination_by t.lag now
decreasing_by exact lag_next_lt ‹_›

/-- The timer when it has gone off as often. -/
def settled (t : Ticker) (now : Nat) : Ticker :=
  if _ : t.isDue now = true then (t.next now).settled now else t
termination_by t.lag now
decreasing_by exact lag_next_lt ‹_›

variable {t : Ticker} {now later deadline : Nat}

theorem rings_of_due (due : t.isDue now = true) : t.rings now = (t.next now).rings now + 1 := by
  rw [rings, dif_pos due]

theorem rings_of_early (early : ¬t.isDue now = true) : t.rings now = 0 := by
  rw [rings, dif_neg early]

theorem settled_of_due (due : t.isDue now = true) : t.settled now = (t.next now).settled now := by
  rw [settled, dif_pos due]

theorem settled_of_early (early : ¬t.isDue now = true) : t.settled now = t := by
  rw [settled, dif_neg early]

/-! ## Deadlines -/

theorem begin_of_looked (looked : t.phase ≠ .set) (now : Nat) : t.begin now = t := by
  unfold begin
  split
  · contradiction
  · rfl

theorem begin_of_waiting (waits : t.phase = .waiting deadline) (now : Nat) : t.begin now = t :=
  begin_of_looked (by simp [waits]) now

theorem isDue_of_waiting (waits : t.phase = .waiting deadline) (now : Nat) :
    t.isDue now = true ↔ (deadline + (resolution - 1)) / resolution ≤ now / resolution := by
  rw [isDue_iff, waits]
  simp only [Phase.waiting.injEq, exists_eq_left']

theorem isDue_of_early (waits : t.phase = .waiting deadline) (early : now < deadline) :
    ¬t.isDue now = true := by
  rw [isDue_of_waiting waits]
  simp only [resolution]
  omega

theorem le_of_isDue (waits : t.phase = .waiting deadline) (due : t.isDue now = true) :
    deadline ≤ now :=
  Nat.le_of_not_lt fun early => isDue_of_early waits early due

theorem isDue_deadline_iff (waits : t.phase = .waiting deadline) :
    t.isDue deadline = true ↔ resolution ∣ deadline := by
  rw [isDue_of_waiting waits]
  simp only [resolution]
  omega

theorem isDue_mono (passed : now ≤ later) (due : t.isDue now = true) : t.isDue later = true := by
  obtain ⟨deadline, waits, reached⟩ := isDue_iff.mp due
  exact isDue_iff.mpr ⟨deadline, waits, Nat.le_trans reached (Nat.div_le_div_right passed)⟩

/-! ## A second look -/

theorem phase_begin (t : Ticker) (now : Nat) : (t.begin now).phase ≠ .set := by
  unfold begin
  split
  · simp
  · assumption

theorem phase_next (looked : t.phase ≠ .set) (now : Nat) : (t.next now).phase ≠ .set := by
  unfold next
  split
  · simp
  · exact looked

theorem phase_settled (looked : t.phase ≠ .set) : (t.settled now).phase ≠ .set := by
  induction t using settled.induct now with
  | case1 t due ih =>
      rw [settled_of_due due]
      exact ih (phase_next looked now)
  | case2 t early => rwa [settled_of_early early]

theorem isDue_settled (t : Ticker) (now : Nat) : ¬(t.settled now).isDue now = true := by
  induction t using settled.induct now with
  | case1 t due ih => rwa [settled_of_due due]
  | case2 t early => rwa [settled_of_early early]

/-- Whether a look at the clock, as long as it does not move, changes nothing. -/
def IsIdle (t : Ticker) (now : Nat) : Prop :=
  (t.begin now).settled now = t ∧ (t.begin now).rings now = 0

theorem isIdle_settled (t : Ticker) (now : Nat) : ((t.begin now).settled now).IsIdle now := by
  have early := isDue_settled (t.begin now) now
  rw [IsIdle, begin_of_looked (phase_settled (phase_begin t now))]
  exact ⟨settled_of_early early, rings_of_early early⟩

end Ticker

namespace Refresher

variable {r : Refresher}

theorem ringAll_frame (r : Refresher) (now : Nat) :
    (r.ringAll now).handles = r.handles ∧ (r.ringAll now).isStopped = r.isStopped := by
  induction r using ringAll.induct now with
  | case1 r due ih =>
      rw [ringAll, dif_pos due]
      exact ⟨ih.1.trans (r.ring_frame now).1, ih.2.trans (r.ring_frame now).2⟩
  | case2 r early =>
      rw [ringAll, dif_neg early]
      exact ⟨rfl, rfl⟩

theorem wake_frame (r : Refresher) (now : Nat) :
    (r.wake now).handles = r.handles ∧ (r.wake now).isStopped = r.isStopped := by
  obtain ⟨handles, flag⟩ := (r.begin now).heed.ringAll_frame now
  exact ⟨handles.trans (r.begin now).heed_frame.1, flag.trans (r.begin now).heed_frame.2⟩

theorem heed_of_going (h : Coherent r) (going : r.isStopped = false) : r.heed = r := by
  have none : r.announced = 0 := h.announced.mpr going
  have held : r.handles ≠ 0 := fun gone => by simp [h.handles gone] at going
  exact if_neg (by simp [tellsEnd, none, held])

theorem ringAll_of_going (h : Coherent r) (going : r.isStopped = false) (now : Nat) :
    r.ringAll now = { r with
      ticker := r.ticker.settled now
      queue := r.queue ++ List.replicate (r.ticker.rings now) .tick } := by
  induction r using ringAll.induct now with
  | case1 r due ih =>
      have rest := ih (h.ring now) ((r.ring_frame now).2.trans going)
      rw [ring_of_going h going due] at rest
      rw [ringAll, dif_pos due, ring_of_going h going due, rest, Ticker.settled_of_due due,
        Ticker.rings_of_due due, List.replicate_succ, List.append_assoc, List.singleton_append]
  | case2 r early =>
      rw [ringAll, dif_neg early, Ticker.settled_of_early early, Ticker.rings_of_early early,
        List.replicate_zero, List.append_nil]

theorem wake_of_going (h : Coherent r) (going : r.isStopped = false) (now : Nat) :
    r.wake now = { r with
      ticker := (r.ticker.begin now).settled now
      queue := r.queue ++ List.replicate ((r.ticker.begin now).rings now) .tick } := by
  have begun : Coherent (r.begin now) := h.setTicker _
  rw [wake, heed_of_going begun going, ringAll_of_going begun going]
  rfl

end Refresher

end FleetWatch
