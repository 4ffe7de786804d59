import FleetWatch.Duration

/-! # Refresh signals

What makes the dashboard fetch anew: a timer that goes off once a period, and whoever asks for it
by hand. Every signal is put into one queue, and none is dropped or merged with another. The end is
made known in three ways: by a flag, which is looked at before anything is emitted or received; by
an announcement, which reaches the timer and a receive that is pending; and by the last handle being
gone. Once stopped, a refresher delivers nothing more, not even what was queued.
-/

namespace FleetWatch

/-- Why a refresh is due. -/
inductive RefreshSignal where
  /-- The timer went off. -/
  | tick
  /-- Someone asked for it. -/
  | manual
  deriving Repr, DecidableEq, Inhabited

/-- How far a timer is. -/
inductive Phase where
  /-- It has not looked at the clock yet. -/
  | set
  /-- Its next tick is due at a time, in nanoseconds on the steady clock. -/
  | waiting (deadline : Nat)
  /-- It has ended and never goes off again. -/
  | over
  deriving Repr, DecidableEq, Inhabited

/-- A timer that goes off once a period of so many nanoseconds. -/
structure Ticker where
  period : Nat
  phase : Phase
  period_pos : 0 < period
  deriving DecidableEq

namespace Ticker

/-- Timers have a resolution of one millisecond, and no period is shorter. -/
def resolution : Nat := 1000000

/-- A tick that is later than this moves the ones behind it. -/
def leeway : Nat := 5000000

/-- The period that a timer has when a given one is asked for. -/
def effectivePeriod (period : Duration) : Nat := max period.nanos resolution

def ofPeriod (period : Duration) : Ticker :=
  ⟨effectivePeriod period, .set, Nat.lt_of_lt_of_le (by decide) (Nat.le_max_right ..)⟩

/-- The timer looks at the clock for the first time. Its first tick is due a period later. -/
def begin (t : Ticker) (now : Nat) : Ticker :=
  match t.phase with
  | .set => { t with phase := .waiting (now + t.period) }
  | _ => t

/-- Whether a timer that looks at the clock now finds its deadline reached. A deadline inside a
millisecond is reached at the end of it. -/
def isDue (t : Ticker) (now : Nat) : Bool :=
  match t.phase with
  | .waiting deadline => decide ((deadline + (resolution - 1)) / resolution ≤ now / resolution)
  | _ => false

/-- The timer behind a tick: the next one is a period after the deadline of the last, or after the
clock if the last one was late. -/
def next (t : Ticker) (now : Nat) : Ticker :=
  match t.phase with
  | .waiting deadline =>
    { t with phase := .waiting ((if leeway < now - deadline then now else deadline) + t.period) }
  | _ => t

def finish (t : Ticker) : Ticker := { t with phase := .over }

/-- How far behind the clock a timer is. -/
def lag (t : Ticker) (now : Nat) : Nat :=
  match t.phase with
  | .waiting deadline => now + 1 - deadline
  | _ => 0

theorem isDue_iff {t : Ticker} {now : Nat} :
    t.isDue now = true ↔ ∃ deadline, t.phase = .waiting deadline ∧
      (deadline + (resolution - 1)) / resolution ≤ now / resolution := by
  unfold isDue
  cases t.phase <;> simp

theorem lag_finish_lt {t : Ticker} {now : Nat} (due : t.isDue now = true) :
    t.finish.lag now < t.lag now := by
  obtain ⟨deadline, waits, reached⟩ := isDue_iff.mp due
  simp only [resolution] at reached
  simp only [finish, lag, waits]
  omega

theorem lag_next_lt {t : Ticker} {now : Nat} (due : t.isDue now = true) :
    (t.next now).lag now < t.lag now := by
  obtain ⟨deadline, waits, reached⟩ := isDue_iff.mp due
  have positive := t.period_pos
  simp only [resolution] at reached
  simp only [next, lag, waits]
  split <;> omega

end Ticker

/-- A timer, the queue of signals, and what is known of the end. -/
structure Refresher where
  ticker : Ticker
  /-- Signals emitted and not yet taken, oldest first. -/
  queue : List RefreshSignal
  /-- How many handles there are. -/
  handles : Nat
  /-- The flag that tells the end. -/
  isStopped : Bool
  /-- How often the end was announced. -/
  announced : Nat
  /-- How many of these announcements the receiver has heard. -/
  heard : Nat
  /-- Whether a receive is pending. -/
  isAwaited : Bool
  /-- Whether there is a receiver. -/
  hasReceiver : Bool
  deriving DecidableEq

namespace Refresher

/-- The period unless another one is asked for. -/
def defaultPeriod : Duration := Duration.ofSeconds 2

/-- A refresher that has just been set up, with one handle on it. -/
def launch (period : Duration) : Refresher :=
  { ticker := .ofPeriod period, queue := [], handles := 1, isStopped := false, announced := 0,
    heard := 0, isAwaited := false, hasReceiver := true }

def emit (r : Refresher) (signal : RefreshSignal) : Refresher :=
  if r.hasReceiver then { r with queue := r.queue ++ [signal] } else r

/-- Whether one who has heard so many announcements hears of the end: there are more of them, or
nobody is left to make any. -/
def tellsEnd (r : Refresher) (heard : Nat) : Bool := r.announced ≠ heard || r.handles = 0

/-! ## The timer -/

/-- The timer looks at the clock for the first time. -/
def begin (r : Refresher) (now : Nat) : Refresher := { r with ticker := r.ticker.begin now }

/-- The timer, which has heard no announcement before, ends if it hears of the end. -/
def heed (r : Refresher) : Refresher :=
  if r.tellsEnd 0 then { r with ticker := r.ticker.finish } else r

/-- The timer goes off if it finds its deadline reached. It looks at the flag first, and ends
instead if that is set or if there is no receiver. -/
def ring (r : Refresher) (now : Nat) : Refresher :=
  if r.ticker.isDue now then
    if r.isStopped || !r.hasReceiver then { r with ticker := r.ticker.finish }
    else { r with ticker := r.ticker.next now : Refresher }.emit .tick
  else r

theorem lag_ring_lt {r : Refresher} {now : Nat} (due : r.ticker.isDue now = true) :
    (r.ring now).ticker.lag now < r.ticker.lag now := by
  simp only [ring, due, if_true]
  split
  · exact Ticker.lag_finish_lt due
  · unfold emit
    split <;> exact Ticker.lag_next_lt due

/-- The timer goes off as often as it finds its deadline reached. -/
def ringAll (r : Refresher) (now : Nat) : Refresher :=
  if _ : r.ticker.isDue now = true then (r.ring now).ringAll now else r
termination_by r.ticker.lag now
decreasing_by exact lag_ring_lt ‹_›

/-- The timer looks at the clock, and does whatever it can do before the clock moves. -/
def wake (r : Refresher) (now : Nat) : Refresher := (r.begin now).heed.ringAll now

/-- A refresher whose timer looks at the clock as soon as it is set up. -/
def start (period : Duration) (now : Nat) : Refresher := (launch period).wake now

/-! ## The handles -/

/-- Asks for a refresh by hand. The timer is not moved by it. -/
def trigger (r : Refresher) : Refresher := if r.isStopped then r else r.emit .manual

/-- Ends everything for good, however often it is asked to. -/
def stop (r : Refresher) : Refresher := { r with isStopped := true, announced := r.announced + 1 }

def clone (r : Refresher) : Refresher := { r with handles := r.handles + 1 }

/-- One handle less; with the last one the refresher stops. -/
def drop (r : Refresher) : Refresher :=
  let rest := { r with handles := r.handles - 1 }
  if rest.handles = 0 then rest.stop else rest

/-! ## The receiver -/

/-- Takes the oldest signal, if there is one. There is none once stopped. -/
def take (r : Refresher) : Refresher × Option RefreshSignal :=
  if r.isStopped then (r, none)
  else match r.queue with
    | [] => (r, none)
    | signal :: rest => ({ r with queue := rest }, some signal)

/-- What waiting for a signal gives. -/
inductive Awaited where
  /-- The oldest signal. -/
  | signal (signal : RefreshSignal)
  /-- There will be no more signals. -/
  | ended
  /-- There is no signal yet. -/
  | pending
  deriving Repr, DecidableEq, Inhabited

/-- A receive looks for the end, and only then into the queue. The queue cannot be closed here: its
last sender goes with the last handle, which is an end. -/
def listen (r : Refresher) : Refresher × Awaited :=
  if r.tellsEnd r.heard then ({ r with heard := r.announced, isAwaited := false }, .ended)
  else match r.queue with
    | [] => ({ r with isAwaited := true }, .pending)
    | signal :: rest =>
      ({ r with queue := rest, isAwaited := false },
        if r.isStopped then .ended else .signal signal)

/-- Waits for a signal. A receive that is begun looks at the flag first; one that is pending goes on
listening. -/
def await (r : Refresher) : Refresher × Awaited :=
  if !r.isAwaited && r.isStopped then (r, .ended) else r.listen

def giveUp (r : Refresher) : Refresher := { r with isAwaited := false }

/-- The receiver goes away, and what it did not take with it. -/
def dropReceiver (r : Refresher) : Refresher :=
  { r with queue := [], isAwaited := false, hasReceiver := false }

end Refresher

end FleetWatch
