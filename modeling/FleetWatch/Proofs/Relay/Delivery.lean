import FleetWatch.Proofs.Run
import FleetWatch.Relay

/-! # What a relay hands on

The two sides of a relay do what they like in any order, and either of them may go away at any time
and then does nothing more. Of each queue it is told apart what was put into it and what was taken
out. As long as the side that takes is there, what was taken and what is waiting are together what
was put in, whether or not the side that puts in is still there; once it has gone, nothing is taken
and nothing counts as put in.
-/

namespace FleetWatch.Relay

/-- One thing that happens to a relay, as it is seen from outside. -/
inductive Deed where
  /-- The feed pushes an event and is told whether it was accepted. -/
  | send (event : FeedEvent) (accepted : Bool)
  | poll (got : Option FeedEvent)
  | ask (request : SourceRequest)
  | nextRequest (got : Option SourceRequest)
  | awaitRequest (got : Awaited)
  | dropFeed
  | dropSource

namespace Deed

def accepted? : Deed → Option FeedEvent
  | send event true => some event
  | _ => none

def polled? : Deed → Option FeedEvent
  | poll got => got
  | _ => none

def asked? : Deed → Option SourceRequest
  | ask request => some request
  | _ => none

/-- The request that the feed gets, in either way. -/
def taken? : Deed → Option SourceRequest
  | nextRequest got => got
  | awaitRequest (.request request) => some request
  | _ => none

end Deed

/-- The events that were accepted, oldest first. -/
def accepted (deeds : List Deed) : List FeedEvent := deeds.filterMap Deed.accepted?

def polled (deeds : List Deed) : List FeedEvent := deeds.filterMap Deed.polled?

def taken (deeds : List Deed) : List SourceRequest := deeds.filterMap Deed.taken?

/-- The requests that were made before the feed went away. -/
def heard : List Deed → List SourceRequest
  | [] => []
  | .dropFeed :: _ => []
  | deed :: deeds => deed.asked?.toList ++ heard deeds

/-- What may happen next. Only a side that is there does anything. -/
inductive Step : Relay → Deed → Relay → Prop where
  | send (r : Relay) (event : FeedEvent) (present : r.hasFeed = true) :
      Step r (.send event (r.send event).2) (r.send event).1
  | poll (r : Relay) (present : r.hasSource = true) : Step r (.poll r.poll.2) r.poll.1
  | ask (r : Relay) (request : SourceRequest) (present : r.hasSource = true) :
      Step r (.ask request) (r.ask request)
  | nextRequest (r : Relay) (present : r.hasFeed = true) :
      Step r (.nextRequest r.nextRequest.2) r.nextRequest.1
  | awaitRequest (r : Relay) (present : r.hasFeed = true) :
      Step r (.awaitRequest r.awaitRequest.2) r.awaitRequest.1
  | dropFeed (r : Relay) (present : r.hasFeed = true) : Step r .dropFeed r.dropFeed
  | dropSource (r : Relay) (present : r.hasSource = true) : Step r .dropSource r.dropSource

abbrev Run : Relay → List Deed → Relay → Prop := FleetWatch.Run Step

/-! ## Queues seen from both ends -/

/-- What was taken is the beginning of what was put in, and while there is someone to take more of
it, the rest is waiting. -/
structure Conveys {α : Type} (isOpen : Bool) (put taken waiting : List α) : Prop where
  front : taken <+: put
  rest : isOpen = true → taken ++ waiting = put

namespace Conveys

variable {α : Type} {isOpen : Bool} {put taken waiting : List α}

theorem ofWhole (whole : taken ++ waiting = put) : Conveys isOpen put taken waiting :=
  ⟨⟨waiting, whole⟩, fun _ => whole⟩

theorem snoc (h : Conveys true put taken waiting) (x : α) :
    Conveys true (put ++ [x]) taken (waiting ++ [x]) := by
  apply ofWhole
  rw [← List.append_assoc, h.rest rfl]

theorem pop (h : Conveys true put taken waiting) :
    Conveys true put (taken ++ waiting.head?.toList) waiting.tail := by
  have whole := h.rest rfl
  apply ofWhole
  cases waiting with
  | nil => simpa using whole
  | cons x waiting => simpa using whole

theorem close (h : Conveys isOpen put taken waiting) (left : List α) :
    Conveys false put taken left :=
  ⟨h.front, nofun⟩

theorem next (h : Conveys true put taken waiting) : waiting.head? = put[taken.length]? := by
  rw [← h.rest rfl, List.getElem?_append_right (Nat.le_refl _), Nat.sub_self,
    List.head?_eq_getElem?]

theorem all_taken_iff (h : Conveys true put taken waiting) : waiting = [] ↔ taken = put := by
  have whole := h.rest rfl
  constructor
  · rintro rfl
    rwa [List.append_nil] at whole
  · intro all
    rwa [all, List.append_right_eq_self] at whole

end Conveys

/-! ## Steps -/

section Steps

variable (r : Relay)

theorem poll_eq : r.poll = ({ r with events := r.events.tail }, r.events.head?) := by
  cases r with
  | mk description events => cases events <;> rfl

theorem nextRequest_eq :
    r.nextRequest = ({ r with requests := r.requests.tail }, r.requests.head?) := by
  cases r with
  | mk description events requests => cases requests <;> rfl

theorem awaitRequest_eq :
    r.awaitRequest = ({ r with requests := r.requests.tail },
      r.requests.head?.elim (if r.hasSource then .pending else .ended) .request) := by
  rw [awaitRequest, nextRequest_eq]
  cases r.requests <;> rfl

end Steps

variable {r r' : Relay} {deed : Deed} {deeds : List Deed}

theorem heard_snoc {isThere : Bool} (present : isThere = true ↔ Deed.dropFeed ∉ deeds)
    (deed : Deed) :
    heard (deeds ++ [deed]) = heard deeds ++ if isThere then deed.asked?.toList else [] := by
  induction deeds with
  | nil =>
      rw [present.mpr List.not_mem_nil]
      cases deed <;> rfl
  | cons first deeds ih =>
      cases first with
      | dropFeed =>
          have gone : isThere = false := by simpa using present
          rw [gone]
          rfl
      | _ =>
          simp only [List.cons_append, heard, List.append_assoc]
          rw [ih (by simpa using present)]

theorem Step.present (step : Step r deed r') :
    (r'.hasFeed = true ↔ r.hasFeed = true ∧ deed ≠ .dropFeed) ∧
      (r'.hasSource = true ↔ r.hasSource = true ∧ deed ≠ .dropSource) := by
  cases step with
  | send event =>
      unfold Relay.send
      split <;> simp
  | poll => simp [poll_eq]
  | ask request =>
      unfold Relay.ask
      split <;> simp
  | nextRequest => simp [nextRequest_eq]
  | awaitRequest => simp [awaitRequest_eq]
  | dropFeed => simp [Relay.dropFeed]
  | dropSource => simp [Relay.dropSource]

theorem Step.events (step : Step r deed r')
    (h : Conveys r.hasSource (accepted deeds) (polled deeds) r.events) :
    Conveys r'.hasSource (accepted (deeds ++ [deed])) (polled (deeds ++ [deed])) r'.events := by
  unfold accepted polled at h ⊢
  rw [filterMap_snoc, filterMap_snoc]
  cases step with
  | send event =>
      cases source : r.hasSource with
      | false => simpa [Relay.send, source, Deed.accepted?, Deed.polled?] using h
      | true =>
          rw [source] at h
          simpa [Relay.send, source, Deed.accepted?, Deed.polled?] using h.snoc event
  | poll present =>
      rw [present] at h
      simpa [poll_eq, present, Deed.accepted?, Deed.polled?] using h.pop
  | ask request =>
      have same : (r.ask request).hasSource = r.hasSource ∧ (r.ask request).events = r.events := by
        unfold Relay.ask
        split <;> exact ⟨rfl, rfl⟩
      simpa [same, Deed.accepted?, Deed.polled?] using h
  | nextRequest => simpa [nextRequest_eq, Deed.accepted?, Deed.polled?] using h
  | awaitRequest => simpa [awaitRequest_eq, Deed.accepted?, Deed.polled?] using h
  | dropFeed => simpa [Relay.dropFeed, Deed.accepted?, Deed.polled?] using h
  | dropSource => simpa [Relay.dropSource, Deed.accepted?, Deed.polled?] using h.close []

theorem Step.requests (step : Step r deed r')
    (present : r.hasFeed = true ↔ Deed.dropFeed ∉ deeds)
    (h : Conveys r.hasFeed (heard deeds) (taken deeds) r.requests) :
    Conveys r'.hasFeed (heard (deeds ++ [deed])) (taken (deeds ++ [deed])) r'.requests := by
  unfold taken at h ⊢
  rw [filterMap_snoc, heard_snoc present]
  cases step with
  | send event =>
      have same : (r.send event).1.hasFeed = r.hasFeed ∧
          (r.send event).1.requests = r.requests := by
        unfold Relay.send
        split <;> exact ⟨rfl, rfl⟩
      simpa [same, Deed.asked?, Deed.taken?] using h
  | poll => simpa [poll_eq, Deed.asked?, Deed.taken?] using h
  | ask request =>
      cases feed : r.hasFeed with
      | false => simpa [Relay.ask, feed, Deed.asked?, Deed.taken?] using h
      | true =>
          rw [feed] at h
          simpa [Relay.ask, feed, Deed.asked?, Deed.taken?] using h.snoc request
  | nextRequest held =>
      rw [held] at h
      simpa [nextRequest_eq, held, Deed.asked?, Deed.taken?] using h.pop
  | awaitRequest held =>
      rw [held] at h
      have got : (Deed.awaitRequest r.awaitRequest.2).taken? = r.requests.head? := by
        rw [awaitRequest_eq]
        cases r.requests <;> cases r.hasSource <;> rfl
      rw [got]
      simpa [awaitRequest_eq, held, Deed.asked?] using h.pop
  | dropFeed => simpa [Relay.dropFeed, Deed.asked?, Deed.taken?] using h.close []
  | dropSource => simpa [Relay.dropSource, Deed.asked?, Deed.taken?] using h

/-! ## Runs -/

theorem Run.present {name : String} (run : Run (connect name) deeds r) :
    (r.hasFeed = true ↔ Deed.dropFeed ∉ deeds) ∧
      (r.hasSource = true ↔ Deed.dropSource ∉ deeds) := by
  induction run with
  | refl => simp [connect]
  | @step deeds deed s s' run step ih =>
      obtain ⟨feed, source⟩ := step.present
      rw [feed, source, ih.1, ih.2]
      simp [eq_comm]

theorem Run.events {name : String} (run : Run (connect name) deeds r) :
    Conveys r.hasSource (accepted deeds) (polled deeds) r.events := by
  induction run with
  | refl => exact .ofWhole rfl
  | step _ step ih => exact step.events ih

theorem Run.requests {name : String} (run : Run (connect name) deeds r) :
    Conveys r.hasFeed (heard deeds) (taken deeds) r.requests := by
  induction run with
  | refl => exact .ofWhole rfl
  | step run step ih => exact step.requests (Run.present run).1 ih

/-- Whoever takes from a queue comes away with all of it by going on taking. -/
theorem exists_taking_run {α : Type} {waiting : Relay → List α} {deed : Option α → Deed}
    {seen? : Deed → Option α} {isThere : Relay → Bool}
    (seen : ∀ got, seen? (deed got) = got)
    (takes : ∀ r, isThere r = true → ∃ r', Step r (deed (waiting r).head?) r' ∧
      waiting r' = (waiting r).tail ∧ isThere r' = true)
    (present : isThere r = true) :
    ∃ deeds r', Run r deeds r' ∧ (∀ d ∈ deeds, ∃ got, d = deed got) ∧
      deeds.filterMap seen? = waiting r := by
  generalize queued : waiting r = queue
  induction queue generalizing r with
  | nil => exact ⟨[], r, .refl, nofun, rfl⟩
  | cons x queue ih =>
      obtain ⟨next, step, tail, still⟩ := takes r present
      rw [queued] at step tail
      obtain ⟨deeds, r', later, only, all⟩ := ih still tail
      refine ⟨_, r', (FleetWatch.Run.refl.step step).trans later, ?_, ?_⟩
      · intro d listed
        rcases List.mem_append.mp listed with listed | listed
        · exact ⟨_, List.mem_singleton.mp listed⟩
        · exact only d listed
      · rw [List.nil_append, List.singleton_append, List.filterMap_cons, seen, all]
        rfl

theorem exists_poll_run (present : r.hasSource = true) :
    ∃ deeds r', Run r deeds r' ∧ (∀ d ∈ deeds, ∃ got, d = .poll got) ∧ polled deeds = r.events := by
  refine exists_taking_run (fun _ => rfl) (fun r held => ?_) present
  have step := Step.poll r held
  rw [poll_eq] at step
  exact ⟨_, step, rfl, held⟩

theorem exists_request_run (present : r.hasFeed = true) :
    ∃ deeds r', Run r deeds r' ∧ (∀ d ∈ deeds, ∃ got, d = .nextRequest got) ∧
      taken deeds = r.requests := by
  refine exists_taking_run (fun _ => rfl) (fun r held => ?_) present
  have step := Step.nextRequest r held
  rw [nextRequest_eq] at step
  exact ⟨_, step, rfl, held⟩

/-- A poll gives the first of the accepted events that was not taken yet, and polls give them
all. -/
theorem Run.polls {name : String} (run : Run (connect name) deeds r)
    (present : r.hasSource = true) :
    r.poll.2 = (accepted deeds)[(polled deeds).length]? ∧
      (r.poll.2 = none ↔ polled deeds = accepted deeds) ∧
      ∃ later r', Run r later r' ∧ (∀ d ∈ later, ∃ got, d = .poll got) ∧
        polled (deeds ++ later) = accepted deeds := by
  have conveyed := Run.events run
  rw [present] at conveyed
  obtain ⟨later, r', polls, only, all⟩ := exists_poll_run present
  refine ⟨?_, ?_, later, r', polls, only, ?_⟩
  · rw [poll_eq]
    exact conveyed.next
  · rw [poll_eq, ← conveyed.all_taken_iff]
    exact List.head?_eq_none_iff
  · rw [polled, List.filterMap_append]
    exact (congrArg (polled deeds ++ ·) all).trans (conveyed.rest rfl)

/-- The feed gets the first request that was heard and not taken yet, in either way; waiting comes
to an end when there is none and there will be none. -/
theorem Run.takes {name : String} (run : Run (connect name) deeds r)
    (present : r.hasFeed = true) :
    r.nextRequest.2 = (heard deeds)[(taken deeds).length]? ∧
      (∀ request, r.awaitRequest.2 = .request request ↔ r.nextRequest.2 = some request) ∧
      (r.awaitRequest.2 = .ended ↔ r.hasSource = false ∧ taken deeds = heard deeds) ∧
      ∃ later r', Run r later r' ∧ (∀ d ∈ later, ∃ got, d = .nextRequest got) ∧
        taken (deeds ++ later) = heard deeds := by
  have conveyed := Run.requests run
  rw [present] at conveyed
  obtain ⟨later, r', takes, only, all⟩ := exists_request_run present
  refine ⟨?_, ?_, ?_, later, r', takes, only, ?_⟩
  · rw [nextRequest_eq]
    exact conveyed.next
  · intro request
    rw [nextRequest_eq, awaitRequest_eq]
    cases r.requests <;> cases r.hasSource <;> simp
  · rw [awaitRequest_eq, ← conveyed.all_taken_iff]
    cases r.requests <;> cases r.hasSource <;> simp
  · rw [taken, List.filterMap_append]
    exact (congrArg (taken deeds ++ ·) all).trans (conveyed.rest rfl)

/-- In any run, events come out as they went in and none is lost as long as the source is there, and
so do the requests that the feed was there to hear. What is queued when one side goes away is still
there for the other side: it gets the next of it and, going on, all of it. A source that gets
nothing has got everything, and a feed that waits is told of the end only when the source has gone
and every request was taken. -/
theorem run_conveys_both_ways {name : String} (run : Run (connect name) deeds r) :
    (∀ event, (r.send event).2 = true ↔ Deed.dropSource ∉ deeds) ∧
    polled deeds <+: accepted deeds ∧ taken deeds <+: heard deeds ∧
    (Deed.dropSource ∉ deeds →
      r.poll.2 = (accepted deeds)[(polled deeds).length]? ∧
        (r.poll.2 = none ↔ polled deeds = accepted deeds) ∧
        ∃ later r', Run r later r' ∧ (∀ d ∈ later, ∃ got, d = .poll got) ∧
          polled (deeds ++ later) = accepted deeds) ∧
    (Deed.dropFeed ∉ deeds →
      r.nextRequest.2 = (heard deeds)[(taken deeds).length]? ∧
        (∀ request, r.awaitRequest.2 = .request request ↔ r.nextRequest.2 = some request) ∧
        (r.awaitRequest.2 = .ended ↔ Deed.dropSource ∈ deeds ∧ taken deeds = heard deeds) ∧
        ∃ later r', Run r later r' ∧ (∀ d ∈ later, ∃ got, d = .nextRequest got) ∧
          taken (deeds ++ later) = heard deeds) := by
  obtain ⟨feed, source⟩ := Run.present run
  have gone : r.hasSource = false ↔ Deed.dropSource ∈ deeds := by
    rw [← Bool.not_eq_true, source, Classical.not_not]
  refine ⟨fun event => ?_, (Run.events run).front, (Run.requests run).front, fun still => ?_,
    fun still => ?_⟩
  · rw [← source]
    cases there : r.hasSource <;> simp [Relay.send, there]
  · exact Run.polls run (source.mpr still)
  · rw [← gone]
    exact Run.takes run (feed.mpr still)

/-- The feed sends two events and goes away; one event has been taken and the other comes still,
while a request that is made then is not heard. In another run the source goes away, and the feed
gets the requests that it made before it hears of the end. -/
theorem replay_conveyed :
    (∃ deeds r, Run (connect "replay") deeds r ∧ Deed.dropFeed ∈ deeds ∧
      polled deeds = [.stats (.ok default)] ∧
      accepted deeds = [.stats (.ok default), .clusters (.ok [])] ∧ heard deeds = [.refresh] ∧
      r.poll.2 = some (.clusters (.ok []))) ∧
    ∃ deeds r, Run (connect "replay") deeds r ∧ Deed.dropSource ∈ deeds ∧
      heard deeds = [.refresh, .dispatch .discover] ∧
      taken deeds = [.refresh, .dispatch .discover] ∧ r.awaitRequest.2 = .ended := by
  constructor
  · have sent : Run (connect "replay") _ _ :=
      (FleetWatch.Run.refl.step (.send _ (.stats (.ok default)) rfl)).step (.ask _ .refresh rfl)
    have more := sent.step (.send _ (.clusters (.ok [])) rfl)
    have left := ((more.step (.poll _ rfl)).step (.dropFeed _ rfl)).step (.ask _ .refresh rfl)
    obtain ⟨-, -, -, polls, -⟩ := run_conveys_both_ways left
    exact ⟨_, _, left, by simp, rfl, rfl, rfl, (polls (by simp)).1⟩
  · have asked : Run (connect "replay") _ _ :=
      (FleetWatch.Run.refl.step (.ask _ .refresh rfl)).step (.ask _ (.dispatch .discover) rfl)
    have ended := ((asked.step (.nextRequest _ rfl)).step (.dropSource _ rfl)).step
      (.awaitRequest _ rfl)
    obtain ⟨-, -, -, -, takes⟩ := run_conveys_both_ways ended
    exact ⟨_, _, ended, by simp, rfl, rfl, (takes (by simp)).2.2.1.mpr ⟨by simp, rfl⟩⟩

end FleetWatch.Relay
