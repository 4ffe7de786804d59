import FleetWatch.Proofs.Cluster.Sorting
import FleetWatch.Proofs.Console.Finding
import FleetWatch.Proofs.Console.Lasting
import FleetWatch.Proofs.Console.Selection
import Mathlib.Data.List.Basic

/-! # Typing narrows the list

The lower case of a filter without a capital sigma goes on where it ended when another character is
typed behind it, even where that character becomes two. So whatever the longer filter finds was
found before, in the order in which it stood. Deleting the character leads back to the filter and
with it to the list, while the mode may be left.
-/

namespace FleetWatch

namespace Text

theorem lower_prefix_lower_append {text : List Char} (none : 'Σ' ∉ text) (more : List Char) :
    lower text <+: lower (text ++ more) := by
  have alone : lowerBetween [] text more = lower text :=
    lowerBetween_eq_lower_iff.mpr (keepsSigmas_of_not_mem none [] more)
  rw [lower, lower, lowerBehind_append, alone]
  exact List.prefix_append _ _

end Text

namespace Console

open Text

/-- A cluster is found by a part of its name or of its host in lower case. -/
def Finds (filter : List Char) (x : Cluster) : Prop :=
  lower filter <:+: lower x.name.toList ∨ lower filter <:+: lower x.host.toList

instance (filter : List Char) : DecidablePred (Finds filter) := fun x =>
  decidable_of_iff
    ((holds (lower filter) (lower x.name.toList) || holds (lower filter) (lower x.host.toList)) =
      true)
    (by simp [Finds, holds_iff])

theorem finds_nil (x : Cluster) : Finds [] x := .inl List.nil_infix

theorem matchesFilter_iff {filter : List Char} {x : Cluster} :
    matchesFilter filter x = true ↔ Finds filter x := by
  cases filter with
  | nil => simp [matchesFilter, finds_nil]
  | cons c filter => simp [matchesFilter, Finds, holds_iff]

theorem Finds.of_append {filter more : List Char} {x : Cluster} (none : 'Σ' ∉ filter)
    (found : Finds (filter ++ more) x) : Finds filter x := by
  have shorter : lower filter <:+: lower (filter ++ more) :=
    (lower_prefix_lower_append none more).isInfix
  cases found with
  | inl name => exact .inl (shorter.trans name)
  | inr host => exact .inr (shorter.trans host)

/-- What is on view: of all clusters in their order those that the filter finds. -/
structure ShowsFound (c : Console) : Prop where
  ordered : Cluster.Ordered c.dashboard.clusters
  visible : c.visible = c.dashboard.clusters.filter (Finds c.filter ·)
  whole : c.filter = [] → c.visible = c.dashboard.clusters

theorem visible_eq (c : Console) :
    c.visible = c.dashboard.clusters.filter (Finds c.filter ·) := by
  apply List.filter_congr
  intro x _
  rw [Bool.eq_iff_iff, matchesFilter_iff, decide_eq_true_iff]

theorem visible_of_nil {c : Console} (empty : c.filter = []) :
    c.visible = c.dashboard.clusters := by
  rw [visible_eq, empty, List.filter_eq_self]
  intro x _
  exact decide_eq_true (finds_nil x)

theorem ordered_kept : Kept fun c => Cluster.Ordered c.dashboard.clusters where
  start source := .nil
  quiet before change := by
    rw [change.dashboard]
    exact before
  give before := before
  take {c} before event now := by
    rw [take_dashboard]
    cases event with
    | stats result => cases result <;> exact before
    | clusters result =>
        cases result with
        | error fault => exact before
        | ok fleet => exact Cluster.sort_ordered fleet
    | settled command result => exact before

theorem reachable_showsFound {c : Console} (h : Reachable c) : ShowsFound c where
  ordered := ordered_kept.reachable h
  visible := visible_eq c
  whole := visible_of_nil

section Keys

variable {c : Console} {press : KeyPress} (closed : c.showsHelp = false) (mode : c.mode = .filter)
include closed mode

theorem strike_typed {t : Char} (key : press.key = .character t)
    (control : press.control = false) (saving : Except String Unit) (now : Moment) :
    c.strike press saving now = ⟨c.pushFilter t, none, none⟩ := by
  apply strike_of_press
  rw [press_filter closed mode]
  simp [pressInFilter, key, control]

theorem strike_deleting (key : press.key = .backspace) (saving : Except String Unit)
    (now : Moment) :
    (c.strike press saving now).console.filter = c.filter.dropLast ∧
      (c.strike press saving now).console.dashboard = c.dashboard ∧
      (c.strike press saving now).console.mode =
        if c.filter.dropLast = [] then .normal else .filter := by
  have pressed : c.strike press saving now = ⟨c.pressInFilter press, none, none⟩ :=
    strike_of_press (press_filter closed mode) saving
  rw [pressed]
  unfold pressInFilter
  rw [key]
  by_cases last : c.filter.dropLast = []
  · simp [popFilter, clamp, last]
  · simp [popFilter, clamp, last, mode]

end Keys

/-- In the filter a character without control narrows the list, and deleting it brings back what was
typed and what was on view. What is on view is found by the filter at every point. -/
theorem reachable_typing_narrows {c : Console} (h : Reachable c) :
    ShowsFound c ∧
      (c.showsHelp = false → c.mode = .filter → 'Σ' ∉ c.filter →
        ∀ (t : Char) (typing deleting : KeyPress) (saving saving' : Except String Unit)
          (now now' : Moment),
          typing.key = .character t → typing.control = false → deleting.key = .backspace →
          let typed := (c.strike typing saving now).console
          let undone := (typed.strike deleting saving' now').console
          typed.filter = c.filter ++ [t] ∧ typed.visible.Sublist c.visible ∧ ShowsFound typed ∧
            undone.filter = c.filter ∧ undone.visible = c.visible ∧ ShowsFound undone ∧
            undone.mode = if c.filter = [] then .normal else .filter) := by
  refine ⟨reachable_showsFound h, ?_⟩
  intro closed mode none t typing deleting saving saving' now now' key control back typed undone
  have pushed : typed = c.pushFilter t :=
    congrArg Reaction.console (strike_typed closed mode key control saving now)
  have grown : typed.filter = c.filter ++ [t] := by rw [pushed]; rfl
  have same : typed.dashboard = c.dashboard := by rw [pushed]; rfl
  have inFilter : typed.mode = .filter := by rw [pushed]; exact mode
  have noHelp : typed.showsHelp = false := by rw [pushed]; exact closed
  obtain ⟨filter, dashboard, left⟩ := strike_deleting noHelp inFilter back saving' now'
  rw [grown, List.dropLast_concat] at filter left
  rw [same] at dashboard
  have reached : Reachable typed := h.step (.key c typing saving now)
  have back : Reachable undone := reached.step (.key typed deleting saving' now')
  refine ⟨grown, ?_, reachable_showsFound reached, filter, ?_, reachable_showsFound back, left⟩
  · rw [visible_eq, visible_eq, same, grown]
    apply List.monotone_filter_right
    intro x found
    rw [decide_eq_true_eq] at found ⊢
    exact found.of_append none
  · exact visible_congr dashboard filter

/-- A dotted capital I behind the filter becomes two characters there, and the cluster is no longer
found; deleting it brings the cluster back, while the filter is still typed into. -/
theorem astro_narrowed :
    let c := searched astro ['Τ']
    let typed := (c.strike { key := .character 'İ' } (.ok ()) default).console
    let undone := (typed.strike { key := .backspace } (.ok ()) default).console
    Reachable c ∧ c.showsHelp = false ∧ c.mode = .filter ∧ 'Σ' ∉ c.filter ∧ astro ∈ c.visible ∧
      astro ∉ typed.visible ∧ typed.visible.Sublist c.visible ∧ undone.visible = c.visible ∧
      undone.mode = .filter := by
  intro c typed undone
  have reached : Reachable c := reachable_searched astro ['Τ']
  have written : c.filter = ['Τ'] := filter_searched astro ['Τ']
  have none : 'Σ' ∉ c.filter := by rw [written]; decide
  obtain ⟨shown, keys⟩ := reachable_typing_narrows reached
  obtain ⟨grown, narrowed, found, -, back, -, left⟩ := keys rfl rfl none 'İ'
    { key := .character 'İ' } { key := .backspace } (.ok ()) (.ok ()) default default rfl rfl rfl
  refine ⟨reached, rfl, rfl, none, ?_, ?_, narrowed, back, ?_⟩
  · rw [shown.visible, List.mem_filter, written]
    exact ⟨held_searched astro ['Τ'], by decide +kernel⟩
  · intro still
    rw [found.visible, List.mem_filter, grown, written] at still
    exact absurd still.2 (by decide +kernel)
  · refine left.trans (if_neg ?_)
    rw [written]
    exact List.cons_ne_nil _ _

end Console

end FleetWatch
