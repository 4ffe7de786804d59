import FleetWatch.Proofs.Console.Runs
import FleetWatch.Proofs.Text.LowerCase

/-! # Finding clusters by a part

A filter is searched for without regard to case, and for that the filter, the name and the host are
put into lower case each by itself. Main statement: a cluster is found by any part of its name or
its host in which every capital sigma ends a word just if it does in the part alone, and so by any
part without one. By other parts it need not be found: a sigma at the end of the filter is another
letter in lower case than a sigma that the name goes on behind.
-/

namespace FleetWatch.Console

open Text

theorem mem_visible_iff {c : Console} {x : Cluster} :
    x ∈ c.visible ↔ x ∈ c.dashboard.clusters ∧
      (c.filter = [] ∨ lower c.filter <:+: lower x.name.toList ∨
        lower c.filter <:+: lower x.host.toList) := by
  simp only [visible, List.mem_filter, matchesFilter, Bool.or_eq_true, holds_iff,
    List.isEmpty_iff, or_assoc]

/-- A cluster is found by a part of its name or its host if the sigmas of the part end words just as
they do in their place, in any case if it has none. It is not found by a part whose lower case has a
character, such as the other sigma, that is in neither lower case. -/
theorem visible_by_part (c : Console) {x : Cluster} (held : x ∈ c.dashboard.clusters) :
    (∀ text ∈ [x.name, x.host], ∀ front back, text.toList = front ++ c.filter ++ back →
      KeepsSigmas front c.filter back → x ∈ c.visible) ∧
    (∀ text ∈ [x.name, x.host], c.filter <:+: text.toList → 'Σ' ∉ c.filter → x ∈ c.visible) ∧
    ∀ sigma ∈ lower c.filter, sigma ∉ lower x.name.toList → sigma ∉ lower x.host.toList →
      x ∉ c.visible := by
  have found : ∀ text ∈ [x.name, x.host], ∀ front back, text.toList = front ++ c.filter ++ back →
      KeepsSigmas front c.filter back → x ∈ c.visible := by
    intro text either front back placed keeps
    have part : lower c.filter <:+: lower text.toList := placed ▸ lower_infix_lower keeps
    simp only [List.mem_cons, List.not_mem_nil, or_false] at either
    rcases either with rfl | rfl
    · exact mem_visible_iff.mpr ⟨held, .inr (.inl part)⟩
    · exact mem_visible_iff.mpr ⟨held, .inr (.inr part)⟩
  refine ⟨found, ?_, ?_⟩
  · rintro text either ⟨front, back, placed⟩ none
    exact found text either front back placed.symm (keepsSigmas_of_not_mem none front back)
  · intro sigma written notName notHost shown
    rcases (mem_visible_iff.mp shown).2 with empty | part | part
    · rw [empty] at written
      contradiction
    · exact notName (part.subset written)
    · exact notHost (part.subset written)

/-! ## A filter that is typed -/

/-- A character key by itself. -/
def type (c : Console) (typed : Char) : Console :=
  (c.strike ⟨.character typed, false, false, false⟩ (.ok ()) default).console

/-- A console with one cluster, and a filter typed into it. -/
def searched (x : Cluster) (filter : List Char) : Console :=
  filter.foldl type (((start default).drain [(.clusters (.ok [x]), default)]).type '/')

theorem reachable_searched (x : Cluster) (filter : List Char) : Reachable (searched x filter) := by
  have typed : ∀ {c : Console}, Reachable c → Reachable (filter.foldl type c) := by
    induction filter with
    | nil => exact id
    | cons t filter ih => exact fun reached => ih (.step reached (.key _ _ _ _))
  exact typed (.step (.step (.start _) (.reload _ _)) (.key _ _ _ _))

theorem type_of_mode {c : Console} (mode : c.mode = .filter) (closed : c.showsHelp = false)
    (typed : Char) : c.type typed = c.pushFilter typed := by
  simp [type, strike, press, mode, closed, pressInFilter]

theorem foldl_type {c : Console} (mode : c.mode = .filter) (closed : c.showsHelp = false)
    (filter : List Char) :
    (filter.foldl type c).filter = c.filter ++ filter ∧
      (filter.foldl type c).dashboard = c.dashboard := by
  induction filter generalizing c with
  | nil => simp
  | cons t filter ih =>
      have more := ih (c := c.pushFilter t) mode closed
      rw [List.foldl_cons, type_of_mode mode closed, more.1, more.2]
      exact ⟨List.append_assoc .., rfl⟩

theorem filter_searched (x : Cluster) (filter : List Char) :
    (searched x filter).filter = filter := (foldl_type rfl rfl filter).1

theorem held_searched (x : Cluster) (filter : List Char) :
    x ∈ (searched x filter).dashboard.clusters := by
  have kept : (searched x filter).dashboard.clusters = Cluster.sort [x] :=
    congrArg Dashboard.clusters (foldl_type rfl rfl filter).2
  rw [kept, Cluster.sort, List.mergeSort_singleton]
  exact List.mem_singleton_self x

/-- A cluster with a sigma inside its name. -/
def astro : Cluster := { (default : Cluster) with name := "ΑΣΤΡΟ", host := "http://a:8080" }

/-- It is found by the sigma and the letter behind it. -/
theorem astro_found :
    astro ∈ (searched astro ['Σ', 'Τ']).dashboard.clusters ∧
      KeepsSigmas ['Α'] ['Σ', 'Τ'] ['Ρ', 'Ο'] ∧ astro ∈ (searched astro ['Σ', 'Τ']).visible := by
  have keeps : KeepsSigmas ['Α'] ['Σ', 'Τ'] ['Ρ', 'Ο'] :=
    lowerBetween_eq_lower_iff.mp (by decide +kernel)
  have held := held_searched astro ['Σ', 'Τ']
  have found := (visible_by_part _ held).1 astro.name List.mem_cons_self ['Α'] ['Ρ', 'Ο']
  rw [filter_searched] at found
  exact ⟨held, keeps, found rfl keeps⟩

/-- By the letter in front of the sigma and the sigma it is not found, though both are a part of its
name: behind the letter and before nothing the sigma ends a word. -/
theorem astro_lost :
    Reachable (searched astro ['Α', 'Σ']) ∧
      astro ∈ (searched astro ['Α', 'Σ']).dashboard.clusters ∧
      (searched astro ['Α', 'Σ']).filter <:+: astro.name.toList ∧
      astro ∉ (searched astro ['Α', 'Σ']).visible := by
  refine ⟨reachable_searched .., held_searched .., ?_, ?_⟩
  · rw [filter_searched]
    exact ⟨[], ['Τ', 'Ρ', 'Ο'], rfl⟩
  · intro shown
    have matched : matchesFilter (searched astro ['Α', 'Σ']).filter astro = true :=
      (List.mem_filter.mp shown).2
    rw [filter_searched] at matched
    exact absurd matched (by decide +kernel)

end FleetWatch.Console
