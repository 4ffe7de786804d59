import FleetWatch.Proofs.Cluster.Sorting

/-! # Where the given order shows

Nothing parts clusters whose names tie, so they stay in the order in which they were given. This is
the only way in which that order shows: a list is sorted into one and the same form from any order
exactly if no two of its clusters tie. Names that differ do tie where no level tells them apart, as
by a control character.
-/

namespace FleetWatch.Cluster

open Collation

theorem sort_eq_of_perm {clusters other : List Cluster} (perm : other.Perm clusters)
    (apart : ∀ a ∈ clusters, ∀ b ∈ clusters, compareNames a.name b.name = .eq → a = b) :
    sort other = sort clusters := by
  have sorted : (sort other).Perm (sort clusters) :=
    (sort_perm other).trans (perm.trans (sort_perm clusters).symm)
  refine sorted.eq_of_pairwise ?_ (sort_ordered other) (sort_ordered clusters)
  intro a b listedA listedB first second
  have givenA : a ∈ clusters := perm.mem_iff.mp ((sort_perm other).mem_iff.mp listedA)
  have givenB : b ∈ clusters := (sort_perm clusters).mem_iff.mp listedB
  exact apart a givenA b givenB (Collation.le_antisymm first second)

theorem sort_ne_of_tie {a b : Cluster} (tie : compareNames a.name b.name = .eq) (differ : a ≠ b)
    (rest : List Cluster) : sort (a :: b :: rest) ≠ sort (b :: a :: rest) := by
  intro same
  have tied : ties b.name a = true := ties_iff.mpr tie
  have shown : (a :: b :: rest).filter (ties b.name) = (b :: a :: rest).filter (ties b.name) := by
    rw [← sort_stable, same, sort_stable]
  simp only [List.filter_cons_of_pos tied, List.filter_cons_of_pos (ties_self b)] at shown
  exact differ (List.cons.inj shown).1

theorem exists_perm_front {a b : Cluster} {clusters : List Cluster} (listedA : a ∈ clusters)
    (listedB : b ∈ clusters) (differ : a ≠ b) : ∃ rest, (a :: b :: rest).Perm clusters := by
  have left : b ∈ clusters.erase a := (List.mem_erase_of_ne differ.symm).mpr listedB
  exact ⟨(clusters.erase a).erase b,
    ((List.perm_cons_erase left).symm.cons a).trans (List.perm_cons_erase listedA).symm⟩

/-- The order in which clusters are given does not show exactly if no two different ones tie. -/
theorem sort_same_from_any_order_iff (clusters : List Cluster) :
    (∀ other, other.Perm clusters → sort other = sort clusters) ↔
      ∀ a ∈ clusters, ∀ b ∈ clusters, compareNames a.name b.name = .eq → a = b := by
  constructor
  · intro same a listedA b listedB tie
    refine Decidable.byContradiction fun differ => ?_
    obtain ⟨rest, front⟩ := exists_perm_front listedA listedB differ
    have swapped : (b :: a :: rest).Perm clusters := (List.Perm.swap a b rest).trans front
    exact sort_ne_of_tie tie differ rest ((same _ front).trans (same _ swapped).symm)
  · intro apart other perm
    exact sort_eq_of_perm perm apart

/-- A cluster with a name, and another one whose name has a control character behind it. -/
theorem sort_swapped_control_names :
    let plain : Cluster := { (default : Cluster) with name := "etl" }
    let marked : Cluster := { (default : Cluster) with name := "etl\x01" }
    plain.name ≠ marked.name ∧ [marked, plain].Perm [plain, marked] ∧
      sort [marked, plain] ≠ sort [plain, marked] := by
  intro plain marked
  have differ : marked.name ≠ plain.name := by decide
  have tie : compareNames marked.name plain.name = .eq :=
    compareNames_insert_silent (a := "etl".toList) (b := []) (c := '\x01') (by simp) (by decide)
  exact ⟨differ.symm, .swap .., sort_ne_of_tie tie (fun same => differ (congrArg name same)) []⟩

end FleetWatch.Cluster
