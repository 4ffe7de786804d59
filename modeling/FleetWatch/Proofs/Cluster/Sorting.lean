import FleetWatch.Dashboard
import FleetWatch.Proofs.Collation.Ascii

/-! # Clusters in the order of their names

The order of names is a preorder that lets different names tie, so a list of clusters can have
several sorted forms. Only one of them keeps the clusters of each tie in the order in which they
were given, and that is the one that clusters are shown in.
-/

namespace FleetWatch.Cluster

open Collation

/-- Whether the name of a cluster is equal in order to a given one. -/
def ties (name : String) (cluster : Cluster) : Bool := compareNames cluster.name name = .eq

theorem ties_iff {name : String} {cluster : Cluster} :
    ties name cluster = true ↔ compareNames cluster.name name = .eq := decide_eq_true_iff

theorem ties_self (cluster : Cluster) : ties cluster.name cluster = true :=
  ties_iff.mpr (compareNames_self _)

/-- No name of a list comes behind one that it is to come before. -/
def Ordered (clusters : List Cluster) : Prop :=
  clusters.Pairwise fun a b => le a.name b.name = true

/-- A list is the stable sort of another one. -/
structure SortedFrom (clusters sorted : List Cluster) : Prop where
  /-- Each cluster is there, with all its fields, as often as it was given. -/
  perm : sorted.Perm clusters
  ordered : Ordered sorted
  /-- Clusters whose names tie are in the order in which they were given. -/
  stable : ∀ name, sorted.filter (ties name) = clusters.filter (ties name)

/-! ## What sorting gives -/

theorem name_le_trans (a b c : Cluster) (first : le a.name b.name = true)
    (second : le b.name c.name = true) : le a.name c.name = true :=
  Collation.le_trans first second

theorem name_le_total (a b : Cluster) : (le a.name b.name || le b.name a.name) = true :=
  Collation.le_total a.name b.name

theorem sort_perm (clusters : List Cluster) : (sort clusters).Perm clusters :=
  List.mergeSort_perm ..

theorem sort_ordered (clusters : List Cluster) : Ordered (sort clusters) :=
  List.pairwise_mergeSort name_le_trans name_le_total clusters

/-- Any two clusters of a tie come no later than each other, whichever is in front. -/
theorem filter_ties_ordered (clusters : List Cluster) (name : String) :
    Ordered (clusters.filter (ties name)) := by
  refine List.pairwise_of_forall_mem_list fun a ha b hb => ?_
  have first : compareNames a.name name = .eq := ties_iff.mp (List.mem_filter.mp ha).2
  have second : compareNames b.name name = .eq := ties_iff.mp (List.mem_filter.mp hb).2
  refine Collation.le_trans (le_of_compareNames first) (le_of_compareNames ?_)
  rw [compareNames_swap, second]
  rfl

/-- A tie is in order already, so sorting keeps it as a part, and it is all of its tie there. -/
theorem sort_stable (clusters : List Cluster) (name : String) :
    (sort clusters).filter (ties name) = clusters.filter (ties name) := by
  have kept : (clusters.filter (ties name)).Sublist (sort clusters) :=
    List.sublist_mergeSort name_le_trans name_le_total (filter_ties_ordered clusters name)
      List.filter_sublist
  have among := kept.filter (ties name)
  rw [List.filter_filter] at among
  simp only [Bool.and_self] at among
  exact (among.eq_of_length ((sort_perm clusters).filter _).length_eq.symm).symm

theorem sort_sortedFrom (clusters : List Cluster) : SortedFrom clusters (sort clusters) :=
  ⟨sort_perm clusters, sort_ordered clusters, sort_stable clusters⟩

theorem sort_eq_self {clusters : List Cluster} (ordered : Ordered clusters) :
    sort clusters = clusters :=
  List.mergeSort_of_pairwise ordered

/-! ## There is one stable sort -/

theorem Ordered.head_le {x y : Cluster} {clusters : List Cluster}
    (ordered : Ordered (x :: clusters)) (listed : y ∈ x :: clusters) : le x.name y.name = true := by
  rcases List.mem_cons.mp listed with rfl | listed
  · exact le_of_compareNames (compareNames_self _)
  · exact (List.pairwise_cons.mp ordered).1 y listed

theorem mem_of_ties {x : Cluster} {a b : List Cluster}
    (same : ∀ name, a.filter (ties name) = b.filter (ties name)) (listed : x ∈ a) : x ∈ b := by
  have tied : x ∈ a.filter (ties x.name) := List.mem_filter.mpr ⟨listed, ties_self x⟩
  rw [same] at tied
  exact (List.mem_filter.mp tied).1

/-- Lists in order that agree in every tie are the same: their first clusters come no later than
each other, so both are the first one of a tie. -/
theorem Ordered.eq_of_ties {a b : List Cluster} (orderedA : Ordered a) (orderedB : Ordered b)
    (same : ∀ name, a.filter (ties name) = b.filter (ties name)) : a = b := by
  induction a generalizing b with
  | nil =>
      cases b with
      | nil => rfl
      | cons y b => simpa [ties_self] using same y.name
  | cons x a ih =>
      cases b with
      | nil => simpa [ties_self] using same x.name
      | cons y b =>
          have yListed : y ∈ x :: a := mem_of_ties (fun name => (same name).symm) List.mem_cons_self
          have xListed : x ∈ y :: b := mem_of_ties same List.mem_cons_self
          have tie : ties x.name y = true := ties_iff.mpr
            (Collation.le_antisymm (orderedB.head_le xListed) (orderedA.head_le yListed))
          have heads := same x.name
          rw [List.filter_cons_of_pos (ties_self x), List.filter_cons_of_pos tie] at heads
          obtain rfl := (List.cons.inj heads).1
          refine congrArg (x :: ·) (ih orderedA.of_cons orderedB.of_cons fun name => ?_)
          have rest := same name
          by_cases tied : ties name x = true
          · rw [List.filter_cons_of_pos tied, List.filter_cons_of_pos tied] at rest
            exact (List.cons.inj rest).2
          · rwa [List.filter_cons_of_neg tied, List.filter_cons_of_neg tied] at rest

theorem SortedFrom.iff_eq_sort {clusters sorted : List Cluster} :
    SortedFrom clusters sorted ↔ sorted = sort clusters := by
  constructor
  · intro h
    exact h.ordered.eq_of_ties (sort_ordered clusters) fun name =>
      (h.stable name).trans (sort_stable clusters name).symm
  · rintro rfl
    exact sort_sortedFrom clusters

/-- The order of names is a total preorder, and clusters are sorted by it: what sorting gives is
the stable sort of what was given, nothing else is, and sorting again changes nothing. -/
theorem sort_is_stable_sort :
    (∀ a, compareNames a a = .eq) ∧ (∀ a b, compareNames b a = (compareNames a b).swap) ∧
      (∀ a b c, (compareNames a b).isLE = true → (compareNames b c).isLE = true →
        (compareNames a c).isLE = true) ∧
      (∀ clusters sorted, SortedFrom clusters sorted ↔ sorted = sort clusters) ∧
      ∀ clusters, sort (sort clusters) = sort clusters :=
  ⟨compareNames_self, compareNames_swap, fun _ _ _ first second => Collation.le_trans first second,
    fun _ _ => SortedFrom.iff_eq_sort, fun clusters => sort_eq_self (sort_ordered clusters)⟩

/-- Lower case comes first where only case differs, and letters that differ count for more. -/
theorem etl_le_ETL_le_zeta :
    (compareNames "etl" "ETL").isLE = true ∧ (compareNames "ETL" "zeta").isLE = true ∧
      (compareNames "etl" "zeta").isLE = true := by
  have first : (compareNames "etl" "ETL").isLE = true := by
    rw [compareNames_of_ascii (by simp) (by simp)]
    decide
  have second : (compareNames "ETL" "zeta").isLE = true := by
    rw [compareNames_of_ascii (by simp) (by simp)]
    decide
  obtain ⟨-, -, trans, -⟩ := sort_is_stable_sort
  exact ⟨first, second, trans "etl" "ETL" "zeta" first second⟩

end FleetWatch.Cluster
