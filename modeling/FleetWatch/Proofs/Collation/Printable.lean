import FleetWatch.Proofs.Cluster.Ties
import Mathlib.Data.List.Basic
import Mathlib.Data.List.Chain
import Mathlib.Data.List.Nodup

/-! # Names of printable characters

Every printable character of ASCII has one element: its primary weight tells it from all others but
for case, its secondary weight is that of all, and its tertiary weight is its case. So the levels
come down to two comparisons, one of the names without their case and one of the case alone, and
together they tell any two names apart. Main statement: the order of printable names is that of the
two comparisons, and lists of clusters with such names have one sorted form.
-/

namespace FleetWatch.Collation

/-- Whether a character is one of the printable ones of ASCII. -/
def Printable (c : Char) : Prop := 0x20 ≤ c.toNat ∧ c.toNat < 0x7f

/-- The printable characters in ascending order, capitals left out. -/
def asciiOrder : List Char :=
  [' ', '_', '-', ',', ';', ':', '!', '?', '.', '\'', '"', '(', ')', '[', ']', '{', '}', '@', '*',
    '/', '\\', '&', '#', '%', '`', '^', '+', '<', '=', '>', '|', '~', '$', '0', '1', '2', '3', '4',
    '5', '6', '7', '8', '9', 'a', 'b', 'c', 'd', 'e', 'f', 'g', 'h', 'i', 'j', 'k', 'l', 'm', 'n',
    'o', 'p', 'q', 'r', 's', 't', 'u', 'v', 'w', 'x', 'y', 'z']

/-- The place of a character in this order. -/
def place (c : Char) : Nat := asciiOrder.idxOf c

/-- A name without its case. -/
def folded (name : String) : List Char := name.toList.map Char.toLower

/-! ## Single characters -/

def weight (c : Char) : Nat := (asciiPrimaries.lookup c).getD 0

def caseWeight (c : Char) : Nat := if c.isUpper then capital else common

theorem forall_printable {P : Char → Prop} (all : ∀ n < 0x7f, 0x20 ≤ n → P (.ofNat n)) :
    ∀ c, Printable c → P c := by
  intro c printable
  have here := all c.toNat printable.2 printable.1
  rwa [Char.ofNat_toNat] at here

theorem asciiElements_of_printable :
    ∀ c, Printable c → asciiElements c = [⟨weight c.toLower, plain, caseWeight c⟩] :=
  forall_printable (by decide +kernel)

theorem toLower_mem : ∀ c, Printable c → c.toLower ∈ asciiOrder :=
  forall_printable (by decide +kernel)

theorem eq_of_toLower_of_isUpper : ∀ c, Printable c →
    c = if c.isUpper then Char.ofNat (c.toLower.toNat - 32) else c.toLower :=
  forall_printable (by decide +kernel)

theorem isLower_toLower : ∀ c, Printable c → c.isUpper = true → c.toLower.isLower = true :=
  forall_printable (by decide +kernel)

theorem weight_ne_zero {c : Char} (listed : c ∈ asciiOrder) : weight c ≠ 0 := by
  have all : asciiOrder.all (fun c => weight c ≠ 0) = true := by decide +kernel
  simpa using List.all_eq_true.mp all c listed

theorem weights_ascend : (asciiOrder.map weight).Pairwise (· < ·) := by
  have chain : (asciiOrder.map weight).IsChain (· < ·) := by decide +kernel
  exact List.isChain_iff_pairwise.mp chain

theorem compare_weight {c d : Char} (listedC : c ∈ asciiOrder) (listedD : d ∈ asciiOrder) :
    compare (weight c) (weight d) = compareOn place c d := by
  have ascends : ∀ {c d : Char}, c ∈ asciiOrder → d ∈ asciiOrder → place c < place d →
      weight c < weight d := by
    intro c d listedC listedD before
    have inC : place c < asciiOrder.length := List.idxOf_lt_length_of_mem listedC
    have inD : place d < asciiOrder.length := List.idxOf_lt_length_of_mem listedD
    have grows := List.pairwise_iff_getElem.mp weights_ascend (place c) (place d)
      (by simpa using inC) (by simpa using inD) before
    simpa [place] using grows
  rcases Nat.lt_trichotomy (place c) (place d) with before | same | behind
  · have lighter := ascends listedC listedD before
    rw [compareOn, Nat.compare_eq_lt.mpr before, Nat.compare_eq_lt.mpr lighter]
  · obtain rfl := (List.idxOf_inj listedC).mp same
    simp [compareOn]
  · have heavier := ascends listedD listedC behind
    rw [compareOn, Nat.compare_eq_gt.mpr behind, Nat.compare_eq_gt.mpr heavier]

theorem eq_of_weight {c d : Char} (listedC : c ∈ asciiOrder) (listedD : d ∈ asciiOrder)
    (same : weight c = weight d) : c = d := by
  have places := compare_weight listedC listedD
  rw [same, Nat.compare_eq_eq.mpr rfl] at places
  exact (List.idxOf_inj listedC).mp (Nat.compare_eq_eq.mp places.symm)

theorem compare_caseWeight (c d : Char) :
    compare (caseWeight c) (caseWeight d) = compareOn Char.isUpper c d := by
  unfold caseWeight compareOn
  cases c.isUpper <;> cases d.isUpper <;> rfl

section Same

variable {c d : Char} (printableC : Printable c) (printableD : Printable d)
include printableC printableD

theorem eq_of_same_case (same : c.toLower = d.toLower) (cases : c.isUpper = d.isUpper) : c = d := by
  rw [eq_of_toLower_of_isUpper c printableC, eq_of_toLower_of_isUpper d printableD, same, cases]

theorem lower_first (same : c.toLower = d.toLower) (differ : c ≠ d) :
    (c.isLower = true ∧ d.isUpper = true ∧ compareOn Char.isUpper c d = .lt) ∨
      (c.isUpper = true ∧ d.isLower = true ∧ compareOn Char.isUpper c d = .gt) := by
  have lower : ∀ {e}, Printable e → e.isUpper = false → e = e.toLower := by
    intro e printable other
    simpa [other] using eq_of_toLower_of_isUpper e printable
  cases upperC : c.isUpper <;> cases upperD : d.isUpper
  · exact absurd (eq_of_same_case printableC printableD same (upperC.trans upperD.symm)) differ
  · refine .inl ⟨?_, rfl, by rw [compareOn, upperC, upperD]; rfl⟩
    rw [lower printableC upperC, same]
    exact isLower_toLower d printableD upperD
  · refine .inr ⟨rfl, ?_, by rw [compareOn, upperC, upperD]; rfl⟩
    rw [lower printableD upperD, ← same]
    exact isLower_toLower c printableC upperC
  · exact absurd (eq_of_same_case printableC printableD same (upperC.trans upperD.symm)) differ

end Same

/-! ## Names -/

theorem compareLex_map {α β : Type} {cmp : α → α → Ordering} {cmp' : β → β → Ordering} {f : α → β}
    {xs ys : List α} (same : ∀ x ∈ xs, ∀ y ∈ ys, cmp' (f x) (f y) = cmp x y) :
    List.compareLex cmp' (xs.map f) (ys.map f) = List.compareLex cmp xs ys := by
  induction xs generalizing ys with
  | nil => cases ys <;> rfl
  | cons x xs ih =>
      cases ys with
      | nil => rfl
      | cons y ys =>
          have rest := ih fun x listed y listed' =>
            same x (List.mem_cons_of_mem _ listed) y (List.mem_cons_of_mem _ listed')
          simp only [List.map_cons, List.compareLex_cons_cons, rest,
            same x List.mem_cons_self y List.mem_cons_self]

theorem compareLex_append {α : Type} {cmp : α → α → Ordering} [Std.ReflCmp cmp]
    (front xs ys : List α) :
    List.compareLex cmp (front ++ xs) (front ++ ys) = List.compareLex cmp xs ys := by
  induction front with
  | nil => rfl
  | cons x front ih =>
      have self : cmp x x = .eq := Std.ReflCmp.compare_self
      rw [List.cons_append, List.cons_append, List.compareLex_cons_cons, ih, self]
      rfl

theorem level_eq {cs : List Char} {element : Char → Element} {f : Element → Nat}
    (nonzero : ∀ c ∈ cs, f (element c) ≠ 0) :
    ((cs.map element).map f).filter (· ≠ 0) = cs.map fun c => f (element c) := by
  rw [List.map_map]
  refine List.filter_eq_self.mpr fun w listed => ?_
  obtain ⟨c, given, rfl⟩ := List.mem_map.mp listed
  simpa using nonzero c given

theorem elements_of_printable {cs : List Char} (printable : ∀ c ∈ cs, Printable c) :
    cs.flatMap asciiElements = cs.map fun c => ⟨weight c.toLower, plain, caseWeight c⟩ := by
  induction cs with
  | nil => rfl
  | cons c cs ih =>
      obtain ⟨first, others⟩ := List.forall_mem_cons.mp printable
      rw [List.flatMap_cons, asciiElements_of_printable c first, ih others]
      rfl

theorem eq_of_map {α β : Type} {f : α → β} {xs ys : List α}
    (apart : ∀ x ∈ xs, ∀ y ∈ ys, f x = f y → x = y) (same : xs.map f = ys.map f) : xs = ys := by
  induction xs generalizing ys with
  | nil => exact (List.map_eq_nil_iff.mp same.symm).symm
  | cons x xs ih =>
      cases ys with
      | nil => simp at same
      | cons y ys =>
          obtain ⟨first, others⟩ := List.cons.inj same
          rw [apart x List.mem_cons_self y List.mem_cons_self first, ih (fun x listed y listed' =>
            apart x (List.mem_cons_of_mem _ listed) y (List.mem_cons_of_mem _ listed')) others]

section Names

variable {a b : String} (printableA : ∀ c ∈ a.toList, Printable c)
  (printableB : ∀ c ∈ b.toList, Printable c)
include printableA

theorem folded_mem : ∀ c ∈ folded a, c ∈ asciiOrder := by
  intro c listed
  obtain ⟨d, given, rfl⟩ := List.mem_map.mp listed
  exact toLower_mem d (printableA d given)

theorem key_of_printable :
    key a = ⟨(folded a).map weight, (folded a).map fun _ => plain, a.toList.map caseWeight⟩ := by
  have ascii : ∀ c ∈ a.toList, c.toNat < 0x80 := fun c listed =>
    Nat.lt_trans (printableA c listed).2 (by decide)
  have primaries : ∀ c ∈ a.toList, weight c.toLower ≠ 0 := fun c listed =>
    weight_ne_zero (toLower_mem c (printableA c listed))
  have secondary : plain ≠ 0 := by decide
  have tertiaries : ∀ c, caseWeight c ≠ 0 := by
    intro c
    unfold caseWeight
    split <;> decide
  rw [key_of_ascii ascii, elements_of_printable printableA, Key.ofElements, Key.mk.injEq]
  refine ⟨?_, ?_, ?_⟩
  · rw [level_eq primaries, folded, List.map_map]
    rfl
  · rw [level_eq fun _ _ => secondary, folded, List.map_map]
    rfl
  · exact level_eq fun c _ => tertiaries c

include printableB

theorem folded_eq_of_weights (same : (folded a).map weight = (folded b).map weight) :
    folded a = folded b :=
  eq_of_map (fun c listedC d listedD =>
    eq_of_weight (folded_mem printableA c listedC) (folded_mem printableB d listedD)) same

theorem compare_weights :
    compare ((folded a).map weight) ((folded b).map weight) =
      List.compareLex (compareOn place) (folded a) (folded b) :=
  compareLex_map fun c listedC d listedD =>
    compare_weight (folded_mem printableA c listedC) (folded_mem printableB d listedD)

/-- Printable names that differ without their case are in order as they are without it. -/
theorem compareNames_of_folded_ne (differ : folded a ≠ folded b) :
    compareNames a b = List.compareLex (compareOn place) (folded a) (folded b) := by
  rw [compareNames, key_of_printable printableA, key_of_printable printableB, Key.compare]
  dsimp only
  rw [← compare_weights printableA printableB]
  cases first : compare ((folded a).map weight) ((folded b).map weight) with
  | eq =>
      have same := Std.LawfulEqOrd.eq_of_compare first
      exact absurd (folded_eq_of_weights printableA printableB same) differ
  | lt => rfl
  | gt => rfl

theorem compareNames_of_folded_eq (agree : folded a = folded b) :
    compareNames a b = List.compareLex (compareOn Char.isUpper) a.toList b.toList := by
  have tertiaries : compare (a.toList.map caseWeight) (b.toList.map caseWeight) =
      List.compareLex (compareOn Char.isUpper) a.toList b.toList :=
    compareLex_map fun c _ d _ => compare_caseWeight c d
  rw [compareNames, key_of_printable printableA, key_of_printable printableB, Key.compare, agree]
  dsimp only
  rw [Std.ReflOrd.compare_self, Std.ReflOrd.compare_self, ← tertiaries]
  rfl

theorem eq_of_compareNames (same : compareNames a b = .eq) : a = b := by
  have keys := compareNames_eq_iff.mp same
  rw [key_of_printable printableA, key_of_printable printableB, Key.mk.injEq] at keys
  obtain ⟨letters, -, cases⟩ := keys
  have agree : a.toList.map Char.toLower = b.toList.map Char.toLower :=
    folded_eq_of_weights printableA printableB letters
  have both := congrArg₂ List.zip agree cases
  rw [List.zip_map', List.zip_map'] at both
  refine String.toList_inj.mp (eq_of_map (fun c listedC d listedD pair => ?_) both)
  obtain ⟨letter, weights⟩ := Prod.mk.inj pair
  have upper := compare_caseWeight c d
  rw [weights, Nat.compare_eq_eq.mpr rfl] at upper
  exact eq_of_same_case (printableA c listedC) (printableB d listedD) letter
    (Std.LawfulEqOrd.eq_of_compare upper.symm)

/-- Where names that agree without their case first differ, the one in lower case comes first. -/
theorem compareNames_case {front behind behind' : List Char} {c d : Char}
    (nameA : a.toList = front ++ c :: behind) (nameB : b.toList = front ++ d :: behind')
    (differ : c ≠ d) (agree : folded a = folded b) :
    (c.isLower = true ∧ d.isUpper = true ∧ compareNames a b = .lt) ∨
      (c.isUpper = true ∧ d.isLower = true ∧ compareNames a b = .gt) := by
  have listedC : c ∈ a.toList := by simp [nameA]
  have listedD : d ∈ b.toList := by simp [nameB]
  have same : c.toLower = d.toLower := by
    rw [folded, folded, nameA, nameB, List.map_append, List.map_append] at agree
    exact (List.cons.inj (List.append_cancel_left agree)).1
  have order : compareNames a b = (compareOn Char.isUpper c d).then
      (List.compareLex (compareOn Char.isUpper) behind behind') := by
    rw [compareNames_of_folded_eq printableA printableB agree, nameA, nameB, compareLex_append,
      List.compareLex_cons_cons]
  rcases lower_first (printableA c listedC) (printableB d listedD) same differ with
    ⟨lower, upper, first⟩ | ⟨upper, lower, first⟩
  · exact .inl ⟨lower, upper, by rw [order, first]; rfl⟩
  · exact .inr ⟨upper, lower, by rw [order, first]; rfl⟩

end Names

/-- The order of printable names: first by their characters without case, then by case, lower case
first. Different names are never equal in order, so a list of clusters with different names is
sorted into one form, whatever order it is given in. -/
theorem printable_names_in_order :
    (∀ a b : String, (∀ c ∈ a.toList, Printable c) → (∀ c ∈ b.toList, Printable c) →
      (folded a ≠ folded b →
        compareNames a b = List.compareLex (compareOn place) (folded a) (folded b)) ∧
      (folded a = folded b → ∀ front c behind d behind', a.toList = front ++ c :: behind →
        b.toList = front ++ d :: behind' → c ≠ d →
          (c.isLower = true ∧ d.isUpper = true ∧ compareNames a b = .lt) ∨
            (c.isUpper = true ∧ d.isLower = true ∧ compareNames a b = .gt)) ∧
      (compareNames a b = .eq ↔ a = b)) ∧
    ∀ clusters other : List Cluster, (∀ x ∈ clusters, ∀ c ∈ x.name.toList, Printable c) →
      (clusters.map Cluster.name).Nodup → other.Perm clusters →
      Cluster.sort other = Cluster.sort clusters := by
  have apart : ∀ {a b : String}, (∀ c ∈ a.toList, Printable c) → (∀ c ∈ b.toList, Printable c) →
      (compareNames a b = .eq ↔ a = b) := fun printableA printableB =>
    ⟨eq_of_compareNames printableA printableB, fun same => same ▸ compareNames_self _⟩
  refine ⟨fun a b printableA printableB => ⟨compareNames_of_folded_ne printableA printableB, ?_,
    apart printableA printableB⟩, ?_⟩
  · intro agree front c behind d behind' nameA nameB differ
    exact compareNames_case printableA printableB nameA nameB differ agree
  · intro clusters other printable distinct perm
    refine Cluster.sort_eq_of_perm perm fun x listedX y listedY tie => ?_
    have same := (apart (printable x listedX) (printable y listedY)).mp tie
    exact List.inj_on_of_nodup_map distinct listedX listedY same

/-- Punctuation counts before case does, whichever comes first, and then lower case is first. -/
theorem punctuation_before_case :
    compareNames "ETL_b" "etl-a" = .lt ∧ compareNames "etl-a" "eTL-a" = .lt ∧
      let upper : Cluster := { (default : Cluster) with name := "eTL-a" }
      let lower : Cluster := { (default : Cluster) with name := "etl-a" }
      Cluster.sort [upper, lower] = Cluster.sort [lower, upper] := by
  obtain ⟨order, sorts⟩ := printable_names_in_order
  have upper : ∀ c ∈ "eTL-a".toList, Printable c := by simp [Printable]
  have lower : ∀ c ∈ "etl-a".toList, Printable c := by simp [Printable]
  have letters := (order "ETL_b" "etl-a" (by simp [Printable]) lower).1 (by decide)
  have cases := (order "etl-a" "eTL-a" lower upper).2.1 (by decide) ['e'] 't' ['l', '-', 'a'] 'T'
    ['L', '-', 'a'] (by decide) (by decide) (by decide)
  refine ⟨letters.trans (by decide), ?_, sorts _ _ ?_ (by decide) (.swap ..)⟩
  · rcases cases with ⟨-, -, first⟩ | ⟨other, -, -⟩
    · exact first
    · exact absurd other (by decide)
  · exact List.forall_mem_cons.mpr ⟨lower, List.forall_mem_singleton.mpr upper⟩

end FleetWatch.Collation
