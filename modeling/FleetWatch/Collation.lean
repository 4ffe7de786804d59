import FleetWatch.Collation.Weights
import FleetWatch.Text.Decomposition

/-! # Collation

The order of names that readers expect: punctuation, digits, letters; letters by the alphabet,
accents only where the letters agree, and case only where the accents agree, lower case first. A
text is decomposed and weighed, and texts are compared by the primary weights of all their
elements, then by the secondary and at last by the tertiary ones. Texts that agree at all levels
are equal in order even when they are written differently.
-/

namespace FleetWatch.Collation

/-- The longest contraction that begins with a character and goes on with the text behind it. None
goes on with an ASCII character. -/
def longest? (c : Char) : List Char → Option (List Char × List Element)
  | [] => none
  | d :: rest =>
    if d.toNat < 0x80 then none
    else
      ((contractions c).filter fun entry => entry.1.isPrefixOf (d :: rest)).foldl
        (fun best entry => match best with
          | some b => if b.1.length < entry.1.length then some entry else best
          | none => some entry) none

/-- A contraction on its way: the characters behind the first one, and the elements so far. -/
structure Growing where
  more : List Char
  elements : List Element

/-- Lets a contraction take up marks further on. A mark may be taken when every mark left behind
before it has a lower class than it. Gives the contraction and the text that is left. -/
def Growing.absorb (first : Char) (g : Growing) (left : Nat) : List Char → Growing × List Char
  | [] => (g, [])
  | c :: rest =>
    let level := Text.combiningClass c
    if level = 0 then (g, c :: rest)
    else
      match (if left < level then (contractions first).lookup (g.more ++ [c]) else none) with
      | some elements => absorb first ⟨g.more ++ [c], elements⟩ left rest
      | none =>
        let (grown, rest') := absorb first g (max left level) rest
        (grown, c :: rest')

theorem Growing.length_absorb_le (first : Char) (g : Growing) (left : Nat) (text : List Char) :
    (g.absorb first left text).2.length ≤ text.length := by
  induction text generalizing g left with
  | nil => simp [absorb]
  | cons c rest ih =>
    unfold absorb
    dsimp only
    split
    · simp
    · split
      · exact Nat.le_succ_of_le (ih ..)
      · simpa using ih g (max left (Text.combiningClass c))

/-- What the first character of a decomposed text begins, and the text that is left. -/
def takeFirst (c : Char) (rest : List Char) : List Element × List Char :=
  let (g, rest') := match longest? c rest with
    | some (more, elements) => (Growing.mk more elements, rest.drop more.length)
    | none => (⟨[], charElements c⟩, rest)
  let (grown, left) := g.absorb c 0 rest'
  (grown.elements, left)

theorem length_takeFirst_le (c : Char) (rest : List Char) :
    (takeFirst c rest).2.length ≤ rest.length := by
  unfold takeFirst
  split
  rename_i g rest' h
  have shorter : rest'.length ≤ rest.length := by
    split at h
    · obtain ⟨-, rfl⟩ := Prod.mk.inj h
      simp
    · obtain ⟨-, rfl⟩ := Prod.mk.inj h
      exact Nat.le_refl _
  exact Nat.le_trans (Growing.length_absorb_le ..) shorter

/-- The elements of a decomposed text. -/
def elementsOf : List Char → List Element
  | [] => []
  | c :: rest => (takeFirst c rest).1 ++ elementsOf (takeFirst c rest).2
termination_by text => text.length
decreasing_by exact Nat.lt_succ_of_le (length_takeFirst_le c rest)

def elements (s : String) : List Element := elementsOf (Text.decomposed s.toList)

/-- The weights that say something, level by level. -/
structure Key where
  primaries : List Nat
  secondaries : List Nat
  tertiaries : List Nat
  deriving Repr, DecidableEq

/-- The key that a sequence of elements is compared by. -/
def Key.ofElements (es : List Element) : Key :=
  ⟨(es.map Element.primary).filter (· ≠ 0), (es.map Element.secondary).filter (· ≠ 0),
    (es.map Element.tertiary).filter (· ≠ 0)⟩

def key (s : String) : Key := .ofElements (elements s)

/-- Compares keys level by level, each level from the first weight on; the shorter comes first
where all of it agrees. -/
def Key.compare (a b : Key) : Ordering :=
  ((Ord.compare a.primaries b.primaries).then (Ord.compare a.secondaries b.secondaries)).then
    (Ord.compare a.tertiaries b.tertiaries)

def compareNames (a b : String) : Ordering := (key a).compare (key b)

def le (a b : String) : Bool := (compareNames a b).isLE

end FleetWatch.Collation
