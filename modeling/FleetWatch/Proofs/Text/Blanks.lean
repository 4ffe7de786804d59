import FleetWatch.Text.Blank

/-! # Blanks around and between words

A text falls into blanks and words, where a word goes on until a blank or the end comes. Main
statement: the words of a text are found exactly where it is laid out as these words with blanks
between them and around them.
-/

namespace FleetWatch.Text

/-- Blanks and nothing else, maybe not even blanks. -/
def IsBlanks (text : List Char) : Prop := ∀ c ∈ text, isBlank c = true

structure IsWord (text : List Char) : Prop where
  filled : text ≠ []
  whole : ∀ c ∈ text, isBlank c = false

variable {text front back word rest before : List Char} {list : List (List Char)} {c : Char}

theorem isBlanks_nil : IsBlanks [] := List.forall_mem_nil _

theorem isBlank_of_isDigit (digit : c.isDigit = true) : isBlank c = false := by
  have bounds : 48 ≤ c.toNat ∧ c.toNat ≤ 57 := by
    simpa [Char.isDigit, UInt32.le_iff_toNat_le] using digit
  simp [isBlank]
  omega

/-! ## Blanks at the ends -/

theorem trimStart_append (blanks : IsBlanks front) : trimStart (front ++ text) = trimStart text :=
  List.dropWhile_append_of_pos blanks

theorem trimStart_eq_self (first : ∀ c ∈ text.head?, isBlank c = false) :
    trimStart text = text := by
  cases text with
  | nil => rfl
  | cons c rest => exact List.dropWhile_cons_of_neg (by simp [first c rfl])

theorem trimEnd_append (blanks : IsBlanks back) : trimEnd (text ++ back) = trimEnd text := by
  have reversed : IsBlanks back.reverse := fun c listed => blanks c (List.mem_reverse.mp listed)
  rw [trimEnd, List.reverse_append, List.dropWhile_append_of_pos reversed]
  rfl

theorem trimEnd_concat (last : isBlank c = false) : trimEnd (text ++ [c]) = text ++ [c] := by
  simp [trimEnd, last]

theorem trim_between (blanks : IsBlanks front) (blanks' : IsBlanks back)
    (first : ∀ c ∈ text.head?, isBlank c = false)
    (last : ∀ c ∈ text.getLast?, isBlank c = false) : trim (front ++ text ++ back) = text := by
  cases ending : text.getLast? with
  | none =>
      obtain rfl := List.getLast?_eq_none_iff.mp ending
      have nothing : trimStart back = [] := by
        rw [← List.append_nil back]
        exact trimStart_append blanks'
      rw [List.append_nil, trim, trimStart_append blanks, nothing]
      rfl
  | some c =>
      obtain ⟨others, rfl⟩ := List.getLast?_eq_some_iff.mp ending
      have started : ∀ d ∈ (others ++ [c] ++ back).head?, isBlank d = false := by
        intro d head
        apply first
        cases others <;> simpa using head
      rw [List.append_assoc, trim, trimStart_append blanks, trimStart_eq_self started,
        trimEnd_append blanks', trimEnd_concat (last c ending)]

theorem trim_concat (last : isBlank c = false) : trim (text ++ [c]) = trimStart text ++ [c] := by
  have started : trimStart (text ++ [c]) = trimStart text ++ [c] := by
    unfold trimStart
    rw [List.dropWhile_append]
    split
    · rename_i nothing
      rw [List.isEmpty_iff.mp nothing, List.nil_append]
      exact List.dropWhile_cons_of_neg (by simp [last])
    · rfl
  rw [trim, started, trimEnd_concat last]

/-! ## Words -/

theorem wordsFrom_append (whole : ∀ c ∈ word, isBlank c = false) :
    wordsFrom before (word ++ rest) = wordsFrom (word.reverse ++ before) rest := by
  induction word generalizing before with
  | nil => rfl
  | cons c word ih =>
      have first : isBlank c = false := whole c List.mem_cons_self
      have others : wordsFrom (c :: before) (word ++ rest) =
          wordsFrom (word.reverse ++ c :: before) rest :=
        ih fun d listed => whole d (List.mem_cons_of_mem _ listed)
      simpa [wordsFrom, first] using others

theorem words_append (blanks : IsBlanks front) : words (front ++ text) = words text := by
  induction front with
  | nil => rfl
  | cons c front ih =>
      have first : isBlank c = true := blanks c List.mem_cons_self
      have others := ih fun d listed => blanks d (List.mem_cons_of_mem _ listed)
      simpa [words, wordsFrom, first] using others

/-- Where a word ends: at the end of the text or at a blank. -/
def Closes (rest : List Char) : Prop := ∀ c ∈ rest.head?, isBlank c = true

theorem words_cons (isWord : IsWord word) (ends : Closes rest) :
    words (word ++ rest) = word :: words rest := by
  have read : (word.reverse).isEmpty = false := by simpa using isWord.filled
  rw [words, wordsFrom_append isWord.whole, List.append_nil]
  cases rest with
  | nil => simp [words, wordsFrom, read]
  | cons c rest =>
      have blank : isBlank c = true := ends c rfl
      simp [words, wordsFrom, read, blank]

/-- Words as they are laid out in a text. -/
inductive Laid : List (List Char) → List Char → Prop where
  | nil {blanks : List Char} (isBlanks : IsBlanks blanks) : Laid [] blanks
  | cons {blanks word rest : List Char} {more : List (List Char)} (isBlanks : IsBlanks blanks)
      (isWord : IsWord word) (ends : Closes rest) (others : Laid more rest) :
      Laid (word :: more) (blanks ++ word ++ rest)

theorem Laid.words_eq (laid : Laid list text) : words text = list := by
  induction laid with
  | @nil blanks isBlanks =>
      rw [← List.append_nil blanks, words_append isBlanks]
      rfl
  | cons isBlanks isWord ends _ ih =>
      rw [List.append_assoc, words_append isBlanks, words_cons isWord ends, ih]

theorem Laid.blank (laid : Laid list text) (blank : isBlank c = true) :
    Laid list (c :: text) := by
  cases laid with
  | nil isBlanks => exact .nil (by simpa [IsBlanks, blank] using isBlanks)
  | @cons blanks word rest more isBlanks isWord ends others =>
      have longer : IsBlanks (c :: blanks) := by simpa [IsBlanks, blank] using isBlanks
      exact .cons longer isWord ends others

theorem Laid.letter (laid : Laid list text) (letter : isBlank c = false) :
    ∃ more, Laid more (c :: text) := by
  have alone : IsWord [c] := ⟨by simp, by simpa using letter⟩
  cases laid with
  | nil isBlanks =>
      have ends : Closes text := fun d head => isBlanks d (List.mem_of_mem_head? head)
      exact ⟨[[c]], .cons isBlanks_nil alone ends (.nil isBlanks)⟩
  | @cons blanks word rest more isBlanks isWord ends others =>
      cases blanks with
      | nil =>
          have longer : IsWord (c :: word) := ⟨by simp, by simpa [letter] using isWord.whole⟩
          exact ⟨(c :: word) :: more, .cons isBlanks_nil longer ends others⟩
      | cons d blanks =>
          have parted : Closes (d :: blanks ++ word ++ rest) := by
            simpa [Closes] using isBlanks d List.mem_cons_self
          exact ⟨[c] :: word :: more,
            .cons isBlanks_nil alone parted (.cons isBlanks isWord ends others)⟩

theorem exists_laid (text : List Char) : ∃ more, Laid more text := by
  induction text with
  | nil => exact ⟨[], .nil isBlanks_nil⟩
  | cons c text ih =>
      obtain ⟨more, laid⟩ := ih
      cases kind : isBlank c with
      | true => exact ⟨more, laid.blank kind⟩
      | false => exact laid.letter kind

theorem words_eq_iff : words text = list ↔ Laid list text := by
  constructor
  · rintro rfl
    obtain ⟨more, laid⟩ := exists_laid text
    rwa [laid.words_eq]
  · exact Laid.words_eq

end FleetWatch.Text
