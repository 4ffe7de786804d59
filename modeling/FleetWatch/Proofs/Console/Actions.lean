import FleetWatch.Console.Keyboard

/-! # What the operator's actions come to

A key or a mouse action that asks nothing of the source does one of three things: it leaves both
the clusters on view and the selection as they are, it selects a row, or it changes the filter and
brings the selection back into what is left. A key that gives a command does so on top of such a
change, and only while no command is under way. What a run of the console keeps of the dashboard,
the filter and the selection follows from these cases, without going through the table of keys
again.
-/

namespace FleetWatch.Console

/-- A change that asks nothing of the source and takes nothing in from it. -/
inductive Quiet : Console → Console → Prop where
  /-- What is on view and what is selected stay. -/
  | aside {c c' : Console} (dashboard : c'.dashboard = c.dashboard)
      (filter : c'.filter = c.filter) (selected : c'.selected = c.selected) : Quiet c c'
  /-- A row is selected that is not below both the selected one and the last one. -/
  | select (c : Console) (row : Nat) (inside : row ≤ max c.selected (c.visible.length - 1)) :
      Quiet c { c with selected := row }
  /-- The filter changes, and the selection is brought back. -/
  | refilter (c : Console) (filter : List Char) :
      Quiet c ({ c with filter := filter : Console }.clamp)
  | trans {a b c : Console} (first : Quiet a b) (second : Quiet b c) : Quiet a c

theorem Quiet.refl (c : Console) : Quiet c c := .aside rfl rfl rfl

theorem Quiet.dashboard {c c' : Console} (h : Quiet c c') : c'.dashboard = c.dashboard := by
  induction h with
  | aside dashboard => exact dashboard
  | select | refilter => rfl
  | trans _ _ first second => exact second.trans first

/-- What a key comes to. -/
inductive Effect (c : Console) : Reaction → Prop where
  /-- Nothing is asked of the source, though a document may have to be saved. -/
  | quiet {c' : Console} {document : Option Bytes} (change : Quiet c c') :
      Effect c ⟨c', none, document⟩
  | refresh : Effect c ⟨c, some .refresh, none⟩
  /-- A command is given, and is under way from then on. -/
  | give {c' : Console} (change : Quiet c c') (idle : c'.dashboard.isUpdating = false)
      (command : Command) :
      Effect c ⟨{ c' with dashboard := { c'.dashboard with isUpdating := true } },
        some (.dispatch command), none⟩

theorem Effect.aside {c c' : Console} (dashboard : c'.dashboard = c.dashboard)
    (filter : c'.filter = c.filter) (selected : c'.selected = c.selected) :
    Effect c ⟨c', none, none⟩ :=
  .quiet (.aside dashboard filter selected)

/-! ## Mouse -/

theorem selectPrevious_quiet (c : Console) (n : Nat) : Quiet c (c.selectPrevious n) :=
  .select c _ (Nat.le_trans (Nat.sub_le _ _) (Nat.le_max_left _ _))

theorem selectNext_quiet (c : Console) (n : Nat) : Quiet c (c.selectNext n) :=
  .select c _ (Nat.le_trans (Nat.min_le_right _ _) (Nat.le_max_right _ _))

theorem goBack_quiet (c : Console) : Quiet c c.goBack := by
  unfold goBack
  split
  · exact .aside rfl rfl rfl
  · split <;> exact .aside rfl rfl rfl

theorem clickRow_quiet (c : Console) (row tableHeader : Nat) :
    Quiet c (c.clickRow row tableHeader) := by
  unfold clickRow
  dsimp only
  split
  · rename_i hit
    simp only [Bool.and_eq_true, decide_eq_true_eq] at hit
    exact .select c _ (Nat.le_trans (Nat.le_sub_one_of_lt hit.2) (Nat.le_max_right _ _))
  · exact .refl c

theorem clickTab_quiet (c : Console) (column row : Nat) : Quiet c (c.clickTab column row) := by
  unfold clickTab
  repeat' split
  all_goals exact .aside rfl rfl rfl

theorem mouse_quiet (c : Console) (event : MouseEvent) (tableHeader : Nat) :
    Quiet c (c.mouse event tableHeader) := by
  unfold mouse
  split
  · exact selectPrevious_quiet c 1
  · exact selectNext_quiet c 1
  · exact (clickRow_quiet c _ _).trans (clickTab_quiet _ _ _)
  · exact goBack_quiet c
  · exact .refl c

/-! ## Keys -/

theorem clearFilter_quiet (c : Console) : Quiet c c.clearFilter :=
  .trans (b := { c with mode := .normal }) (.aside rfl rfl rfl) (.refilter _ [])

theorem pressInFilter_quiet (c : Console) (press : KeyPress) :
    Quiet c (c.pressInFilter press) := by
  unfold pressInFilter
  split
  · exact .aside rfl rfl rfl
  · exact .aside rfl rfl rfl
  · have popped : Quiet c c.popFilter := .refilter c _
    dsimp only
    split
    · exact popped.trans (.aside rfl rfl rfl)
    · exact popped
  · split
    · exact clearFilter_quiet c
    · exact .refilter c _
  · exact .refl c

/-- A command that is refused leaves a notice behind and nothing else. -/
theorem run_effect {c c' : Console} (change : Quiet c c') (command : Command) (now : Moment) :
    Effect c (c'.run command now) := by
  cases busy : c'.dashboard.isUpdating with
  | false =>
      simp only [run, Dashboard.begin?, busy, Bool.false_eq_true, if_false]
      exact .give change busy command
  | true =>
      simp only [run, Dashboard.begin?, busy, if_true]
      exact .quiet (change.trans (.aside rfl rfl rfl))

theorem toggleSelected_effect (c : Console) (now : Moment) : Effect c (c.toggleSelected now) := by
  unfold toggleSelected
  split
  · exact run_effect (.refl c) _ now
  · exact .quiet (.refl c)

theorem submitAdd_effect (c : Console) (now : Moment) : Effect c (c.submitAdd now) := by
  unfold submitAdd
  split
  · have closed : Quiet c c.cancelAdd := .aside rfl rfl rfl
    exact run_effect closed _ now
  · exact .aside rfl rfl rfl

theorem save_effect (c : Console) (now : Moment) : Effect c (c.save now) := by
  unfold save
  split
  · exact .quiet (.refl c)
  · exact .aside rfl rfl rfl

theorem pressInPrompt_effect (c : Console) (press : KeyPress) (now : Moment) :
    Effect c (c.pressInPrompt press now) := by
  unfold pressInPrompt
  split
  · exact submitAdd_effect c now
  · exact .aside rfl rfl rfl
  · exact .aside rfl rfl rfl
  · split <;> exact .aside rfl rfl rfl
  · exact .aside rfl rfl rfl

theorem pressCharacter_effect (c : Console) (typed : Char) (control : Bool) (now : Moment) :
    Effect c (c.pressCharacter typed control now) := by
  unfold pressCharacter
  split
  -- Of all characters only `c` is looked at further.
  case h_2 =>
    repeat' split
    · exact .aside rfl rfl rfl
    · exact .quiet (.refl c)
    · exact .quiet (clearFilter_quiet c)
  all_goals first
    | exact .aside rfl rfl rfl
    | exact .quiet (selectPrevious_quiet c _)
    | exact .quiet (selectNext_quiet c _)
    | exact toggleSelected_effect c now
    | exact run_effect (.refl c) _ now
    | exact .refresh
    | exact save_effect c now

theorem pressCommand_effect (c : Console) (press : KeyPress) (now : Moment) :
    Effect c (c.pressCommand press now) := by
  obtain ⟨key, control, shift, alt⟩ := press
  cases key with
  | character typed => exact pressCharacter_effect c typed control now
  | tab | backTab | left | right => exact .aside rfl rfl rfl
  | up | pageUp => exact .quiet (selectPrevious_quiet c _)
  | down | pageDown => exact .quiet (selectNext_quiet c _)
  | toStart => exact .quiet (.select c 0 (Nat.zero_le _))
  | toEnd => exact .quiet (.select c _ (Nat.le_max_right _ _))
  | enter => exact toggleSelected_effect c now
  | escape | backspace => exact .quiet (goBack_quiet c)
  | _ => exact .quiet (.refl c)

theorem press_effect (c : Console) (press : KeyPress) (now : Moment) :
    Effect c (c.press press now) := by
  unfold Console.press
  split
  · exact .aside rfl rfl rfl
  · split
    · exact .quiet (pressInFilter_quiet c press)
    · exact pressInPrompt_effect c press now
    · exact pressCommand_effect c press now

theorem strike_effect (c : Console) (press : KeyPress) (saving : Except String Unit)
    (now : Moment) : Effect c (c.strike press saving now) := by
  have pressed := press_effect c press now
  unfold strike
  generalize c.press press now = reaction at pressed
  cases pressed with
  | @quiet c' document change =>
      cases document with
      | none => exact .quiet change
      | some document => exact .quiet (change.trans (.aside rfl rfl rfl))
  | refresh => exact .refresh
  | give change idle command => exact .give change idle command

end FleetWatch.Console
