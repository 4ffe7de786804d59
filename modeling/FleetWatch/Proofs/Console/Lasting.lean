import FleetWatch.Proofs.Console.Runs

/-! # What lasts as long as the console

A console keeps its source for good, and it is running until it is quit. Only two keys quit it, and
only where keys are commands; whatever else is done leaves both alone.
-/

namespace FleetWatch

/-- A key that ends the console where keys are commands: `q`, or `c` with control. -/
def KeyPress.IsQuit (press : KeyPress) : Prop :=
  press.key = .character 'q' ∨ press.key = .character 'c' ∧ press.control = true

namespace Console

/-- The key is a command and ends the console. -/
def Quits (c : Console) (press : KeyPress) : Prop :=
  c.showsHelp = false ∧ c.mode = .normal ∧ press.IsQuit

/-! ## Keys by mode -/

section Modes

variable {c : Console} {press : KeyPress} {now : Moment}

theorem press_help (shown : c.showsHelp = true) :
    c.press press now = ⟨{ c with showsHelp := false }, none, none⟩ :=
  if_pos shown

theorem press_filter (closed : c.showsHelp = false) (mode : c.mode = .filter) :
    c.press press now = ⟨c.pressInFilter press, none, none⟩ := by
  rw [Console.press, closed, mode]
  rfl

theorem press_prompt (closed : c.showsHelp = false) (mode : c.mode = .add) :
    c.press press now = c.pressInPrompt press now := by
  rw [Console.press, closed, mode]
  rfl

theorem press_command (closed : c.showsHelp = false) (mode : c.mode = .normal) :
    c.press press now = c.pressCommand press now := by
  rw [Console.press, closed, mode]
  rfl

/-- Unless a document is to be saved, a key has done all it does once it is pressed. -/
theorem strike_of_press {c' : Console} {request : Option SourceRequest}
    (pressed : c.press press now = ⟨c', request, none⟩) (saving : Except String Unit) :
    c.strike press saving now = ⟨c', request, none⟩ := by
  rw [strike, pressed]

theorem pressInFilter_eq (c : Console) (press : KeyPress) :
    ∃ filter mode selected, c.pressInFilter press =
      { c with filter := filter, mode := mode, selected := selected } := by
  obtain ⟨key, control, shift, alt⟩ := press
  cases key with
  | enter | escape => exact ⟨c.filter, .normal, c.selected, rfl⟩
  | backspace =>
      unfold pressInFilter
      dsimp only
      split
      · exact ⟨c.filter.dropLast, .normal, _, rfl⟩
      · exact ⟨c.filter.dropLast, c.mode, _, rfl⟩
  | character typed =>
      unfold pressInFilter
      dsimp only
      split
      · exact ⟨[], .normal, _, rfl⟩
      · exact ⟨c.filter ++ [typed], c.mode, _, rfl⟩
  | _ => exact ⟨c.filter, c.mode, c.selected, rfl⟩

theorem pressInPrompt_eq (c : Console) (press : KeyPress) (now : Moment)
    (other : press.key ≠ .enter) :
    ∃ input mode, c.pressInPrompt press now =
      ⟨{ c with input := input, mode := mode }, none, none⟩ := by
  obtain ⟨key, control, shift, alt⟩ := press
  cases key with
  | enter => exact absurd rfl other
  | escape => exact ⟨[], .normal, rfl⟩
  | backspace => exact ⟨c.input.dropLast, c.mode, rfl⟩
  | character typed =>
      unfold pressInPrompt
      dsimp only
      split
      · exact ⟨[], .normal, rfl⟩
      · exact ⟨c.input ++ [typed], c.mode, rfl⟩
  | _ => exact ⟨c.input, c.mode, rfl⟩

end Modes

/-! ## The source and running -/

/-- The source is the same, and so is whether the console is running. -/
structure Lasts (c c' : Console) : Prop where
  source : c'.source = c.source
  isRunning : c'.isRunning = c.isRunning

theorem Lasts.refl (c : Console) : Lasts c c := ⟨rfl, rfl⟩

theorem Lasts.trans {a b c : Console} (first : Lasts a b) (second : Lasts b c) : Lasts a c :=
  ⟨second.source.trans first.source, second.isRunning.trans first.isRunning⟩

variable (c : Console) (press : KeyPress) (now : Moment)

theorem run_lasts (command : Command) : Lasts c (c.run command now).console := by
  unfold run
  split <;> exact ⟨rfl, rfl⟩

theorem toggleSelected_lasts : Lasts c (c.toggleSelected now).console := by
  unfold toggleSelected
  split
  · exact run_lasts c now _
  · exact .refl c

theorem submitAdd_lasts : Lasts c (c.submitAdd now).console := by
  unfold submitAdd
  split
  · have closed : Lasts c c.cancelAdd := ⟨rfl, rfl⟩
    exact closed.trans (run_lasts c.cancelAdd now _)
  · exact ⟨rfl, rfl⟩

theorem save_lasts : Lasts c (c.save now).console := by
  unfold save
  split <;> exact ⟨rfl, rfl⟩

theorem goBack_lasts : Lasts c c.goBack := by
  unfold goBack
  split
  · exact ⟨rfl, rfl⟩
  · split <;> exact ⟨rfl, rfl⟩

theorem pressInFilter_lasts : Lasts c (c.pressInFilter press) := by
  obtain ⟨filter, mode, selected, typed⟩ := pressInFilter_eq c press
  rw [typed]
  exact ⟨rfl, rfl⟩

theorem pressInPrompt_lasts : Lasts c (c.pressInPrompt press now).console := by
  by_cases submits : press.key = .enter
  · rw [pressInPrompt, submits]
    exact submitAdd_lasts c now
  · obtain ⟨input, mode, typed⟩ := pressInPrompt_eq c press now submits
    rw [typed]
    exact ⟨rfl, rfl⟩

theorem pressCharacter_lasts {typed : Char} {control : Bool}
    (other : ¬ (typed = 'q' ∨ typed = 'c' ∧ control = true)) :
    Lasts c (c.pressCharacter typed control now).console := by
  unfold pressCharacter
  split
  case h_1 => exact absurd (.inl rfl) other
  case h_2 =>
    split
    · rename_i held
      exact absurd (.inr ⟨rfl, held⟩) other
    · split <;> exact ⟨rfl, rfl⟩
  all_goals first
    | exact ⟨rfl, rfl⟩
    | exact toggleSelected_lasts c now
    | exact run_lasts c now _
    | exact save_lasts c now

variable {c press now}

theorem pressCommand_lasts (other : ¬ press.IsQuit) :
    Lasts c (c.pressCommand press now).console := by
  obtain ⟨key, control, shift, alt⟩ := press
  cases key with
  | character typed =>
      apply pressCharacter_lasts c now
      simpa [KeyPress.IsQuit] using other
  | enter => exact toggleSelected_lasts c now
  | escape | backspace => exact goBack_lasts c
  | _ => exact ⟨rfl, rfl⟩

theorem pressCommand_of_isQuit (quit : press.IsQuit) :
    c.pressCommand press now = ⟨c.quit, none, none⟩ := by
  obtain ⟨key, control, shift, alt⟩ := press
  rcases quit with rfl | ⟨rfl, rfl⟩ <;> rfl

theorem strike_of_quits (h : Quits c press) (saving : Except String Unit) :
    c.strike press saving now = ⟨c.quit, none, none⟩ := by
  obtain ⟨closed, mode, quit⟩ := h
  apply strike_of_press
  rw [press_command closed mode, pressCommand_of_isQuit quit]

theorem press_lasts (h : ¬ Quits c press) : Lasts c (c.press press now).console := by
  cases help : c.showsHelp with
  | true =>
      rw [press_help help]
      exact ⟨rfl, rfl⟩
  | false =>
      cases mode : c.mode with
      | filter =>
          rw [press_filter help mode]
          exact pressInFilter_lasts c press
      | add =>
          rw [press_prompt help mode]
          exact pressInPrompt_lasts c press now
      | normal =>
          rw [press_command help mode]
          exact pressCommand_lasts fun quit => h ⟨help, mode, quit⟩

theorem strike_lasts (h : ¬ Quits c press) (saving : Except String Unit) :
    Lasts c (c.strike press saving now).console := by
  have pressed : Lasts c (c.press press now).console := press_lasts h
  unfold strike
  dsimp only
  split
  · exact pressed.trans ⟨rfl, rfl⟩
  · exact pressed

/-! ## The mouse and arrivals -/

theorem mouse_lasts (c : Console) (event : MouseEvent) (tableHeader : Nat) :
    Lasts c (c.mouse event tableHeader) := by
  unfold mouse
  split
  · exact ⟨rfl, rfl⟩
  · exact ⟨rfl, rfl⟩
  · unfold click clickRow clickTab
    dsimp only
    repeat' split
    all_goals exact ⟨rfl, rfl⟩
  · exact goBack_lasts c
  · exact .refl c

theorem drain_lasts (c : Console) (arrivals : Dashboard.History) : Lasts c (c.drain arrivals) := by
  induction arrivals generalizing c with
  | nil => exact .refl c
  | cons arrival arrivals ih =>
      obtain ⟨selected, posted, taken⟩ := take_eq_clamp c arrival.1 arrival.2
      have first : Lasts c (c.take arrival.1 arrival.2) := by
        rw [taken]
        exact ⟨rfl, rfl⟩
      exact first.trans (ih _)

end Console

end FleetWatch
