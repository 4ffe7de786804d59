import FleetWatch.Proofs.Console.Lasting

/-! # Keys in their modes

Under the help box, in the filter and in the prompt no key is a command. There a key reaches the few
fields of its mode and nothing else, short of the one that submits the prompt. A console that has
been quit stays so, whatever is done with it.
-/

namespace FleetWatch.Console

/-! ## Running -/

/-- One thing that can be done with a console, by its operator or by the program around it. -/
inductive Operation where
  | strike (press : KeyPress) (saving : Except String Unit)
  | mouse (event : MouseEvent) (tableHeader : Nat)
  | drain (arrivals : Dashboard.History)
  | scrollTo (row : Nat)
  | post (notice : Notice)
  | run (command : Command)
  | toggleSelected
  | showView (view : View)
  | nextView
  | selectNext (n : Nat)
  | selectPrevious (n : Nat)
  | selectFirst
  | selectLast
  | toggleHelp
  | startFilter
  | clearFilter
  | pushFilter (typed : Char)
  | popFilter
  | startAdd
  | cancelAdd
  | submitAdd
  | goBack
  | save
  | quit

def after (c : Console) (now : Moment) : Operation → Console
  | .strike press saving => (c.strike press saving now).console
  | .mouse event tableHeader => c.mouse event tableHeader
  | .drain arrivals => c.drain arrivals
  | .scrollTo row => { c with scroll := row }
  | .post notice => c.post notice now
  | .run command => (c.run command now).console
  | .toggleSelected => (c.toggleSelected now).console
  | .showView view => c.showView view
  | .nextView => c.nextView
  | .selectNext n => c.selectNext n
  | .selectPrevious n => c.selectPrevious n
  | .selectFirst => c.selectFirst
  | .selectLast => c.selectLast
  | .toggleHelp => c.toggleHelp
  | .startFilter => c.startFilter
  | .clearFilter => c.clearFilter
  | .pushFilter typed => c.pushFilter typed
  | .popFilter => c.popFilter
  | .startAdd => c.startAdd
  | .cancelAdd => c.cancelAdd
  | .submitAdd => (c.submitAdd now).console
  | .goBack => c.goBack
  | .save => (c.save now).console
  | .quit => c.quit

/-- The console after several operations, each at its own time. -/
def afterAll (c : Console) (operations : List (Operation × Moment)) : Console :=
  operations.foldl (fun c (operation, now) => c.after now operation) c

theorem strike_isRunning (c : Console) (press : KeyPress) (saving : Except String Unit)
    (now : Moment) :
    (c.strike press saving now).console.isRunning = false ↔
      c.isRunning = false ∨ Quits c press := by
  by_cases quits : Quits c press
  · rw [strike_of_quits quits]
    exact ⟨fun _ => .inr quits, fun _ => rfl⟩
  · rw [(strike_lasts quits saving).isRunning, or_iff_left quits]

theorem after_isRunning {c : Console} {now : Moment} {operation : Operation}
    (running : (c.after now operation).isRunning = true) : c.isRunning = true := by
  cases operation with
  | strike press saving =>
      cases ended : c.isRunning with
      | true => rfl
      | false =>
          have stopped := (strike_isRunning c press saving now).mpr (.inl ended)
          exact absurd (stopped.symm.trans running) Bool.false_ne_true
  | mouse event tableHeader => exact (mouse_lasts c event tableHeader).isRunning ▸ running
  | drain arrivals => exact (drain_lasts c arrivals).isRunning ▸ running
  | run command => exact (run_lasts c now command).isRunning ▸ running
  | toggleSelected => exact (toggleSelected_lasts c now).isRunning ▸ running
  | submitAdd => exact (submitAdd_lasts c now).isRunning ▸ running
  | goBack => exact (goBack_lasts c).isRunning ▸ running
  | save => exact (save_lasts c now).isRunning ▸ running
  | quit => exact absurd running Bool.false_ne_true
  | _ => exact running

theorem afterAll_isRunning {c : Console} {operations : List (Operation × Moment)}
    (running : (c.afterAll operations).isRunning = true) : c.isRunning = true := by
  induction operations generalizing c with
  | nil => exact running
  | cons operation operations ih => exact after_isRunning (ih running)

/-! ## All modes -/

/-- What a key can reach. Under the help box it only closes the box. In the filter it reaches what
is typed there, the mode and the selection, and in the prompt what is typed there and the mode,
unless it submits the prompt. It ends the console where it is a command that does so, and no
operation lets a console that has ended run again. -/
theorem strike_within_mode (c : Console) (press : KeyPress) (saving : Except String Unit)
    (now : Moment) :
    (c.showsHelp = true →
      c.strike press saving now = ⟨{ c with showsHelp := false }, none, none⟩) ∧
    (c.showsHelp = false → c.mode = .filter → ∃ filter mode selected,
      c.strike press saving now =
        ⟨{ c with filter := filter, mode := mode, selected := selected }, none, none⟩) ∧
    (c.showsHelp = false → c.mode = .add → press.key ≠ .enter → ∃ input mode,
      c.strike press saving now = ⟨{ c with input := input, mode := mode }, none, none⟩) ∧
    ((c.strike press saving now).console.isRunning = false ↔
      c.isRunning = false ∨ Quits c press) ∧
    (∀ operations : List (Operation × Moment),
      (c.afterAll operations).isRunning = true → c.isRunning = true) := by
  refine ⟨?help, ?filter, ?prompt, strike_isRunning c press saving now, ?lasting⟩
  case help =>
    intro shown
    exact strike_of_press (press_help shown) saving
  case filter =>
    intro closed mode
    obtain ⟨filter, next, selected, typed⟩ := pressInFilter_eq c press
    refine ⟨filter, next, selected, strike_of_press ?_ saving⟩
    rw [press_filter closed mode, typed]
  case prompt =>
    intro closed mode other
    obtain ⟨input, next, typed⟩ := pressInPrompt_eq c press now other
    refine ⟨input, next, strike_of_press ?_ saving⟩
    rw [press_prompt closed mode, typed]
  case lasting =>
    intro operations
    exact afterAll_isRunning

theorem strike_q_in_each_mode :
    let c := Console.start ⟨"test", none⟩
    let q : KeyPress := { key := .character 'q' }
    let now : Moment := ⟨⟨0, 0⟩, 0⟩
    c.toggleHelp.strike q (.ok ()) now = ⟨c, none, none⟩ ∧
      (∃ filter mode selected, c.startFilter.strike q (.ok ()) now =
        ⟨{ c with filter := filter, mode := mode, selected := selected }, none, none⟩) ∧
      (∃ input mode, c.startAdd.strike q (.ok ()) now =
        ⟨{ c with input := input, mode := mode }, none, none⟩) ∧
      (c.strike q (.ok ()) now).console.isRunning = false ∧
      ¬ (c.quit.afterAll [(.startFilter, now), (.goBack, now)]).isRunning = true := by
  intro c q now
  have inHelp := strike_within_mode c.toggleHelp q (.ok ()) now
  have inFilter := strike_within_mode c.startFilter q (.ok ()) now
  have inPrompt := strike_within_mode c.startAdd q (.ok ()) now
  have commanding := strike_within_mode c q (.ok ()) now
  have ended := strike_within_mode c.quit q (.ok ()) now
  refine ⟨inHelp.1 rfl, inFilter.2.1 rfl rfl, inPrompt.2.2.1 rfl rfl nofun,
    commanding.2.2.2.1.mpr (.inr ⟨rfl, rfl, .inl rfl⟩), fun running => ?_⟩
  exact Bool.false_ne_true (ended.2.2.2.2 _ running)

end FleetWatch.Console
