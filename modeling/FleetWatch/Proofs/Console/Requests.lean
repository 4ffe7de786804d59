import FleetWatch.Proofs.Console.Actions

/-! # What keys ask of the source

Of all keys only five ask for anything, and each of them only where it is meant as a command: not
while the help box is open, not while it is typed into something, and, if it changes the fleet, not
while a command is under way. The table of keys is gone through once, down to the actions that may
ask; what these ask is stated beside them.
-/

namespace FleetWatch.Console

/-- What a key asks of the source, and when it does. -/
inductive Asks (c : Console) (press : KeyPress) : SourceRequest → Prop where
  | refresh (closed : c.showsHelp = false) (mode : c.mode = .normal)
      (key : press.key = .character 'r') : Asks c press .refresh
  | toggle {cluster : Cluster} (closed : c.showsHelp = false) (mode : c.mode = .normal)
      (key : press.key = .character ' ' ∨ press.key = .enter)
      (idle : c.dashboard.isUpdating = false)
      (selected : c.visible[c.selected]? = some cluster) :
      Asks c press (.dispatch (.setEnabled cluster.name !cluster.enabled))
  | discover (closed : c.showsHelp = false) (mode : c.mode = .normal)
      (key : press.key = .character 'd') (idle : c.dashboard.isUpdating = false) :
      Asks c press (.dispatch .discover)
  | add {request : AddRequest} (closed : c.showsHelp = false) (mode : c.mode = .add)
      (key : press.key = .enter) (idle : c.dashboard.isUpdating = false)
      (parsed : AddRequest.parse? c.input = some request) :
      Asks c press (.dispatch (.add request))

variable {c : Console} {press : KeyPress} {now : Moment} {request : SourceRequest}

/-! ## Actions that may ask -/

theorem run_request_iff {command : Command} :
    (c.run command now).request = some request ↔
      c.dashboard.isUpdating = false ∧ request = .dispatch command := by
  cases busy : c.dashboard.isUpdating with
  | false => simp [run, Dashboard.begin?, busy, eq_comm]
  | true => simp [run, Dashboard.begin?, busy]

theorem toggleSelected_request_iff :
    (c.toggleSelected now).request = some request ↔
      ∃ cluster, c.visible[c.selected]? = some cluster ∧ c.dashboard.isUpdating = false ∧
        request = .dispatch (.setEnabled cluster.name !cluster.enabled) := by
  cases row : c.visible[c.selected]? with
  | none => simp [toggleSelected, selected?, row]
  | some cluster => simp [toggleSelected, selected?, row, run_request_iff]

theorem submitAdd_request_iff :
    (c.submitAdd now).request = some request ↔
      ∃ added, AddRequest.parse? c.input = some added ∧ c.dashboard.isUpdating = false ∧
        request = .dispatch (.add added) := by
  cases parsed : AddRequest.parse? c.input with
  | none => simp [submitAdd, parsed]
  | some added => simp [submitAdd, parsed, run_request_iff, cancelAdd]

theorem save_request : (c.save now).request = none := by
  unfold save
  split <;> rfl

/-! ## Keys -/

theorem pressCharacter_request_iff {typed : Char} {control : Bool} :
    (c.pressCharacter typed control now).request = some request ↔
      (typed = 'r' ∧ request = .refresh) ∨
        (typed = ' ' ∧ (c.toggleSelected now).request = some request) ∨
        (typed = 'd' ∧ (c.run .discover now).request = some request) := by
  unfold pressCharacter
  split
  all_goals simp_all [save_request, eq_comm]

theorem pressCommand_request_iff :
    (c.pressCommand press now).request = some request ↔
      (press.key = .character 'r' ∧ request = .refresh) ∨
        ((press.key = .character ' ' ∨ press.key = .enter) ∧
          (c.toggleSelected now).request = some request) ∨
        (press.key = .character 'd' ∧ (c.run .discover now).request = some request) := by
  obtain ⟨key, control, shift, alt⟩ := press
  cases key with
  | character typed => simp [pressCommand, pressCharacter_request_iff]
  | _ => simp [pressCommand]

theorem pressInPrompt_request_iff :
    (c.pressInPrompt press now).request = some request ↔
      press.key = .enter ∧ (c.submitAdd now).request = some request := by
  unfold pressInPrompt
  split <;> simp_all

theorem press_request_iff :
    (c.press press now).request = some request ↔
      c.showsHelp = false ∧
        ((c.mode = .normal ∧ (c.pressCommand press now).request = some request) ∨
          (c.mode = .add ∧ (c.pressInPrompt press now).request = some request)) := by
  unfold Console.press
  split
  · simp_all
  · split <;> simp_all

theorem strike_request (saving : Except String Unit) :
    (c.strike press saving now).request = (c.press press now).request := by
  unfold strike
  dsimp only
  split <;> rfl

theorem press_request_iff_asks :
    (c.press press now).request = some request ↔ Asks c press request := by
  rw [press_request_iff, pressCommand_request_iff, pressInPrompt_request_iff,
    toggleSelected_request_iff, run_request_iff, submitAdd_request_iff]
  constructor
  · rintro ⟨closed, ⟨mode, key⟩ | ⟨mode, key, added, parsed, idle, rfl⟩⟩
    · obtain ⟨key, rfl⟩ | ⟨key, cluster, selected, idle, rfl⟩ | ⟨key, idle, rfl⟩ := key
      · exact .refresh closed mode key
      · exact .toggle closed mode key idle selected
      · exact .discover closed mode key idle
    · exact .add closed mode key idle parsed
  · intro asked
    cases asked with
    | refresh closed mode key => exact ⟨closed, .inl ⟨mode, .inl ⟨key, rfl⟩⟩⟩
    | toggle closed mode key idle selected =>
        exact ⟨closed, .inl ⟨mode, .inr (.inl ⟨key, _, selected, idle, rfl⟩)⟩⟩
    | discover closed mode key idle => exact ⟨closed, .inl ⟨mode, .inr (.inr ⟨key, idle, rfl⟩)⟩⟩
    | add closed mode key idle parsed => exact ⟨closed, .inr ⟨mode, key, _, parsed, idle, rfl⟩⟩

theorem Effect.begins_iff {reaction : Reaction} (h : Effect c reaction) :
    (c.dashboard.isUpdating = false ∧ reaction.console.dashboard.isUpdating = true) ↔
      ∃ command, reaction.request = some (.dispatch command) := by
  cases h with
  | quiet change => simp [change.dashboard]
  | refresh => simp
  | give change idle command => simpa [change.dashboard] using idle

/-- A key asks the source for exactly what the table of requests says, for nothing elsewhere, and a
command is under way from then on just when the key gives one. -/
theorem strike_asks_exactly (c : Console) (press : KeyPress) (saving : Except String Unit)
    (now : Moment) :
    (∀ request, (c.strike press saving now).request = some request ↔ Asks c press request) ∧
      ((c.strike press saving now).request = none ↔ ∀ request, ¬ Asks c press request) ∧
      ((c.dashboard.isUpdating = false ∧
          (c.strike press saving now).console.dashboard.isUpdating = true) ↔
        ∃ command, Asks c press (.dispatch command)) := by
  have asked : ∀ request, (c.strike press saving now).request = some request ↔
      Asks c press request := by
    intro request
    rw [strike_request, press_request_iff_asks]
  refine ⟨asked, ?_, ?_⟩
  · simp only [Option.eq_none_iff_forall_ne_some, ne_eq, asked]
  · simp only [(strike_effect c press saving now).begins_iff, asked]

end FleetWatch.Console
