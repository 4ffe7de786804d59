import FleetWatch.Proofs.Console.Heard

/-! # Refused commands

While a command is under way every other one is refused. Refusing posts a notice and changes nothing
else, but the prompt is closed before its request is tried: what was typed there is gone by the time
the request is refused.
-/

namespace FleetWatch.Console

/-- Nothing is asked for, and of the console only the notice changes. -/
def refusal (c : Console) (now : Moment) : Reaction :=
  ⟨{ c with posted := some (⟨.info, "busy: waiting for the previous update"⟩, now.steady) }, none,
    none⟩

variable {c c' : Console}

theorem run_of_isUpdating (busy : c.dashboard.isUpdating = true) (command : Command)
    (now : Moment) : c.run command now = c.refusal now := by
  have refused : c.dashboard.begin? = none := if_pos busy
  rw [run, refused]
  rfl

theorem toggleSelected_of_isUpdating (busy : c.dashboard.isUpdating = true) (now : Moment) :
    c.toggleSelected now = if c.selected?.isSome then c.refusal now else ⟨c, none, none⟩ := by
  unfold toggleSelected
  cases c.selected? with
  | none => rfl
  | some cluster => exact run_of_isUpdating busy _ now

theorem submitAdd_of_isUpdating (busy : c.dashboard.isUpdating = true) {request : AddRequest}
    (parsed : AddRequest.parse? c.input = some request) (now : Moment) :
    c.submitAdd now = c.cancelAdd.refusal now := by
  have closed : c.cancelAdd.dashboard.isUpdating = true := busy
  rw [submitAdd, parsed]
  exact run_of_isUpdating closed _ now

theorem input_ne_nil_of_parse? {input : List Char} {request : AddRequest}
    (parsed : AddRequest.parse? input = some request) : input ≠ [] := by
  rintro rfl
  cases parsed

/-! ## Until the command has come to its end -/

theorem Effect.of_isUpdating (busy : c.dashboard.isUpdating = true) {reaction : Reaction}
    (effect : Effect c reaction) :
    reaction.console.dashboard = c.dashboard ∧
      (reaction.request = none ∨ reaction.request = some .refresh) := by
  cases effect with
  | quiet change => exact ⟨change.dashboard, .inl rfl⟩
  | refresh => exact ⟨rfl, .inr rfl⟩
  | give change idle command =>
      rw [change.dashboard, busy] at idle
      cases idle

theorem Hears.dashboard_of_isUpdating (busy : c.dashboard.isUpdating = true)
    (h : Hears c [] c') : c'.dashboard = c.dashboard := by
  cases h with
  | key press saving now => exact ((strike_effect c press saving now).of_isUpdating busy).1
  | mouse event tableHeader => exact (mouse_quiet c event tableHeader).dashboard
  | reload => rfl
  | draw => rfl

/-- As long as no event comes in, nothing that the operator does gets past the command. -/
theorem dashboard_of_run {heard : List Dashboard.History} (run : Run Hears c heard c')
    (busy : c.dashboard.isUpdating = true) (silent : heard.flatten = []) :
    c'.dashboard = c.dashboard := by
  induction run with
  | refl => rfl
  | @step heard arrivals b c' run step ih =>
      rw [List.flatten_append, List.append_eq_nil_iff, List.flatten_singleton] at silent
      obtain ⟨before, rfl⟩ := silent
      have same := ih before
      rw [← same] at busy
      exact (step.dashboard_of_isUpdating busy).trans same

/-! ## The three ways to give a command -/

/-- While a command is under way, a discovery is refused, the selected cluster is not toggled, and a
request that was typed is refused as well. The first two leave all but the notice as it was. The
third closes the prompt, which held something, and empties it. -/
theorem commands_refused (c : Console) (now : Moment) (busy : c.dashboard.isUpdating = true) :
    c.run .discover now = c.refusal now ∧
      c.toggleSelected now = (if c.selected?.isSome then c.refusal now else ⟨c, none, none⟩) ∧
      (∀ request, AddRequest.parse? c.input = some request →
        c.input ≠ [] ∧
          c.submitAdd now = refusal { c with input := [], mode := .normal } now) ∧
      (∀ press saving,
        (c.strike press saving now).console.dashboard = c.dashboard ∧
          ((c.strike press saving now).request = none ∨
            (c.strike press saving now).request = some .refresh)) := by
  refine ⟨run_of_isUpdating busy .discover now, toggleSelected_of_isUpdating busy now,
    fun request parsed => ?_, fun press saving => ?_⟩
  · exact ⟨input_ne_nil_of_parse? parsed, submitAdd_of_isUpdating busy parsed now⟩
  · exact (strike_effect c press saving now).of_isUpdating busy

/-- A discovery is under way and the prompt is open, with something in it or nothing. -/
def discovering (typed : String) : Console :=
  { ((Console.start ⟨"test", none⟩).run .discover default).console.startAdd with
    input := typed.toList }

theorem discovering_refuses_etl :
    (discovering "etl http://etl:8080").run .discover default =
        (discovering "etl http://etl:8080").refusal default ∧
      (discovering "etl http://etl:8080").submitAdd default =
        refusal { discovering "" with mode := .normal } default := by
  have refused := commands_refused (discovering "etl http://etl:8080") default rfl
  have parsed : AddRequest.parse? (discovering "etl http://etl:8080").input =
      some ⟨"etl", "http://etl:8080", true⟩ := by
    decide
  exact ⟨refused.1, (refused.2.2.1 _ parsed).2⟩

/-- A refused request does not leave all but the notice as it was: the prompt is closed, and empty
when it is opened again. -/
theorem prompt_of_etl_lost :
    (discovering "etl http://etl:8080").dashboard.isUpdating = true ∧
      (∃ request, AddRequest.parse? (discovering "etl http://etl:8080").input = some request) ∧
      ¬ ∃ posted, (discovering "etl http://etl:8080").submitAdd default =
        ⟨{ discovering "etl http://etl:8080" with posted := posted }, none, none⟩ := by
  refine ⟨rfl, ⟨⟨"etl", "http://etl:8080", true⟩, by decide⟩, ?_⟩
  rintro ⟨posted, kept⟩
  have closed : InputMode.normal = InputMode.add :=
    congrArg (fun reaction => reaction.console.mode) kept
  cases closed

end FleetWatch.Console
