import FleetWatch.Proofs.Console.Lasting
import FleetWatch.Proofs.Text.Blanks

/-! # A line typed into the prompt

The prompt takes one line. Every character key goes to its end there, also those that are commands
elsewhere, so that what is submitted is what was typed. Main statement: the line is sent as a
request exactly if it is a name and a URL of HTTP with blanks between them, and stays in the prompt
otherwise.
-/

namespace FleetWatch

open Text

/-! ## Lines that ask for a cluster -/

/-- The line is the name and the URL of a request, with blanks between them and maybe around. -/
structure AddRequest.WrittenIn (line : List Char) (request : AddRequest) : Prop where
  parted : ∃ front between back,
    line = front ++ request.name.toList ++ between ++ request.url.toList ++ back ∧
      IsBlanks front ∧ between ≠ [] ∧ IsBlanks between ∧ IsBlanks back
  name : IsWord request.name.toList
  url : IsWord request.url.toList
  scheme : "http://".toList <+: request.url.toList ∨ "https://".toList <+: request.url.toList
  enabled : request.enabled = true

theorem laid_pair_iff {line name url : List Char} :
    Laid [name, url] line ↔ IsWord name ∧ IsWord url ∧ ∃ front between back,
      line = front ++ name ++ between ++ url ++ back ∧ IsBlanks front ∧ between ≠ [] ∧
        IsBlanks between ∧ IsBlanks back := by
  constructor
  · intro laid
    cases laid with
    | @cons front _ rest _ blanks isName ends others =>
        cases others with
        | @cons between _ back _ blanks' isUrl ends' others' =>
            cases others' with
            | nil blanks'' =>
                have parted : between ≠ [] := by
                  rintro rfl
                  -- Without blanks the name would go on with the URL.
                  obtain ⟨first, others, rfl⟩ := List.exists_cons_of_ne_nil isUrl.filled
                  have blank : isBlank first = true := ends first rfl
                  rw [isUrl.whole first List.mem_cons_self] at blank
                  cases blank
                exact ⟨isName, isUrl, front, between, back, by simp, blanks, parted, blanks',
                  blanks''⟩
  · rintro ⟨isName, isUrl, front, between, back, rfl, blanks, parted, blanks', blanks''⟩
    obtain ⟨first, others, rfl⟩ := List.exists_cons_of_ne_nil parted
    have ends : Closes (first :: others ++ url ++ back) := by
      simpa [Closes] using blanks' first List.mem_cons_self
    have ends' : Closes back := fun c head => blanks'' c (List.mem_of_mem_head? head)
    have laid := Laid.cons blanks isName ends (.cons blanks' isUrl ends' (.nil blanks''))
    simpa using laid

theorem AddRequest.parse?_eq_some_iff {line : List Char} {request : AddRequest} :
    parse? line = some request ↔ request.WrittenIn line := by
  obtain ⟨name, url, enabled⟩ := request
  constructor
  · intro read
    unfold parse? at read
    split at read
    · rename_i name' url' found
      split at read
      · rename_i scheme
        cases read
        obtain ⟨isName, isUrl, parted⟩ := laid_pair_iff.mp (words_eq_iff.mp found)
        constructor <;> simp_all [schemes]
      · cases read
    · cases read
  · rintro ⟨parted, isName, isUrl, scheme, rfl⟩
    have found : words line = [name.toList, url.toList] :=
      words_eq_iff.mpr (laid_pair_iff.mpr ⟨isName, isUrl, parted⟩)
    have known : schemes.any (·.isPrefixOf url.toList) = true := by simpa [schemes] using scheme
    simp [parse?, found, known]

/-! ## Keys one after the other -/

/-- A key that is struck at some time, and how saving ends if it saves. -/
structure Stroke where
  press : KeyPress
  saving : Except String Unit
  now : Moment

namespace Console

def strikeAll (c : Console) : List Stroke → Console × List SourceRequest
  | [] => (c, [])
  | stroke :: more =>
    let reaction := c.strike stroke.press stroke.saving stroke.now
    let last := reaction.console.strikeAll more
    (last.1, reaction.request.toList ++ last.2)

theorem strikeAll_append (c : Console) (strokes more : List Stroke) :
    c.strikeAll (strokes ++ more) =
      (((c.strikeAll strokes).1.strikeAll more).1,
        (c.strikeAll strokes).2 ++ ((c.strikeAll strokes).1.strikeAll more).2) := by
  induction strokes generalizing c with
  | nil => rfl
  | cons stroke strokes ih => simp [strikeAll, ih]

/-- A character key without modifiers. -/
def plain (typed : Char) : KeyPress := { key := .character typed }

theorem run_of_idle {c : Console} (idle : c.dashboard.isUpdating = false) (command : Command)
    (now : Moment) :
    c.run command now =
      ⟨{ c with dashboard := { c.dashboard with isUpdating := true } }, some (.dispatch command),
        none⟩ := by
  simp [run, Dashboard.begin?, idle]

section Prompt

variable {c : Console} (closed : c.showsHelp = false) (mode : c.mode = .add)
include closed mode

theorem strike_plain (typed : Char) (saving : Except String Unit) (now : Moment) :
    c.strike (plain typed) saving now = ⟨{ c with input := c.input ++ [typed] }, none, none⟩ := by
  apply strike_of_press
  rw [press_prompt closed mode]
  simp [pressInPrompt, plain]

theorem strike_backspace {press : KeyPress} (key : press.key = .backspace)
    (saving : Except String Unit) (now : Moment) :
    c.strike press saving now = ⟨{ c with input := c.input.dropLast }, none, none⟩ := by
  apply strike_of_press
  rw [press_prompt closed mode]
  simp [pressInPrompt, key]

theorem press_enter {press : KeyPress} (key : press.key = .enter) (now : Moment) :
    c.press press now = c.submitAdd now := by
  rw [press_prompt closed mode, pressInPrompt, key]

theorem strike_enter_of_some (idle : c.dashboard.isUpdating = false) {press : KeyPress}
    (key : press.key = .enter) {request : AddRequest}
    (read : AddRequest.parse? c.input = some request) (saving : Except String Unit)
    (now : Moment) :
    c.strike press saving now =
      ⟨{ c.cancelAdd with dashboard := { c.dashboard with isUpdating := true } },
        some (.dispatch (.add request)), none⟩ := by
  apply strike_of_press
  have stillIdle : c.cancelAdd.dashboard.isUpdating = false := idle
  rw [press_enter closed mode key, submitAdd, read]
  exact run_of_idle stillIdle (.add request) now

theorem strike_enter_of_none {press : KeyPress} (key : press.key = .enter)
    (unread : AddRequest.parse? c.input = none) (saving : Except String Unit) (now : Moment) :
    c.strike press saving now = ⟨c.post ⟨.error, "usage: <name> <url>"⟩ now, none, none⟩ := by
  apply strike_of_press
  rw [press_enter closed mode key, submitAdd, unread]

/-- Characters go to the end of the line, whatever they mean elsewhere. -/
theorem strikeAll_plain {line : List Char} {strokes : List Stroke}
    (keys : strokes.map Stroke.press = line.map plain) :
    c.strikeAll strokes = ({ c with input := c.input ++ line }, []) := by
  induction line generalizing c strokes with
  | nil =>
      obtain rfl := List.map_eq_nil_iff.mp keys
      simp [strikeAll]
  | cons typed line ih =>
      obtain ⟨stroke, more, rfl, first, others⟩ := List.map_eq_cons_iff.mp keys
      have rest := ih (c := { c with input := c.input ++ [typed] }) closed mode others
      simp [strikeAll, first, strike_plain closed mode, rest]

end Prompt

section Command

variable {c : Console} (closed : c.showsHelp = false) (mode : c.mode = .normal)
include closed mode

theorem strikeAll_opening {line : List Char} {strokes : List Stroke}
    (keys : strokes.map Stroke.press = plain 'a' :: line.map plain) :
    c.strikeAll strokes = ({ c with input := line, mode := .add }, []) := by
  obtain ⟨stroke, more, rfl, first, others⟩ := List.map_eq_cons_iff.mp keys
  have opened : c.strike (plain 'a') stroke.saving stroke.now = ⟨c.startAdd, none, none⟩ := by
    apply strike_of_press
    rw [press_command closed mode]
    rfl
  have typed := strikeAll_plain (c := c.startAdd) closed rfl others
  rw [strikeAll, first, opened, typed]
  rfl

section Submit

variable {line : List Char} {strokes : List Stroke}
  (keys : strokes.map Stroke.press = plain 'a' :: (line.map plain ++ [{ key := .enter }]))
include keys

theorem exists_opening : ∃ opening enter, strokes = opening ++ [enter] ∧
    enter.press.key = .enter ∧
      c.strikeAll opening = ({ c with input := line, mode := .add }, []) := by
  rw [← List.cons_append, List.map_eq_append_iff] at keys
  obtain ⟨opening, ending, rfl, opens, ends⟩ := keys
  obtain ⟨enter, rfl, submits⟩ := List.map_eq_singleton_iff.mp ends
  exact ⟨opening, enter, rfl, by rw [submits], strikeAll_opening closed mode opens⟩

theorem strikeAll_of_some (idle : c.dashboard.isUpdating = false) {request : AddRequest}
    (read : AddRequest.parse? line = some request) :
    c.strikeAll strokes =
      ({ c with
          input := [], mode := .normal, dashboard := { c.dashboard with isUpdating := true } },
        [.dispatch (.add request)]) := by
  obtain ⟨opening, enter, rfl, key, opened⟩ := exists_opening closed mode keys
  have sent := strike_enter_of_some (c := { c with input := line, mode := .add }) closed rfl idle
    key read enter.saving enter.now
  rw [strikeAll_append, opened]
  simp only [strikeAll, sent]
  rfl

theorem strikeAll_of_none (unread : AddRequest.parse? line = none) :
    ∃ posted, c.strikeAll strokes =
      ({ c with input := line, mode := .add, posted := posted }, []) := by
  obtain ⟨opening, enter, rfl, key, opened⟩ := exists_opening closed mode keys
  have kept := strike_enter_of_none (c := { c with input := line, mode := .add }) closed rfl key
    unread enter.saving enter.now
  rw [strikeAll_append, opened]
  simp only [strikeAll, kept]
  exact ⟨_, rfl⟩

end Submit

theorem strikeAll_deleted {line : List Char} {opening : List Stroke} {typing deleting : Stroke}
    {typed : Char} (opens : opening.map Stroke.press = plain 'a' :: line.map plain)
    (types : typing.press = plain typed) (deletes : deleting.press.key = .backspace) :
    c.strikeAll (opening ++ [typing, deleting]) = c.strikeAll opening := by
  have opened := strikeAll_opening closed mode opens
  have longer := strike_plain (c := { c with input := line, mode := .add }) closed rfl typed
    typing.saving typing.now
  have shorter := strike_backspace (c := { c with input := line ++ [typed], mode := .add }) closed
    rfl deletes deleting.saving deleting.now
  rw [strikeAll_append, opened]
  simp [strikeAll, types, longer, shorter]

/-- A line that is typed into the prompt and submitted is sent exactly if it is a request, and then
as the one request that it is; any other line stays in the prompt, and nothing is sent. A character
that is deleted right after it was typed leaves no trace. -/
theorem typed_line_sent_iff (idle : c.dashboard.isUpdating = false) (line : List Char) :
    (∀ strokes : List Stroke,
      strokes.map Stroke.press = plain 'a' :: (line.map plain ++ [{ key := .enter }]) →
      let last := (c.strikeAll strokes).1
      let asked := (c.strikeAll strokes).2
      (∀ request : AddRequest,
        asked = [.dispatch (.add request)] ∧ last.mode = .normal ∧ last.input = [] ↔
          request.WrittenIn line) ∧
      ((∀ request : AddRequest, ¬ request.WrittenIn line) →
        asked = [] ∧ last.mode = .add ∧ last.input = line)) ∧
    (∀ (opening : List Stroke) (typing deleting : Stroke) (typed : Char),
      opening.map Stroke.press = plain 'a' :: line.map plain →
      typing.press = plain typed → deleting.press.key = .backspace →
      (c.strikeAll opening).1.input = line ∧
        (c.strikeAll (opening ++ [typing])).1.input = line ++ [typed] ∧
        c.strikeAll (opening ++ [typing, deleting]) = c.strikeAll opening) := by
  constructor
  · intro strokes keys last asked
    cases read : AddRequest.parse? line with
    | some request =>
        have sent := strikeAll_of_some closed mode keys idle read
        have written := AddRequest.parse?_eq_some_iff.mp read
        refine ⟨?_, fun unwritten => absurd written (unwritten request)⟩
        intro other
        rw [← AddRequest.parse?_eq_some_iff, read]
        simp [last, asked, sent]
    | none =>
        obtain ⟨posted, kept⟩ := strikeAll_of_none closed mode keys read
        refine ⟨?_, fun _ => by simp [last, asked, kept]⟩
        intro other
        rw [← AddRequest.parse?_eq_some_iff, read]
        simp [last, asked, kept]
  · intro opening typing deleting typed opens types deletes
    have opened := strikeAll_opening closed mode opens
    have longer := strike_plain (c := { c with input := line, mode := .add }) closed rfl typed
      typing.saving typing.now
    refine ⟨by rw [opened], ?_, strikeAll_deleted closed mode opens types deletes⟩
    rw [strikeAll_append, opened]
    simp [strikeAll, types, longer]

end Command

/-- Keys struck at one time. -/
def atOnce (presses : List KeyPress) : List Stroke :=
  presses.map fun press => ⟨press, .ok (), default⟩

theorem map_press_atOnce (presses : List KeyPress) :
    (atOnce presses).map Stroke.press = presses := by
  rw [atOnce, List.map_map]
  exact List.map_id presses

/-- The keys of a line in the prompt, up to the one that submits it. -/
def entered (line : List Char) : List Stroke :=
  atOnce (plain 'a' :: (line.map plain ++ [{ key := .enter }]))

/-- Names and URLs are parted by any blanks, and keys that are commands elsewhere are characters of
a line, which is no request if its second word is no URL. -/
theorem etl_line_sent :
    let c := start default
    let etl : AddRequest := ⟨"etl", "https://etl:8080", true⟩
    let line := " etl\u3000\thttps://etl:8080".toList
    let other := "q d".toList
    etl.WrittenIn line ∧ (c.strikeAll (entered line)).2 = [.dispatch (.add etl)] ∧
      (c.strikeAll (entered line)).1.mode = .normal ∧ (c.strikeAll (entered line)).1.input = [] ∧
      (∀ request : AddRequest, ¬ request.WrittenIn other) ∧ (c.strikeAll (entered other)).2 = [] ∧
      (c.strikeAll (entered other)).1.mode = .add ∧
      (c.strikeAll (entered other)).1.input = other ∧
      c.strikeAll (atOnce [plain 'a'] ++ [⟨plain 'c', .ok (), default⟩,
        ⟨{ key := .backspace }, .ok (), default⟩]) = c.strikeAll (atOnce [plain 'a']) := by
  intro c etl line other
  have written : etl.WrittenIn line := AddRequest.parse?_eq_some_iff.mp (by decide)
  have unread : AddRequest.parse? other = none := by decide
  have unwritten : ∀ request : AddRequest, ¬ request.WrittenIn other := by
    intro request isWritten
    rw [← AddRequest.parse?_eq_some_iff, unread] at isWritten
    cases isWritten
  clear_value line other
  have requested := (typed_line_sent_iff (c := c) rfl rfl rfl line).1 (entered line)
    (map_press_atOnce _)
  obtain ⟨asked, closed, empty⟩ := (requested.1 etl).mpr written
  have refused := (typed_line_sent_iff (c := c) rfl rfl rfl other).1 (entered other)
    (map_press_atOnce _)
  obtain ⟨nothing, still, held⟩ := refused.2 unwritten
  have deleted := ((typed_line_sent_iff (c := c) rfl rfl rfl []).2 (atOnce [plain 'a'])
    ⟨plain 'c', .ok (), default⟩ ⟨{ key := .backspace }, .ok (), default⟩ 'c' rfl rfl rfl).2.2
  exact ⟨written, asked, closed, empty, unwritten, nothing, still, held, deleted⟩

end Console

end FleetWatch
