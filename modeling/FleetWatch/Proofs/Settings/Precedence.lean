import FleetWatch.CommandLine
import FleetWatch.Proofs.Toml.Keys
import Mathlib.Data.List.TakeWhile

/-! # Which layer a setting comes from

Every setting is looked up by itself: on the command line, in the environment, in the file, and at
last among the defaults. What a layer holds for a setting is the text that stands there under its
name, since an entry that sets a place inside the setting makes it no text at all, and then there
are no settings. Those that there are have passed the checks twice, the second time as they are.
-/

namespace FleetWatch

namespace Settings

/-! ## Values by their keys -/

def value? (s : Settings) : SettingKey → Option String
  | .endpoint => some s.endpoint
  | .refreshInterval => some s.refreshInterval
  | .requestTimeout => some s.requestTimeout
  | .logFile => s.logFile

def Overrides.value? (o : Overrides) : SettingKey → Option String
  | .endpoint => o.endpoint
  | .refreshInterval => o.refreshInterval
  | .requestTimeout => o.requestTimeout
  | .logFile => o.logFile

/-- Whether a variable is for a setting: its name in lower case is the mark and the setting's name.
-/
def isFor (key : SettingKey) (v : String × String) : Bool :=
  Text.lower v.1.toList = variableMark.toList ++ key.name.toList

/-- What the environment says of a setting. -/
def inEnvironment? (environment : List (String × String)) (key : SettingKey) : Option String :=
  (environment.find? (isFor key)).map Prod.snd

/-- The value of a setting in a file as text. -/
def inFile? (file : Option String) (key : SettingKey) : Option String := do
  let entries ← Toml.read? (← file)
  (← entries.lookup key.name).scalarText?

/-! ## Entries of a layer -/

/-- The text that an entry is. -/
def Entry.text? : Entry → Option String
  | .scalar text => some text
  | .composite => none

theorem placed_name (key : SettingKey) (entry : Entry) :
    placed key.name entry = (key.name, entry) := by
  cases key <;> rfl

theorem placed_eq_scalar {name text : String} {entry : Entry} {key : SettingKey}
    (sets : placed name entry = (key.name, .scalar text)) :
    name = key.name ∧ entry = .scalar text := by
  unfold placed at sets
  dsimp only at sets
  split at sets
  · exact absurd (congrArg Prod.snd sets) (by simp)
  · exact Prod.mk.inj sets

variable {layer : Layer} {key : SettingKey} {entry : Entry}

theorem mem_of_get? (found : layer.get? key = some entry) : (key.name, entry) ∈ layer := by
  obtain ⟨⟨name, given⟩, last, rfl⟩ := Option.map_eq_some_iff.mp found
  have same : name = key.name := by simpa using List.find?_some last
  rw [← same]
  exact List.mem_reverse.mp (List.mem_of_find?_eq_some last)

theorem not_mem_of_get?_eq_none (nothing : layer.get? key = none) (entry : Entry) :
    (key.name, entry) ∉ layer := by
  intro listed
  have other := List.find?_eq_none.mp (Option.map_eq_none_iff.mp nothing) _
    (List.mem_reverse.mpr listed)
  simp at other

/-- A layer says of a setting what it says of it anywhere, as long as it says only one text. -/
theorem text?_get? {text? : Option String} (plain : layer.get? key ≠ some .composite)
    (one : ∀ text, (key.name, .scalar text) ∈ layer → text? = some text)
    (silent : (∀ text, (key.name, .scalar text) ∉ layer) → text? = none) :
    (layer.get? key).bind Entry.text? = text? := by
  cases found : layer.get? key with
  | none => exact (silent fun text => not_mem_of_get?_eq_none found _).symm
  | some entry =>
      cases entry with
      | scalar text => exact (one text (mem_of_get? found)).symm
      | composite => exact absurd found plain

/-! ## The environment and the file -/

theorem mem_ofEnvironment {environment : List (String × String)} {text : String} :
    (key.name, .scalar text) ∈ Layer.ofEnvironment environment ↔
      ∃ v ∈ environment, isFor key v = true ∧ v.2 = text := by
  rw [Layer.ofEnvironment, List.mem_filterMap]
  constructor
  · rintro ⟨⟨name, given⟩, listed, sets⟩
    dsimp only at sets
    split at sets
    · rename_i marked
      obtain ⟨rest, lower⟩ := List.isPrefixOf_iff_prefix.mp marked
      rw [← lower, List.drop_left] at sets
      obtain ⟨same, value⟩ := placed_eq_scalar (Option.some.inj sets)
      refine ⟨_, listed, ?_, by simpa using value⟩
      rw [isFor, ← lower, ← same, String.toList_ofList]
      simp
    · cases sets
  · rintro ⟨⟨name, given⟩, listed, named, rfl⟩
    have lower : Text.lower name.toList = variableMark.toList ++ key.name.toList := by
      simpa [isFor] using named
    refine ⟨_, listed, ?_⟩
    simp only [lower]
    rw [if_pos (List.isPrefixOf_iff_prefix.mpr (List.prefix_append ..)), List.drop_left,
      String.ofList_toList, placed_name]

theorem lookup_of_mem {α : Type} {entries : List (String × α)}
    (distinct : (entries.map Prod.fst).Nodup) {name : String} {v : α}
    (listed : (name, v) ∈ entries) : entries.lookup name = some v := by
  induction entries with
  | nil => cases listed
  | cons first entries ih =>
      obtain ⟨fresh, distinct⟩ := List.nodup_cons.mp distinct
      rcases List.mem_cons.mp listed with rfl | listed
      · simp
      · have other : name ≠ first.1 := by
          rintro rfl
          exact fresh (List.mem_map.mpr ⟨_, listed, rfl⟩)
        have differs : (name == first.1) = false := by simpa using other
        rw [List.lookup_cons, differs]
        exact ih distinct listed

theorem mem_of_lookup {α : Type} {entries : List (String × α)} {name : String} {v : α}
    (found : entries.lookup name = some v) : (name, v) ∈ entries := by
  obtain ⟨front, behind, rfl, -⟩ := List.lookup_eq_some_iff.mp found
  simp

theorem mem_ofFile {entries : List (String × Toml)} {text : String} :
    (key.name, .scalar text) ∈ Layer.ofFile entries ↔
      ∃ v, (key.name, v) ∈ entries ∧ v.scalarText? = some text := by
  rw [Layer.ofFile, List.mem_map]
  constructor
  · rintro ⟨⟨name, v⟩, listed, sets⟩
    obtain ⟨rfl, value⟩ := placed_eq_scalar sets
    refine ⟨v, listed, ?_⟩
    split at value
    · rename_i scalar
      rw [scalar, Entry.scalar.inj value]
    · cases value
  · rintro ⟨v, listed, scalar⟩
    exact ⟨_, listed, by simp only [scalar, placed_name]⟩

theorem text?_get?_ofEnvironment {environment : List (String × String)}
    (single : (environment.filter (isFor key)).length ≤ 1)
    (plain : (Layer.ofEnvironment environment).get? key ≠ some .composite) :
    ((Layer.ofEnvironment environment).get? key).bind Entry.text? =
      inEnvironment? environment key := by
  refine text?_get? plain (fun text listed => ?_) fun silent => ?_
  · obtain ⟨v, given, named, rfl⟩ := mem_ofEnvironment.mp listed
    have kept : v ∈ environment.filter (isFor key) := List.mem_filter.mpr ⟨given, named⟩
    rw [inEnvironment?, ← List.head?_filter]
    match environment.filter (isFor key), kept, single with
    | [only], kept, _ => rw [List.mem_singleton.mp kept]; rfl
    | [], kept, _ => cases kept
    | _ :: _ :: _, _, single => simp at single
  · rw [inEnvironment?, Option.map_eq_none_iff, List.find?_eq_none]
    exact fun v given named => silent v.2 (mem_ofEnvironment.mpr ⟨v, given, named, rfl⟩)

theorem text?_get?_ofFile {document : String} {entries : List (String × Toml)}
    (read : Toml.read? document = some entries)
    (plain : (Layer.ofFile entries).get? key ≠ some .composite) :
    ((Layer.ofFile entries).get? key).bind Entry.text? = inFile? (some document) key := by
  have value : inFile? (some document) key =
      (entries.lookup key.name).bind Toml.scalarText? := by
    rw [inFile?, Option.bind_eq_bind, Option.bind_some, read]
    rfl
  rw [value]
  refine text?_get? plain (fun text listed => ?_) fun silent => ?_
  · obtain ⟨v, given, scalar⟩ := mem_ofFile.mp listed
    rw [lookup_of_mem (Toml.nodup_keys_of_read? read) given]
    exact scalar
  · cases found : entries.lookup key.name with
    | none => rfl
    | some v =>
        cases scalar : v.scalarText? with
        | none => exact scalar
        | some text => exact absurd (mem_ofFile.mpr ⟨v, mem_of_lookup found, scalar⟩) (silent text)

/-! ## Loading -/

theorem ok_of_bind {ε α β : Type} {x : Except ε α} {f : α → Except ε β} {b : β}
    (ended : x >>= f = .ok b) : ∃ a, x = .ok a ∧ f a = .ok b := by
  cases x with
  | error => cases ended
  | ok a => exact ⟨a, rfl, ended⟩

theorem textOr_eq_ok {entry : Option Entry} {fallback text : String}
    (given : Entry.textOr fallback entry = .ok text) :
    entry ≠ some .composite ∧ some text = (entry.bind Entry.text?).or (some fallback) := by
  match entry with
  | none => cases given; simp
  | some (.scalar _) => cases given; simp [Entry.text?]
  | some .composite => cases given

theorem text_eq_ok {entry : Option Entry} {text? : Option String}
    (given : Entry.text entry = .ok text?) :
    entry ≠ some .composite ∧ text? = (entry.bind Entry.text?).or none := by
  match entry with
  | none => cases given; simp
  | some (.scalar _) => cases given; simp [Entry.text?]
  | some .composite => cases given

theorem value?_of_ofLayers {layers : List Layer} {s : Settings} (made : ofLayers layers = .ok s)
    (key : SettingKey) :
    lookup? layers key ≠ some .composite ∧
      s.value? key = ((lookup? layers key).bind Entry.text?).or (defaults.value? key) := by
  obtain ⟨endpoint, first, made⟩ := ok_of_bind made
  obtain ⟨interval, second, made⟩ := ok_of_bind made
  obtain ⟨timeout, third, made⟩ := ok_of_bind made
  obtain ⟨logFile, fourth, made⟩ := ok_of_bind made
  cases made
  cases key with
  | endpoint => exact textOr_eq_ok first
  | refreshInterval => exact textOr_eq_ok second
  | requestTimeout => exact textOr_eq_ok third
  | logFile => exact text_eq_ok fourth

theorem exists_not_isBlank_of_trim {text : List Char} (visible : Text.trim text ≠ []) :
    ∃ c ∈ text, Text.isBlank c = false := by
  have notAll : ¬∀ c ∈ text, Text.isBlank c = true := by
    intro all
    have nothing : Text.trimStart text = [] := List.dropWhile_eq_nil_iff.mpr all
    exact visible (by rw [Text.trim, nothing]; rfl)
  simpa using notAll

theorem validate_eq_ok {s s' : Settings} (valid : s.validate = .ok s') :
    s' = s ∧ (∃ c ∈ s'.endpoint.toList, Text.isBlank c = false) ∧
      (∃ period, s'.refreshPeriod = .ok period) ∧ ∃ time, s'.timeout = .ok time := by
  unfold validate at valid
  split at valid
  · cases valid
  · rename_i blank
    obtain ⟨period, read, valid⟩ := ok_of_bind valid
    obtain ⟨time, waited, valid⟩ := ok_of_bind valid
    cases valid
    exact ⟨rfl, exists_not_isBlank_of_trim (by simpa using blank), ⟨period, read⟩, time, waited⟩

theorem pos_of_refreshPeriod {s : Settings} {period : Duration}
    (read : s.refreshPeriod = .ok period) : 0 < period.nanos := by
  unfold refreshPeriod at read
  split at read
  · cases read
  · split at read
    · cases read
    · rename_i some
      cases read
      exact Nat.pos_of_ne_zero some

theorem ofLayers_of_checked {layers : List Layer} {s : Settings}
    (checked : (do let made ← ofLayers layers; made.validate) = .ok s) :
    ofLayers layers = .ok s := by
  obtain ⟨made, layered, valid⟩ := ok_of_bind checked
  obtain ⟨rfl, -⟩ := validate_eq_ok valid
  exact layered

theorem load_eq_ok {file : Option String} {environment : List (String × String)} {s : Settings}
    (loaded : load file environment = .ok s) :
    ∃ fileLayer, ofLayers [Layer.ofEnvironment environment, fileLayer] = .ok s ∧
      ∀ key, fileLayer.get? key ≠ some .composite →
        (fileLayer.get? key).bind Entry.text? = inFile? file key := by
  unfold load at loaded
  dsimp only at loaded
  split at loaded
  · exact ⟨[], ofLayers_of_checked loaded, fun _ _ => rfl⟩
  · split at loaded
    · rename_i found
      exact ⟨_, ofLayers_of_checked loaded, fun _ plain => text?_get?_ofFile found plain⟩
    · cases loaded

theorem lookup?_pair (upper lower : Layer) (key : SettingKey) :
    lookup? [upper, lower] key = (upper.get? key).or (lower.get? key) := by
  cases first : upper.get? key <;> cases second : lower.get? key <;> simp [lookup?, first, second]

/-- The upper of two layers counts, and nothing in the lower one keeps it from counting. -/
theorem text?_lookup?_pair {upper lower : Layer} {key : SettingKey} {first second : Option String}
    (above : upper.get? key ≠ some .composite → (upper.get? key).bind Entry.text? = first)
    (below : lower.get? key ≠ some .composite → (lower.get? key).bind Entry.text? = second)
    (plain : lookup? [upper, lower] key ≠ some .composite) :
    (lookup? [upper, lower] key).bind Entry.text? = first.or second := by
  cases found : upper.get? key with
  | some entry =>
      have top : lookup? [upper, lower] key = some entry := by
        rw [lookup?_pair, found, Option.some_or]
      rw [top] at plain ⊢
      rw [found] at above
      cases entry with
      | composite => exact absurd rfl plain
      | scalar text =>
          rw [← above (by simp)]
          rfl
  | none =>
      have next : lookup? [upper, lower] key = lower.get? key := by
        rw [lookup?_pair, found, Option.none_or]
      rw [next] at plain ⊢
      rw [found] at above
      rw [← above (by simp), below plain]
      rfl

theorem value?_of_load {file : Option String} {environment : List (String × String)} {s : Settings}
    (single : ∀ key, (environment.filter (isFor key)).length ≤ 1)
    (loaded : load file environment = .ok s) (key : SettingKey) :
    s.value? key =
      ((inEnvironment? environment key).or (inFile? file key)).or (defaults.value? key) := by
  obtain ⟨fileLayer, layered, inFile⟩ := load_eq_ok loaded
  obtain ⟨plain, value⟩ := value?_of_ofLayers layered key
  rw [value, text?_lookup?_pair (text?_get?_ofEnvironment (single key)) (inFile key) plain]

theorem value?_of_overrideWith {s s' : Settings} {o : Overrides}
    (overridden : s.overrideWith o = .ok s') (key : SettingKey) :
    s'.value? key = (o.value? key).or (s.value? key) := by
  obtain ⟨rfl, -⟩ := validate_eq_ok overridden
  have getD (given : Option String) (other : String) :
      some (given.getD other) = given.or (some other) := by cases given <;> rfl
  cases key with
  | endpoint => exact getD _ _
  | refreshInterval => exact getD _ _
  | requestTimeout => exact getD _ _
  | logFile => rfl

end Settings

namespace CommandLine

open Settings

/-- The settings in force have each value from where it is said first: on the command line, in the
environment, in the file, or by default. They can be used as they are. -/
theorem value?_settings_from_first_layer {line : CommandLine} {file : Option String}
    {environment : List (String × String)} {s : Settings}
    (single : ∀ key, (environment.filter (isFor key)).length ≤ 1)
    (loaded : line.settings file environment = .ok s) :
    (∀ key, s.value? key =
      (line.overrides.value? key).or
        ((inEnvironment? environment key).or ((inFile? file key).or (defaults.value? key)))) ∧
    (∃ c ∈ s.endpoint.toList, Text.isBlank c = false) ∧
    (∃ period, s.refreshPeriod = .ok period ∧ 0 < period.nanos) ∧
    ∃ time, s.timeout = .ok time := by
  obtain ⟨first, read, overridden⟩ := ok_of_bind loaded
  obtain ⟨-, visible, ⟨period, refresh⟩, timeout⟩ := validate_eq_ok overridden
  refine ⟨fun key => ?_, visible, ⟨period, refresh, pos_of_refreshPeriod refresh⟩, timeout⟩
  rw [value?_of_overrideWith overridden, value?_of_load single read, Option.or_assoc]

/-- A place from the command line, a period from the environment, a time from the file, and no
log. -/
theorem value?_settings_from_each_layer :
    let line : CommandLine := { overrides := { endpoint := some "http://lb:8998" } }
    let file := some "endpoint = \"http://other\"\nrequest_timeout = \"1m\"\n"
    let environment := [("HOME", "/root"), ("Trino_Dash_Refresh_Interval", "500ms")]
    let s : Settings := ⟨"http://lb:8998", "500ms", "1m", none⟩
    (∀ key, (environment.filter (isFor key)).length ≤ 1) ∧
    line.settings file environment = .ok s ∧
    ∀ key, s.value? key =
      (line.overrides.value? key).or
        ((inEnvironment? environment key).or ((inFile? file key).or (defaults.value? key))) := by
  intro line file environment s
  have single (key : SettingKey) : (environment.filter (isFor key)).length ≤ 1 := by
    cases key <;> decide +kernel
  have loaded : line.settings file environment = .ok s := by decide +kernel
  exact ⟨single, loaded, (value?_settings_from_first_layer single loaded).1⟩

end CommandLine

end FleetWatch
