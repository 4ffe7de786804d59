import FleetWatch.Proofs.Settings.Precedence

/-! # What a masked value can do

What a file says of a setting is masked where the environment or the command line says something of
it too. Two files are loaded side by side that say the same wherever nothing masks them. What the
environment masks is never looked at. What only the command line masks is: settings are checked as
they are loaded, before the command line is laid over them. So such a value can keep all settings
from being had, and that is all it can do.
-/

namespace FleetWatch

/-- Two outcomes that are the same failure, or results that belong together. -/
inductive Alike {ε α β : Type} (R : α → β → Prop) : Except ε α → Except ε β → Prop where
  | error (e : ε) : Alike R (.error e) (.error e)
  | ok {a : α} {b : β} (related : R a b) : Alike R (.ok a) (.ok b)

namespace Alike

variable {ε α β γ δ : Type} {R : α → β → Prop} {x : Except ε α} {y : Except ε β}

theorem bind {S : γ → δ → Prop} {f : α → Except ε γ} {g : β → Except ε δ} (h : Alike R x y)
    (next : ∀ a b, R a b → Alike S (f a) (g b)) : Alike S (x >>= f) (y >>= g) := by
  cases h with
  | error e => exact .error e
  | ok related => exact next _ _ related

theorem bind_eq {f : α → Except ε γ} {g : β → Except ε γ} (h : Alike R x y)
    (next : ∀ a b, R a b → f a = g b) : x >>= f = y >>= g := by
  cases h with
  | error e => rfl
  | ok related => exact next _ _ related

end Alike

namespace Settings

/-! ## Flaws of single values -/

/-- What is wrong with a text as the value of a setting. -/
def flaw? : SettingKey → String → Option SettingsError
  | .endpoint, text => if (Text.trim text.toList).isEmpty then some .emptyEndpoint else none
  | .refreshInterval, text =>
    match Duration.parse text with
    | .error reason => some (.badInterval text reason)
    | .ok period => if period.nanos = 0 then some .zeroInterval else none
  | .requestTimeout, text =>
    match Duration.parse text with
    | .error reason => some (.badTimeout text reason)
    | .ok _ => none
  | .logFile, _ => none

/-- The first thing that is wrong with settings. -/
def firstFlaw? (s : Settings) : Option SettingsError :=
  [SettingKey.endpoint, .refreshInterval, .requestTimeout, .logFile].findSome? fun key =>
    (s.value? key).bind (flaw? key)

theorem flaw?_default (key : SettingKey) : (defaults.value? key).bind (flaw? key) = none := by
  cases key <;> decide +kernel

theorem refreshPeriod_bind (s : Settings) (rest : Except SettingsError Settings) :
    (s.refreshPeriod >>= fun _ => rest) =
      (flaw? .refreshInterval s.refreshInterval).elim rest .error := by
  simp only [refreshPeriod, flaw?]
  cases Duration.parse s.refreshInterval with
  | error reason => rfl
  | ok period =>
      dsimp only
      split <;> rfl

theorem timeout_bind (s : Settings) (rest : Except SettingsError Settings) :
    (s.timeout >>= fun _ => rest) = (flaw? .requestTimeout s.requestTimeout).elim rest .error := by
  simp only [timeout, flaw?]
  cases Duration.parse s.requestTimeout <;> rfl

theorem validate_eq (s : Settings) : s.validate = s.firstFlaw?.elim (.ok s) .error := by
  have first : s.validate = (flaw? .endpoint s.endpoint).elim
      (s.refreshPeriod >>= fun _ => s.timeout >>= fun _ => .ok s) .error := by
    simp only [validate, flaw?]
    split <;> rfl
  have log : (s.value? .logFile).bind (flaw? .logFile) = none := by
    cases s.value? .logFile <;> rfl
  rw [first, refreshPeriod_bind, timeout_bind, firstFlaw?]
  simp only [List.findSome?, log]
  simp only [value?, Option.bind_some]
  cases flaw? .endpoint s.endpoint with
  | some e => rfl
  | none =>
      cases flaw? .refreshInterval s.refreshInterval with
      | some e => rfl
      | none => cases flaw? .requestTimeout s.requestTimeout <;> rfl

theorem flaw?_of_validate {s s' : Settings} (valid : s.validate = .ok s') (key : SettingKey) :
    (s.value? key).bind (flaw? key) = none := by
  rw [validate_eq] at valid
  cases found : s.firstFlaw? with
  | some e => simp [found] at valid
  | none =>
      exact List.findSome?_eq_none_iff.mp found key (by cases key <;> simp)

/-! ## Two files side by side -/

/-- What a document says of a setting, if it can be read. -/
def said? (document : String) (key : SettingKey) : Option Entry :=
  (Toml.read? document).bind fun entries => (Layer.ofFile entries).get? key

theorem isSome_of_read {document : String} {layer : Layer}
    (read : (Toml.read? document).map Layer.ofFile = some layer) :
    (Toml.read? document).isSome := by
  obtain ⟨entries, found, -⟩ := Option.map_eq_some_iff.mp read
  exact Option.isSome_iff_exists.mpr ⟨entries, found⟩

theorem said?_eq {document : String} {layer : Layer}
    (read : (Toml.read? document).map Layer.ofFile = some layer) (key : SettingKey) :
    said? document key = layer.get? key := by
  obtain ⟨entries, found, rfl⟩ := Option.map_eq_some_iff.mp read
  rw [said?, found, Option.bind_some]

/-- The environment or the command line says something of a setting, so what the file says of it is
not in force. -/
def IsMasked (environment : List (String × String)) (o : Overrides) (key : SettingKey) : Prop :=
  (Layer.ofEnvironment environment).get? key ≠ none ∨ o.value? key ≠ none

/-- Only the command line says something of a setting that masks what the file says. -/
def IsMaskedLate (environment : List (String × String)) (o : Overrides) (key : SettingKey) : Prop :=
  (Layer.ofEnvironment environment).get? key = none ∧ o.value? key ≠ none

/-- What a layer says of a setting is nothing, or a text with nothing wrong. -/
def Entry.IsLoadable (key : SettingKey) : Option Entry → Prop
  | none => True
  | some (.scalar text) => flaw? key text = none
  | some .composite => False

instance (environment : List (String × String)) (o : Overrides) (key : SettingKey) :
    Decidable (IsMasked environment o key) := inferInstanceAs (Decidable (_ ∨ _))

instance (environment : List (String × String)) (o : Overrides) (key : SettingKey) :
    Decidable (IsMaskedLate environment o key) := inferInstanceAs (Decidable (_ ∧ _))

instance (key : SettingKey) (entry : Option Entry) : Decidable (Entry.IsLoadable key entry) :=
  match entry with
  | none => .isTrue trivial
  | some (.scalar text) => inferInstanceAs (Decidable (flaw? key text = none))
  | some .composite => .isFalse id

variable {late : SettingKey → Prop} {key : SettingKey}

/-- Two layers say the same of a setting, or it is masked late and both can be loaded. -/
def SaidAlike (late : SettingKey → Prop) (key : SettingKey) (entry entry' : Option Entry) : Prop :=
  entry = entry' ∨ late key ∧ Entry.IsLoadable key entry ∧ Entry.IsLoadable key entry'

/-- Two values of a setting are the same, or it is masked late and nothing is wrong with them. -/
def ValuedAlike (late : SettingKey → Prop) (key : SettingKey) (v v' : Option String) : Prop :=
  v = v' ∨ late key ∧ v.bind (flaw? key) = none ∧ v'.bind (flaw? key) = none

theorem ValuedAlike.flaw? {v v' : Option String} (h : ValuedAlike late key v v') :
    v.bind (flaw? key) = v'.bind (flaw? key) := by
  rcases h with rfl | ⟨-, fine, fine'⟩
  · rfl
  · rw [fine, fine']

theorem flaw?_text {entry : Option Entry} (loadable : Entry.IsLoadable key entry) :
    ∃ text?, Entry.text entry = .ok text? ∧ text?.bind (Settings.flaw? key) = none := by
  match entry, loadable with
  | none, _ => exact ⟨none, rfl, rfl⟩
  | some (.scalar text), fine => exact ⟨some text, rfl, fine⟩

theorem text_alike {entry entry' : Option Entry} (h : SaidAlike late key entry entry') :
    Alike (ValuedAlike late key) (Entry.text entry) (Entry.text entry') := by
  rcases h with rfl | ⟨hidden, fine, fine'⟩
  · match entry with
    | none | some (.scalar _) => exact .ok (.inl rfl)
    | some .composite => exact .error _
  · obtain ⟨text?, given, fine⟩ := flaw?_text fine
    obtain ⟨text?', given', fine'⟩ := flaw?_text fine'
    rw [given, given']
    exact .ok (.inr ⟨hidden, fine, fine'⟩)

theorem textOr_eq (fallback : String) (entry : Option Entry) :
    Entry.textOr fallback entry = Entry.text entry >>= fun text? => .ok (text?.getD fallback) := by
  match entry with
  | none | some (.scalar _) | some .composite => rfl

theorem textOr_alike {fallback : String} {entry entry' : Option Entry}
    (fine : (some fallback).bind (flaw? key) = none) (h : SaidAlike late key entry entry') :
    Alike (fun text text' => ValuedAlike late key (some text) (some text'))
      (Entry.textOr fallback entry) (Entry.textOr fallback entry') := by
  rw [textOr_eq, textOr_eq]
  refine (text_alike h).bind fun text? text?' valued => .ok ?_
  have without {v : Option String} (none : v.bind (flaw? key) = none) :
      (some (v.getD fallback)).bind (flaw? key) = Option.none := by
    cases v with
    | none => exact fine
    | some text => exact none
  rcases valued with rfl | ⟨hidden, first, second⟩
  · exact .inl rfl
  · exact .inr ⟨hidden, without first, without second⟩

theorem ofLayers_alike {layers layers' : List Layer}
    (said : ∀ key, SaidAlike late key (lookup? layers key) (lookup? layers' key)) :
    Alike (fun s s' => ∀ key, ValuedAlike late key (s.value? key) (s'.value? key))
      (ofLayers layers) (ofLayers layers') := by
  have endpoint : (some defaults.endpoint).bind (flaw? .endpoint) = none :=
    flaw?_default .endpoint
  have interval : (some defaults.refreshInterval).bind (flaw? .refreshInterval) = none :=
    flaw?_default .refreshInterval
  have timeout : (some defaults.requestTimeout).bind (flaw? .requestTimeout) = none :=
    flaw?_default .requestTimeout
  unfold ofLayers
  refine (textOr_alike endpoint (said .endpoint)).bind fun _ _ endpoint => ?_
  refine (textOr_alike interval (said .refreshInterval)).bind fun _ _ interval => ?_
  refine (textOr_alike timeout (said .requestTimeout)).bind fun _ _ timeout => ?_
  refine (text_alike (said .logFile)).bind fun _ _ logFile => .ok fun key => ?_
  cases key with
  | endpoint => exact endpoint
  | refreshInterval => exact interval
  | requestTimeout => exact timeout
  | logFile => exact logFile

theorem validate_alike {s s' : Settings}
    (valued : ∀ key, ValuedAlike late key (s.value? key) (s'.value? key)) :
    Alike (fun s s' => ∀ key, ValuedAlike late key (s.value? key) (s'.value? key))
      s.validate s'.validate := by
  have flaws : s.firstFlaw? = s'.firstFlaw? := by
    unfold firstFlaw?
    simp only [fun key => (valued key).flaw?]
  rw [validate_eq, validate_eq, flaws]
  cases s'.firstFlaw? with
  | none => exact .ok valued
  | some e => exact .error e

theorem overrideWith_eq {o : Overrides} {s s' : Settings}
    (valued : ∀ key,
      ValuedAlike (fun key => o.value? key ≠ none) key (s.value? key) (s'.value? key)) :
    s.overrideWith o = s'.overrideWith o := by
  have same (key : SettingKey) :
      (o.value? key).or (s.value? key) = (o.value? key).or (s'.value? key) := by
    rcases valued key with value | ⟨given, -, -⟩
    · rw [value]
    · obtain ⟨text, given⟩ := Option.ne_none_iff_exists'.mp given
      rw [given, Option.some_or, Option.some_or]
  have getD {given : Option String} {text text' : String}
      (or : given.or (some text) = given.or (some text')) : given.getD text = given.getD text' := by
    cases given with
    | none => exact Option.some.inj or
    | some _ => rfl
  have endpoint : o.endpoint.getD s.endpoint = o.endpoint.getD s'.endpoint := getD (same .endpoint)
  have interval : o.refreshInterval.getD s.refreshInterval =
      o.refreshInterval.getD s'.refreshInterval := getD (same .refreshInterval)
  have timeout : o.requestTimeout.getD s.requestTimeout =
      o.requestTimeout.getD s'.requestTimeout := getD (same .requestTimeout)
  have logFile : o.logFile.or s.logFile = o.logFile.or s'.logFile := same .logFile
  rw [overrideWith, overrideWith, endpoint, interval, timeout, logFile]

/-! ## Loading -/

theorem load_eq {document : String} {entries : List (String × Toml)}
    (read : Toml.read? document = some entries) (environment : List (String × String)) :
    load (some document) environment =
      ofLayers [Layer.ofEnvironment environment, Layer.ofFile entries] >>= validate := by
  simp only [load, read]
  rfl

theorem isLoadable_of_load {document : String} {environment : List (String × String)}
    {s : Settings} (loaded : load (some document) environment = .ok s)
    (free : (Layer.ofEnvironment environment).get? key = none) :
    Entry.IsLoadable key (said? document key) := by
  cases read : Toml.read? document with
  | none => simp [said?, read, Entry.IsLoadable]
  | some entries =>
      rw [load_eq read] at loaded
      obtain ⟨made, layered, valid⟩ := ok_of_bind loaded
      obtain ⟨plain, value⟩ := value?_of_ofLayers layered key
      have fine := flaw?_of_validate valid key
      rw [value, lookup?_pair, free, Option.none_or] at fine
      rw [lookup?_pair, free, Option.none_or] at plain
      rw [said?, read, Option.bind_some]
      match said : (Layer.ofFile entries).get? key with
      | none => trivial
      | some (.scalar text) =>
          rw [said] at fine
          exact fine
      | some .composite => exact plain said

theorem load_alike {environment : List (String × String)} {o : Overrides} {first second : String}
    (reads : (Toml.read? first).isSome) (reads' : (Toml.read? second).isSome)
    (same : ∀ key, ¬ IsMasked environment o key → said? first key = said? second key)
    (loadable : ∀ key, IsMaskedLate environment o key →
      Entry.IsLoadable key (said? first key) ∧ Entry.IsLoadable key (said? second key)) :
    Alike (fun s s' => ∀ key,
        ValuedAlike (fun key => o.value? key ≠ none) key (s.value? key) (s'.value? key))
      (load (some first) environment) (load (some second) environment) := by
  obtain ⟨entries, read⟩ := Option.isSome_iff_exists.mp reads
  obtain ⟨entries', read'⟩ := Option.isSome_iff_exists.mp reads'
  rw [load_eq read, load_eq read']
  refine (ofLayers_alike fun key => ?_).bind fun s s' valued => validate_alike valued
  rw [lookup?_pair, lookup?_pair]
  rw [← said?_eq (congrArg _ read), ← said?_eq (congrArg _ read')]
  cases above : (Layer.ofEnvironment environment).get? key with
  | some entry =>
      rw [Option.some_or, Option.some_or]
      exact .inl rfl
  | none =>
      rw [Option.none_or, Option.none_or]
      by_cases given : o.value? key = none
      · refine .inl (same key ?_)
        rintro (masked | masked)
        · exact masked above
        · exact masked given
      · exact .inr ⟨given, loadable key ⟨above, given⟩⟩

end Settings

namespace CommandLine

open Settings

/-- Two files that say the same of every setting that is not masked lead to the same settings or to
the same failure, as long as what only the command line masks can be loaded. What cannot be loaded
fails, though the command line masks it. -/
theorem settings_from_unmasked {line : CommandLine} {environment : List (String × String)}
    {first second : String}
    (reads : (Toml.read? first).isSome) (reads' : (Toml.read? second).isSome)
    (same : ∀ key, ¬ IsMasked environment line.overrides key →
      said? first key = said? second key) :
    ((∀ key, IsMaskedLate environment line.overrides key →
        Entry.IsLoadable key (said? first key) ∧ Entry.IsLoadable key (said? second key)) →
      line.settings (some first) environment = line.settings (some second) environment) ∧
    ∀ document key, IsMaskedLate environment line.overrides key →
      ¬ Entry.IsLoadable key (said? document key) →
        ∃ e, line.settings (some document) environment = .error e := by
  constructor
  · intro loadable
    exact (load_alike reads reads' same loadable).bind_eq fun s s' valued =>
      overrideWith_eq valued
  · intro document key masked refused
    unfold settings
    cases loaded : load (some document) environment with
    | error e => exact ⟨e, rfl⟩
    | ok s => exact absurd (isLoadable_of_load loaded masked.1) refused

/-- The environment masks a place that is blank in one file and a number in the other, the command
line masks two periods, and both files name the same log. -/
theorem settings_from_unmasked_log :
    let line : CommandLine := { overrides := { refreshInterval := some "5s" } }
    let environment := [("TRINO_DASH_ENDPOINT", "http://lb:8998")]
    let first := "endpoint = \" \"\nrefresh_interval = \"1s\"\nlog_file = \"dash.log\"\n"
    let second := "log_file = \"dash.log\"\nrefresh_interval = \"2m\"\nendpoint = 5\n"
    (∀ key, ¬ IsMasked environment line.overrides key → said? first key = said? second key) ∧
      line.settings (some first) environment = line.settings (some second) environment ∧
      line.settings (some first) environment =
        .ok ⟨"http://lb:8998", "5s", "10s", some "dash.log"⟩ := by
  intro line environment first second
  have read : (Toml.read? first).map Layer.ofFile = some [("endpoint", .scalar " "),
      ("refresh_interval", .scalar "1s"), ("log_file", .scalar "dash.log")] := by
    decide +kernel
  have read' : (Toml.read? second).map Layer.ofFile = some [("log_file", .scalar "dash.log"),
      ("refresh_interval", .scalar "2m"), ("endpoint", .scalar "5")] := by
    decide +kernel
  have same (key : SettingKey) : ¬ IsMasked environment line.overrides key →
      said? first key = said? second key := by
    rw [said?_eq read, said?_eq read']
    cases key <;> decide +kernel
  have loadable (key : SettingKey) : IsMaskedLate environment line.overrides key →
      Entry.IsLoadable key (said? first key) ∧ Entry.IsLoadable key (said? second key) := by
    rw [said?_eq read, said?_eq read']
    cases key <;> decide +kernel
  obtain ⟨alike, -⟩ := settings_from_unmasked (isSome_of_read read) (isSome_of_read read') same
  exact ⟨same, alike loadable, by decide +kernel⟩

/-- Two files with one period each, which the command line masks: one has no settings, since the
period cannot be read. -/
theorem settings_refused_for_masked :
    let line : CommandLine := { overrides := { refreshInterval := some "5s" } }
    let first := "refresh_interval = \"often\"\n"
    let second := "refresh_interval = \"2s\"\n"
    (Toml.read? first).isSome ∧ (Toml.read? second).isSome ∧
      (∀ key, said? first key ≠ some .composite ∧ said? second key ≠ some .composite) ∧
      (∀ key, ¬ IsMasked [] line.overrides key → said? first key = said? second key) ∧
      line.settings (some first) [] = .error (.badInterval "often" (.unknownFormat "often")) ∧
      line.settings (some second) [] = .ok ⟨"http://localhost:8998", "5s", "10s", none⟩ := by
  intro line first second
  have read : (Toml.read? first).map Layer.ofFile =
      some [("refresh_interval", .scalar "often")] := by
    decide +kernel
  have read' : (Toml.read? second).map Layer.ofFile =
      some [("refresh_interval", .scalar "2s")] := by
    decide +kernel
  have plain (key : SettingKey) :
      said? first key ≠ some .composite ∧ said? second key ≠ some .composite := by
    rw [said?_eq read, said?_eq read']
    cases key <;> decide
  have same (key : SettingKey) : ¬ IsMasked [] line.overrides key →
      said? first key = said? second key := by
    rw [said?_eq read, said?_eq read']
    cases key <;> decide
  exact ⟨isSome_of_read read, isSome_of_read read', plain, same, by decide +kernel,
    by decide +kernel⟩

end CommandLine

end FleetWatch
