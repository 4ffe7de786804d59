import FleetWatch.Duration
import FleetWatch.Text.Case
import FleetWatch.Toml.Reader

/-! # Settings

Where the gateway is, how often to ask it, how long to wait for it, and where to log. Settings
come in layers: defaults, a file, the environment, and at last what the command line says. Each
layer wins over those below it, key by key. What the environment hides is not looked at; what only
the command line hides has to be in order all the same, since settings are checked as they are
loaded and once more with the command line over them. Only settings that can be used are handed
out: the endpoint is not blank, and both durations can be read.
-/

namespace FleetWatch

structure Settings where
  endpoint : String
  refreshInterval : String
  requestTimeout : String
  logFile : Option String
  deriving Repr, DecidableEq, Inhabited

/-- Why there are no settings. -/
inductive SettingsError where
  /-- The file is not of the form of a settings file. -/
  | malformed
  /-- A key has a value that is no text, number or truth value. -/
  | wrongShape
  /-- The endpoint is blank. -/
  | emptyEndpoint
  /-- The interval between refreshes is no duration. -/
  | badInterval (text : String) (reason : Duration.ReadError)
  /-- There is no time between refreshes. -/
  | zeroInterval
  /-- The time to wait for an answer is no duration. -/
  | badTimeout (text : String) (reason : Duration.ReadError)
  deriving Repr, DecidableEq

/-- The wording of an error, the outermost message first and its causes behind it. -/
def SettingsError.messages : SettingsError → List String
  | malformed => ["loading configuration"]
  | wrongShape => ["invalid configuration"]
  | emptyEndpoint => ["endpoint must not be empty"]
  | badInterval text reason => ("refresh_interval: " ++ text) :: reason.messages
  | zeroInterval => ["refresh_interval must be greater than zero"]
  | badTimeout text reason => ("request_timeout: " ++ text) :: reason.messages

inductive SettingKey where
  | endpoint
  | refreshInterval
  | requestTimeout
  | logFile
  deriving Repr, DecidableEq, Inhabited

/-- The name of a setting in a file, and in lower case in the environment. -/
def SettingKey.name : SettingKey → String
  | endpoint => "endpoint"
  | refreshInterval => "refresh_interval"
  | requestTimeout => "request_timeout"
  | logFile => "log_file"

namespace Settings

/-! ## Layers -/

/-- What a layer says of a key. -/
inductive Entry where
  | scalar (text : String)
  /-- An array or a table. -/
  | composite
  deriving Repr, DecidableEq, Inhabited

/-- The entries of a layer, later ones in force over earlier ones with the same key. -/
abbrev Layer := List (String × Entry)

/-- Where in a path to a value a reader is: a path is a name, and behind it further names with dots
and places in brackets. -/
inductive PathPart where
  | start
  | name
  | bracket
  | sign
  /-- In the number of a place, which is below zero or not. -/
  | index (isNegative : Bool) (count : Nat)
  | blank
  | closed
  deriving Repr, DecidableEq

/-- Whether 64 bits hold the number of a place. -/
def isIndex (isNegative : Bool) (count : Nat) : Bool :=
  count ≤ if isNegative then 9223372036854775808 else 9223372036854775807

/-- The part of a path that one more character leads to. -/
def PathPart.next? (part : PathPart) (c : Char) : Option PathPart :=
  let isBlank := c = ' ' || c = '\t'
  match part with
  | start => if Toml.isKeyChar c then some name else none
  | name =>
    if Toml.isKeyChar c then some name
    else if c = '.' then some start
    else if c = '[' then some bracket else none
  | bracket =>
    if isBlank then some bracket
    else if c = '-' then some sign
    else if Digits.isDigit c then some (index false (Digits.toNat [c])) else none
  | sign => if Digits.isDigit c then some (index true (Digits.toNat [c])) else none
  | index isNegative count =>
    if Digits.isDigit c then some (index isNegative (10 * count + Digits.toNat [c]))
    else if !isIndex isNegative count then none
    else if isBlank then some blank
    else if c = ']' then some closed else none
  | blank => if isBlank then some blank else if c = ']' then some closed else none
  | closed => if c = '.' then some start else if c = '[' then some bracket else none

def isPath (key : List Char) : Bool :=
  (key.foldl (fun part c => part.bind (·.next? c)) (some PathPart.start)).any fun part =>
    part = .name || part = .closed

/-- What an entry sets: a key that is a path to a place inside another one makes that one
composite, and any other key stands for itself. -/
def placed (key : String) (entry : Entry) : String × Entry :=
  let name := key.toList.takeWhile Toml.isKeyChar
  if isPath key.toList && name.length < key.toList.length then (String.ofList name, .composite)
  else (key, entry)

def Layer.ofFile (entries : List (String × Toml)) : Layer :=
  entries.map fun (key, v) =>
    placed key (match v.scalarText? with
      | some text => .scalar text
      | none => .composite)

/-- How the names of variables begin, in lower case. -/
def variableMark : String := "trino_dash_"

/-- The layer of the environment. Names count in lower case. -/
def Layer.ofEnvironment (environment : List (String × String)) : Layer :=
  environment.filterMap fun (name, text) =>
    let lower := Text.lower name.toList
    if variableMark.toList.isPrefixOf lower then
      some (placed (String.ofList (lower.drop variableMark.toList.length)) (.scalar text))
    else none

def Layer.get? (layer : Layer) (key : SettingKey) : Option Entry :=
  (layer.reverse.find? fun entry => entry.1 = key.name).map (·.2)

/-- What the layers say of a setting, the uppermost given first. -/
def lookup? (layers : List Layer) (key : SettingKey) : Option Entry :=
  layers.findSome? (·.get? key)

/-! ## Validity -/

def refreshPeriod (s : Settings) : Except SettingsError Duration :=
  match Duration.parse s.refreshInterval with
  | .error reason => .error (.badInterval s.refreshInterval reason)
  | .ok period => if period.nanos = 0 then .error .zeroInterval else .ok period

def timeout (s : Settings) : Except SettingsError Duration :=
  match Duration.parse s.requestTimeout with
  | .error reason => .error (.badTimeout s.requestTimeout reason)
  | .ok timeout => .ok timeout

/-- The settings themselves if they can be used, else the first thing that is wrong with them. -/
def validate (s : Settings) : Except SettingsError Settings :=
  if (Text.trim s.endpoint.toList).isEmpty then .error .emptyEndpoint
  else do
    let _ ← s.refreshPeriod
    let _ ← s.timeout
    return s

/-! ## Loading -/

def defaults : Settings := ⟨"http://localhost:8998", "2s", "10s", none⟩

/-- The text of an entry, or a default where there is no entry. -/
def Entry.textOr (fallback : String) : Option Entry → Except SettingsError String
  | none => .ok fallback
  | some (.scalar text) => .ok text
  | some .composite => .error .wrongShape

def Entry.text : Option Entry → Except SettingsError (Option String)
  | none => .ok none
  | some (.scalar text) => .ok (some text)
  | some .composite => .error .wrongShape

/-- The settings that layers over the defaults give, the uppermost first. -/
def ofLayers (layers : List Layer) : Except SettingsError Settings := do
  let endpoint ← Entry.textOr defaults.endpoint (lookup? layers .endpoint)
  let refreshInterval ← Entry.textOr defaults.refreshInterval (lookup? layers .refreshInterval)
  let requestTimeout ← Entry.textOr defaults.requestTimeout (lookup? layers .requestTimeout)
  let logFile ← Entry.text (lookup? layers .logFile)
  return ⟨endpoint, refreshInterval, requestTimeout, logFile⟩

/-- Loads the settings from the text of a file, if there is a file, and from the environment. -/
def load (file : Option String) (environment : List (String × String)) :
    Except SettingsError Settings := do
  let fileLayer ← match file with
    | none => Except.ok []
    | some document =>
      match Toml.read? document with
      | some entries => Except.ok (Layer.ofFile entries)
      | none => Except.error .malformed
  let settings ← ofLayers [Layer.ofEnvironment environment, fileLayer]
  settings.validate

/-! ## The command line -/

/-- What the command line says. -/
structure Overrides where
  endpoint : Option String := none
  refreshInterval : Option String := none
  requestTimeout : Option String := none
  logFile : Option String := none
  deriving Repr, DecidableEq, Inhabited

/-- The settings with what the command line says in force over them. -/
def overrideWith (s : Settings) (o : Overrides) : Except SettingsError Settings :=
  Settings.validate
    ⟨o.endpoint.getD s.endpoint, o.refreshInterval.getD s.refreshInterval,
      o.requestTimeout.getD s.requestTimeout, o.logFile.or s.logFile⟩

end Settings

end FleetWatch
