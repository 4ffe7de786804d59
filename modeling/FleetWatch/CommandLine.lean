import FleetWatch.Dashboard.Export
import FleetWatch.Gateway
import FleetWatch.Settings

/-! # The command line

The arguments of the program, and its two uses without a screen: to ask whether the gateway is
well, and to save the dashboard as it is after one fetch.
-/

namespace FleetWatch

/-- What the arguments say. -/
structure CommandLine where
  /-- The settings file. -/
  config : String := "trino-dash.toml"
  overrides : Settings.Overrides := {}
  /-- Where to save the dashboard. -/
  exportTo : Option String := none
  /-- Whether to ask if the gateway is well. -/
  check : Bool := false
  deriving Repr, DecidableEq, Inhabited

namespace CommandLine

inductive Flag where
  | config
  | endpoint
  | refresh
  | timeout
  | logFile
  | exportTo
  | check
  | help
  deriving Repr, DecidableEq, Inhabited

def Flag.ofLong? (name : String) : Option Flag :=
  match name with
  | "config" => some config
  | "endpoint" => some endpoint
  | "refresh" => some refresh
  | "timeout" => some timeout
  | "log-file" => some logFile
  | "export" => some exportTo
  | "check" => some check
  | "help" => some help
  | _ => none

def Flag.ofShort? : Char → Option Flag
  | 'c' => some config
  | 'r' => some refresh
  | 'e' => some exportTo
  | 'h' => some help
  | _ => none

def Flag.takesValue : Flag → Bool
  | check | help => false
  | _ => true

/-- Whether the value of an option names a file, so that it cannot be empty. -/
def Flag.isPath : Flag → Bool
  | config | logFile | exportTo => true
  | _ => false

/-- Why the arguments are not taken. -/
inductive Refusal where
  /-- Only the usage was asked for. -/
  | help
  /-- An argument that no option begins with. -/
  | unexpected (argument : String)
  /-- An option stands without its value. -/
  | missingValue (flag : Flag)
  /-- A value stands at an option that has none. -/
  | unwantedValue (flag : Flag)
  /-- The name of a file is empty. -/
  | emptyValue (flag : Flag)
  /-- An option stands twice. -/
  | repeated (flag : Flag)
  /-- Asking and saving at once. -/
  | conflict
  deriving Repr, DecidableEq, Inhabited

/-- What has been read so far. -/
structure Reading where
  line : CommandLine := {}
  seen : List Flag := []
  deriving Repr, Inhabited

def Reading.set (r : Reading) (flag : Flag) : Except Refusal Reading :=
  if flag = .help then .error .help
  else if flag ∈ r.seen then .error (.repeated flag)
  else .ok ⟨{ r.line with check := true }, flag :: r.seen⟩

def Reading.put (r : Reading) (flag : Flag) (value : String) : Except Refusal Reading :=
  if flag ∈ r.seen then .error (.repeated flag)
  else if flag.isPath && value.isEmpty then .error (.emptyValue flag)
  else
    let o := r.line.overrides
    let line : CommandLine := match flag with
      | .config => { r.line with config := value }
      | .endpoint => { r.line with overrides := { o with endpoint := some value } }
      | .refresh => { r.line with overrides := { o with refreshInterval := some value } }
      | .timeout => { r.line with overrides := { o with requestTimeout := some value } }
      | .logFile => { r.line with overrides := { o with logFile := some value } }
      | .exportTo => { r.line with exportTo := some value }
      | .check | .help => r.line
    .ok ⟨line, flag :: r.seen⟩

inductive Argument where
  /-- An option by its long name, with a value behind an equals sign or without one. -/
  | long (name : List Char) (value : Option (List Char))
  /-- Options by their short names. -/
  | short (letters : List Char)
  /-- What separates options from other arguments. -/
  | separator
  /-- Anything else. -/
  | word
  deriving Repr, DecidableEq

/-- The form of an argument. A single dash is a word. -/
def Argument.ofText (text : List Char) : Argument :=
  match text with
  | ['-', '-'] => separator
  | '-' :: '-' :: rest =>
    match rest.dropWhile (· ≠ '=') with
    | [] => long rest none
    | _ :: value => long (rest.takeWhile (· ≠ '=')) (some value)
  | '-' :: c :: rest => short (c :: rest)
  | _ => word

/-- Takes options by their short names. What stands behind one with a value is its value; if
nothing stands there, the option is left waiting for it. -/
def Reading.takeShort (r : Reading) : List Char → Except Refusal (Reading × Option Flag)
  | [] => .ok (r, none)
  | c :: rest =>
    match Flag.ofShort? c with
    | none => .error (.unexpected (String.ofList ['-', c]))
    | some flag =>
      if flag.takesValue then
        match rest with
        | [] => .ok (r, some flag)
        | '=' :: value => (r.put flag (String.ofList value)).map (·, none)
        | value => (r.put flag (String.ofList value)).map (·, none)
      else do takeShort (← r.set flag) rest

def Reading.takeLong (r : Reading) (name : List Char) (value : Option (List Char)) :
    Except Refusal (Reading × Option Flag) :=
  match Flag.ofLong? (String.ofList name) with
  | none => .error (.unexpected (String.ofList ('-' :: '-' :: name)))
  | some flag =>
    match flag.takesValue, value with
    | true, some value => (r.put flag (String.ofList value)).map (·, none)
    | true, none => .ok (r, some flag)
    | false, some _ => .error (.unwantedValue flag)
    | false, none => (r.set flag).map (·, none)

/-- Takes the arguments one after the other; an option may be waiting for its value, which begins
with no dash. -/
def Reading.takeAll (r : Reading) : Option Flag → List String → Except Refusal Reading
  | none, [] => .ok r
  | some flag, [] => .error (.missingValue flag)
  | some flag, argument :: rest =>
    match Argument.ofText argument.toList with
    | .word => do takeAll (← r.put flag argument) none rest
    | _ => .error (.missingValue flag)
  | none, argument :: rest =>
    match Argument.ofText argument.toList with
    | .word => .error (.unexpected argument)
    | .separator =>
      match rest with
      | [] => .ok r
      | first :: _ => .error (.unexpected first)
    | .short letters => do
      let (r, waiting) ← r.takeShort letters
      takeAll r waiting rest
    | .long name value => do
      let (r, waiting) ← r.takeLong name value
      takeAll r waiting rest

/-- What the arguments say, or why they are not taken. -/
def parse (arguments : List String) : Except Refusal CommandLine := do
  let r ← Reading.takeAll {} none arguments
  if r.line.check && r.line.exportTo.isSome then .error .conflict else .ok r.line

/-- The settings in force: the file's, the environment's and those of the command line. -/
def settings (line : CommandLine) (file : Option String) (environment : List (String × String)) :
    Except SettingsError Settings := do
  (← Settings.load file environment).overrideWith line.overrides

/-- What the program is run for. -/
inductive Task where
  /-- To ask whether the gateway is well. -/
  | check
  /-- To save the dashboard to a file. -/
  | save (path : String)
  /-- To show the dashboard on the terminal. -/
  | watch
  deriving Repr, DecidableEq, Inhabited

def task (line : CommandLine) : Task :=
  if line.check then .check
  else match line.exportTo with
    | some path => .save path
    | none => .watch

/-! ## Failing -/

/-- Further lines of a cause, brought under its first one. -/
def indented (width : Nat) (text : String) : String :=
  String.ofList (text.toList.flatMap fun c =>
    if c = '\n' then '\n' :: List.replicate width ' ' else [c])

/-- The report of a failure: what failed, then why, numbered if there is more than one cause. -/
def failureText (messages : List String) : String :=
  match messages with
  | [] => "Error: "
  | [message] => "Error: " ++ message
  | [message, cause] => "Error: " ++ message ++ "\n\nCaused by:\n    " ++ indented 4 cause
  | message :: causes =>
    "Error: " ++ message ++ "\n\nCaused by:" ++
      String.join (causes.zipIdx.map fun (cause, i) =>
        let number := Digits.ofNat i
        "\n" ++ String.ofList (List.replicate (5 - number.length) ' ' ++ number) ++ ": " ++
          indented 7 cause)

/-! ## Asking and saving -/

/-- Asks whether the gateway is well. Gives the line to be printed, or the messages of a
failure. -/
def checkHealth (g : Gateway) (network : HttpRequest → Exchange) : Except (List String) String :=
  match g.health network with
  | .ok _ => .ok (g.endpoint ++ ": ok")
  | .error fault => .error [g.endpoint ++ " is not healthy", fault.message]

/-- The document to be saved after the counts and the clusters have been fetched once, or the
messages of a failure when neither could be. -/
def exportDocument (endpoint : String) (stats : Except Fault Stats)
    (clusters : Except Fault (List Cluster)) (now : Timestamp) : Except (List String) Bytes :=
  match stats, clusters with
  | .error fault, .error _ => .error [endpoint ++ " unreachable: " ++ fault.message]
  | _, _ =>
    let moment : Moment := ⟨now, 0⟩
    let counted := (Dashboard.empty.apply (.stats stats) moment).1
    let dashboard := (counted.apply (.clusters clusters) moment).1
    .ok (dashboard.exportDocument (some endpoint) now)

def fetchDocument (g : Gateway) (network : HttpRequest → Exchange) (now : Timestamp) :
    Except (List String) Bytes :=
  exportDocument g.endpoint (g.stats network) (g.clusters network) now

def savedText (path : String) : String := "Exported dashboard state to: " ++ path

def saveFailure (path reason : String) : List String := ["writing " ++ path, reason]

def logFailure (path reason : String) : List String := ["opening log file " ++ path, reason]

def terminalFailure : List String := ["No such device or address (os error 6)"]

def usage : String :=
  "Usage: fleetwatch [OPTIONS]\n\n" ++
    "  -c, --config FILE      settings file, ignored if missing\n" ++
    "      --endpoint URL     where the gateway's admin API is\n" ++
    "  -r, --refresh PERIOD   how often to refresh, such as 2s or 500ms\n" ++
    "      --timeout TIME     how long a request may take\n" ++
    "      --log-file FILE    where to write the log\n" ++
    "  -e, --export FILE      fetch once, save the dashboard and end\n" ++
    "      --check            ask whether the gateway is well and end\n" ++
    "  -h, --help             print this\n"

/-- The exit code when the arguments are not taken: nothing is wrong when only the usage was asked
for. -/
def Refusal.exitCode : Refusal → UInt32
  | .help => 0
  | _ => 2

end CommandLine

end FleetWatch
