import EventCanvas.Command.Preview
import EventCanvas.Command.Threshold
import EventCanvas.Config.EnvFile
import EventCanvas.Config.Source
import EventCanvas.Lint
import EventCanvas.Starter

/-!
# The commands

`Command.run` is the command line of the library: it loads the configuration,
finds the command that is asked for and runs it.

* `validate` checks a project file and warns about its wiring,
* `migrate` writes a project file in the present form,
* `templates` and `template` show the starter projects,
* `preview` runs triggers against a project.
-/

namespace EventCanvas.Command

variable {m : Type → Type} [Monad m] [Shell m]

/-! ## Grammars -/

/-- The switch that calls for help. -/
def helpFlag : Flag :=
  ⟨[("--help", .switch "help" true)], "--help", "Show this message and exit."⟩

/-- The option that names a file to write to. -/
def outputFlag (help : String) : Flag :=
  ⟨[("-o", .takes "output"), ("--output", .takes "output")], "-o, --output TEXT", help⟩

/-- The grammar of the words before the command. -/
def top : Grammar where
  path := "canvasflow"
  form := "[OPTIONS] COMMAND [ARGS]..."
  summary := "canvasflow - run and check no-code canvas projects"
  flags :=
    [⟨[("--config", .takes "config")], "--config TEXT", "Path to canvasflow.toml"⟩, helpFlag]
  mixed := false

/-- The grammar of `validate`. -/
def validate : Grammar where
  path := "canvasflow validate"
  form := "[OPTIONS] FILE"
  summary := "Check a project file for structural errors and wiring mistakes."
  flags := [helpFlag]
  mixed := true

/-- The grammar of `migrate`. -/
def migrate : Grammar where
  path := "canvasflow migrate"
  form := "[OPTIONS] FILE"
  summary := "Upgrade a project file saved in an older format."
  flags := [outputFlag "Write the migrated data here instead of stdout", helpFlag]
  mixed := true

/-- The grammar of `templates`. -/
def templates : Grammar where
  path := "canvasflow templates"
  form := "[OPTIONS]"
  summary := "List the built-in starter projects."
  flags := [helpFlag]
  mixed := true

/-- The grammar of `template`. -/
def template : Grammar where
  path := "canvasflow template"
  form := "[OPTIONS] TEMPLATE_ID"
  summary := "Dump a starter project's data."
  flags := [outputFlag "Write the template here instead of stdout", helpFlag]
  mixed := true

/-- The grammar of `preview`. -/
def preview : Grammar where
  path := "canvasflow preview"
  form := "[OPTIONS] FILE"
  summary := "Run triggers against a project headlessly and print what happened."
  flags :=
    [⟨[("-t", .takes "trigger"), ("--trigger", .takes "trigger")], "-t, --trigger TEXT",
        "NODE:EVENT[=VALUE], e.g. button-1:onClick or input-1:onChange=Ada"⟩,
      ⟨[("--interpolate", .switch "interpolate" true),
          ("--no-interpolate", .switch "interpolate" false)],
        "--interpolate / --no-interpolate", "Interpolate action values"⟩,
      helpFlag]
  mixed := true

/-! ## Arguments -/

/-- The words of a command, sorted; help is given if it is called for. -/
def sorted (g : Grammar) (below : List (String × String)) (words : List String) :
    Job m Sorted := do
  match g.read words with
  | .error misuse => throw (.misuse g misuse)
  | .ok s => if s.switch? "help" = some true then throw (.help (g.helpLines below)) else return s

/-- Requires that no words are left. -/
def noMore (g : Grammar) : List String → Job m Unit
  | [] => return ()
  | words => throw (.misuse g (.unexpectedWords words))

/-- The one argument of a command. -/
def argument (g : Grammar) (name : String) (s : Sorted) : Job m String := do
  match s.words with
  | [] => throw (.misuse g (.missingArgument name))
  | word :: more =>
    noMore g more
    return word

/-- The one argument of a command, which must be the path of a file. -/
def fileArgument (g : Grammar) (s : Sorted) : Job m String := do
  match s.words with
  | [] => throw (.misuse g (.missingArgument "FILE"))
  | path :: more =>
    match ← ExceptT.lift (Shell.look path) with
    | .missing => throw (.misuse g (.missingFile "FILE" path))
    | .directory => throw (.misuse g (.notAFile "FILE" path))
    | .noPath => throw (.fault (.wrongValue "embedded null byte"))
    | .contents _ =>
      noMore g more
      return path

/-! ## Commands -/

/-- The settings that a command runs under, and the threshold of its log. -/
structure Setting where
  engine : EngineSettings
  threshold : Nat

/-- Reports what an upgrade of a payload logs. -/
def reportUpgrade (setting : Setting) (payload : Value) : Job m Unit :=
  ExceptT.lift (Job.report setting.threshold (Upgrade.notes payload))

/-- The lines about errors. -/
def errorLines (errors : List String) : List String := errors.map ("  error: " ++ ·)

/-- The project in a file, checked. -/
def checked (setting : Setting) (path : String) : Job m Lint.Report := do
  let raw ← Job.payload path
  reportUpgrade setting (Upgrade.unwrap raw)
  Job.ofExcept (Lint.check raw)

/-- Runs `validate`. -/
def runValidate (setting : Setting) (words : List String) : Job m Unit := do
  let path ← fileArgument validate (← sorted validate [] words)
  let report ← checked setting path
  (errorLines report.errors ++ report.warnings.map ("  warning: " ++ ·)).forM Job.complain
  match report.data with
  | none => throw (.exit 1)
  | some g =>
    Job.say ("✓ " ++ path ++ " is a valid project (" ++ toString g.nodes.length ++ " nodes).")

/-- Runs `migrate`. -/
def runMigrate (setting : Setting) (words : List String) : Job m Unit := do
  let s ← sorted migrate [] words
  let path ← fileArgument migrate s
  let payload := Upgrade.unwrap (← Job.payload path)
  reportUpgrade setting payload
  match Upgrade.load payload with
  | .ok g => Job.deliver (← Job.ofExcept g.stored?) (s.last? "output")
  | .error (.invalidProject reasons) => Job.giveUp (errorLines reasons)
  | .error f => throw (.fault f)

/-- The line about a starter project. -/
def starterLine (s : Starter) : String :=
  s.icon ++ " " ++ s.id ++ String.ofList (List.replicate (18 - s.id.length) ' ') ++ " " ++ s.name ++
    " (" ++ toString s.components ++ " components) - " ++ s.description

/-- Runs `templates`. -/
def runTemplates (words : List String) : Job m Unit := do
  noMore templates (← sorted templates [] words).words
  (Starter.all.map starterLine).forM Job.say

/-- Runs `template`. -/
def runTemplate (words : List String) : Job m Unit := do
  let s ← sorted template [] words
  let id ← argument template "TEMPLATE_ID" s
  match Starter.find (.text id) with
  | .ok g => Job.deliver (← Job.ofExcept g.stored?) (s.last? "output")
  | .error (.starterNotFound id) => Job.giveUp ["Error: " ++ (Fault.starterNotFound id).text]
  | .error f => throw (.fault f)

/-- Runs `preview`. -/
def runPreview (setting : Setting) (words : List String) : Job m Unit := do
  let s ← sorted preview [] words
  let path ← fileArgument preview s
  let report ← checked setting path
  match report.data with
  | none => Job.giveUp (errorLines report.errors)
  | some g =>
    let settings :=
      match s.switch? "interpolate" with
      | none => setting.engine
      | some on => { setting.engine with interpolateActions := .bool on }
    Preview.run preview setting.threshold settings g (s.all "trigger")

/-- The commands by name. -/
def all : List (String × Grammar × (Setting → List String → Job m Unit)) :=
  [("migrate", migrate, runMigrate), ("preview", preview, runPreview),
    ("template", template, fun _ => runTemplate),
    ("templates", templates, fun _ => runTemplates), ("validate", validate, runValidate)]

/-! ## The command line -/

/-- The file of variables that the environment does not have. -/
def envFile : String := ".env"

/-- The environment, with the variables of the environment file. -/
def environment : Job m (Entries String String) := do
  let own ← ExceptT.lift Shell.environment
  match ← ExceptT.lift (Shell.look envFile) with
  | .contents bytes =>
    return Config.EnvFile.extend own (← Job.ofExcept ((FileState.contents bytes).text envFile))
  | _ => return own

/-- Loads the settings for a command. -/
def loadSetting (asked : Option String) : Job m Setting := do
  let vars ← environment
  let config ← Job.ofExcept (← ExceptT.lift (ExceptT.run (Config.load asked vars)))
  let engine := EngineSettings.ofConfig config
  return ⟨engine, ← Job.ofExcept (Threshold.ofSetting engine.logLevel)⟩

/-- The commands with what they are for. -/
def overview : List (String × String) :=
  [migrate, preview, template, templates, validate].map fun g =>
    (String.ofList (g.path.toList.drop (top.path.length + 1)), g.summary)

/-- Refuses the words behind the options when the first of them names no command.  Where that word
is an option, the words are sorted once more, for what is wrong with them or for help. -/
def refuseWords (name : String) (rest : List String) : Job m Unit := do
  let _ ← sorted top overview (name :: rest)
  let names := (all (m := m)).map fun c => c.1
  throw (.misuse top (.unknownCommand name (Text.similarTo name names)))

/-- The command line as a job. -/
def job (words : List String) : Job m Unit := do
  if words.isEmpty then
    (top.helpLines overview).forM Job.complain
    throw (.exit 2)
  let s ← sorted top overview words
  match s.words with
  | [] => throw (.misuse top .missingCommand)
  | name :: rest =>
    match (all (m := m)).find? fun c => c.1 == name with
    | none => refuseWords name rest
    | some (_, _, start) => start (← loadSetting (s.last? "config")) rest

/-- Runs a command line to its exit code. -/
def run (words : List String) : m (Except Fault Nat) := (job words).run

end EventCanvas.Command
