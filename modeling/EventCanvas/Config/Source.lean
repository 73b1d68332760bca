import EventCanvas.Config
import EventCanvas.Json.Writer
import EventCanvas.Shell
import EventCanvas.Toml.Reader
import EventCanvas.Value.Collect

/-!
# Where a configuration comes from

A configuration is the table `canvasflow` of the first file that is there: the
one that was asked for, the one that the environment names, or the usual one.
Environment variables come on top of it.
-/

namespace EventCanvas.Config

/-- The beginning of the names of the environment variables that configure. -/
def variablePrefix : List Char := "CANVASFLOW_".toList

/-- The environment variable that names a configuration file. -/
def fileVariable : String := "CANVASFLOW_CONFIG"

/-- The usual configuration file. -/
def usualFile : String := "canvasflow.toml"

/-- The table of a configuration file that counts. -/
def tableName : String := "canvasflow"

/-- The paths at which a configuration is looked for, in order.  An empty path does not count. -/
def candidates (asked : Option String) (environment : Entries String String) : List String :=
  (asked.toList ++ (Entries.lookup fileVariable environment).toList ++ [usualFile]).filter (· != "")

variable {m : Type → Type} [Monad m] [Shell m]

/-- The first of some paths at which there is something. -/
def firstPresent : List String → m (Option (String × FileState))
  | [] => return none
  | path :: paths => do
    match ← Shell.look path with
    | .missing | .noPath => firstPresent paths
    | found => return some (path, found)

/-- The name of a key: a key that is no text is named as in JSON. -/
def keyName : Value → String
  | .text s => s
  | v => Json.compact v

/-- The table that counts in the text of a configuration file. -/
def ofText (text : String) : Except Fault Fields :=
  match Toml.read text with
  | .error .malformed => .error .badConfigText
  | .error .tooManyDigits => .error (.wrongValue "an integer has too many digits")
  | .ok tables =>
    match Entries.lookup tableName tables with
    | none => .ok []
    | some v => v.toTable?.map fun t => t.map fun e => (keyName e.1, e.2)

/-- The key that an environment variable sets, if it sets one.  The names of environment variables
are ASCII. -/
def keyOf? (name : String) : Option String :=
  if variablePrefix.isPrefixOf name.toList then
    let key := String.ofList ((name.toList.drop variablePrefix.length).map Char.toLower)
    if key = "config" then none else some key
  else none

/-- The keys that are switches. -/
def switches : List String := ["interpolate_actions", "enable_tracing"]

/-- The words that turn a switch on. -/
def onWords : List String := ["1", "true", "yes"]

/-- What an environment variable sets a key to. -/
def valueOf (key value : String) : Value :=
  if switches.contains key then
    .bool (onWords.contains (String.ofList (value.toList.map Char.toLower)))
  else .text value

/-- What the environment sets, in order. -/
def overrides (environment : Entries String String) : Fields :=
  environment.filterMap fun e => (keyOf? e.1).map fun key => (key, valueOf key e.2)

/-- The configuration in the file found, if there is one. -/
def ofFile : Option (String × FileState) → Except Fault Fields
  | none => .ok []
  | some (path, found) => do ofText (← found.text path)

/-- Loads the configuration. -/
def load (asked : Option String) (environment : Entries String String) :
    ExceptT Fault m Fields := do
  let found ← firstPresent (m := m) (candidates asked environment)
  match ofFile found with
  | .ok config => return Entries.merge config (overrides environment)
  | .error f => throw f

end EventCanvas.Config
