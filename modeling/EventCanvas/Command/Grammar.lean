import EventCanvas.Text.Similar

/-!
# Command lines

A `Grammar` says which options a command has.  `Grammar.read` sorts the words of
a command line by it into the values of options, switches, and plain words;
`Misuse` lists what can be wrong with a command line.  Where a name is unknown,
it says which similar ones there are.
-/

namespace EventCanvas

/-- What is wrong with a command line. -/
inductive Misuse where
  | unknownOption (name : String) (similar : List String)
  | needsValue (name : String)
  | takesNoValue (name : String)
  | missingArgument (name : String)
  | missingFile (argument path : String)
  | notAFile (argument path : String)
  | unexpectedWords (words : List String)
  | unknownCommand (name : String) (similar : List String)
  | missingCommand
  | badTrigger (spec : String)
deriving DecidableEq

namespace Misuse

/-- The message about a misuse. -/
def message : Misuse → String
  | unknownOption name similar =>
    "No such option " ++ Text.quoted name ++ "." ++ Text.suggestion similar
  | needsValue name => "Option " ++ Text.quoted name ++ " requires an argument."
  | takesNoValue name => "Option " ++ Text.quoted name ++ " does not take a value."
  | missingArgument name => "Missing argument " ++ Text.quoted name ++ "."
  | missingFile argument path =>
    "Invalid value for " ++ Text.quoted argument ++ ": File " ++ Text.quoted path ++
      " does not exist."
  | notAFile argument path =>
    "Invalid value for " ++ Text.quoted argument ++ ": File " ++ Text.quoted path ++
      " is a directory."
  | unexpectedWords words =>
    "Got unexpected extra argument" ++ (if words.length = 1 then " (" else "s (") ++
      " ".intercalate words ++ ")"
  | unknownCommand name similar =>
    "No such command " ++ Text.quoted name ++ "." ++ Text.suggestion similar
  | missingCommand => "Missing command."
  | badTrigger spec => "Invalid value: expected NODE:EVENT[=VALUE], got " ++ Text.quoted spec

/-- Whether the usage of the command is shown with the message.  It is not where an option and its
value do not fit together. -/
def showsUsage : Misuse → Bool
  | needsValue _ | takesNoValue _ => false
  | _ => true

end Misuse

/-- What an option does. -/
inductive Effect where
  /-- Takes a value, which is known by a key. -/
  | takes (key : String)
  /-- Turns a switch on or off. -/
  | switch (key : String) (on : Bool)

/-- An option: its names with what each does, and how it is explained. -/
structure Flag where
  names : List (String × Effect)
  form : String
  help : String

/-- What the words of a command may be. -/
structure Grammar where
  /-- The words that lead to the command. -/
  path : String
  /-- The form of what follows them. -/
  form : String
  summary : String
  flags : List Flag
  /-- Whether options may follow plain words.  Else the first plain word ends them. -/
  mixed : Bool

/-- The words of a command line, sorted. -/
structure Sorted where
  values : List (String × String)
  switches : List (String × Bool)
  words : List String

namespace Sorted

/-- No words. -/
def empty : Sorted := ⟨[], [], []⟩

/-- All values under a key. -/
def all (s : Sorted) (key : String) : List String :=
  s.values.filterMap fun e => if e.1 = key then some e.2 else none

/-- The last value under a key. -/
def last? (s : Sorted) (key : String) : Option String := (s.all key).getLast?

/-- The last setting of a switch. -/
def switch? (s : Sorted) (key : String) : Option Bool :=
  (s.switches.filterMap fun e => if e.1 = key then some e.2 else none).getLast?

/-- Adds a value. -/
def addValue (key value : String) (s : Sorted) : Sorted :=
  { s with values := s.values ++ [(key, value)] }

/-- Adds a setting of a switch. -/
def addSwitch (key : String) (on : Bool) (s : Sorted) : Sorted :=
  { s with switches := s.switches ++ [(key, on)] }

/-- Adds plain words. -/
def addWords (words : List String) (s : Sorted) : Sorted := { s with words := s.words ++ words }

end Sorted

namespace Grammar

/-- What the options of a command do, by name. -/
def effects (g : Grammar) : List (String × Effect) := g.flags.flatMap Flag.names

/-- What the option with a name does. -/
def effect? (g : Grammar) (name : String) : Option Effect :=
  (g.effects.find? fun e => e.1 == name).map (·.2)

/-- Whether a word begins with two dashes. -/
def isLong (word : List Char) : Bool := "--".toList.isPrefixOf word

/-- The names of the options that begin with two dashes. -/
def longNames (g : Grammar) : List String :=
  (g.effects.map (·.1)).filter fun name => isLong name.toList

/-- An option that still waits for its value: its name and the key of the value. -/
abbrev Waiting := Option (String × String)

/-- The options whose letters follow one dash. -/
def readLetters (g : Grammar) : List Char → Sorted → Except Misuse (Sorted × Waiting)
  | [], s => .ok (s, none)
  | c :: cs, s =>
    let name := String.ofList ['-', c]
    match g.effect? name with
    | none => .error (.unknownOption name [])
    | some (.switch key on) => readLetters g cs (s.addSwitch key on)
    | some (.takes key) =>
      if cs.isEmpty then .ok (s, some (name, key))
      else .ok (s.addValue key (String.ofList cs), none)

/-- One option, which may have its value behind an equality sign. -/
def readOption (g : Grammar) (word : List Char) (s : Sorted) :
    Except Misuse (Sorted × Waiting) :=
  let name := String.ofList (word.takeWhile (· ≠ '='))
  let value? : Option String :=
    match word.dropWhile (· ≠ '=') with
    | _ :: value => some (String.ofList value)
    | [] => none
  match (if isLong word then g.effect? name else none), value? with
  | some (.takes key), some value => .ok (s.addValue key value, none)
  | some (.takes key), none => .ok (s, some (name, key))
  | some (.switch key on), none => .ok (s.addSwitch key on, none)
  | some (.switch ..), some _ => .error (.takesNoValue name)
  | none, _ =>
    if isLong word then .error (.unknownOption name (Text.similarTo name g.longNames))
    else g.readLetters (word.drop 1) s

/-- Whether a word is an option. -/
def isOption (word : List Char) : Bool := word.head? == some '-' && 1 < word.length

/-- Sorts words, after those that are sorted already. -/
def readFrom (g : Grammar) : Waiting → List String → Sorted → Except Misuse Sorted
  | none, [], s => .ok s
  | some (name, _), [], _ => .error (.needsValue name)
  | some (_, key), w :: ws, s => readFrom g none ws (s.addValue key w)
  | none, w :: ws, s =>
    if w = "--" then .ok (s.addWords ws)
    else if isOption w.toList then
      match g.readOption w.toList s with
      | .ok (s, waiting) => readFrom g waiting ws s
      | .error misuse => .error misuse
    else if g.mixed then readFrom g none ws (s.addWords [w])
    else .ok (s.addWords (w :: ws))

/-- Sorts the words of a command line. -/
def read (g : Grammar) (words : List String) : Except Misuse Sorted :=
  g.readFrom none words .empty

/-! ## Usage and help -/

/-- The line that shows how a command is used. -/
def usage (g : Grammar) : String := "Usage: " ++ g.path ++ " " ++ g.form

/-- The lines about a misuse. -/
def complaint (g : Grammar) (misuse : Misuse) : List String :=
  (if misuse.showsUsage then
    [g.usage, "Try " ++ Text.quoted (g.path ++ " --help") ++ " for help.", ""]
  else []) ++ ["Error: " ++ misuse.message]

/-- Two columns, the first as wide as its widest entry. -/
def columns (rows : List (String × String)) : List String :=
  let width := (rows.map fun r => r.1.length).foldl max 0
  rows.map fun r =>
    "  " ++ r.1 ++ String.ofList (List.replicate (width + 2 - r.1.length) ' ') ++ r.2

/-- The lines of help on a command, with the commands below it. -/
def helpLines (g : Grammar) (below : List (String × String)) : List String :=
  [g.usage, "", "  " ++ g.summary, "", "Options:"] ++
    columns (g.flags.map fun f => (f.form, f.help)) ++
    (if below.isEmpty then [] else ["", "Commands:"] ++ columns below)

end Grammar

end EventCanvas
