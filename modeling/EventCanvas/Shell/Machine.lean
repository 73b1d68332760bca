import EventCanvas.Shell
import EventCanvas.Text.Control

/-!
# Machines

A machine is the surroundings of a command as a value.  Its files lie in or below
one directory and its log goes to the error output, with a fixed stamp in place
of the time.  Neither output is a terminal, so control sequences are taken out of
the lines that are written there; the log is written as it is.
-/

namespace EventCanvas

/-- The surroundings of a command as a value. -/
structure Machine where
  environment : Entries String String
  files : Entries String ByteArray
  clock : Clock
  stamp : String
  output : String
  errors : String

/-- What a path leads to, from the machine's directory on. -/
inductive Place where
  | file (names : List String)
  | directory
  /-- A name in a directory under which there is nothing. -/
  | free (names : List String)
  /-- A name in a directory that there is not. -/
  | nowhere
  /-- A name below a file. -/
  | blocked
  | overlong
  /-- The text is no path. -/
  | noPath

namespace Machine

/-- The names on the path of a file. -/
def names (path : String) : List String := (pathParts path).filter fun p => !isIdlePart p

/-- The file at a place, with the path that it was given. -/
def file? (s : Machine) (here : List String) : Option (String × ByteArray) :=
  s.files.find? fun f => names f.1 == here

/-- Whether there is a directory at a place: the machine's own, or one with a file in it. -/
def hasDirectory (s : Machine) (here : List String) : Bool :=
  here.isEmpty || s.files.any fun f => here.isPrefixOf (names f.1).dropLast

/-- The place above another; none above the machine's directory. -/
def above : List String → Option (List String)
  | [] => none
  | names => some names.dropLast

/-- The most bytes that a name may have. -/
def maxNameSize : Nat := 255

/-- The most bytes that a path may have. -/
def maxPathSize : Nat := 4095

/-- Follows a path from a directory on.  Outside of the machine's directory, where there is no
place, nothing is known but that directories lie above one another. -/
def follow (s : Machine) : Option (List String) → List String → Place
  | _, [] => .directory
  | here, p :: ps =>
    if isIdlePart p then follow s here ps
    else if p = ".." then follow s (here.bind above) ps
    else if maxNameSize < p.utf8ByteSize then .overlong
    else
      match here with
      | none => .nowhere
      | some names =>
        if s.hasDirectory (names ++ [p]) then follow s (some (names ++ [p])) ps
        else
          match (s.file? (names ++ [p])).isSome, ps.isEmpty with
          | true, true => .file (names ++ [p])
          | true, false => .blocked
          | false, true => .free (names ++ [p])
          | false, false => .nowhere

/-- What a path leads to. -/
def place (s : Machine) (path : String) : Place :=
  if path.toList.contains (Char.ofNat 0) then .noPath
  else if path = "" then .nowhere
  else if maxPathSize < path.utf8ByteSize then .overlong
  else s.follow (if isRooted path then none else some []) (pathParts path)

/-- What is under a path. -/
def look (s : Machine) (path : String) : FileState :=
  match s.place path with
  | .file names => ((s.file? names).map fun f => FileState.contents f.2).getD .missing
  | .directory => .directory
  | .noPath => .noPath
  | .free _ | .nowhere | .blocked | .overlong => .missing

/-- The machine after a text was written to the file under a path.  A file that is there keeps its
path; a new one needs a directory. -/
def write (s : Machine) (path text : String) : Except Fault Machine :=
  let put (path : String) : Machine := { s with files := Entries.put path text.toUTF8 s.files }
  match s.place path with
  | .file names => .ok (put (((s.file? names).map Prod.fst).getD path))
  | .free names => .ok (put ("/".intercalate names))
  | .directory => .error (.isDirectory path)
  | .nowhere => .error (.noSuchFile path)
  | .blocked => .error (.notADirectory path)
  | .overlong => .error (.nameTooLong path)
  | .noPath => .error (.wrongValue "embedded null byte")

/-- Adds a line to the output. -/
def say (line : String) (s : Machine) : Machine :=
  { s with output := s.output ++ Text.withoutControls line ++ "\n" }

/-- Adds a line to the error output, as it is. -/
def addError (line : String) (s : Machine) : Machine :=
  { s with errors := s.errors ++ line ++ "\n" }

/-- Adds a line to the error output. -/
def complain (line : String) (s : Machine) : Machine := s.addError (Text.withoutControls line)

end Machine

instance : Shell (StateM Machine) where
  environment := return (← get).environment
  look path := return (← get).look path
  write path text := do
    match (← get).write path text with
    | .ok s =>
      set s
      return .ok ()
    | .error f => return .error f
  say line := modify (Machine.say line)
  complain line := modify (Machine.complain line)
  log r := modify fun s => s.addError (s.stamp ++ r.line)
  clock := return (← get).clock

end EventCanvas
