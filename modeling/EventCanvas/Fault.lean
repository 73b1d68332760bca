import EventCanvas.Issue

/-!
# Faults

The ways in which an operation can fail, by cause.  `Fault.text` is what a log
line, a diagnostic or a span says about one.  A host is taken to raise only what
has a text.
-/

namespace EventCanvas

/-- What a container is indexed by when that cannot work. -/
inductive Indexed where
  | text
  | list
  | tuple
deriving DecidableEq

/-- The reason a sequence gives for refusing a named item. -/
def Indexed.reason : Indexed → String
  | .text => "string indices must be integers, not 'str'"
  | .list => "list indices must be integers or slices, not str"
  | .tuple => "tuple indices must be integers or slices, not str"

/-- The cause of a failure. -/
inductive Fault where
  /-- A direct operation on an engine that was disposed. -/
  | disposed (operation : String)
  /-- A failure of no particular kind. -/
  | failure (text : String)
  /-- What a host callback raised: the host's own name for its kind, and its text. -/
  | host (kind text : String)
  /-- A name under which nothing is kept. -/
  | missingKey (name : String)
  /-- A value that cannot be the key of a table. -/
  | unhashable (kind : String)
  /-- A value in which nothing can be looked for. -/
  | notIterable (kind : String)
  /-- A sequence asked for a named item. -/
  | badIndex (what : Indexed)
  /-- A value that has no JSON text. -/
  | unwritable (kind : String)
  /-- A node record that holds no fields. -/
  | noFields
  /-- An argument of the wrong kind. -/
  | wrongKind (text : String)
  /-- An argument of the right kind with an impossible value. -/
  | wrongValue (text : String)
  /-- A value that lacks an expected operation. -/
  | noSuchOperation (text : String)
  /-- A payload that does not have the form it was read for. -/
  | invalid (issues : List Issue)
  /-- A project payload that was rejected, with a line for each reason. -/
  | invalidProject (reasons : List String)
  | nodeNotFound (id : Value)
  | starterNotFound (id : Value)
  /-- A trigger that is not of the form `NODE:EVENT[=VALUE]`. -/
  | badTrigger (spec : String)
  | badConfigText
  | badEncoding
  /-- A path at which there is no file to be read or written. -/
  | noSuchFile (path : String)
  /-- A directory where a file is wanted. -/
  | isDirectory (path : String)
  /-- A file on the way to another file. -/
  | notADirectory (path : String)
  /-- A path with a name that is too long for any file. -/
  | nameTooLong (path : String)
  /-- A value inside a payload that cannot be put into stored form. -/
  | unstorable (kind : String)
  /-- A payload with too many values inside one another. -/
  | tooDeep
  /-- A record of which there is no copy. -/
  | uncopyable

namespace Fault

/-- What is said about a fault.  A missing key is named in quotes. -/
def text : Fault → String
  | disposed op => "Cannot call " ++ op ++ "() on a disposed event engine"
  | failure t | host _ t => t
  | missingKey name => Text.quoted name
  | unhashable k => "unhashable type: '" ++ k ++ "'"
  | notIterable k => "argument of type '" ++ k ++ "' is not iterable"
  | badIndex what => what.reason
  | unwritable k => "Object of type " ++ k ++ " is not JSON serializable"
  | noFields => "vars() argument must have __dict__ attribute"
  | wrongKind t | wrongValue t | noSuchOperation t => t
  | invalid _ => "<ValidationError>"
  | invalidProject reasons => "Invalid project data: " ++ "; ".intercalate reasons
  | nodeNotFound id => "Node " ++ id.message ++ " is not part of the project"
  | starterNotFound id => "No template named " ++ id.literal
  | badTrigger spec => "expected NODE:EVENT[=VALUE], got " ++ Text.quoted spec
  | badConfigText => "Invalid configuration"
  | badEncoding => "Invalid encoding"
  | noSuchFile path => "No such file or directory: " ++ Text.quoted path
  | isDirectory path => "Is a directory: " ++ Text.quoted path
  | notADirectory path => "Not a directory: " ++ Text.quoted path
  | nameTooLong path => "File name too long: " ++ Text.quoted path
  | unstorable k => "Unable to serialize unknown type: " ++ k
  | tooDeep => "Circular reference detected (depth exceeded)"
  | uncopyable => "un(deep)copyable object of type <class 'types.SimpleNamespace'>"

/-- The rejection of a project payload for the given issues. -/
def ofIssues (issues : List Issue) : Fault := invalidProject (issues.map Issue.text)

end Fault

end EventCanvas
