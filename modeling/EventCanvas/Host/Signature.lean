import EventCanvas.Fault

/-!
# Signatures of calls

A host calls an operation with arguments in order and arguments by name.  A
`Signature` says which parameters the operation has, and `bind` matches the
arguments with them.
-/

namespace EventCanvas

/-- The parameters of an operation. -/
structure Signature where
  /-- Parameters that must be given. -/
  required : List String
  /-- Further parameters, with what they are if they are not given. -/
  optional : List (String × Value)
  /-- Whether arguments by other names are taken along. -/
  takesMore : Bool

/-- The arguments of a call, by the parameters of the operation, and those by other names. -/
structure Arguments where
  values : Fields
  more : Fields

namespace Arguments

/-- The argument for a parameter. -/
def get (a : Arguments) (name : String) : Value := (Entries.lookup name a.values).getD .null

end Arguments

namespace Signature

/-- A signature of required parameters. -/
def of (required : List String) : Signature := ⟨required, [], false⟩

/-- The names of the parameters in order. -/
def names (s : Signature) : List String := s.required ++ Entries.keys s.optional

/-- Adds an argument by name.  No parameter is given twice. -/
def addNamed (s : Signature) (a : Arguments) (arg : String × Value) : Except Fault Arguments :=
  if s.names.contains arg.1 then
    if Entries.has arg.1 a.values then
      .error (.wrongKind ("got multiple values for argument " ++ Text.quoted arg.1))
    else .ok { a with values := a.values ++ [arg] }
  else if s.takesMore then .ok { a with more := a.more ++ [arg] }
  else .error (.wrongKind ("got an unexpected keyword argument " ++ Text.quoted arg.1))

/-- The required parameters for which there is no argument. -/
def missing (s : Signature) (a : Arguments) : List String :=
  s.required.filter fun name => !Entries.has name a.values

/-- Gives the parameters that are left their values. -/
def fill (s : Signature) (a : Arguments) : Except Fault Arguments :=
  match s.missing a with
  | [] =>
    .ok { a with values := s.optional.foldl (fun vs e => Entries.putNew e.1 e.2 vs) a.values }
  | names =>
    .error (.wrongKind ("missing required arguments: " ++ ", ".intercalate (names.map Text.quoted)))

/-- Matches the arguments of a call, in order and by name, with the parameters. -/
def bind (s : Signature) (args : List Value) (named : Fields) : Except Fault Arguments :=
  if s.names.length < args.length then .error (.wrongKind "too many positional arguments")
  else do s.fill (← named.foldlM s.addNamed ⟨s.names.zip args, []⟩)

end Signature

end EventCanvas
