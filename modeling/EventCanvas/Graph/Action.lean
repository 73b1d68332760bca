import EventCanvas.Reading

/-!
# Actions and handlers

An action is what a component does when an event reaches it: relabel a node,
write a variable or show an alert.  A handler ties an action to the kind of
event that runs it.
-/

namespace EventCanvas

/-- What an action does. -/
inductive ActionKind where
  | setText
  | setVariable
  | showAlert
deriving DecidableEq, Inhabited

namespace ActionKind

/-- The tag of a kind of action in a payload. -/
def tag : ActionKind → String
  | setText => "setText"
  | setVariable => "setVariable"
  | showAlert => "showAlert"

/-- The kinds of action by tag. -/
def byTag : List (String × ActionKind) :=
  [("setText", setText), ("setVariable", setVariable), ("showAlert", showAlert)]

/-- The kind that a value is the tag of. -/
def ofTag? : Value → Option ActionKind
  | .text s => Entries.lookup s byTag
  | _ => none

/-- The shape of the actions of a kind. -/
def shape : ActionKind → Shape
  | setText => .setText
  | setVariable => .setVariable
  | showAlert => .showAlert

@[simp] theorem ofTag?_tag (k : ActionKind) : ofTag? (.text k.tag) = some k := by
  cases k <;> decide

end ActionKind

/-- An action: what it does, to what, and with which text. -/
structure Action where
  kind : ActionKind
  target : Option String
  value : String
deriving DecidableEq, Inhabited

namespace Action

/-- The action as a typed value. -/
def toValue (a : Action) : Value :=
  .typed a.kind.shape
    [("target", .ofText? a.target), ("value", .text a.value), ("type", .text a.kind.tag)]

/-- Reads the fields of an action of a known kind. -/
def readFields (kind : ActionKind) (v : Value) : Reading Action :=
  (fun target value _ => ⟨kind, target, value⟩) <$>
    Reading.fieldD v ["target"] none (Reading.optional Reading.text) <*>
    Reading.field v "value" Reading.text <*>
    Reading.fieldD v ["type"] () (Reading.oneOf [(kind.tag, ())])

/-- Reads an action of a known kind. -/
def readKind (kind : ActionKind) (v : Value) : Reading Action :=
  Reading.shaped kind.shape v (readFields kind)

/-- Whether a value holds fields that an action could be read from. -/
def holdsFields : Value → Bool
  | .object _ | .record _ | .typed .. => true
  | _ => false

/-- Finds the kind of an action by its tag and goes on below the tag. -/
def readTagged (v : Value) (readAs : ActionKind → Value → Reading Action) : Reading Action :=
  if holdsFields v then
    match Entries.lookup "type" v.fields with
    | none => .issue .tagMissing v
    | some tag =>
      match ActionKind.ofTag? tag with
      | none => .issue (.tagUnknown tag.message) v
      | some kind => .under (.name kind.tag) (readAs kind v)
  else .issue .notFieldHolder v

/-- Reads an action from a payload. -/
def read (v : Value) : Reading Action := readTagged v readKind

/-- Reads an action from anything that holds fields. -/
def readLoose (v : Value) : Reading Action := readTagged v readFields

end Action

/-- The kinds of event that components emit. -/
inductive Gesture where
  | click
  | change
  | submit
deriving DecidableEq, Inhabited

namespace Gesture

/-- The name of a kind of event. -/
def name : Gesture → String
  | click => "onClick"
  | change => "onChange"
  | submit => "onSubmit"

/-- The kinds of event by name. -/
def byName : List (String × Gesture) :=
  [("onClick", click), ("onChange", change), ("onSubmit", submit)]

/-- The kind of event that a value names. -/
def ofValue? : Value → Option Gesture
  | .text s => Entries.lookup s byName
  | _ => none

@[simp] theorem ofValue?_name (g : Gesture) : ofValue? (.text g.name) = some g := by
  cases g <;> decide

theorem eq_name_of_lookup {s : String} {g : Gesture} (found : Entries.lookup s byName = some g) :
    s = g.name := by
  simp only [byName, Entries.lookup_cons, Entries.lookup_nil] at found
  grind [name]

theorem eq_name_of_ofValue? {v : Value} {g : Gesture} (named : ofValue? v = some g) :
    v = .text g.name := by
  cases v with
  | text s => exact congrArg Value.text (eq_name_of_lookup named)
  | _ => cases named

end Gesture

/-- An action and the kind of event that runs it. -/
structure Handler where
  gesture : Gesture
  action : Action
deriving DecidableEq, Inhabited

namespace Handler

/-- The handler as a typed value. -/
def toValue (h : Handler) : Value :=
  .typed .handler [("type", .text h.gesture.name), ("action", h.action.toValue)]

/-- Reads a handler. -/
def read (v : Value) : Reading Handler :=
  Reading.shaped .handler v fun v =>
    Handler.mk <$> Reading.field v "type" (Reading.oneOf Gesture.byName) <*>
      Reading.field v "action" Action.read

end Handler

end EventCanvas
