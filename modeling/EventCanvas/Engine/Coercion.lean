import EventCanvas.Graph.Action

/-!
# What an action value comes to

Actions reach the engine as typed values, tables or records.  `Action.coerce`
says what such a value comes to, without regard to any engine.
-/

namespace EventCanvas

/-- What a value given as an action comes to. -/
inductive Coerced where
  | action (a : Action)
  /-- An action of no particular kind. -/
  | kindless (target : Option String) (value : String)
  /-- Something whose tag names no kind of action. -/
  | unknown (tag : Value)
  /-- Something with a known tag that is no action for the given reasons. -/
  | malformed (tag : Value) (issues : List Issue)

namespace Action

/-- The reader for a value given to an engine: what is no table is read by its fields. -/
def readGiven : Value → Reading Action
  | .object fs => read (.object fs)
  | v => readLoose v

/-- What a value given as an action comes to, by its tag. -/
def coerceTagged (v : Value) : Coerced :=
  let tag := v.fieldOf "type"
  if (ActionKind.ofTag? tag).isNone then .unknown tag
  else
    match readGiven v with
    | .ok a => .action a
    | .bad issues => .malformed tag issues

/-- What a value given as an action comes to. -/
def coerce (v : Value) : Coerced :=
  match v with
  | .typed .action fs =>
    .kindless (Value.typed .action fs |>.fieldOf "target").text?
      (((Value.typed .action fs).fieldOf "value").text?.getD "")
  | v => coerceTagged v

@[simp] theorem coerce_toValue (a : Action) : coerce a.toValue = .action a := by
  rcases a with ⟨_ | _ | _, _ | t, v⟩ <;> rfl

end Action

end EventCanvas
