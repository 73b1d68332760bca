import EventCanvas.Proofs.Engine.Rewriting
import EventCanvas.Proofs.Placeholder
import EventCanvas.Proofs.Table

/-!
# Interpolating is running rendered actions

An engine that interpolates replaces the references in the value and in the target
of an action when the action is about to run.  An engine that does not does the same
on events whose actions were rendered before: each with the variables and the node
values that the events before it left, and with the value copied that comes with it.
What was put in place of a reference is not looked at again.

* `Action.rendered`: an action with the references in its texts replaced.
* `Engine.actionEffects_renderEvent`: to interpolate an action is to run it rendered.
* `Host.interpolation_simulated`: the two engines look alike after any signals, and
  where no text refers to anything nothing needs to be rendered.
-/

namespace EventCanvas

open Engine

variable {σ : Type} {id : Nat}

/-! ## Rendered actions -/

/-- An action with the references in its texts replaced by what they refer to in a context. -/
def Action.rendered (c : Context Callback) (a : Action) : Except Fault Action := do
  let value ← Placeholder.interpolate a.value c.vars (valuesOf c.nodes)
  match a.target with
  | none => return ⟨a.kind, none, value⟩
  | some t => return ⟨a.kind, some (← Placeholder.interpolate t c.vars (valuesOf c.nodes)), value⟩

/-- An event with its action rendered.  Where a text cannot be rendered there is no action. -/
def renderEvent (c : Context Callback) (event : Value) : Value :=
  match Action.coerce (event.fieldOf "action") with
  | .action a =>
    .typed .handler
      [("type", event.fieldOf "type"),
        ("action", ((a.rendered c).toOption.map Action.toValue).getD .null)]
  | _ => event

/-- Renders each event at its turn. -/
def Rewriting.rendering : Rewriting where
  event := renderEvent
  fieldOf_type c event := by
    unfold renderEvent
    split <;> rfl

/-! ## Interpolating and rendering -/

section

variable {s t : EngineSettings} {c : Context Callback}

theorem Engine.finalParts_of_interpolates (on : s.interpolates = true) (tables : c.misfits = .empty)
    (a : Action) :
    (finalParts s c a.target a.value).map (fun parts => (⟨a.kind, parts.1, parts.2⟩ : Action)) =
      a.rendered c := by
  have texts (text : String) :
      finalText s c text = Placeholder.interpolate text c.vars (valuesOf c.nodes) := by
    unfold finalText
    rw [on, tables]
    rfl
  unfold finalParts Action.rendered
  rw [texts]
  cases Placeholder.interpolate a.value c.vars (valuesOf c.nodes) with
  | error f => rfl
  | ok value =>
    cases a.target with
    | none => rfl
    | some t =>
      simp only [texts]
      cases Placeholder.interpolate t c.vars (valuesOf c.nodes) with
      | error f => rfl
      | ok target => rfl

theorem Engine.actionEffects_of_plain (off : t.interpolates = false) (source action : Value) :
    actionEffects t c source action =
      match Action.coerce action with
      | .action a => plainEffects c source a
      | _ => [] := by
  unfold actionEffects
  simp only [finalParts_of_plain off]
  rfl

theorem Engine.actionEffects_of_interpolates (on : s.interpolates = true)
    (tables : c.misfits = .empty) (source action : Value) :
    actionEffects s c source action =
      match Action.coerce action with
      | .action a => ((a.rendered c).toOption.map (plainEffects c source)).getD []
      | _ => [] := by
  unfold actionEffects
  cases Action.coerce action with
  | action a =>
    simp only [← finalParts_of_interpolates on tables a]
    cases finalParts s c a.target a.value with
    | error f => rfl
    | ok parts => rfl
  | _ => rfl

/-- To interpolate an action is to run it rendered. -/
theorem Engine.actionEffects_renderEvent (on : s.interpolates = true)
    (off : t.interpolates = false) (tables : c.misfits = .empty) (source event : Value) :
    actionEffects t c source ((renderEvent c event).fieldOf "action") =
      actionEffects s c source (event.fieldOf "action") := by
  rw [actionEffects_of_plain off, actionEffects_of_interpolates on tables]
  unfold renderEvent
  cases coerced : Action.coerce (event.fieldOf "action") with
  | action a =>
    have field (v : Value) :
        (Value.typed .handler [("type", event.fieldOf "type"), ("action", v)]).fieldOf "action" =
          v := rfl
    simp only [field]
    cases a.rendered c with
    | error f => rfl
    | ok b => simp only [Except.toOption, Option.map_some, Option.getD_some, Action.coerce_toValue]
  | _ => simp only [coerced]

end

/-! ## Texts that refer to nothing -/

/-- No text of the action refers to anything. -/
def Action.IsLiteral (a : Action) : Prop :=
  Placeholder.placeholders a.value = [] ∧ ∀ t ∈ a.target, Placeholder.placeholders t = []

instance (a : Action) : Decidable a.IsLiteral := inferInstanceAs (Decidable (_ ∧ _))

theorem Action.IsLiteral.rendered_eq {a : Action} (literal : a.IsLiteral) (c : Context Callback) :
    a.rendered c = .ok a := by
  obtain ⟨kind, target, value⟩ := a
  obtain ⟨plain, plainTarget⟩ := literal
  unfold Action.rendered
  rw [Placeholder.interpolate_of_placeholders_eq_nil plain]
  cases target with
  | none => rfl
  | some t =>
    simp only [Placeholder.interpolate_of_placeholders_eq_nil (plainTarget t rfl)]
    rfl

/-- The event has no action whose texts refer to anything. -/
def IsLiteralEvent (event : Value) : Prop :=
  ∀ a, Action.coerce (event.fieldOf "action") = .action a → a.IsLiteral

/-- No action of the project has a text that refers to anything. -/
def Graph.IsLiteral (g : Graph) : Prop :=
  ∀ n ∈ g.nodes, ∀ h ∈ n.data.handlers, h.action.IsLiteral

instance (g : Graph) : Decidable g.IsLiteral :=
  inferInstanceAs (Decidable (∀ n ∈ g.nodes, ∀ h ∈ n.data.handlers, h.action.IsLiteral))

theorem Engine.actionEffects_of_isLiteral {s t : EngineSettings} {c : Context Callback}
    (on : s.interpolates = true) (off : t.interpolates = false) (tables : c.misfits = .empty)
    (source : Value) {event : Value} (literal : IsLiteralEvent event) :
    actionEffects t c source (event.fieldOf "action") =
      actionEffects s c source (event.fieldOf "action") := by
  rw [actionEffects_of_plain off, actionEffects_of_interpolates on tables]
  cases coerced : Action.coerce (event.fieldOf "action") with
  | action a =>
    simp only [(literal a coerced).rendered_eq c]
    rfl
  | _ => rfl

/-- A context with tables whose records have literal events only. -/
structure Context.IsLiteral (c : Context Callback) : Prop where
  tables : c.misfits = .empty
  records : ∀ node record, Entries.lookup (.text node) c.nodes = some record →
    (∃ fields, record = .object fields) ∧
      ∀ event ∈ (eventsOf? record).getD [], IsLiteralEvent event

theorem Graph.IsLiteral.context {g : Graph} (literal : g.IsLiteral)
    (hooks : Hooks (Option Callback)) : (g.context hooks).IsLiteral where
  tables := rfl
  records node record found := by
    obtain ⟨n, member, rfl⟩ := Graph.lookup_runtimeNodes found
    refine ⟨⟨_, rfl⟩, fun event among => ?_⟩
    have row : (eventsOf? (Graph.runtimeRecord n.data)).getD [] =
        n.data.handlers.map Handler.toValue := rfl
    rw [row] at among
    obtain ⟨h, handled, rfl⟩ := List.mem_map.1 among
    intro a coerced
    have action : h.toValue.fieldOf "action" = h.action.toValue := rfl
    rw [action, Action.coerce_toValue] at coerced
    cases coerced
    exact literal n member h handled

/-- No effect brings in events that were not there. -/
theorem Context.IsLiteral.write {c : Context Callback} (literal : c.IsLiteral) (x : Engine.Effect) :
    (x.write c).IsLiteral where
  tables := (Engine.Effect.misfits_write c x).trans literal.tables
  records node record found := by
    cases x with
    | setNode field other value =>
      simp only [Engine.Effect.write] at found
      cases read : recordFields (Engine.Effect.recordAt c other) with
      | error f =>
        rw [read] at found
        exact literal.records node record found
      | ok fields =>
        rw [read] at found
        by_cases hit : other = .text node
        · subst hit
          rw [Table.lookup_put_self] at found
          cases found
          refine ⟨⟨_, rfl⟩, ?_⟩
          rw [eventsOf?_put]
          -- the fields are those of the record that was there, or there was none
          unfold Engine.Effect.recordAt at read
          cases before : Entries.lookup (.text node) c.nodes with
          | none =>
            rw [before] at read
            cases read
            intro event among
            cases among
          | some record =>
            obtain ⟨⟨fields', rfl⟩, events⟩ := literal.records node record before
            rw [before] at read
            cases read
            exact events
        · rw [Table.lookup_put_of_ne hit] at found
          exact literal.records node record found
    | _ => exact literal.records node record found

/-! ## Two engines on one project -/

/-- Events have the same effects for two engines if their actions have, by induction on the
events. -/
theorem Engine.eventsEffects_congr {I : Context Callback → Prop}
    (keeps : ∀ c x, I c → I (Engine.Effect.write c x)) {ρ π : Rewriting} {s t : EngineSettings}
    {events : List Value}
    (same : ∀ c, I c → ∀ event ∈ events, ∀ source,
      actionEffects s c source ((ρ.event c event).fieldOf "action") =
        actionEffects t c source ((π.event c event).fieldOf "action"))
    (g : Gesture) (node : String) (data : Value) {c : Context Callback} (holds : I c) :
    eventsEffects ρ s g node data c events = eventsEffects π t g node data c events := by
  induction events generalizing c with
  | nil => rfl
  | cons event events ih =>
    have found : I (mirrored c g node data) := Engine.Effect.writeAll_keeps keeps holds _
    have first : eventEffects s c g node data (ρ.event (mirrored c g node data) event) =
        eventEffects t c g node data (π.event (mirrored c g node data) event) := by
      unfold eventEffects
      rw [same _ found event List.mem_cons_self]
    have rest := ih (fun c holds event member => same c holds event (List.mem_cons_of_mem _ member))
      (Engine.Effect.writeAll_keeps keeps holds
        (eventEffects t c g node data (π.event (mirrored c g node data) event)))
    unfold eventsEffects
    rw [first]
    exact congrArg (_ ++ ·) rest

/-- A signal has the same effects for two engines if the actions that it runs have. -/
theorem Signal.effects_congr {I : Context Callback → Prop}
    (keeps : ∀ c x, I c → I (Engine.Effect.write c x)) {ρ π : Rewriting} {s t : EngineSettings}
    {c : Context Callback} (holds : I c) (signal : Signal)
    (same : ∀ c', I c' → ∀ event ∈ signal.due c, ∀ source,
      actionEffects s c' source ((ρ.event c' event).fieldOf "action") =
        actionEffects t c' source ((π.event c' event).fieldOf "action")) :
    signal.effects ρ s c = signal.effects π t c := by
  unfold Signal.effects
  unfold Signal.due at same
  cases kind : Gesture.ofValue? signal.kind with
  | none => rfl
  | some g =>
    rw [kind] at same
    exact eventsEffects_congr keeps same g signal.node signal.data holds

theorem Context.IsLiteral.isLiteralEvent {c : Context Callback} (literal : c.IsLiteral)
    {signal : Signal} {event : Value} (due : event ∈ signal.due c) : IsLiteralEvent event := by
  unfold Signal.due at due
  split at due
  · cases due
  · next g _ =>
    obtain ⟨listed, -⟩ := mem_matching.1 due
    unfold Engine.Effect.recordAt at listed
    cases found : Entries.lookup (.text signal.node) c.nodes with
    | none =>
      rw [found] at listed
      cases listed
    | some record =>
      rw [found] at listed
      exact (literal.records _ record found).2 event listed

namespace Host

/-- An engine that interpolates cannot be told apart from one that does not and runs rendered
actions.  Both work on a session of one project.  Callbacks neither call the engine nor change the
slot that may own it; they may fail, and call other engines.  After any signals both engines have
the same variables and records, told the host of the same effects, and answered the same.  Each
action is rendered with what the events before it left and with the copy of the value that comes
with its own event.  Where no action of the project refers to anything, nothing has to be rendered
for that. -/
theorem interpolation_simulated {host : Host σ} (spares : host.CallsOnly (HostOp.Spares id))
    (depth : Nat) (g : Graph) (hooks : Hooks (Option Callback)) (signals : List Signal)
    {s t : EngineSettings} (on : s.interpolates = true) (off : t.interpolates = false)
    {w v : World σ} (left : Running id s (g.context hooks) w)
    (right : Running id t (g.context hooks) v) :
    Alike id (signals.mapM (Signal.run (host.notify depth) id)) w
      (signals.mapM (Signal.runAs .rendering (host.notify depth) id)) v ∧
    (g.IsLiteral → Alike id (signals.mapM (Signal.run (host.notify depth) id)) w
      (signals.mapM (Signal.run (host.notify depth) id)) v) := by
  have spared := spared_notify spares depth
  rw [← Signal.runAs_none]
  constructor
  · have keeps (c : Context Callback) (x : Engine.Effect) (tables : c.misfits = .empty) :
        (x.write c).misfits = .empty := (Engine.Effect.misfits_write c x).trans tables
    refine left.alike_runAs spared spared keeps (fun _ tables => tables)
      (fun c tables signal => ?_) signals right rfl
    exact Signal.effects_congr keeps tables signal fun c' tables event _ source =>
      (actionEffects_renderEvent on off tables source event).symm
  · intro literal
    refine left.alike_runAs spared spared (fun _ x literal => literal.write x)
      (fun _ literal => literal.tables) (fun c literal signal => ?_) signals right
      (literal.context hooks)
    exact Signal.effects_congr (fun _ x literal => literal.write x) literal signal
      fun c' literal' event due source => (actionEffects_of_isLiteral on off literal'.tables source
        (literal.isLiteralEvent due)).symm

/-- An input whose change first sets a variable to what was typed and then relabels another node
with it, and the same with texts that refer to nothing; and a host whose every callback fails. -/
theorem interpolation_simulated_chained :
    let host : Host Unit := ⟨fun _ _ => .fail (.failure "host is gone")⟩
    let form (name greeting : String) : Graph :=
      ⟨[⟨"input", .input, default, "Name", none,
          some [⟨.change, .setVariable, some "name", name⟩,
            ⟨.change, .setText, some "greeting", greeting⟩]⟩,
        ⟨"greeting", .text, default, "Hello", none, none⟩], [], .initial⟩
    let chained := form "#\x7binput\x7d" "Hello $\x7bname\x7d"
    let plain := form "somebody" "Hello you"
    let hooks : Hooks (Option Callback) := Hooks.all (some ⟨"host", 0⟩)
    let typed (s : String) : Signal :=
      ⟨"input", .text "onChange", .object [("value", .text s)]⟩
    let signals := [typed "$\x7bname\x7d", typed "Ada"]
    let on : EngineSettings := { EngineSettings.initial with interpolateActions := .bool true }
    let start (s : EngineSettings) (g : Graph) : World Unit :=
      Slot.created (World.initial ⟨"preview", s, none⟩ ()) (g.context hooks)
    host.CallsOnly (HostOp.Spares 0) ∧ on.interpolates = true ∧
    EngineSettings.initial.interpolates = false ∧
    (∀ g, Running 0 on (g.context hooks) (start on g) ∧
      Running 0 .initial (g.context hooks) (start .initial g)) ∧
    Alike 0 (signals.mapM (Signal.run (host.notify 1) 0)) (start on chained)
      (signals.mapM (Signal.runAs .rendering (host.notify 1) 0)) (start .initial chained) ∧
    plain.IsLiteral ∧
    Alike 0 (signals.mapM (Signal.run (host.notify 1) 0)) (start on plain)
      (signals.mapM (Signal.run (host.notify 1) 0)) (start .initial plain) := by
  intro host form chained plain hooks typed signals on start
  have spares : host.CallsOnly (HostOp.Spares 0) := fun _ _ => trivial
  have running (g : Graph) : Running 0 on (g.context hooks) (start on g) ∧
      Running 0 .initial (g.context hooks) (start .initial g) := ⟨⟨rfl, rfl, rfl⟩, rfl, rfl, rfl⟩
  have literal : plain.IsLiteral := by decide +kernel
  obtain ⟨alike, -⟩ := interpolation_simulated spares 1 chained hooks signals rfl rfl
    (running chained).1 (running chained).2
  obtain ⟨-, same⟩ := interpolation_simulated spares 1 plain hooks signals rfl rfl
    (running plain).1 (running plain).2
  exact ⟨spares, rfl, rfl, running, alike, literal, same literal⟩

/-- What was typed is put into a text as it is, also where it looks like a reference. -/
example :
    let input : Node := ⟨"input", .input, default, "Name", none,
      some [⟨.change, .setVariable, some "name", "#\x7binput\x7d"⟩,
        ⟨.change, .setText, some "greeting", "Hello $\x7bname\x7d"⟩]⟩
    let g : Graph := ⟨[input, ⟨"greeting", .text, default, "Hello", none, none⟩], [], .initial⟩
    let on : EngineSettings := { EngineSettings.initial with interpolateActions := .bool true }
    let start : World Unit :=
      Slot.created (World.initial ⟨"preview", on, none⟩ ()) (g.context (Hooks.all none))
    let typed : Signal := ⟨"input", .text "onChange", .object [("value", .text "$\x7bname\x7d")]⟩
    let after := ((typed.run (fun _ _ => pure ()) 0).run start).2.engine 0
    after.context.vars = [(Value.text "name", Value.text "$\x7bname\x7d")] ∧
      (Engine.Effect.recordAt after.context (.text "greeting")).fieldOf "label" =
        .text "Hello $\x7bname\x7d" := by
  cbv

end Host

end EventCanvas
