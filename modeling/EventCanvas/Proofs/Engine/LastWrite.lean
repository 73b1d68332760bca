import EventCanvas.Proofs.Engine.Interpolation
import EventCanvas.Proofs.Engine.Roster
import EventCanvas.Proofs.Lint.Prediction

/-!
# The last write wins

What a trigger leaves behind in a session on a project, in closed form.  The effects
of the handlers of a node do not depend on the state they find: where they are aimed
depends on the ids of the project only, and nothing is in their way.  So a trigger
has one fixed list of effects, and of the effects on one variable or on one field of
one record the last is what is there afterwards.

* `Lint.lookup_vars_writeAll`, `Lint.Populated.lookup_field_writeAll`: what a list of
  effects makes of a variable, and of the fields of a record.
* `Lint.Populated.eventsEffects_eq`: the effects of the handlers of a node.
* `Session.last_write_wins`: a trigger answers how many handlers it ran, and leaves the
  context `Overwritten` by them, whatever was triggered before.
-/

namespace EventCanvas

open Act (Maintains)

variable {σ : Type} {id : Nat}

/-- A call that triggers a node. -/
def EngineOp.IsTrigger : EngineOp Callback → Prop
  | .executeNodeEvents .. => True
  | _ => False

/-! ## Lists of effects -/

namespace Engine.Effect

/-- What an effect gives a variable. -/
def givesVariable? (key : Value) : Effect → Option Value
  | .setVariable name value => if key == name then some value else none
  | _ => none

/-- What an effect gives a field of the record of a node. -/
def givesField? (node field : String) : Effect → Option Value
  | .setNode f n value => if f.name = field ∧ n == .text node then some value else none
  | _ => none

/-- The last of some values that are given, if there are any, and else what there was. -/
theorem getLast?_filterMap_cons {α : Type} (gives? : α → Option Value) (x : α) (xs : List α)
    (old : Option Value) :
    ((x :: xs).filterMap gives?).getLast?.or old =
      (xs.filterMap gives?).getLast?.or ((gives? x).or old) := by
  rw [List.filterMap_cons]
  cases gives? x with
  | none => rfl
  | some v =>
    dsimp only
    rw [List.getLast?_cons]
    cases (xs.filterMap gives?).getLast? <;> rfl

end Engine.Effect

namespace Lint

open Engine

variable {g : Graph} {c : Context Callback}

/-- A variable has what the last effect on it gave it, or else what it had. -/
theorem lookup_vars_writeAll {xs : List Engine.Effect} (within : ∀ x ∈ xs, IsWithin g x)
    (key : Value) (c : Context Callback) :
    Entries.lookup key (Engine.Effect.writeAll c xs).vars =
      (xs.filterMap (Engine.Effect.givesVariable? key)).getLast?.or
        (Entries.lookup key c.vars) := by
  induction xs generalizing c with
  | nil => rfl
  | cons x xs ih =>
    have first : Entries.lookup key (x.write c).vars =
        (x.givesVariable? key).or (Entries.lookup key c.vars) := by
      cases x with
      | setVariable name value =>
        obtain ⟨s, rfl⟩ := within _ List.mem_cons_self
        simp only [Engine.Effect.write, Table.lookup_put_text, Engine.Effect.givesVariable?]
        split <;> rfl
      | setNode field node value =>
        simp only [Engine.Effect.write]
        split <;> rfl
      | showAlert message => rfl
    rw [Engine.Effect.getLast?_filterMap_cons, ← first]
    exact ih (fun y member => within y (List.mem_cons_of_mem _ member)) (x.write c)

namespace Populated

theorem writeAll (populated : Populated g c) {xs : List Engine.Effect}
    (within : ∀ x ∈ xs, IsWithin g x) : Populated g (Engine.Effect.writeAll c xs) := by
  induction xs generalizing c with
  | nil => exact populated
  | cons x xs ih =>
    exact ih (populated.write (within x List.mem_cons_self)) fun y member =>
      within y (List.mem_cons_of_mem _ member)

/-- A field of a record has what the effect gives it, or else what it had. -/
theorem lookup_field_write (populated : Populated g c) {x : Engine.Effect} (within : IsWithin g x)
    {node : String} {before : Fields}
    (found : Entries.lookup (.text node) c.nodes = some (.object before)) :
    ∃ after, Entries.lookup (.text node) (x.write c).nodes = some (.object after) ∧
      ∀ field, Entries.lookup field after =
        (x.givesField? node field).or (Entries.lookup field before) := by
  cases x with
  | setNode f n value =>
    obtain ⟨m, there, rfl⟩ := within
    obtain ⟨fields, stored, nodes⟩ := populated.nodes_write there f value
    rw [nodes]
    by_cases hit : m.id = node
    · subst hit
      rw [found] at stored
      cases stored
      refine ⟨_, Table.lookup_put_self _ _ _, fun field => ?_⟩
      by_cases same : f.name = field
      · subst same
        simp [Engine.Effect.givesField?]
      · rw [Entries.lookup_put_of_ne (Ne.symm same)]
        simp [Engine.Effect.givesField?, same]
    · rw [Table.lookup_put_of_ne (mt Value.text.inj hit)]
      refine ⟨before, found, fun field => ?_⟩
      simp [Engine.Effect.givesField?, hit]
  | _ => exact ⟨before, found, fun _ => rfl⟩

/-- A field of a record has what the last effect on it gave it, or else what it had. -/
theorem lookup_field_writeAll (populated : Populated g c) {xs : List Engine.Effect}
    (within : ∀ x ∈ xs, IsWithin g x) {node : String} {before : Fields}
    (found : Entries.lookup (.text node) c.nodes = some (.object before)) :
    ∃ after, Entries.lookup (.text node) (Engine.Effect.writeAll c xs).nodes =
        some (.object after) ∧
      ∀ field, Entries.lookup field after =
        (xs.filterMap (Engine.Effect.givesField? node field)).getLast?.or
          (Entries.lookup field before) := by
  induction xs generalizing c before with
  | nil => exact ⟨before, found, fun _ => rfl⟩
  | cons x xs ih =>
    have here := within x List.mem_cons_self
    obtain ⟨between, found', first⟩ := populated.lookup_field_write here found
    obtain ⟨after, found'', rest⟩ := ih (populated.write here)
      (fun y member => within y (List.mem_cons_of_mem _ member)) found'
    refine ⟨after, found'', fun field => ?_⟩
    rw [Engine.Effect.getLast?_filterMap_cons, ← first field, rest field]

/-- Effects on nodes that have records leave the keys of the records as they are. -/
theorem keys_write (populated : Populated g c) {x : Engine.Effect} (within : IsWithin g x) :
    Entries.keys (x.write c).nodes = Entries.keys c.nodes := by
  cases x with
  | setNode f n value =>
    obtain ⟨m, there, rfl⟩ := within
    obtain ⟨fields, stored, nodes⟩ := populated.nodes_write there f value
    rw [nodes, Entries.keys_put, Entries.has, stored]
    rfl
  | _ => rfl

theorem keys_writeAll (populated : Populated g c) {xs : List Engine.Effect}
    (within : ∀ x ∈ xs, IsWithin g x) :
    Entries.keys (Engine.Effect.writeAll c xs).nodes = Entries.keys c.nodes := by
  induction xs generalizing c with
  | nil => rfl
  | cons x xs ih =>
    have here := within x List.mem_cons_self
    exact (ih (populated.write here) fun y member =>
      within y (List.mem_cons_of_mem _ member)).trans (populated.keys_write here)

end Populated

/-! ## The effects of handlers -/

/-- The effects of a handler of a node: the copy of the value that comes with the event, and the
effect of the action. -/
def handlerEffects (g : Graph) (source : String) (gesture : Gesture) (data : Value)
    (h : Handler) : List Engine.Effect :=
  (copied? gesture source data).toList ++ (aimed? g source h.action).toList

theorem isWithin_of_mem_handlerEffects {n : Node} (there : n ∈ g.nodes) {gesture : Gesture}
    {data : Value} {h : Handler} {x : Engine.Effect}
    (member : x ∈ handlerEffects g n.id gesture data h) : IsWithin g x := by
  rcases List.mem_append.1 member with copies | aimed
  · exact isWithin_of_copied? there (Option.mem_toList.1 copies)
  · exact isWithin_of_aimed? (Option.mem_toList.1 aimed)

namespace Populated

theorem had_eq (populated : Populated g c) {x : Engine.Effect} (within : IsWithin g x) :
    x.had c = [x] := by
  rw [Engine.Effect.had, populated.obstacle?_eq_none within]
  rfl

/-- What an action has for an effect does not depend on the state of the session. -/
theorem plainEffects_eq (populated : Populated g c) {source : String} (named : source ≠ "")
    (a : Action) : plainEffects c (.text source) a = (aimed? g source a).toList := by
  unfold plainEffects
  rcases populated.aim_eq named a with ⟨none, s, missed⟩ | ⟨x, some, hit⟩
  · rw [none, missed]
    rfl
  · rw [some, hit]
    exact populated.had_eq (isWithin_of_aimed? some)

/-- The effects of the handlers of a node do not depend on the state of the session, by induction on
the handlers. -/
theorem eventsEffects_eq (populated : Populated g c) {n : Node} (there : n ∈ g.nodes)
    (named : n.id ≠ "") {s : EngineSettings} (plain : s.interpolates = false) (gesture : Gesture)
    {data : Value} (given : data.IsEventData) (hs : List Handler) :
    eventsEffects .none s gesture n.id data c (hs.map Handler.toValue) =
      hs.flatMap (handlerEffects g n.id gesture data) := by
  induction hs generalizing c with
  | nil => rfl
  | cons h hs ih =>
    have copying : copyEffects c gesture n.id data = (copied? gesture n.id data).toList := by
      unfold copyEffects
      cases copies : copied? gesture n.id data with
      | none => rfl
      | some x => simp [populated.had_eq (isWithin_of_copied? there copies)]
    have after : Populated g (mirrored c gesture n.id data) := by
      unfold mirrored
      rw [copying]
      exact populated.writeAll fun x member =>
        isWithin_of_copied? there (Option.mem_toList.1 member)
    have first : eventEffects s c gesture n.id data h.toValue =
        handlerEffects g n.id gesture data h := by
      obtain ⟨copied, searched⟩ : ∃ copied, copies gesture data = .ok copied := by
        unfold copies
        split
        · exact carriesValue_of_isEventData given
        · exact ⟨false, rfl⟩
      have action : h.toValue.fieldOf "action" = h.action.toValue := rfl
      unfold eventEffects handlerEffects
      rw [searched, action, actionEffects_of_plain plain, Action.coerce_toValue, copying]
      exact congrArg (_ ++ ·) (after.plainEffects_eq named h.action)
    rw [List.map_cons, eventsEffects, List.flatMap_cons]
    simp only [Rewriting.none]
    rw [first]
    exact congrArg (_ ++ ·) (ih (populated.writeAll fun x member =>
      isWithin_of_mem_handlerEffects there member))

end Populated

end Lint

namespace Session

open Engine Lint

variable {g : Graph} {c : Context Callback}

/-! ## The last of the effects of handlers -/

/-- An action that writes a variable. -/
def sets (key : Value) (a : Action) : Bool :=
  a.kind = .setVariable && (namedTarget? a).any fun t => key == .text t

/-- An action that relabels a node, as an action of a node. -/
def relabels (source node : String) (a : Action) : Bool :=
  a.kind = .setText && (namedTarget? a).getD source = node

/-- The handlers of a node that an event of some kind runs. -/
def due (n : Node) (gesture : Gesture) : List Handler :=
  n.data.handlers.filter fun h => h.gesture = gesture

/-- The value of the last handler whose action has a property. -/
def lastValue? (hs : List Handler) (p : Action → Bool) : Option Value :=
  ((hs.filter fun h => p h.action).getLast?).map fun h => .text h.action.value

/-- The value that comes with an event and is copied to its node. -/
def carried? (gesture : Gesture) : Value → Option Value
  | .object fields => if gesture = .change then Entries.lookup "value" fields else none
  | _ => none

theorem copied?_eq (gesture : Gesture) (node : String) (data : Value) :
    copied? gesture node data = (carried? gesture data).map (.setNode .value (.text node)) := by
  cases data with
  | object fields =>
    unfold copied? carried?
    dsimp only
    split <;> rfl
  | _ => rfl

theorem getLast?_flatMap_action {f : Handler → Option Value} {p : Action → Bool}
    (hs : List Handler)
    (gives : ∀ h, f h = if p h.action then some (.text h.action.value) else none) :
    (hs.flatMap fun h => (f h).toList).getLast? = lastValue? hs p := by
  have listed : hs.flatMap (fun h => (f h).toList) =
      (hs.filter fun h => p h.action).map fun h => .text h.action.value := by
    induction hs with
    | nil => rfl
    | cons h hs ih =>
      rw [List.flatMap_cons, ih, gives h]
      cases hit : p h.action <;> simp [hit]
  rw [listed, List.getLast?_map, lastValue?]

theorem getLast?_flatMap_const (v : Option Value) (hs : List Handler) :
    (hs.flatMap fun _ => v.toList).getLast? = if hs = [] then none else v := by
  induction hs with
  | nil => rfl
  | cons h hs ih =>
    rw [List.flatMap_cons, List.getLast?_append, ih]
    cases hs <;> cases v <;> rfl

/-- Actions write no field of a record but the label. -/
theorem givesField?_of_aimed? {source node field : String} {a : Action} {x : Engine.Effect}
    (aimed : aimed? g source a = some x) (other : field ≠ "label") :
    x.givesField? node field = none := by
  rcases aimed?_eq_some aimed with rfl | ⟨t, -, rfl⟩ | ⟨m, -, -, rfl⟩
  · rfl
  · rfl
  · simp [Engine.Effect.givesField?, NodeField.name, other.symm]

section

variable (source : String) (gesture : Gesture) (data : Value) (hs : List Handler)

theorem filterMap_handlerEffects (f : Engine.Effect → Option Value) :
    (hs.flatMap (handlerEffects g source gesture data)).filterMap f =
      hs.flatMap fun h => ((copied? gesture source data).bind f).toList ++
        ((aimed? g source h.action).bind f).toList := by
  have single (x : Option Engine.Effect) : x.toList.filterMap f = (x.bind f).toList := by
    cases x with
    | none => rfl
    | some x => cases given : f x <;> simp [given]
  rw [List.filterMap_flatMap]
  refine congrArg (hs.flatMap ·) (funext fun h => ?_)
  rw [handlerEffects, List.filterMap_append, single, single]

/-- Where the copies give nothing, the last that is given is that of the last action that gives
something. -/
theorem getLast?_of_aimed {f : Engine.Effect → Option Value} {p : Action → Bool}
    (copies : ∀ v, f (.setNode .value (.text source) v) = none)
    (gives : ∀ a, (aimed? g source a).bind f = if p a then some (.text a.value) else none) :
    ((hs.flatMap (handlerEffects g source gesture data)).filterMap f).getLast? =
      lastValue? hs p := by
  have copy : (copied? gesture source data).bind f = none := by
    rw [copied?_eq]
    cases carried? gesture data with
    | none => rfl
    | some v => exact copies v
  rw [filterMap_handlerEffects]
  simp only [copy, Option.toList_none, List.nil_append]
  exact getLast?_flatMap_action hs fun h => gives h.action

/-- The last effect of handlers on a variable is that of the last action that writes it. -/
theorem last_givesVariable? (key : Value) :
    ((hs.flatMap (handlerEffects g source gesture data)).filterMap
      (Engine.Effect.givesVariable? key)).getLast? = lastValue? hs (sets key) := by
  refine getLast?_of_aimed source gesture data hs (fun _ => rfl) fun a => ?_
  unfold aimed? sets
  cases a.kind with
  | setVariable => cases namedTarget? a <;> rfl
  | setText =>
    dsimp only
    split <;> simp [Engine.Effect.givesVariable?]
  | showAlert => simp [Engine.Effect.givesVariable?]

/-- The last effect of handlers on a label is that of the last action that relabels the node. -/
theorem last_givesLabel? {node : String} (member : node ∈ g.nodeIds) :
    ((hs.flatMap (handlerEffects g source gesture data)).filterMap
      (Engine.Effect.givesField? node "label")).getLast? =
        lastValue? hs (relabels source node) := by
  refine getLast?_of_aimed source gesture data hs (fun _ => rfl) fun a => ?_
  unfold aimed? relabels
  cases a.kind with
  | setVariable => cases namedTarget? a <;> simp [Engine.Effect.givesField?]
  | setText =>
    dsimp only
    by_cases hit : (namedTarget? a).getD source = node
    · simp [hit, member, Engine.Effect.givesField?, NodeField.name]
    · split <;> simp [hit, Engine.Effect.givesField?]
  | showAlert => simp [Engine.Effect.givesField?]

/-- On a field that is no label the effects of handlers are the copies of what comes with the
event. -/
theorem filterMap_givesField? (node : String) {field : String} (other : field ≠ "label") :
    (hs.flatMap (handlerEffects g source gesture data)).filterMap
      (Engine.Effect.givesField? node field) =
      hs.flatMap fun _ =>
        (if field = "value" ∧ node = source then carried? gesture data else none).toList := by
  have copy : (copied? gesture source data).bind (Engine.Effect.givesField? node field) =
      if field = "value" ∧ node = source then carried? gesture data else none := by
    rw [copied?_eq]
    cases carried? gesture data <;>
      simp [Engine.Effect.givesField?, NodeField.name, eq_comm (a := source),
        eq_comm (a := "value")]
  have act (a : Action) : (aimed? g source a).bind (Engine.Effect.givesField? node field) =
      none := by
    cases aimed : aimed? g source a with
    | none => rfl
    | some x => exact givesField?_of_aimed? aimed other
  rw [filterMap_handlerEffects]
  simp only [copy, act, Option.toList_none, List.append_nil]

theorem last_givesValue? (node : String) :
    ((hs.flatMap (handlerEffects g source gesture data)).filterMap
      (Engine.Effect.givesField? node "value")).getLast? =
      if node = source ∧ hs ≠ [] then carried? gesture data else none := by
  rw [filterMap_givesField? _ _ _ _ _ (by decide), getLast?_flatMap_const]
  by_cases hit : node = source <;> by_cases none : hs = [] <;> simp [hit, none]

theorem last_givesOther? (node : String) {field : String} (label : field ≠ "label")
    (value : field ≠ "value") :
    (hs.flatMap (handlerEffects g source gesture data)).filterMap
      (Engine.Effect.givesField? node field) = [] := by
  rw [filterMap_givesField? _ _ _ _ _ label]
  simp [value]

end

/-! ## What a trigger leaves -/

/-- What an event of a node makes of a context.  A variable has the value of the last handler that
writes it, the label of a node that of the last handler that relabels it, and the node itself the
value that came with the event; everything else is as it was. -/
structure Overwritten (g : Graph) (n : Node) (gesture : Gesture) (data : Value)
    (c c' : Context Callback) : Prop where
  vars : ∀ key, Entries.lookup key c'.vars =
    (lastValue? (due n gesture) (sets key)).or (Entries.lookup key c.vars)
  keys : Entries.keys c'.nodes = Entries.keys c.nodes
  keys_eq : Entries.keys c.nodes = g.nodes.map fun m => .text m.id
  records : ∀ m ∈ g.nodes, ∃ before after : Fields,
    Entries.lookup (.text m.id) c.nodes = some (.object before) ∧
    Entries.lookup (.text m.id) c'.nodes = some (.object after) ∧
    Entries.lookup "label" after =
      (lastValue? (due n gesture) (relabels n.id m.id)).or (Entries.lookup "label" before) ∧
    Entries.lookup "value" after =
      (if m.id = n.id ∧ due n gesture ≠ [] then carried? gesture data else none).or
        (Entries.lookup "value" before) ∧
    ∀ field, field ≠ "label" → field ≠ "value" →
      Entries.lookup field after = Entries.lookup field before

/-- The effects of the handlers of a node overwrite what was there. -/
theorem overwritten_of_populated (populated : Populated g c)
    (keys_eq : Entries.keys c.nodes = g.nodes.map fun m => .text m.id) {n : Node}
    (there : n ∈ g.nodes) (gesture : Gesture) (data : Value) :
    Overwritten g n gesture data c (Engine.Effect.writeAll c
      ((due n gesture).flatMap (handlerEffects g n.id gesture data))) := by
  have within : ∀ x ∈ (due n gesture).flatMap (handlerEffects g n.id gesture data),
      IsWithin g x := fun x member => by
    obtain ⟨h, -, among⟩ := List.mem_flatMap.1 member
    exact isWithin_of_mem_handlerEffects there among
  refine ⟨fun key => ?_, populated.keys_writeAll within, keys_eq, fun m member => ?_⟩
  · rw [lookup_vars_writeAll within, last_givesVariable?]
  · obtain ⟨before, found, -⟩ := populated.records m member
    obtain ⟨after, found', fields⟩ := populated.lookup_field_writeAll within found
    refine ⟨before, after, found, found', ?_, ?_, fun field label value => ?_⟩
    · rw [fields, last_givesLabel? _ _ _ _ (List.mem_map_of_mem member)]
    · rw [fields, last_givesValue?]
    · rw [fields, last_givesOther? _ _ _ _ _ label value]
      rfl

/-- An active engine in a session on a graph. -/
structure Staged (g : Graph) (s : EngineSettings) (e : Engine) : Prop where
  active : e.isActive = true
  settings_eq : e.settings = s
  populated : Populated g e.context
  keys_eq : Entries.keys e.context.nodes = g.nodes.map fun m => .text m.id

namespace Staged

variable {s : EngineSettings} {e : Engine}

theorem write (staged : Staged g s e) {x : Engine.Effect}
    (among : x.IsAmong (g.nodes.map fun m => .text m.id)) :
    Staged g s { e with context := x.write e.context } := by
  cases x with
  | setVariable name value =>
    have populated := staged.populated
    exact ⟨staged.active, staged.settings_eq,
      ⟨populated.tables, populated.present, populated.records⟩, staged.keys_eq⟩
  | showAlert message => exact staged
  | setNode field node value =>
    obtain ⟨key, member, same⟩ := List.any_eq_true.1 among
    obtain ⟨m, there, rfl⟩ := List.mem_map.1 member
    have within : IsWithin g (.setNode field node value) :=
      ⟨m, there, (Value.beq_text m.id node).1 same⟩
    exact ⟨staged.active, staged.settings_eq, staged.populated.write within,
      (staged.populated.keys_write within).trans staged.keys_eq⟩

theorem confined {notify : Notify σ} (spares : notify.Spares id) :
    Confined (fun w => Staged g s (w.engine id)) (g.nodes.map fun m => .text m.id) notify id where
  toReports := spares.reports
  freshSpan _ holds := holds
  setSpan span := maintains_setSpan
    (fun _ _ e => ⟨e.active, e.settings_eq, e.populated, e.keys_eq⟩) span
  tables w staged := by
    rw [staged.populated.tables]
    rfl
  keys_eq _ staged := staged.keys_eq
  commit x among := spares.maintains_commit x fun _ staged _ _ => staged.write among

/-- A trigger answers how many handlers it ran, and what these write last is there afterwards. -/
theorem run_trigger {notify : Notify σ} (spares : notify.Spares id)
    (plain : s.interpolates = false) {w : World σ} (staged : Staged g s (w.engine id)) {n : Node}
    (there : n ∈ g.nodes) (named : n.id ≠ "") (gesture : Gesture) {data : Value}
    (given : data.IsEventData) :
    ∃ v, (executeNodeEvents notify id (.text n.id) (.text gesture.name) data).run w =
        (.ok (due n gesture).length, v) ∧
      Overwritten g n gesture data (w.engine id).context (v.engine id).context := by
  let signal : Signal := ⟨n.id, .text gesture.name, data⟩
  have populated := staged.populated
  obtain ⟨v, run, running, -⟩ := Running.run_runAs (s := s) ⟨staged.active, staged.settings_eq, rfl⟩
    spares populated.tables .none signal
  have handlers : Engine.due (w.engine id).context gesture n.id =
      (due n gesture).map Handler.toValue := by
    obtain ⟨fields, found, events⟩ := populated.records n there
    have row : eventsOf? (.object fields) = some (n.data.handlers.map Handler.toValue) := by
      simp [eventsOf?, Value.fieldOf, Value.fields, events]
    rw [Engine.due, Engine.Effect.recordAt, found, Option.getD_some, row, Option.getD_some,
      matching_toValue]
    rfl
  have count : (signal.due (w.engine id).context).length = (due n gesture).length := by
    simp only [Signal.due, signal, Gesture.ofValue?_name, handlers, List.length_map]
  have effects : signal.effects .none s (w.engine id).context =
      (due n gesture).flatMap (handlerEffects g n.id gesture data) := by
    simp only [Signal.effects, signal, Gesture.ofValue?_name, handlers]
    exact populated.eventsEffects_eq there named plain gesture given (due n gesture)
  rw [count, Signal.runAs_none] at run
  refine ⟨v, run, ?_⟩
  rw [running.context, effects]
  exact overwritten_of_populated populated staged.keys_eq there gesture data

/-- Triggers keep a session going. -/
theorem maintains_performAll {notify : Notify σ} (spares : notify.Spares id)
    {ops : List (EngineOp Callback)} (triggers : ∀ op ∈ ops, op.IsTrigger) :
    Maintains (fun w => Staged g s (w.engine id)) (performAll notify id ops) := by
  refine Engine.maintains_performAll (fun _ _ holds => holds) fun op member => ?_
  have trigger := triggers op member
  cases op with
  | executeNodeEvents node kind data =>
    exact .bind ((confined spares).executeNodeEvents node kind data) fun _ => .pure _
  | _ => exact trigger.elim

end Staged

/-- The last write wins, and nothing else changes.  In a session on a graph whose ids differ and are
not empty, on an engine that replaces no references and whose callbacks leave it alone but may fail,
after any triggers, an event of a node of the graph runs all handlers of the node for events of its
kind and answers how many there are.  What these write last is there afterwards. -/
theorem last_write_wins {host : Host σ} (spares : host.CallsOnly (HostOp.Spares id)) (depth : Nat)
    {g : Graph} (valid : Graph.checkIds g.toValue g = .ok g) (named : ∀ node ∈ g.nodeIds, node ≠ "")
    {hooks : Hooks (Option Callback)} {w : World σ} (active : (w.engine id).isActive = true)
    (plain : (w.engine id).settings.interpolates = false)
    (start : (w.engine id).context = g.context hooks) {past : List (EngineOp Callback)}
    (triggers : ∀ op ∈ past, op.IsTrigger) :
    ∃ replies u, (performAll (host.notify depth) id past).run w = (.ok replies, u) ∧
      ∀ n ∈ g.nodes, ∀ (gesture : Gesture) (data : Value), data.IsEventData → ∃ v,
        (executeNodeEvents (host.notify depth) id (.text n.id) (.text gesture.name) data).run u =
          (.ok (due n gesture).length, v) ∧
        Overwritten g n gesture data (u.engine id).context (v.engine id).context := by
  have nodup := Graph.nodup_of_checkIds valid
  have spared := Host.spared_notify spares depth
  have keys : Entries.keys (g.context hooks).nodes = g.nodes.map fun m => Value.text m.id := by
    show Entries.keys g.runtimeNodes = _
    rw [Graph.runtimeNodes_eq_map nodup, Entries.keys, List.map_map]
    rfl
  have staged : Staged g (w.engine id).settings (w.engine id) :=
    ⟨active, rfl, start ▸ populated_context nodup hooks, start ▸ keys⟩
  obtain ⟨replies, u, run⟩ := succeeds_performAll (host.notify depth) id past w
  have kept := Staged.maintains_performAll spared triggers w staged
  rw [run] at kept
  exact ⟨replies, u, run, fun n there gesture data given =>
    kept.run_trigger spared plain there (named n.id (List.mem_map_of_mem there)) gesture given⟩

/-- An input that writes a variable twice, relabels a node twice, once by leaving out the target,
and names a node that does not exist, with a host whose every callback fails. -/
theorem last_write_wins_input :
    let host : Host Unit := ⟨fun _ _ => .fail (.failure "host is gone")⟩
    let on (kind : ActionKind) (target : Option String) (value : String) : Handler :=
      ⟨.change, kind, target, value⟩
    let input : Node := ⟨"input", .input, default, "Name", none,
      some [on .setVariable (some "x") "first", on .setText (some "input") "One",
        on .setText (some "gone") "Three", ⟨.submit, .setVariable, some "x", "sent"⟩,
        on .setVariable (some "x") "last", on .setText none "Two"]⟩
    let g : Graph := ⟨[input], [], .initial⟩
    let hooks : Hooks (Option Callback) := Hooks.all (some ⟨"host", 0⟩)
    let w : World Unit :=
      Slot.created (World.initial ⟨"preview", .initial, none⟩ ()) (g.context hooks)
    let typed : Value := .object [("value", .text "Ada")]
    let past : List (EngineOp Callback) :=
      [.executeNodeEvents (.text "gone") (.text "onChange") typed,
        .executeNodeEvents (.text "input") (.text "onSubmit") .null]
    host.CallsOnly (HostOp.Spares 0) ∧ Graph.checkIds g.toValue g = .ok g ∧
    (∀ node ∈ g.nodeIds, node ≠ "") ∧ (w.engine 0).isActive = true ∧
    (w.engine 0).settings.interpolates = false ∧ (w.engine 0).context = g.context hooks ∧
    (∀ op ∈ past, op.IsTrigger) ∧ typed.IsEventData ∧
    ∃ replies u v after, (performAll (host.notify 1) 0 past).run w = (.ok replies, u) ∧
      (executeNodeEvents (host.notify 1) 0 (.text "input") (.text "onChange") typed).run u =
        (.ok 5, v) ∧
      Entries.lookup (.text "x") (v.engine 0).context.vars = some (.text "last") ∧
      Entries.lookup (.text "input") (v.engine 0).context.nodes = some (.object after) ∧
      Entries.lookup "label" after = some (.text "Two") ∧
      Entries.lookup "value" after = some (.text "Ada") := by
  intro host on input g hooks w typed past
  have spares : host.CallsOnly (HostOp.Spares 0) := fun _ _ => trivial
  have valid : Graph.checkIds g.toValue g = .ok g := rfl
  have named : ∀ node ∈ g.nodeIds, node ≠ "" := by decide
  have start : (w.engine 0).context = g.context hooks := rfl
  have triggers : ∀ op ∈ past, op.IsTrigger := by simp [past, EngineOp.IsTrigger]
  have given : typed.IsEventData := trivial
  obtain ⟨replies, u, run, next⟩ :=
    last_write_wins spares 1 valid named (w := w) rfl rfl start triggers
  obtain ⟨v, trigger, overwritten⟩ := next input List.mem_cons_self .change typed given
  obtain ⟨before, after, -, found, label, value, -⟩ :=
    overwritten.records input List.mem_cons_self
  have written : lastValue? (due input .change) (sets (.text "x")) = some (.text "last") := rfl
  have relabelled :
      lastValue? (due input .change) (relabels "input" "input") = some (.text "Two") := rfl
  have vars := overwritten.vars (.text "x")
  rw [written] at vars
  rw [relabelled] at label
  rw [if_pos ⟨rfl, by decide⟩] at value
  exact ⟨spares, valid, named, rfl, rfl, start, triggers, given, replies, u, v, after, run, trigger,
    vars, found, label, value⟩

end Session

end EventCanvas
