import EventCanvas.Proofs.Engine.Effect
import EventCanvas.Proofs.Outcome

/-!
# Records that look the same to an engine

An engine looks at little of a runtime record: whether there is one, its runtime
value, its events, and the fields that it copies when it writes to the record.  Of
an event it looks at the kind and at what the action comes to.

* `Engine.SameRecord r s`: the engine sees no difference between two records.
* `Context.Resembles c d`: the contexts differ in records that look the same.
* `Engine.Effect.resembles_write`: after the same effect they still do.
* `Engine.Reads R x y`: on engines whose contexts are so, two steps that only read
  give what is related by `R`.
-/

namespace EventCanvas

variable {σ α β γ δ : Type} {id : Nat}

namespace Engine

/-! ## Events and records -/

/-- Two values given as events look the same to an engine. -/
structure SameEvent (v w : Value) : Prop where
  kind : v.fieldOf "type" = w.fieldOf "type"
  isNull : (v.fieldOf "action").isNull = (w.fieldOf "action").isNull
  action : Action.coerce (v.fieldOf "action") = Action.coerce (w.fieldOf "action")

/-- The fields of two records look the same to an engine. -/
structure SameFields (fs gs : Fields) : Prop where
  value : Entries.lookup "value" fs = Entries.lookup "value" gs
  events : Option.Rel (List.Forall₂ SameEvent) (eventsOf? (.object fs)) (eventsOf? (.object gs))

/-- Two records look the same to an engine, now and when their fields are copied. -/
structure SameRecord (r s : Value) : Prop where
  isNull : r.isNull = s.isNull
  fields : SameFields r.fields s.fields
  copied : Outcome.Related SameFields (recordFields r) (recordFields s)

theorem SameEvent.refl (v : Value) : SameEvent v v := ⟨rfl, rfl, rfl⟩

theorem SameFields.refl (fs : Fields) : SameFields fs fs where
  value := rfl
  events := by
    cases eventsOf? (.object fs) with
    | none => exact .none
    | some events => exact .some (List.forall₂_same.2 fun event _ => .refl event)

theorem SameRecord.refl (r : Value) : SameRecord r r :=
  ⟨rfl, .refl _, .refl .refl _⟩

/-- A field that an engine writes is the same in both, and the others were. -/
theorem SameFields.put {fs gs : Fields} (same : SameFields fs gs) (field : NodeField) (v : Value) :
    SameFields (Entries.put field.name v fs) (Entries.put field.name v gs) where
  value := by
    cases field with
    | value => rw [NodeField.name, Entries.lookup_put_self, Entries.lookup_put_self]
    | label =>
      have other : "value" ≠ NodeField.label.name := by decide
      rw [Entries.lookup_put_of_ne other, Entries.lookup_put_of_ne other, same.value]
  events := by
    rw [eventsOf?_put, eventsOf?_put]
    exact same.events

theorem SameFields.object {fs gs : Fields} (same : SameFields fs gs) :
    SameRecord (.object fs) (.object gs) := ⟨rfl, same, .ok same⟩

namespace SameRecord

variable {r s : Value}

theorem fieldOf_value (same : SameRecord r s) : r.fieldOf "value" = s.fieldOf "value" :=
  congrArg (·.getD .null) same.fields.value

theorem hasField_value (same : SameRecord r s) : r.hasField "value" = s.hasField "value" :=
  congrArg Option.isSome same.fields.value

theorem eventsOf? (same : SameRecord r s) :
    Option.Rel (List.Forall₂ SameEvent) (eventsOf? r) (Engine.eventsOf? s) := same.fields.events

end SameRecord

/-- Of events that look the same the same are of one kind. -/
theorem matching_forall₂ {events others : List Value} (same : List.Forall₂ SameEvent events others)
    (g : Gesture) : List.Forall₂ SameEvent (matching g events) (matching g others) :=
  List.rel_filter (fun _ _ alike => by simp only [alike.kind]) same

/-! ## Tables of records -/

/-- Two entries of tables of records have one key, and records that look the same. -/
structure SameEntry (e d : Value × Value) : Prop where
  key : e.1 = d.1
  record : SameRecord e.2 d.2

section

variable {t u : Table}

theorem forall₂_sameEntry_refl (t : Table) : List.Forall₂ SameEntry t t :=
  List.forall₂_same.2 fun _ _ => ⟨rfl, .refl _⟩

theorem lookup_rel (same : List.Forall₂ SameEntry t u) (key : Value) :
    Option.Rel SameRecord (Entries.lookup key t) (Entries.lookup key u) := by
  induction same with
  | nil => exact .none
  | @cons e d t u first _ ih =>
    obtain ⟨k, r⟩ := e
    obtain ⟨_, s⟩ := d
    obtain ⟨rfl, alike⟩ := first
    rw [Entries.lookup_cons, Entries.lookup_cons]
    split
    · exact .some alike
    · exact ih

theorem sameRecord_of_lookup (same : List.Forall₂ SameEntry t u) (key : Value) :
    SameRecord ((Entries.lookup key t).getD .null) ((Entries.lookup key u).getD .null) := by
  have found := lookup_rel same key
  generalize Entries.lookup key t = r, Entries.lookup key u = s at found ⊢
  cases found with
  | none => exact .refl _
  | some alike => exact alike

theorem has_eq (same : List.Forall₂ SameEntry t u) (key : Value) :
    Entries.has key t = Entries.has key u := by
  unfold Entries.has
  have found := lookup_rel same key
  generalize Entries.lookup key t = r, Entries.lookup key u = s at found ⊢
  cases found <;> rfl

theorem put_sameEntry (same : List.Forall₂ SameEntry t u) (key : Value) {r s : Value}
    (alike : SameRecord r s) :
    List.Forall₂ SameEntry (Entries.put key r t) (Entries.put key s u) := by
  induction same with
  | nil => exact .cons ⟨rfl, alike⟩ .nil
  | @cons e d t u first rest ih =>
    obtain ⟨k, r₀⟩ := e
    obtain ⟨_, s₀⟩ := d
    obtain ⟨rfl, before⟩ := first
    rw [Entries.put, Entries.put]
    split
    · exact .cons ⟨rfl, alike⟩ rest
    · exact .cons ⟨rfl, before⟩ ih

theorem valuesOf_eq (same : List.Forall₂ SameEntry t u) : valuesOf t = valuesOf u := by
  induction same with
  | nil => rfl
  | @cons e d t u first _ ih =>
    unfold valuesOf at ih ⊢
    rw [List.filterMap_cons, List.filterMap_cons, first.record.hasField_value,
      first.record.fieldOf_value, first.key, ih]

end

end Engine

/-! ## Contexts -/

/-- Two contexts differ at most in how the records of the nodes are held. -/
structure Context.Resembles (c d : Context Callback) : Prop where
  vars : c.vars = d.vars
  nodes : List.Forall₂ Engine.SameEntry c.nodes d.nodes
  hooks : c.hooks = d.hooks
  misfits : c.misfits = d.misfits

namespace Context.Resembles

variable {c d : Context Callback}

theorem refl (c : Context Callback) : c.Resembles c :=
  ⟨rfl, Engine.forall₂_sameEntry_refl _, rfl, rfl⟩

theorem recordAt (alike : c.Resembles d) (node : Value) :
    Engine.SameRecord (Engine.Effect.recordAt c node) (Engine.Effect.recordAt d node) :=
  Engine.sameRecord_of_lookup alike.nodes node

theorem apply (alike : c.Resembles d) (change : ContextChange Callback) :
    (change.apply c).Resembles (change.apply d) := by
  obtain ⟨vars, nodes, hooks, misfits⟩ := alike
  cases change with
  | vars t => exact ⟨rfl, nodes, hooks, by simp only [ContextChange.apply, misfits]⟩
  | nodes t =>
    exact ⟨vars, Engine.forall₂_sameEntry_refl t, hooks,
      by simp only [ContextChange.apply, misfits]⟩
  | oddVars v => exact ⟨rfl, nodes, hooks, by simp only [ContextChange.apply, misfits]⟩
  | oddNodes v => exact ⟨vars, .nil, hooks, by simp only [ContextChange.apply, misfits]⟩
  | hook h b => exact ⟨vars, nodes, by simp only [ContextChange.apply, hooks], misfits⟩
  | refused f => exact ⟨vars, nodes, hooks, misfits⟩

theorem applyAll (alike : c.Resembles d) (changes : List (ContextChange Callback)) :
    (changes.foldl ContextChange.apply c).Resembles (changes.foldl ContextChange.apply d) := by
  induction changes generalizing c d with
  | nil => exact alike
  | cons change changes ih => exact ih (alike.apply change)

end Context.Resembles

namespace Engine

namespace Effect

variable {c d : Context Callback}

theorem obstacle?_eq (alike : c.Resembles d) (x : Effect) : x.obstacle? c = x.obstacle? d := by
  cases x with
  | setVariable name value => simp only [obstacle?, alike.misfits]
  | setNode field node value =>
    have copied := (alike.recordAt node).copied
    simp only [obstacle?, alike.misfits]
    generalize recordFields (recordAt c node) = r, recordFields (recordAt d node) = s at copied ⊢
    cases copied <;> rfl
  | showAlert message => rfl

/-- After the same effect two contexts still differ at most in how records are held. -/
theorem resembles_write (alike : c.Resembles d) (x : Effect) :
    (x.write c).Resembles (x.write d) := by
  cases x with
  | setVariable name value =>
    exact ⟨by simp only [write, alike.vars], alike.nodes, alike.hooks, alike.misfits⟩
  | setNode field node value =>
    have copied := (alike.recordAt node).copied
    simp only [write]
    generalize recordFields (recordAt c node) = r, recordFields (recordAt d node) = s at copied ⊢
    cases copied with
    | error f => exact alike
    | ok same =>
      exact ⟨alike.vars, put_sameEntry alike.nodes node (same.put field value).object, alike.hooks,
        alike.misfits⟩
  | showAlert message => exact alike

end Effect

/-- Two engines differ at most in how the records of the nodes are held. -/
structure Resembles (e d : Engine) : Prop where
  context : e.context.Resembles d.context
  settings : e.settings = d.settings
  name : e.name = d.name
  lifecycle : e.lifecycle = d.lifecycle
  tracer : e.tracer = d.tracer
  span : e.span = d.span

namespace Resembles

variable {e d : Engine}

theorem refl (e : Engine) : e.Resembles e := ⟨.refl _, rfl, rfl, rfl, rfl, rfl⟩

theorem isActive (alike : e.Resembles d) : e.isActive = d.isActive := by
  simp only [Engine.isActive, alike.lifecycle]

theorem withContext (alike : e.Resembles d) {f : Context Callback → Context Callback}
    (keeps : ∀ c c', c.Resembles c' → (f c).Resembles (f c')) :
    Resembles { e with context := f e.context } { d with context := f d.context } :=
  ⟨keeps _ _ alike.context, alike.settings, alike.name, alike.lifecycle, alike.tracer, alike.span⟩

theorem dispose (alike : e.Resembles d) : e.dispose.Resembles d.dispose := by
  unfold Engine.dispose
  rw [alike.lifecycle]
  cases d.lifecycle with
  | disposed => exact alike
  | active => exact ⟨.refl _, alike.settings, alike.name, rfl, rfl, alike.span⟩

end Resembles

/-! ## Reading -/

/-- Two steps that only read: on engines that resemble each other they fail in the same way, or give
what is related. -/
def Reads (id : Nat) (R : α → β → Prop) (x : Act σ α) (y : Act σ β) : Prop :=
  ∀ w v, (w.engine id).Resembles (v.engine id) →
    ∃ a b, x.run w = (a, w) ∧ y.run v = (b, v) ∧ Outcome.Related R a b

namespace Reads

theorem pure {R : α → β → Prop} {a : α} {b : β} (related : R a b) :
    Reads id R (Pure.pure a : Act σ α) (Pure.pure b) :=
  fun _ _ _ => ⟨_, _, rfl, rfl, .ok related⟩

theorem throw {R : α → β → Prop} (f : Fault) :
    Reads id R (throw f : Act σ α) (throw f : Act σ β) :=
  fun _ _ _ => ⟨_, _, rfl, rfl, .error f⟩

theorem engine : Reads id Resembles (Act.engine id : Act σ Engine) (Act.engine id) :=
  fun _ _ alike => ⟨_, _, rfl, rfl, .ok alike⟩

theorem ofExcept (r : Except Fault α) :
    Reads id Eq (Act.ofExcept r : Act σ α) (Act.ofExcept r) := by
  cases r with
  | ok a => exact pure rfl
  | error f => exact throw f

theorem bind {R : α → β → Prop} {S : γ → δ → Prop} {x : Act σ α} {y : Act σ β}
    {k : α → Act σ γ} {l : β → Act σ δ} (first : Reads id R x y)
    (next : ∀ a b, R a b → Reads id S (k a) (l b)) : Reads id S (x >>= k) (y >>= l) := by
  intro w v alike
  obtain ⟨_, _, left, right, related⟩ := first w v alike
  rw [Act.run_bind, Act.run_bind, left, right]
  cases related with
  | error f => exact ⟨_, _, rfl, rfl, .error f⟩
  | ok related => exact next _ _ related w v alike

/-- Where the same was read the steps that go on with it are the same. -/
theorem bind_eq {S : γ → δ → Prop} {x y : Act σ α} {k : α → Act σ γ} {l : α → Act σ δ}
    (first : Reads id Eq x y) (next : ∀ a, Reads id S (k a) (l a)) :
    Reads id S (x >>= k) (y >>= l) :=
  first.bind fun a _ same => same ▸ next a

/-- Steps that go on alongside each other with what is related do so after reading it. -/
theorem bind_alongside {T : World σ → World σ → Prop}
    (alike : ∀ w v, T w v → (w.engine id).Resembles (v.engine id)) {R : α → β → Prop}
    {x : Act σ α} {y : Act σ β} {k : α → Act σ γ} {l : β → Act σ γ} (reads : Reads id R x y)
    (next : ∀ a b, R a b → Act.Alongside T (k a) (l b)) :
    Act.Alongside T (x >>= k) (y >>= l) := by
  intro w v related
  obtain ⟨_, _, left, right, outcomes⟩ := reads w v (alike w v related)
  rw [Act.run_bind, Act.run_bind, left, right]
  cases outcomes with
  | error f => exact ⟨rfl, related⟩
  | ok same => exact next _ _ same w v related

variable (id)

theorem requireActive (operation : String) :
    Reads id Eq (requireActive id operation : Act σ Unit) (Engine.requireActive id operation) := by
  refine .bind .engine fun e d alike => ?_
  rw [alike.isActive]
  cases d.isActive with
  | false => exact .throw _
  | true => exact .pure rfl

theorem requireTable (fault : Value → Fault) (misfit : Option Value) :
    Reads id Eq (requireTable fault misfit : Act σ Unit) (Engine.requireTable fault misfit) := by
  cases misfit with
  | none => exact .pure rfl
  | some v => exact .throw _

theorem getVariable (name : Value) :
    Reads id Eq (getVariable id name : Act σ Value) (Engine.getVariable id name) := by
  refine (requireActive id _).bind_eq fun _ => .bind .engine fun e d alike => ?_
  rw [alike.context.misfits]
  refine (requireTable id _ _).bind_eq fun _ => .bind .engine fun e d alike => ?_
  rw [alike.context.vars]
  exact (ofExcept _).bind_eq fun _ => .pure rfl

theorem recordOf (node : Value) :
    Reads id SameRecord (recordOf id node : Act σ Value) (Engine.recordOf id node) := by
  refine .bind .engine fun e d alike => ?_
  rw [alike.context.misfits]
  refine (requireTable id _ _).bind_eq fun _ => .bind .engine fun e d alike => ?_
  exact (ofExcept _).bind_eq fun key => .pure (sameRecord_of_lookup alike.context.nodes key)

theorem hasNode (node : Value) :
    Reads id Eq (hasNode id node : Act σ Bool) (Engine.hasNode id node) := by
  refine .bind .engine fun e d alike => ?_
  dsimp only
  rw [alike.context.misfits]
  cases d.context.misfits.nodes with
  | some v => exact ofExcept _
  | none => exact (ofExcept _).bind_eq fun key => .pure (has_eq alike.context.nodes key)

theorem getNodeValue (node : Value) :
    Reads id Eq (getNodeValue id node : Act σ Value) (Engine.getNodeValue id node) :=
  (requireActive id _).bind_eq fun _ => (recordOf id node).bind fun _ _ same =>
    .pure same.fieldOf_value

theorem nodeValues : Reads id Eq (nodeValues id : Act σ Table) (Engine.nodeValues id) := by
  refine (requireActive id _).bind_eq fun _ => .bind .engine fun e d alike => ?_
  rw [alike.context.misfits]
  exact (requireTable id _ _).bind_eq fun _ => .bind .engine fun e d alike =>
    .pure (valuesOf_eq alike.context.nodes)

theorem evaluate (expression : Value) :
    Reads id Eq (evaluate id expression : Act σ String) (Engine.evaluate id expression) := by
  refine (requireActive id _).bind_eq fun _ => (nodeValues id).bind_eq fun values =>
    (ofExcept _).bind_eq fun template => .bind .engine fun e d alike => ?_
  dsimp only
  rw [alike.context.misfits, alike.context.vars]
  cases d.context.misfits.vars with
  | none => exact ofExcept _
  | some v => exact ofExcept _

theorem evaluated (text : String) :
    Reads id Eq (evaluated id text : Act σ String) (Engine.evaluated id text) := by
  refine .bind .engine fun e d alike => ?_
  rw [alike.settings]
  cases d.settings.interpolates with
  | false => exact .pure rfl
  | true => exact evaluate id _

theorem evaluatedParts (target : Option String) (value : String) :
    Reads id Eq (evaluatedParts id target value : Act σ (Option String × String))
      (Engine.evaluatedParts id target value) := by
  refine (evaluated id value).bind_eq fun value => ?_
  cases target with
  | none => exact .pure rfl
  | some t => exact (evaluated id t).bind_eq fun _ => .pure rfl

end Reads

end Engine

end EventCanvas
