import EventCanvas.Engine.Operation
import EventCanvas.Proofs.Act
import EventCanvas.Proofs.World

/-!
# Writes and the notices that follow them

An engine tells its host about four things: that a variable was written, that
the value or the label of a node was written, and that a message is to be shown.
The operations behind them have one form, `Engine.commit`: unless something is in
the way, the write is made first and the host told after it.  Everything that is
proved about what a host is told is proved about `commit` once.

The other operations with which a host looks at an engine only read it.
-/

namespace EventCanvas

/-- A key is the value itself. -/
theorem Value.eq_of_asKey {v key : Value} (keyed : v.asKey = .ok key) : key = v := by
  unfold Value.asKey at keyed
  cases fault : v.keyFault? with
  | none =>
    rw [fault] at keyed
    exact (Except.ok.inj keyed).symm
  | some kind =>
    rw [fault] at keyed
    cases keyed

namespace Engine

/-- The fields of a runtime record that an engine writes. -/
inductive NodeField where
  | value
  | label
deriving DecidableEq

namespace NodeField

/-- The name of a field. -/
def name : NodeField → String
  | value => "value"
  | label => "label"

/-- The operation that writes a field. -/
def operation : NodeField → String
  | value => "set_node_value"
  | label => "set_node_text"

end NodeField

/-- Something that an engine does and tells its host about. -/
inductive Effect where
  | setVariable (name value : Value)
  | setNode (field : NodeField) (node value : Value)
  | showAlert (message : Value)

namespace Effect

/-- The operation that has an effect. -/
def operation : Effect → String
  | setVariable .. => "set_variable"
  | setNode field .. => field.operation
  | showAlert _ => "show_alert"

/-- What the host is told about an effect. -/
def notice : Effect → Notice
  | setVariable name value => .variableChanged name value
  | setNode field node value => .nodeUpdated node (.object [(field.name, value)])
  | showAlert message => .alertShown message

/-- The record of a node in a context, null if it has none. -/
def recordAt (c : Context Callback) (node : Value) : Value :=
  (Entries.lookup node c.nodes).getD .null

/-- Why an effect cannot be had on a context. -/
def obstacle? (c : Context Callback) : Effect → Option Fault
  | setVariable name _ =>
    match c.misfits.vars with
    | some v => some (refusesItems v)
    | none => name.keyFault?.map .unhashable
  | setNode _ node _ =>
    match c.misfits.nodes with
    | some v => some (lacks "get" v)
    | none =>
      match node.keyFault? with
      | some kind => some (.unhashable kind)
      | none =>
        match recordFields (recordAt c node) with
        | .error f => some f
        | .ok _ => none
  | showAlert _ => none

/-- A node that an effect can be had on can be a key. -/
theorem keyFault?_eq_none {c : Context Callback} {field : NodeField} {node value : Value}
    (free : (setNode field node value).obstacle? c = none) : node.keyFault? = none := by
  unfold obstacle? at free
  dsimp only at free
  split at free
  · cases free
  · split at free
    · cases free
    · next keyed => exact keyed

/-- A context after an effect was written into it. -/
def write (c : Context Callback) : Effect → Context Callback
  | setVariable name value => { c with vars := Entries.put name value c.vars }
  | setNode field node value =>
    match recordFields (recordAt c node) with
    | .error _ => c
    | .ok fields =>
      { c with nodes := Entries.put node (.object (Entries.put field.name value fields)) c.nodes }
  | showAlert _ => c

/-- No effect is told of as a diagnostic. -/
theorem hook_notice_ne (x : Effect) : x.notice.hook ≠ .diagnostic := by
  cases x <;> simp [notice, Notice.hook]

@[simp] theorem hooks_write (c : Context Callback) (x : Effect) : (x.write c).hooks = c.hooks := by
  cases x with
  | setNode field node value =>
    simp only [write]
    split <;> rfl
  | _ => rfl

@[simp] theorem misfits_write (c : Context Callback) (x : Effect) :
    (x.write c).misfits = c.misfits := by
  cases x with
  | setNode field node value =>
    simp only [write]
    split <;> rfl
  | _ => rfl

end Effect

/-- A record of which only what an engine writes was changed has the same events. -/
theorem eventsOf?_put (field : NodeField) (value : Value) (fields : Fields) :
    eventsOf? (.object (Entries.put field.name value fields)) = eventsOf? (.object fields) := by
  have other : "events" ≠ field.name := by cases field <;> decide
  have same : (Value.object (Entries.put field.name value fields)).fieldOf "events" =
      (Value.object fields).fieldOf "events" := by
    rw [Value.fieldOf, Value.fieldOf, Value.fields, Value.fields, Entries.lookup_put_of_ne other]
  unfold eventsOf?
  rw [same]

variable {σ : Type} {notify : Notify σ} {id : Nat}

/-! ## One form for every effect -/

/-- Has an effect on an engine: writes it and tells the host. -/
def commit (notify : Notify σ) (id : Nat) (x : Effect) : Act σ Unit := do
  requireActive id x.operation
  match x.obstacle? (← Act.engine id).context with
  | some f => throw f
  | none =>
    modifyContext id fun c => x.write c
    tell notify id x.notice

theorem run_requireActive (operation : String) (w : World σ) :
    (requireActive id operation : Act σ Unit).run w =
      if (w.engine id).isActive then (.ok (), w) else (.error (.disposed operation), w) := by
  unfold requireActive
  rw [Act.run_bind, Act.run_engine]
  cases h : (w.engine id).isActive <;> simp only [h] <;> rfl

/-- What starting the callback for a notice comes to: nothing if none is bound. -/
theorem run_tell (notice : Notice) (w : World σ) :
    (tell notify id notice).run w =
      match (w.engine id).context.hooks.get notice.hook with
      | none => (.ok (), w)
      | some callback =>
        (notify callback notice).run (w.record (.observed (.started id callback notice))) := by
  unfold tell
  rw [Act.run_bind, Act.run_engine]
  dsimp only
  cases (w.engine id).context.hooks.get notice.hook <;> rfl

/-- The world after an effect was written into an engine. -/
def written (w : World σ) (id : Nat) (x : Effect) : World σ :=
  w.modifyEngine id fun e => { e with context := x.write e.context }

/-- What an effect comes to. -/
theorem run_commit (x : Effect) (w : World σ) :
    (commit notify id x).run w =
      if (w.engine id).isActive then
        match x.obstacle? (w.engine id).context with
        | some f => (.error f, w)
        | none => (tell notify id x.notice).run (written w id x)
      else (.error (.disposed x.operation), w) := by
  unfold commit
  rw [Act.run_bind, run_requireActive]
  cases (w.engine id).isActive with
  | false => rfl
  | true =>
    simp only [if_true]
    rw [Act.run_bind, Act.run_engine]
    dsimp only
    cases x.obstacle? (w.engine id).context <;> rfl

/-- Of what the host does an effect depends only on what it does when told of that effect. -/
theorem commit_congr {notify notify' : Notify σ} {x : Effect}
    (same : ∀ callback, notify callback x.notice = notify' callback x.notice) :
    commit notify id x = commit notify' id x := by
  funext w
  show (commit notify id x).run w = (commit notify' id x).run w
  simp only [run_commit, run_tell, same]

theorem setVariable_eq_commit (notify : Notify σ) (id : Nat) (name value : Value) :
    setVariable notify id name value = commit notify id (.setVariable name value) := by
  funext w
  show (setVariable notify id name value).run w = (commit notify id _).run w
  rw [run_commit]
  unfold setVariable
  rw [Act.run_bind]
  rw [run_requireActive]
  cases (w.engine id).isActive with
  | false => rfl
  | true =>
    simp only [if_true]
    rw [Act.run_bind, Act.run_engine]
    simp only [Effect.obstacle?]
    cases (w.engine id).context.misfits.vars with
    | some v => rfl
    | none =>
      unfold Value.asKey
      cases name.keyFault? <;> rfl

/-- Writing a field of a node fails without an effect, or writes it and tells the host. -/
theorem run_setField (field : NodeField) (node value : Value) (w : World σ) :
    (setField notify id node field.name value).run w =
      match (Effect.setNode field node value).obstacle? (w.engine id).context with
      | some f => (.error f, w)
      | none => (tell notify id (Effect.setNode field node value).notice).run
          (written w id (.setNode field node value)) := by
  unfold setField recordOf
  rw [Act.run_bind, Act.run_bind, Act.run_engine]
  dsimp only
  simp only [Effect.obstacle?, Effect.recordAt]
  cases misfit : (w.engine id).context.misfits.nodes with
  | some v => rfl
  | none =>
    unfold requireTable find Value.asKey
    cases node.keyFault? with
    | some kind => rfl
    | none =>
      simp only [Act.run_bind, Act.run_pure, Act.run_engine, Act.ofExcept]
      cases fields : recordFields
        ((Entries.lookup node (w.engine id).context.nodes).getD .null) with
      | error f => rfl
      | ok fs =>
        -- what was read of the engine is what the write finds there
        have same := World.modifyEngine_congr w id
          (f := fun e => { e with context := { e.context with
            nodes := Entries.put node (.object (Entries.put field.name value fs))
              e.context.nodes } })
          (g := fun e => { e with context := (Effect.setNode field node value).write e.context })
          (by simp only [Effect.write, Effect.recordAt, fields])
        simp only [Act.run_pure]
        exact congrArg (tell notify id _).run same

theorem run_commit_setNode (field : NodeField) (node value : Value) (w : World σ) :
    (commit notify id (.setNode field node value)).run w =
      ((do
        requireActive id field.operation
        setField notify id node field.name value) : Act σ Unit).run w := by
  rw [run_commit, Act.run_bind, run_requireActive]
  cases (w.engine id).isActive with
  | false => rfl
  | true => exact (run_setField field node value w).symm

theorem setNodeValue_eq_commit (notify : Notify σ) (id : Nat) (node value : Value) :
    setNodeValue notify id node value = commit notify id (.setNode .value node value) :=
  funext fun w => (run_commit_setNode .value node value w).symm

theorem setNodeText_eq_commit (notify : Notify σ) (id : Nat) (node text : Value) :
    setNodeText notify id node text = commit notify id (.setNode .label node text) :=
  funext fun w => (run_commit_setNode .label node text w).symm

theorem showAlert_eq_commit (notify : Notify σ) (id : Nat) (message : Value) :
    showAlert notify id message = commit notify id (.showAlert message) := by
  funext w
  show (showAlert notify id message).run w = (commit notify id _).run w
  rw [run_commit]
  unfold showAlert
  rw [Act.run_bind, run_requireActive]
  cases (w.engine id).isActive with
  | false => rfl
  | true =>
    have unchanged : written w id (.showAlert message) = w := by
      simp only [written, World.modifyEngine, Effect.write]
      exact congrArg (fun es => { w with engines := es }) (List.modify_id id w.engines)
    simp only [if_true, Effect.obstacle?, unchanged]
    rfl

/-! ## The effects in a history -/

/-- The callback that was started to tell of an effect of an engine, and what it was told. -/
def effectIn? (id : Nat) : Event → Option (Callback × Notice)
  | .observed (.started i callback notice) =>
    if i = id ∧ notice.hook ≠ .diagnostic then some (callback, notice) else none
  | _ => none

/-- What the host was told about the effects of an engine, in order, and by which callbacks. -/
def effects (id : Nat) (w : World σ) : List (Callback × Notice) :=
  w.history.filterMap (effectIn? id)

theorem effects_record (id : Nat) (w : World σ) (e : Event) :
    effects id (w.record e) = effects id w ++ (effectIn? id e).toList := by
  rw [effects, World.history_record, List.filterMap_append]
  cases h : effectIn? id e <;> simp [effects, h]

/-- An event that tells of no effect of an engine. -/
theorem effects_record_of_none {id : Nat} (w : World σ) {e : Event} (none : effectIn? id e = none) :
    effects id (w.record e) = effects id w := by
  rw [effects_record, none]
  exact List.append_nil _

/-! ## Operations that only read -/

variable (id)

theorem readsOnly_requireActive (operation : String) :
    Act.ReadsOnly id (requireActive id operation : Act σ Unit) :=
  ⟨fun e => if e.isActive then .ok () else .error (.disposed operation), fun w => by
    rw [run_requireActive]
    cases h : (w.engine id).isActive <;> simp [h]⟩

theorem readsOnly_requireTable (fault : Value → Fault) (misfit : Option Value) :
    Act.ReadsOnly id (requireTable fault misfit : Act σ Unit) := by
  cases misfit with
  | none => exact .pure ()
  | some v => exact .throw _

theorem readsOnly_find (key : Value) (table : Table) :
    Act.ReadsOnly id (find key table : Act σ Value) :=
  .bind (.ofExcept _) fun _ => .pure _

theorem readsOnly_getVariable (name : Value) :
    Act.ReadsOnly id (getVariable id name : Act σ Value) :=
  .bind (readsOnly_requireActive id _) fun _ => .bind .engine fun _ =>
    .bind (readsOnly_requireTable id _ _) fun _ => .bind .engine fun _ => readsOnly_find id _ _

theorem readsOnly_recordOf (node : Value) :
    Act.ReadsOnly id (recordOf id node : Act σ Value) :=
  .bind .engine fun _ => .bind (readsOnly_requireTable id _ _) fun _ =>
    .bind .engine fun _ => readsOnly_find id _ _

theorem readsOnly_hasNode (node : Value) : Act.ReadsOnly id (hasNode id node : Act σ Bool) := by
  refine .bind .engine fun e => ?_
  dsimp only
  cases e.context.misfits.nodes with
  | some v => exact .ofExcept _
  | none => exact .bind (.ofExcept _) fun _ => .pure _

theorem readsOnly_getNodeValue (node : Value) :
    Act.ReadsOnly id (getNodeValue id node : Act σ Value) :=
  .bind (readsOnly_requireActive id _) fun _ => .bind (readsOnly_recordOf id _) fun _ => .pure _

theorem readsOnly_nodeValues : Act.ReadsOnly id (nodeValues id : Act σ Table) :=
  .bind (readsOnly_requireActive id _) fun _ => .bind .engine fun _ =>
    .bind (readsOnly_requireTable id _ _) fun _ => .bind .engine fun _ => .pure _

theorem readsOnly_evaluate (expression : Value) :
    Act.ReadsOnly id (evaluate id expression : Act σ String) := by
  refine .bind (readsOnly_requireActive id _) fun _ => .bind (readsOnly_nodeValues id) fun _ =>
    .bind (.ofExcept _) fun _ => .bind .engine fun e => ?_
  dsimp only
  cases e.context.misfits.vars with
  | none => exact .ofExcept _
  | some v => exact .ofExcept _

theorem readsOnly_shownContext : Act.ReadsOnly id (shownContext id : Act σ (Context Callback)) :=
  .bind .engine fun _ => .ofExcept _

/-- A text of an action is read off the engine. -/
theorem readsOnly_evaluated (text : String) :
    Act.ReadsOnly id (evaluated id text : Act σ String) := by
  refine .bind .engine fun e => ?_
  cases e.settings.interpolates with
  | false => exact .pure _
  | true => exact readsOnly_evaluate id _

theorem readsOnly_evaluatedParts (target : Option String) (value : String) :
    Act.ReadsOnly id (evaluatedParts id target value : Act σ (Option String × String)) := by
  refine .bind (readsOnly_evaluated id _) fun _ => ?_
  cases target with
  | none => exact .pure _
  | some t => exact .bind (readsOnly_evaluated id _) fun _ => .pure _

end Engine

end EventCanvas
