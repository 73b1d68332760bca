import EventCanvas.Proofs.Engine.Handling
import EventCanvas.Proofs.History
import EventCanvas.Proofs.Preview.Recorder
import EventCanvas.Proofs.Slot
import Mathlib.Data.List.Forall2

/-!
# Recorder and engine agree

An engine on a project and the recorder behind its callbacks keep variables and
node values each for itself.  They are written at different moments, and in
between the host may call the engine again or fail.

`InStep` says that they agree.  It fails only while the recorder has not yet been
told of what the engine has just written, and nothing else can happen in that
time, since the recorder is told first and passes the notice on afterwards.

* `InStep.commit`: an effect and what the recorder does about it keep the agreement.
* `Host.recorder_in_step`: it holds after every run of a host that calls the engine
  in any way, but for replacing its context and disposing it.
-/

namespace EventCanvas

open Act (Maintains)
/-- The runtime value of a node in a table of records. -/
def Engine.valueAt (nodes : Table) (node : String) : Option Value :=
  (Entries.lookup (.text node) nodes).bind fun r => Entries.lookup "value" r.fields

/-- The entry is about a value of a node. -/
def HistoryEntry.IsValueOf (node : String) (e : HistoryEntry) : Prop :=
  ∃ value, e.data = .object [("nodeId", .text node), ("value", value)]

/-! ## Effects on both sides -/

namespace Engine.Effect

variable {c : Context Callback} {x : Effect} {s : String}

/-- The entry for an effect is about the value of a node just if the effect is to write it. -/
theorem isValueOf_entry (x : Effect) (time : Instant) :
    (x.entry time).IsValueOf s ↔ ∃ value, x = setNode .value (.text s) value := by
  cases x with
  | setVariable name value => simp [entry, HistoryEntry.IsValueOf]
  | setNode field node value => cases field <;> simp [entry, HistoryEntry.IsValueOf, and_comm]
  | showAlert message => simp [entry, HistoryEntry.IsValueOf]

/-- Variables are written alike. -/
theorem vars_write (x : Effect) (c : Context Callback) :
    (x.write c).vars = x.writeVars c.vars := by
  cases x with
  | setNode field node value =>
    simp only [write]
    split <;> rfl
  | _ => rfl

/-- The same changes come to the variables on both sides. -/
theorem merge_writeVars {vars copy seed changes : Table} (same : vars = Entries.merge seed changes)
    (same' : copy = Entries.ofPairs changes) (x : Effect) :
    ∃ changes', x.writeVars vars = Entries.merge seed changes' ∧
      x.writeVars copy = Entries.ofPairs changes' := by
  subst same same'
  cases x with
  | setVariable name value =>
    refine ⟨changes ++ [(name, value)], ?_, ?_⟩
    · simp [writeVars, Entries.merge]
    · simp [writeVars, Entries.ofPairs, Entries.merge]
  | _ => exact ⟨changes, rfl, rfl⟩

theorem fields_of_obstacle {field : NodeField} {node value : Value}
    (free : (setNode field node value).obstacle? c = none) :
    ∃ fields, recordFields (recordAt c node) = .ok fields ∧
      ((setNode field node value).write c).nodes =
        Entries.put node (.object (Entries.put field.name value fields)) c.nodes := by
  unfold obstacle? at free
  cases misfit : c.misfits.nodes with
  | some v => simp [misfit] at free
  | none =>
    cases fault : node.keyFault? with
    | some kind => simp [misfit, fault] at free
    | none =>
      cases read : recordFields (recordAt c node) with
      | error f => simp [misfit, fault, read] at free
      | ok fields => exact ⟨fields, rfl, by simp only [write, read]⟩

/-- After the value of a node was written it is there. -/
theorem valueAt_write_self {value : Value}
    (free : (setNode .value (.text s) value).obstacle? c = none) :
    valueAt ((setNode .value (.text s) value).write c).nodes s = some value := by
  obtain ⟨fields, -, nodes⟩ := fields_of_obstacle free
  simp [valueAt, nodes, NodeField.name, Value.fields]

/-- What is under texts in a table of records is a table. -/
def Plain (nodes : Table) : Prop :=
  ∀ s r, Entries.lookup (.text s) nodes = some r → ∃ fields, r = .object fields

theorem plain_write (plain : Plain c.nodes) (free : x.obstacle? c = none) :
    Plain (x.write c).nodes := by
  intro s r found
  cases x with
  | setNode field node value =>
    obtain ⟨fields, -, nodes⟩ := fields_of_obstacle free
    rw [nodes] at found
    by_cases hit : node = .text s
    · subst hit
      rw [Table.lookup_put_self] at found
      exact ⟨_, (Option.some.inj found).symm⟩
    · rw [Table.lookup_put_of_ne hit] at found
      exact plain s r found
  | _ => exact plain s r found

/-- No other effect touches the value of a node. -/
theorem valueAt_write_of_ne (plain : Plain c.nodes) (free : x.obstacle? c = none)
    (other : ∀ value, x ≠ setNode .value (.text s) value) :
    valueAt (x.write c).nodes s = valueAt c.nodes s := by
  cases x with
  | setNode field node value =>
    obtain ⟨fields, read, nodes⟩ := fields_of_obstacle free
    unfold valueAt
    rw [nodes]
    by_cases hit : node = .text s
    · subst hit
      cases field with
      | value => exact absurd rfl (other value)
      | label =>
        rw [Table.lookup_put_self, Option.bind_some]
        show Entries.lookup "value" (Entries.put "label" value fields) = _
        rw [Entries.lookup_put_of_ne (by decide)]
        unfold recordAt at read
        cases found : Entries.lookup (.text s) c.nodes with
        | none =>
          rw [found] at read
          cases read
          rfl
        | some r =>
          obtain ⟨fields', rfl⟩ := plain s r found
          rw [found] at read
          cases read
          rfl
    · rw [Table.lookup_put_of_ne hit]
  | _ => rfl

theorem lookup_writeValues_of_ne (values : Table)
    (other : ∀ value, x ≠ setNode .value (.text s) value) :
    Entries.lookup (.text s) (x.writeValues values) = Entries.lookup (.text s) values := by
  cases x with
  | setNode field node value =>
    cases field with
    | value =>
      refine Table.lookup_put_of_ne ?_ value values
      rintro rfl
      exact other value rfl
    | label => rfl
  | _ => rfl

/-- Node values are written alike: what there is for a node without one stays. -/
theorem lookup_writeValues (plain : Plain c.nodes) (free : x.obstacle? c = none) {values : Table}
    {absent : Option Value}
    (same : Entries.lookup (.text s) values = (valueAt c.nodes s).or absent) :
    Entries.lookup (.text s) (x.writeValues values) =
      (valueAt (x.write c).nodes s).or absent := by
  by_cases hit : ∃ value, x = setNode .value (.text s) value
  · obtain ⟨value, rfl⟩ := hit
    rw [valueAt_write_self free]
    exact Table.lookup_put_self s value values
  · rw [valueAt_write_of_ne plain free (not_exists.1 hit), ← same]
    exact lookup_writeValues_of_ne values (not_exists.1 hit)

/-- A node has a value after an effect if it had one before or the effect is to write it. -/
theorem isSome_valueAt_write (plain : Plain c.nodes) (free : x.obstacle? c = none) :
    (valueAt (x.write c).nodes s).isSome = true ↔
      (valueAt c.nodes s).isSome = true ∨ ∃ value, x = setNode .value (.text s) value := by
  by_cases hit : ∃ value, x = setNode .value (.text s) value
  · obtain ⟨value, rfl⟩ := hit
    rw [valueAt_write_self free]
    exact ⟨fun _ => .inr ⟨value, rfl⟩, fun _ => rfl⟩
  · rw [valueAt_write_of_ne plain free (not_exists.1 hit)]
    exact ⟨.inl, fun either => either.resolve_right hit⟩

end Engine.Effect

/-! ## The agreement -/

variable {σ α : Type}

/-- What follows at once when a callback was told of an effect: the notice is passed on. -/
def Recorder.passes (forward : Hooks (Option Callback)) : Event → Option Event
  | .observed (.started 0 _ notice) =>
    if notice.hook = .diagnostic then none
    else (forward.get notice.hook).map fun passed => .observed (.noted (.forwarded passed notice))
  | _ => none

/-- An entry of a recorder's history is about what a callback was told. -/
def HistoryEntry.IsAbout (e : HistoryEntry) (told : Callback × Notice) : Prop :=
  ∃ x time, e = Engine.Effect.entry time x ∧ told.2 = x.notice

/-- The engine on a project and the recorder behind its callbacks agree. -/
structure InStep (g : Graph) (forward : Hooks (Option Callback)) (w : World (Recorder × σ)) :
    Prop where
  created : 0 < w.engines.length
  bound : ∀ h, h ≠ .diagnostic → ∃ callback, (w.engine 0).context.hooks.get h = some callback
  plain : Engine.Effect.Plain (w.engine 0).context.nodes
  vars : ∃ changes, (w.engine 0).context.vars = Entries.merge g.seedVariables changes ∧
    w.host.1.vars = Entries.ofPairs changes
  values : ∀ s, Entries.lookup (.text s) w.host.1.nodeValues =
    (Engine.valueAt (w.engine 0).context.nodes s).or
      (if s ∈ g.nodeIds then some (.text "") else none)
  updates : ∀ s, (Engine.valueAt (w.engine 0).context.nodes s).isSome = true ↔
    ∃ e ∈ w.host.1.history, e.IsValueOf s
  listed : List.Forall₂ HistoryEntry.IsAbout w.host.1.history (Engine.effects 0 w)
  passed : Paired (Recorder.passes forward) w.history

namespace InStep

variable {g : Graph} {forward : Hooks (Option Callback)} {w v : World (Recorder × σ)}

/-- What leaves the context of the engine and the recorder alone, and tells of no effect. -/
theorem of_context (agree : InStep g forward w) (new : List Event)
    (created : w.engines.length ≤ v.engines.length)
    (context : (v.engine 0).context = (w.engine 0).context) (host : v.host.1 = w.host.1)
    (history : v.history = w.history ++ new) (untold : new.filterMap (Engine.effectIn? 0) = [])
    (passed : Paired (Recorder.passes forward) new) : InStep g forward v where
  created := Nat.lt_of_lt_of_le agree.created created
  bound := by rw [context]; exact agree.bound
  plain := by rw [context]; exact agree.plain
  vars := by rw [context, host]; exact agree.vars
  values := by rw [context, host]; exact agree.values
  updates := by rw [context, host]; exact agree.updates
  listed := by
    rw [host, Engine.effects, history, List.filterMap_append, untold, List.append_nil]
    exact agree.listed
  passed := by
    rw [history]
    exact agree.passed.append passed

theorem of_eq (agree : InStep g forward w) (engines : v.engines = w.engines)
    (host : v.host.1 = w.host.1) (history : v.history = w.history) : InStep g forward v :=
  agree.of_context [] (by simp [engines]) (by simp only [World.engine, engines]) host
    (by rw [history, List.append_nil]) rfl .nil

theorem record (agree : InStep g forward w) {e : Event} (untold : Engine.effectIn? 0 e = none)
    (passed : Recorder.passes forward e = none) : InStep g forward (w.record e) :=
  agree.of_context [e] (Nat.le_refl _) rfl rfl rfl (by simp [untold]) (.single passed)

/-- An effect that the engine has, and that the recorder then records and passes on. -/
theorem commit (agree : InStep g forward w) {x : Engine.Effect}
    (free : x.obstacle? (w.engine 0).context = none) {callback : Callback} (passed : List Event)
    (engines : v.engines = (Engine.written w 0 x).engines)
    (host : v.host.1 = { x.recordIn w.host.1 with unlogged := [] })
    (history : v.history =
      w.history ++ (.observed (.started 0 callback x.notice) :: passed))
    (untold : passed.filterMap (Engine.effectIn? 0) = [])
    (paired : Paired (Recorder.passes forward)
      (.observed (.started 0 callback x.notice) :: passed)) : InStep g forward v := by
  have context : (v.engine 0).context = x.write (w.engine 0).context := by
    have same : v.engine 0 = (Engine.written w 0 x).engine 0 := by
      simp only [World.engine, engines]
    rw [same, Engine.written, World.engine_modifyEngine_self _ agree.created]
  refine ⟨?_, fun h ne => ?_, ?_, ?_, fun s => ?_, fun s => ?_, ?_, ?_⟩
  · rw [engines]
    simpa [Engine.written, World.modifyEngine] using agree.created
  · rw [context, Engine.Effect.hooks_write]
    exact agree.bound h ne
  · rw [context]
    exact Engine.Effect.plain_write agree.plain free
  · rw [context, host, Engine.Effect.vars_write]
    obtain ⟨changes, same, same'⟩ := agree.vars
    exact Engine.Effect.merge_writeVars same same' x
  · rw [context, host]
    exact Engine.Effect.lookup_writeValues agree.plain free (agree.values s)
  · rw [context, host, Engine.Effect.isSome_valueAt_write agree.plain free, agree.updates s,
      ← Engine.Effect.isValueOf_entry x w.host.1.clock.now]
    simp [Engine.Effect.recordIn, or_and_right, exists_or]
  · have told : Engine.effectIn? 0 (.observed (.started 0 callback x.notice)) =
        some (callback, x.notice) := if_pos ⟨rfl, x.hook_notice_ne⟩
    have effects : Engine.effects 0 v = Engine.effects 0 w ++ [(callback, x.notice)] := by
      rw [Engine.effects, history, List.filterMap_append, List.filterMap_cons_some told, untold]
      rfl
    rw [host, effects]
    exact List.rel_append agree.listed (.cons ⟨x, _, rfl, rfl⟩ .nil)
  · rw [history]
    exact agree.passed.append paired

end InStep

/-! ## Every step keeps the agreement -/

/-- Whether an operation leaves an engine its context. -/
def EngineOp.keepsContext {β : Type} : EngineOp β → Bool
  | .updateContext _ | .dispose => false
  | _ => true

/-- A call of the first engine that leaves it its context. -/
def HostOp.KeepsContext : HostOp → Prop
  | .engine id op => id = 0 ∧ op.keepsContext = true
  | .slot _ => False

section

variable {g : Graph} {forward : Hooks (Option Callback)} {notify : Notify (Recorder × σ)}

/-- What starting a callback does keeps the agreement, if it is told of what the engine has just
done. -/
structure Heeds (g : Graph) (forward : Hooks (Option Callback)) (notify : Notify (Recorder × σ)) :
    Prop where
  effect : ∀ w, InStep g forward w → ∀ x : Engine.Effect, x.obstacle? (w.engine 0).context = none →
    ∀ callback, InStep g forward ((notify callback x.notice).run
      ((Engine.written w 0 x).record (.observed (.started 0 callback x.notice)))).2
  diagnosed : ∀ d callback, Maintains (InStep g forward) (notify callback (.diagnosed d))

open Engine in
theorem Heeds.supports (heeds : Heeds g forward notify) :
    Supports (InStep g forward) notify 0 where
  log _ _ agree := agree.of_eq rfl rfl rfl
  traced _ _ agree := agree.record rfl rfl
  freshSpan _ agree := agree.of_eq rfl rfl rfl
  setSpan s w agree := by
    show InStep g forward (w.modifyEngine 0 fun e => { e with span := s })
    refine agree.of_context [] ?_ ?_ rfl (List.append_nil _).symm rfl .nil
    · simp [World.modifyEngine]
    · rw [World.engine_modifyEngine_self _ agree.created]
  commit x := by
    refine maintains_commit x fun w agree _ free => ?_
    obtain ⟨callback, bound⟩ := agree.bound x.notice.hook x.hook_notice_ne
    have same : ((written w 0 x).engine 0).context.hooks = (w.engine 0).context.hooks := by
      rw [written, World.engine_modifyEngine_self _ agree.created]
      exact Engine.Effect.hooks_write _ x
    rw [run_tell, same, bound]
    exact heeds.effect w agree x free callback
  report d := by
    refine maintains_tell (.diagnosed d) (fun w callback agree _ => ?_) (heeds.diagnosed d)
    exact agree.record (by simp [effectIn?, Notice.hook]) rfl

/-- A call that leaves the engine its context keeps the agreement. -/
theorem Heeds.maintains_exchange (heeds : Heeds g forward notify) (op : HostOp)
    (keeps : op.KeepsContext) :
    Maintains (InStep g forward) (Act.exchange op (Host.perform notify op)) := by
  cases op with
  | slot op => exact keeps.elim
  | engine id op =>
    obtain ⟨rfl, keeps⟩ := keeps
    intro w agree
    have performed : Maintains (InStep g forward) (Engine.perform notify 0 op) := by
      refine heeds.supports.perform op ?_ ?_
      · rintro rfl
        cases keeps
      · rintro changes rfl
        cases keeps
    rw [Act.run_exchange]
    exact (performed _ (agree.record rfl rfl)).record rfl rfl

/-- A program on the state of the host behind the recorder cannot touch the recorder. -/
theorem maintains_within {perform : HostOp → Act (Recorder × σ) Reply}
    (calls : ∀ op, HostOp.KeepsContext op →
      Maintains (InStep g forward) (Act.exchange op (perform op)))
    (p : Program σ α) (only : p.CallsOnly HostOp.KeepsContext) :
    Maintains (InStep g forward)
      ((p.within Prod.snd fun t (s : Recorder × σ) => (s.1, t)).run perform) := by
  induction p with
  | done a => exact .pure a
  | fail f => exact .throw f
  | read next ih => exact .bind (fun _ agree => agree) fun w => ih w.host.2 (only w.host.2)
  | write t next ih =>
    -- the state written is made of the one that is there, so the world is read first
    intro w agree
    exact ih only { w with host := (w.host.1, t) } (agree.of_eq rfl rfl rfl)
  | log r next ih => exact .bind (fun _ agree => agree.of_eq rfl rfl rfl) fun _ => ih only
  | note n next ih => exact .bind (fun _ agree => agree.record rfl rfl) fun _ => ih only
  | call op next ih => exact .bind (calls op only.1) fun r => ih r (only.2 r)

/-- A recorder heeds what it is told if the host behind it keeps the agreement. -/
theorem heeds_react {inner : Host σ} {perform : HostOp → Act (Recorder × σ) Reply}
    (inside : ∀ callback notice, Maintains (InStep g forward)
      (((inner.react callback notice).within Prod.snd fun t (s : Recorder × σ) => (s.1, t)).run
        perform)) :
    Heeds g forward fun callback notice =>
      ((Recorder.host forward inner).react callback notice).run perform where
  effect w agree x free callback := by
    have next : Recorder.passes forward (.observed (.started 0 callback x.notice)) =
        (forward.get x.notice.hook).map fun passed =>
          .observed (.noted (.forwarded passed x.notice)) := if_neg x.hook_notice_ne
    rw [Recorder.run_react free]
    cases bound : forward.get x.notice.hook with
    | none =>
      rw [bound] at next
      exact agree.commit free [] rfl rfl rfl rfl (.single next)
    | some passed =>
      rw [bound] at next
      refine inside passed x.notice _ (agree.commit free [_] rfl rfl ?_ rfl
        (.pair next rfl))
      exact List.append_assoc _ _ _
  diagnosed d callback := inside callback (.diagnosed d)

/-- Recorders heed what they are told however deep callbacks nest, if the host behind does nothing
below. -/
theorem heeds_notifyFrom {inner : Host σ} (keeps : inner.CallsOnly HostOp.KeepsContext)
    (depth : Nat) :
    Heeds g forward ((Recorder.host forward inner).notifyFrom
      (fun callback notice => ((Recorder.host forward ⟨fun _ _ => .done ()⟩).react callback
        notice).run (Host.perform fun _ _ => pure ())) depth) := by
  induction depth with
  | zero => exact heeds_react fun _ _ => .pure ()
  | succ depth ih =>
    exact heeds_react fun callback notice =>
      maintains_within (fun op => ih.maintains_exchange op) _ (keeps callback notice)

end

/-! ## Every run -/

/-- A program of the host behind a recorder. -/
abbrev Program.behind (p : Program σ α) : Program (Recorder × σ) α :=
  p.within Prod.snd fun t s => (s.1, t)

/-- The beginning of a session on a project, with an engine whose callbacks are a recorder's. -/
def Recorder.session (g : Graph) (settings : EngineSettings) (name : String)
    (onVariable onNode onAlert : Callback) (onDiagnostic : Option Callback) (recorder : Recorder)
    (s : σ) : World (Recorder × σ) :=
  Slot.created (World.initial ⟨name, settings, none⟩ (recorder, s))
    (g.context ⟨some onVariable, some onNode, some onAlert, onDiagnostic⟩)

/-- No node of a project has a runtime value yet. -/
theorem Graph.valueAt_runtimeNodes (g : Graph) (s : String) :
    Engine.valueAt g.runtimeNodes s = none := by
  unfold Engine.valueAt
  cases found : Entries.lookup (.text s) g.runtimeNodes with
  | none => rfl
  | some r =>
    obtain ⟨n, -, rfl⟩ := Graph.lookup_runtimeNodes found
    rfl

theorem inStep_session (g : Graph) (settings : EngineSettings) (name : String) (clock : Clock)
    (onVariable onNode onAlert : Callback) (onDiagnostic : Option Callback)
    (forward : Hooks (Option Callback)) {recorder : Recorder}
    (made : Recorder.new clock (g.nodeIds.map .text) = .ok recorder) (s : σ) :
    InStep g forward
      (Recorder.session g settings name onVariable onNode onAlert onDiagnostic recorder s) := by
  rw [Recorder.new_texts] at made
  obtain rfl := Except.ok.inj made
  refine ⟨Nat.one_pos, fun h ne => ?_, fun node r found => ?_, ⟨[], rfl, rfl⟩, fun node => ?_,
    fun node => ?_, .nil, .single rfl⟩
  · cases h with
    | diagnostic => exact absurd rfl ne
    | _ => exact ⟨_, rfl⟩
  · obtain ⟨n, -, rfl⟩ := Graph.lookup_runtimeNodes found
    exact ⟨_, rfl⟩
  · show _ = (Engine.valueAt g.runtimeNodes node).or _
    rw [g.valueAt_runtimeNodes]
    exact Table.lookup_foldl_put node (.text "") g.nodeIds []
  · show (Engine.valueAt g.runtimeNodes node).isSome = true ↔ _
    rw [g.valueAt_runtimeNodes]
    constructor
    · rintro ⟨⟩
    · rintro ⟨e, member, -⟩
      cases member

/-- Whatever is done with an engine behind a recorder, the two never drift apart: not if callbacks
fail, and not if they call the engine again, as long as nobody replaces its context or disposes it.
The variables of the engine are those of the project overlaid with those of the recorder.  A node
has a runtime value just if one was recorded, the recorder holds it, and it holds the empty text for
every other node of the project.  The history of the recorder is about what callbacks were told of,
entry by entry, and each of these notices was passed on. -/
theorem Host.recorder_in_step (g : Graph) (settings : EngineSettings) (name : String)
    (clock : Clock) (onVariable onNode onAlert : Callback) (onDiagnostic : Option Callback)
    (forward : Hooks (Option Callback)) (inner : Host σ) (p : Program σ α) (depth : Nat) (s : σ)
    (recorder : Recorder) (made : Recorder.new clock (g.nodeIds.map .text) = .ok recorder)
    (keeps : inner.CallsOnly HostOp.KeepsContext) (allowed : p.CallsOnly HostOp.KeepsContext)
    (enough : (Recorder.host forward inner).Suffices depth p.behind
      (Recorder.session g settings name onVariable onNode onAlert onDiagnostic recorder s)) :
    let w := (((Recorder.host forward inner).run depth p.behind).run
      (Recorder.session g settings name onVariable onNode onAlert onDiagnostic recorder s)).2
    (∃ changes, (w.engine 0).context.vars = Entries.merge g.seedVariables changes ∧
      w.host.1.vars = Entries.ofPairs changes) ∧
    (∀ key, Entries.lookup (.text key) (w.engine 0).context.vars =
      (Entries.lookup (.text key) w.host.1.vars).or
        (Entries.lookup (.text key) g.seedVariables)) ∧
    (∀ node, ((∃ v, Engine.valueAt (w.engine 0).context.nodes node = some v) ↔
        ∃ e ∈ w.host.1.history, e.IsValueOf node) ∧
      (∀ v, Engine.valueAt (w.engine 0).context.nodes node = some v →
        Entries.lookup (.text node) w.host.1.nodeValues = some v) ∧
      (node ∈ g.nodeIds → Engine.valueAt (w.engine 0).context.nodes node = none →
        Entries.lookup (.text node) w.host.1.nodeValues = some (.text ""))) ∧
    List.Forall₂ HistoryEntry.IsAbout w.host.1.history (Engine.effects 0 w) ∧
    Paired (Recorder.passes forward) w.history := by
  intro w
  have agree : InStep g forward w := by
    have start := inStep_session g settings name clock onVariable onNode onAlert onDiagnostic
      forward made s
    show InStep g forward (((Recorder.host forward inner).run depth p.behind).run _).2
    rw [← enough]
    exact maintains_within (fun op => (heeds_notifyFrom keeps depth).maintains_exchange op) p
      allowed _ start
  refine ⟨agree.vars, fun key => ?_, fun node => ⟨?_, fun v found => ?_, fun member none => ?_⟩,
    agree.listed, agree.passed⟩
  · obtain ⟨changes, vars, copy⟩ := agree.vars
    rw [vars, copy]
    exact Table.lookup_merge key _ changes
  · rw [← agree.updates node, Option.isSome_iff_exists]
  · rw [agree.values node, found, Option.some_or]
  · rw [agree.values node, none, if_pos member, Option.none_or]

/-- A host that keeps the last message in a variable of the engine, and fails after that. -/
def Host.echo : Host Unit where
  react _
    | .alertShown message =>
      .call (.engine 0 (.setVariable (.text "last") message)) fun _ =>
        .fail (.failure "message was not shown")
    | _ => .done ()

/-- Two levels are enough for a host that keeps messages: what it is told of a variable leads to no
calls. -/
theorem suffices_echo (forward : Hooks (Option Callback)) (message : Value)
    (w : World (Recorder × Unit)) :
    (Recorder.host forward .echo).Suffices 2
      (Program.behind (.call (.engine 0 (.showAlert message)) .done)) w := by
  intro bottom
  have free (callback : Callback) : ((Recorder.host forward .echo).react callback
      (.variableChanged (.text "last") message)).CallsOnly fun _ => False := by
    refine Recorder.callsOnly_react ?_ callback
    exact fun _ => trivial
  have written (callback : Callback) :
      (Recorder.host forward .echo).notifyFrom bottom 1 callback
        (.variableChanged (.text "last") message) =
      (Recorder.host forward .echo).notify 1 callback (.variableChanged (.text "last") message) :=
    Program.run_congr (fun _ none => none.elim) _ (free callback)
  have calls (callback : Callback) : ((Recorder.host forward .echo).react callback
      (.alertShown message)).CallsOnly (· = .engine 0 (.setVariable (.text "last") message)) := by
    refine Recorder.callsOnly_react ?_ callback
    exact fun _ => ⟨rfl, fun _ => trivial⟩
  have shown (callback : Callback) :
      (Recorder.host forward .echo).notifyFrom bottom 2 callback (.alertShown message) =
        (Recorder.host forward .echo).notify 2 callback (.alertShown message) := by
    refine Program.run_congr (fun op only => ?_) _ (calls callback)
    subst only
    simp only [Host.perform, Engine.perform, Engine.setVariable_eq_commit]
    rw [Engine.commit_congr written]
  have begins : (Program.behind (.call (.engine 0 (.showAlert message)) .done) :
      Program (Recorder × Unit) Reply).CallsOnly (· = .engine 0 (.showAlert message)) :=
    ⟨rfl, fun _ => trivial⟩
  have same (op : HostOp) (only : op = .engine 0 (.showAlert message)) :
      Host.perform ((Recorder.host forward .echo).notifyFrom bottom 2) op =
        Host.perform ((Recorder.host forward .echo).notify 2) op := by
    subst only
    simp only [Host.perform, Engine.perform, Engine.showAlert_eq_commit]
    rw [Engine.commit_congr shown]
  rw [Program.run_congr same _ begins]
  rfl

/-- A project with an input and a score, and a host that calls the engine from a callback and then
fails. -/
theorem Host.recorder_in_step_echo :
    let forward := Hooks.all (some (Callback.mk "host" 0))
    let bound := Callback.mk "recorder" 0
    let g : Graph :=
      ⟨[⟨"n1", .input, ⟨⟨0⟩, ⟨0⟩⟩, ⟨"Name", none, none⟩⟩], [],
        ⟨.light, false, [("score", .int 0)]⟩⟩
    let recorder : Recorder := ⟨.ticking 0 1, [(.text "n1", .text "")], [], [], []⟩
    let p : Program Unit Reply := .call (.engine 0 (.showAlert (.text "hello"))) .done
    let start := Recorder.session g .initial "preview" bound bound bound none recorder ()
    let w := (((Recorder.host forward .echo).run 2 p.behind).run start).2
    Recorder.new (.ticking 0 1) (g.nodeIds.map .text) = .ok recorder ∧
    Host.echo.CallsOnly HostOp.KeepsContext ∧ p.CallsOnly HostOp.KeepsContext ∧
    (Recorder.host forward .echo).Suffices 2 p.behind start ∧
    (∀ key, Entries.lookup (.text key) (w.engine 0).context.vars =
      (Entries.lookup (.text key) w.host.1.vars).or
        (Entries.lookup (.text key) g.seedVariables)) ∧
    List.Forall₂ HistoryEntry.IsAbout w.host.1.history (Engine.effects 0 w) ∧
    Paired (Recorder.passes forward) w.history := by
  intro forward bound g recorder p start w
  have made : Recorder.new (.ticking 0 1) (g.nodeIds.map .text) = .ok recorder := rfl
  have keeps : Host.echo.CallsOnly HostOp.KeepsContext := by
    intro _ notice
    cases notice with
    | alertShown message => exact ⟨⟨rfl, rfl⟩, fun _ => trivial⟩
    | _ => trivial
  have allowed : p.CallsOnly HostOp.KeepsContext := ⟨⟨rfl, rfl⟩, fun _ => trivial⟩
  have enough : (Recorder.host forward .echo).Suffices 2 p.behind start := suffices_echo forward _ _
  obtain ⟨-, vars, -, listed, passed⟩ := Host.recorder_in_step g .initial "preview" (.ticking 0 1)
    bound bound bound none forward .echo p 2 () recorder made keeps allowed enough
  exact ⟨made, keeps, allowed, enough, vars, listed, passed⟩

end EventCanvas
