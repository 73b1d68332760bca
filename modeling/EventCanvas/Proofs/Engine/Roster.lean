import EventCanvas.Proofs.Engine.Coupling
import EventCanvas.Proofs.Engine.Reaction
import EventCanvas.Proofs.Entries

/-!
# The nodes that an engine has records of

The records of an engine are under some keys.  Callbacks that leave the engine
alone do not change them, and neither does what it does by itself when it runs
actions and events, with one exception: an event of a node that has no record, run
on its own, copies the value that comes with a change all the same.

* `Engine.Confined`: what handling events comes down to where every effect is on
  a node that has a record.  Then dispatches keep to these nodes.
* `Engine.maintains_executeEvent_of_not_strays`: an event keeps to them unless it
  copies a value to a node that has no record.
* `Host.keys_unless_strays`: a sequence of calls leaves the keys as they were exactly
  if no call does so, and it never takes a record away.
-/

namespace EventCanvas

open Act (Maintains)

variable {σ : Type} {id : Nat}

/-! ## Properties of an engine -/

namespace Notify.Spares

variable {notify : Notify σ} {P : Engine → Prop} (spares : notify.Spares id)

include spares

/-- Telling the host maintains what holds of the engine alone. -/
theorem maintains_tell (notice : Notice) :
    Maintains (fun w => P (w.engine id)) (Engine.tell notify id notice) :=
  Engine.maintains_tell notice (fun _ _ holds _ => holds) fun callback w holds => by
    rw [(spares w callback notice w (.refl w)).engine]
    exact holds

theorem reports : Engine.Reports (fun w => P (w.engine id)) notify id where
  log _ _ holds := holds
  traced _ _ holds := holds
  report _ := spares.maintains_tell _

/-- An effect maintains what writing it maintains of the engine. -/
theorem maintains_commit (x : Engine.Effect)
    (writes : ∀ e, P e → e.isActive = true → x.obstacle? e.context = none →
      P { e with context := x.write e.context }) :
    Maintains (fun w => P (w.engine id)) (Engine.commit notify id x) :=
  Engine.maintains_commit x fun w holds active free => by
    have wrote : (Engine.written w id x).engine id =
        { w.engine id with context := x.write (w.engine id).context } :=
      World.engine_modifyEngine_self _ (World.lt_length_of_isActive active)
    have holds' : P ((Engine.written w id x).engine id) := wrote ▸ writes _ holds active free
    exact spares.maintains_tell x.notice _ holds'

end Notify.Spares

/-- Setting the span in progress maintains what does not depend on it. -/
theorem Engine.maintains_setSpan {P : Engine → Prop}
    (spanless : ∀ e span, P e → P { e with span }) (span : Option Span) :
    Maintains (fun w : World σ => P (w.engine id)) (setSpan id span) := by
  intro w holds
  rcases w.engine_modifyEngine_eq_or id id (fun e => { e with span }) with same | ⟨-, set⟩
  · exact same ▸ holds
  · exact set ▸ spanless _ span holds

namespace Engine

/-! ## Effects on nodes that have records -/

/-- An effect on a node with a key among some keys, or on no node. -/
def Effect.IsAmong (keys : List Value) : Effect → Prop
  | .setNode _ node _ => keys.any (node == ·) = true
  | _ => True

/-- What handling events comes down to maintains a property of worlds where an engine has records
under some keys, as far as effects are on these. -/
structure Confined (I : World σ → Prop) (keys : List Value) (notify : Notify σ) (id : Nat) : Prop
    extends Reports I notify id where
  freshSpan : Maintains I Act.freshSpan
  setSpan : ∀ s, Maintains I (setSpan id s)
  tables : ∀ w, I w → (w.engine id).context.misfits.nodes = none
  keys_eq : ∀ w, I w → Entries.keys (w.engine id).context.nodes = keys
  commit : ∀ x, Effect.IsAmong keys x → Maintains I (commit notify id x)

namespace Confined

variable {I : World σ → Prop} {keys : List Value} {notify : Notify σ}

theorem any_of_has (s : Confined I keys notify id) {w : World σ} (holds : I w) {node key : Value}
    (keyed : node.asKey = .ok key)
    (has : Entries.has key (w.engine id).context.nodes = true) : keys.any (node == ·) = true := by
  rwa [Value.eq_of_asKey keyed, Entries.has_eq_any_keys, s.keys_eq w holds] at has

/-- Relabelling asks for the record of the node first. -/
theorem acts (s : Confined I keys notify id) : Acts I notify id where
  log := s.log
  skip := s.skip
  act := by
    refine maintains_runAction s.skip (fun w node value holds found => ?_)
      (fun _ _ => s.commit _ trivial) fun _ => s.commit _ trivial
    rw [run_hasNode_eq (s.tables w holds)] at found
    cases keyed : node.asKey with
    | error f =>
      rw [keyed] at found
      cases found
    | ok key =>
      rw [keyed] at found
      have there := s.any_of_has holds keyed (Except.ok.inj found)
      exact s.commit (.setNode .label node value) there w holds

theorem copyInput (s : Confined I keys notify id) {source : Value}
    (there : keys.any (source == ·) = true) (data : Value) (g : Gesture) :
    Maintains I (copyInput notify id g source data) :=
  maintains_copyInput s.skip fun v _ _ _ => s.commit (.setNode .value source v) there

/-- A node is dispatched to only if it has a record. -/
theorem dispatch (s : Confined I keys notify id) (node data : Value) (g : Gesture) :
    Maintains I (dispatch notify id g node data) := by
  refine s.acts.dispatch (fun _ => s.traceOpen _) (fun w record holds found present => ?_) g
  rw [run_recordOf_eq (s.tables w holds)] at found
  cases keyed : node.asKey with
  | error f =>
    rw [keyed] at found
    cases found
  | ok key =>
    rw [keyed] at found
    have read : (Entries.lookup key (w.engine id).context.nodes).getD .null = record :=
      Except.ok.inj found
    have has : Entries.has key (w.engine id).context.nodes = true := by
      cases there : Entries.lookup key (w.engine id).context.nodes with
      | none =>
        rw [there] at read
        rw [← read] at present
        cases present
      | some r =>
        rw [Entries.has, there]
        rfl
    exact s.copyInput (s.any_of_has holds keyed has) data

theorem executeNodeEvents (s : Confined I keys notify id) (node kind data : Value) :
    Maintains I (executeNodeEvents notify id node kind data) :=
  s.toReports.executeNodeEvents s.freshSpan s.setSpan kind (s.dispatch node data)

end Confined

end Engine

/-! ## The keys of the records -/

/-- An engine that is active or not has a table of records, and of the keys of that table something
holds. -/
structure Enrolled (active : Bool) (P : List Value → Prop) (e : Engine) : Prop where
  active_eq : e.isActive = active
  tables : e.context.misfits.nodes = none
  keys : P (Entries.keys e.context.nodes)

namespace Enrolled

variable {active : Bool} {P Q : List Value → Prop} {e : Engine}

/-- A node keeps its place among the keys when its record is written, and comes last if it had no
record. -/
theorem write (enrolled : Enrolled active P e) {field : Engine.NodeField} {node value : Value}
    (free : (Engine.Effect.setNode field node value).obstacle? e.context = none)
    (next : ∀ keys, P keys → Q (if keys.any (node == ·) then keys else keys ++ [node])) :
    Enrolled active Q
      { e with context := (Engine.Effect.setNode field node value).write e.context } where
  active_eq := enrolled.active_eq
  tables := by
    rw [Engine.Effect.misfits_write]
    exact enrolled.tables
  keys := by
    have put := next _ enrolled.keys
    simp only [Engine.Effect.write]
    split
    · next f bad =>
      simp only [Engine.Effect.obstacle?, bad] at free
      split at free
      · cases free
      · split at free <;> cases free
    · rwa [Entries.keys_put, Entries.has_eq_any_keys]

section

variable {notify : Notify σ} (spares : notify.Spares id)

include spares

open Engine in
/-- Where every effect is on a node that has a record the keys stay as they are. -/
theorem confined (active : Bool) (keys : List Value) :
    Confined (fun w => Enrolled active (· = keys) (w.engine id)) keys notify id where
  toReports := spares.reports
  freshSpan _ holds := holds
  setSpan span := maintains_setSpan (fun _ _ e => ⟨e.active_eq, e.tables, e.keys⟩) span
  tables _ enrolled := enrolled.tables
  keys_eq _ enrolled := enrolled.keys
  commit x among := spares.maintains_commit x fun e enrolled _ free => by
    cases x with
    | setNode field node value =>
      have known : keys.any (node == ·) = true := among
      exact enrolled.write free fun _ same => by rw [same, if_pos known]
    | _ => exact ⟨enrolled.active_eq, enrolled.tables, enrolled.keys⟩

open Engine in
/-- Whatever is written, keys only come after those that were there. -/
theorem supports (active : Bool) (keys : List Value) :
    Supports (fun w => Enrolled active (keys <+: ·) (w.engine id)) notify id where
  toReports := spares.reports
  freshSpan _ holds := holds
  setSpan span := maintains_setSpan (fun _ _ e => ⟨e.active_eq, e.tables, e.keys⟩) span
  commit x := spares.maintains_commit x fun e enrolled _ free => by
    cases x with
    | setNode field node value =>
      refine enrolled.write free fun keys' before => ?_
      split
      · exact before
      · exact before.trans (List.prefix_append keys' [node])
    | _ => exact ⟨enrolled.active_eq, enrolled.tables, enrolled.keys⟩

end

end Enrolled

/-! ## Calls that run actions and events -/

namespace EngineOp

/-- A call that runs an action, an event, or events of a node. -/
def Executes : EngineOp Callback → Prop
  | .executeAction .. | .executeEvent .. | .executeNodeEvents .. => True
  | _ => False

/-- A call that runs an event of a change on its own, for a node with none of some keys, where the
change comes with a value. -/
def Strays (keys : List Value) : EngineOp Callback → Prop
  | .executeEvent event source (.object fields) =>
    Gesture.ofValue? (event.fieldOf "type") = some .change ∧
      (Entries.lookup "value" fields).isSome = true ∧
      source.keyFault? = none ∧ keys.any (source == ·) = false
  | _ => False

end EngineOp

namespace Engine

variable {notify : Notify σ} (spares : notify.Spares id)

include spares

/-- An event keeps to the nodes that have records, unless it copies a value to another one. -/
theorem maintains_executeEvent_of_not_strays {active : Bool} {keys : List Value}
    {event source data : Value}
    (stays : active = true → ¬ (EngineOp.executeEvent event source data).Strays keys) :
    Maintains (fun w : World σ => Enrolled active (· = keys) (w.engine id))
      (executeEvent notify id event source data) := by
  have confined := Enrolled.confined spares active keys
  by_cases there : keys.any (source == ·) = true
  · exact confined.acts.executeEvent (confined.copyInput there data) event
  intro w enrolled
  unfold executeEvent
  rw [Act.run_bind_of_ok (Act.run_engine id w), enrolled.active_eq]
  cases active with
  | false => exact confined.log _ w enrolled
  | true =>
    simp only [if_true]
    cases kind : Gesture.ofValue? (event.fieldOf "type") with
    | none => exact confined.skip _ w enrolled
    | some g =>
      refine Maintains.bind (confined.log _) (fun _ => .bind ?_ fun _ =>
        confined.acts.runEventAction g event source) w enrolled
      -- a value that can be copied to a node without a record is the exception
      refine maintains_copyInput confined.skip fun v change carried carries => ?_
      refine spares.maintains_commit _ fun e _ _ free => absurd ?_ (stays rfl)
      cases data with
      | object fields =>
        subst change
        exact ⟨kind, Except.ok.inj carries, Effect.keyFault?_eq_none free, by simpa using there⟩
      | _ => cases carried

/-- Copying a value to a node that has no record gives it one. -/
theorem enrolled_copyInput {keys : List Value} {source value : Value} {fields : Fields}
    (carried : Entries.lookup "value" fields = some value) (keyed : source.keyFault? = none)
    (unknown : keys.any (source == ·) = false) {w : World σ}
    (enrolled : Enrolled true (· = keys) (w.engine id)) :
    Enrolled true (keys ++ [source] <+: ·)
      (((copyInput notify id .change source (.object fields)).run w).2.engine id) := by
  have grows := Enrolled.supports spares true (keys ++ [source])
  have has : Entries.has source (w.engine id).context.nodes = false := by
    rw [Entries.has_eq_any_keys, enrolled.keys, unknown]
  have absent : Effect.recordAt (w.engine id).context source = .null := by
    cases found : Entries.lookup source (w.engine id).context.nodes with
    | none => rw [Effect.recordAt, found]; rfl
    | some r => simp [Entries.has, found] at has
  let x : Effect := .setNode .value source value
  have free : x.obstacle? (w.engine id).context = none := by
    simp [x, Effect.obstacle?, enrolled.tables, keyed, absent, recordFields]
  have wrote : Enrolled true (keys ++ [source] <+: ·) ((written w id x).engine id) := by
    have there := World.lt_length_of_isActive enrolled.active_eq
    rw [written, World.engine_modifyEngine_self _ there]
    exact enrolled.write free fun _ same => by simp [same, unknown]
  have committed : Enrolled true (keys ++ [source] <+: ·)
      (((commit notify id x).run w).2.engine id) := by
    rw [run_commit, enrolled.active_eq, if_pos rfl, free]
    exact spares.maintains_tell x.notice _ wrote
  have carries : (Act.ofExcept (carriesValue (.object fields)) : Act σ Bool).run w =
      (.ok true, w) := by
    simp only [carriesValue, Value.contains?, Entries.has, carried]
    rfl
  have read : (Act.ofExcept (carriedValue (.object fields)) : Act σ Value).run w =
      (.ok value, w) := by
    simp only [carriedValue, carried]
    rfl
  unfold copyInput copyValue guarded
  rw [if_pos rfl, Act.run_bind_of_ok carries, if_pos rfl, Act.run_tryCatch,
    Act.run_bind_of_ok read, setNodeValue_eq_commit]
  rcases ran : (commit notify id x).run w with ⟨f | a, v⟩
  · rw [ran] at committed
    exact grows.skip _ v committed
  · rw [ran] at committed
    exact committed

/-- An event that copies a value to a node without a record leaves more keys than there were. -/
theorem enrolled_executeEvent_of_strays {keys : List Value} {event source data : Value}
    (strays : (EngineOp.executeEvent event source data).Strays keys) {w : World σ}
    (enrolled : Enrolled true (keys <+: ·) (w.engine id)) :
    ∃ key, Enrolled true (keys ++ [key] <+: ·)
      (((executeEvent notify id event source data).run w).2.engine id) := by
  obtain ⟨more, split⟩ := enrolled.keys
  cases more with
  | cons key more =>
    -- there are more keys already
    have further : Enrolled true (keys ++ [key] <+: ·) (w.engine id) :=
      ⟨enrolled.active_eq, enrolled.tables, more, by rw [← split, List.append_assoc]; rfl⟩
    have grows := Enrolled.supports spares true (keys ++ [key])
    exact ⟨key, grows.handles.executeEvent event source data w further⟩
  | nil =>
    have same : Enrolled true (· = keys) (w.engine id) :=
      ⟨enrolled.active_eq, enrolled.tables, by rw [← split, List.append_nil]⟩
    cases data with
    | object fields =>
      obtain ⟨change, carries, keyed, unknown⟩ := strays
      obtain ⟨value, carried⟩ := Option.isSome_iff_exists.1 carries
      have grows := Enrolled.supports spares true (keys ++ [source])
      refine ⟨source, ?_⟩
      unfold executeEvent runEvent
      rw [Act.run_bind_of_ok (Act.run_engine id w), enrolled.active_eq, if_pos rfl, change]
      dsimp only
      obtain ⟨u, logged, kept⟩ : ∃ u, (Act.log (logLine .debug ("Executing " ++
          Gesture.change.name ++ " event on node " ++ source.message)) : Act σ Unit).run w =
            (.ok (), u) ∧ u.engine id = w.engine id := ⟨_, Act.run_log _ w, rfl⟩
      have copied := enrolled_copyInput spares carried keyed unknown (kept ▸ same)
      rw [Act.run_bind_of_ok logged, Act.run_bind]
      rcases ran : (copyInput notify id .change source (.object fields)).run u with ⟨f | a, v⟩
      · rw [ran] at copied
        exact copied
      · rw [ran] at copied
        exact grows.handles.acts.runEventAction .change event source v copied
    | _ => exact strays.elim

theorem enrolled_perform_of_strays {keys : List Value} {op : EngineOp Callback}
    (strays : op.Strays keys) {w : World σ} (enrolled : Enrolled true (keys <+: ·) (w.engine id)) :
    ∃ key, Enrolled true (keys ++ [key] <+: ·) (((perform notify id op).run w).2.engine id) := by
  cases op with
  | executeEvent event source data =>
    obtain ⟨key, further⟩ := enrolled_executeEvent_of_strays spares strays enrolled
    refine ⟨key, ?_⟩
    unfold perform
    rw [Act.run_bind]
    rcases ran : (executeEvent notify id event source data).run w with ⟨f | a, u⟩
    · rw [ran] at further
      exact further
    · rw [ran] at further
      exact further
  | _ => exact strays.elim

/-- A call keeps to the nodes that have records, unless it strays. -/
theorem maintains_perform_of_not_strays {active : Bool} {keys : List Value}
    {op : EngineOp Callback} (executes : op.Executes)
    (stays : active = true → ¬ op.Strays keys) :
    Maintains (fun w : World σ => Enrolled active (· = keys) (w.engine id))
      (perform notify id op) := by
  have confined := Enrolled.confined spares active keys
  cases op with
  | executeAction action source =>
    exact .bind (confined.acts.executeAction action source) fun _ => .pure _
  | executeEvent event source data =>
    exact .bind (maintains_executeEvent_of_not_strays spares stays) fun _ => .pure _
  | executeNodeEvents node kind data =>
    exact .bind (confined.executeNodeEvents node kind data) fun _ => .pure _
  | _ => exact executes.elim

theorem maintains_perform_of_executes (active : Bool) (keys : List Value)
    {op : EngineOp Callback} (executes : op.Executes) :
    Maintains (fun w : World σ => Enrolled active (keys <+: ·) (w.engine id))
      (perform notify id op) := by
  refine (Enrolled.supports spares active keys).perform op ?_ ?_
  · rintro rfl
    exact executes.elim
  · rintro changes rfl
    exact executes.elim

/-- Of calls that run actions and events one is enough that strays, by induction on the calls. -/
theorem enrolled_performAll_of_strays {keys : List Value} {ops : List (EngineOp Callback)}
    (executes : ∀ op ∈ ops, op.Executes) {op : EngineOp Callback} (member : op ∈ ops)
    (strays : op.Strays keys) {w : World σ} (enrolled : Enrolled true (keys <+: ·) (w.engine id)) :
    ∃ key, Enrolled true (keys ++ [key] <+: ·)
      (((performAll notify id ops).run w).2.engine id) := by
  induction ops generalizing w with
  | nil => cases member
  | cons first ops ih =>
    have executes' : ∀ op ∈ ops, op.Executes := fun op later =>
      executes op (List.mem_cons_of_mem _ later)
    obtain ⟨reply, u, ran⟩ := Act.Succeeds.exchange (.engine id first) (perform notify id first) w
    obtain ⟨replies, v, rest⟩ := succeeds_performAll notify id ops u
    rw [run_performAll_cons notify first ops ran rest]
    rcases List.mem_cons.1 member with rfl | later
    · obtain ⟨key, further⟩ := enrolled_perform_of_strays spares strays
        (w := w.record (.called (.engine id op))) enrolled
      have answered : Enrolled true (keys ++ [key] <+: ·) (u.engine id) := by
        rw [Act.run_exchange] at ran
        cases ran
        exact further
      refine ⟨key, ?_⟩
      have kept := maintains_performAll (fun _ _ holds => holds)
        (fun op later => maintains_perform_of_executes spares true (keys ++ [key])
          (executes' op later)) u answered
      rwa [rest] at kept
    · have between := Maintains.exchange (fun _ _ holds => holds) (.engine id first)
        (maintains_perform_of_executes spares true keys (executes first List.mem_cons_self)) w
        enrolled
      rw [ran] at between
      have found := ih executes' later between
      rwa [rest] at found

end Engine

namespace Host

/-- Running actions and events never takes a record away, where callbacks leave the engine alone.
The engine keeps records of the same nodes exactly if no event of a change, with a value to copy, is
run on its own for a node that has no record.  In that case the value is copied all the same. -/
theorem keys_unless_strays {host : Host σ} (spares : host.CallsOnly (HostOp.Spares id))
    (depth : Nat) {ops : List (EngineOp Callback)} (executes : ∀ op ∈ ops, op.Executes)
    {w : World σ} (tables : (w.engine id).context.misfits.nodes = none) :
    ∃ replies v, (Engine.performAll (host.notify depth) id ops).run w = (.ok replies, v) ∧
      Entries.keys (w.engine id).context.nodes <+: Entries.keys (v.engine id).context.nodes ∧
      (Entries.keys (v.engine id).context.nodes = Entries.keys (w.engine id).context.nodes ↔
        ((w.engine id).isActive = true →
          ∀ op ∈ ops, ¬ op.Strays (Entries.keys (w.engine id).context.nodes))) := by
  have spared := spared_notify spares depth
  obtain ⟨replies, v, run⟩ := Engine.succeeds_performAll (host.notify depth) id ops w
  have grows := Engine.maintains_performAll (fun _ _ holds => holds) (fun op member =>
    Engine.maintains_perform_of_executes spared (w.engine id).isActive
      (Entries.keys (w.engine id).context.nodes) (executes op member)) w
    ⟨rfl, tables, List.prefix_refl _⟩
  rw [run] at grows
  refine ⟨replies, v, run, grows.keys, fun same active op member strays => ?_, fun stays => ?_⟩
  · obtain ⟨key, further⟩ := Engine.enrolled_performAll_of_strays spared executes member strays
      (w := w) ⟨active, tables, List.prefix_refl _⟩
    rw [run] at further
    have longer := further.keys.length_le
    rw [same, List.length_append, List.length_singleton] at longer
    omega
  · have kept := Engine.maintains_performAll (fun _ _ holds => holds) (fun op member =>
      Engine.maintains_perform_of_not_strays spared (executes op member)
        fun active => stays active op member) w ⟨rfl, tables, rfl⟩
    rw [run] at kept
    exact kept.keys

/-- A canvas with one node and a host whose every callback fails. -/
theorem keys_unless_strays_ghost :
    let host : Host Unit := ⟨fun _ _ => .fail (.failure "host is gone")⟩
    let w : World Unit := Slot.created (World.initial ⟨"canvas", .initial, none⟩ ())
      (.ofTables [] [(.text "a", .object [("label", .text "A")])]
        (Hooks.all (some ⟨"host", 0⟩)))
    let relabel : Value := .object
      [("type", .text "setText"), ("target", .text "ghost"), ("value", .text "x")]
    let change : Value := .object [("type", .text "onChange"), ("action", relabel)]
    let typed : Value := .object [("value", .text "v")]
    let kept : List (EngineOp Callback) :=
      [.executeAction relabel .null, .executeEvent change (.text "ghost") .null,
        .executeEvent change (.text "a") typed,
        .executeNodeEvents (.text "ghost") (.text "onChange") typed]
    let stray : EngineOp Callback := .executeEvent change (.text "ghost") typed
    host.CallsOnly (HostOp.Spares 0) ∧ (∀ op ∈ kept ++ [stray], op.Executes) ∧
    (w.engine 0).context.misfits.nodes = none ∧ (w.engine 0).isActive = true ∧
    (∀ op ∈ kept, ¬ op.Strays [.text "a"]) ∧ stray.Strays [.text "a"] ∧
    (∃ replies v, (Engine.performAll (host.notify 1) 0 kept).run w = (.ok replies, v) ∧
      Entries.keys (v.engine 0).context.nodes = [.text "a"]) ∧
    ∃ replies v, (Engine.performAll (host.notify 1) 0 (kept ++ [stray])).run w =
        (.ok replies, v) ∧
      Entries.keys (v.engine 0).context.nodes ≠ [.text "a"] := by
  intro host w relabel change typed kept stray
  have spares : host.CallsOnly (HostOp.Spares 0) := fun _ _ => trivial
  have executes : ∀ op ∈ kept ++ [stray], op.Executes := by
    simp [kept, stray, EngineOp.Executes]
  have stays : ∀ op ∈ kept, ¬ op.Strays [.text "a"] := by
    simp [kept, typed, EngineOp.Strays]
  have strays : stray.Strays [.text "a"] := ⟨rfl, rfl, rfl, rfl⟩
  have early : ∀ op ∈ kept, op.Executes := fun op member =>
    executes op (List.mem_append_left _ member)
  obtain ⟨replies, v, run, -, same⟩ := keys_unless_strays spares 1 early (w := w) rfl
  obtain ⟨replies', v', run', -, more⟩ := keys_unless_strays spares 1 executes (w := w) rfl
  exact ⟨spares, executes, rfl, rfl, stays, strays, ⟨replies, v, run, same.2 fun _ => stays⟩,
    replies', v', run', fun equal => more.1 equal rfl stray (by simp) strays⟩

/-- Running an event can make a record of a node that had none. -/
theorem keys_kept_fails :
    ¬∀ (host : Host Unit) (id depth : Nat) (ops : List (EngineOp Callback)) (w : World Unit),
      host.CallsOnly (HostOp.Spares id) → (∀ op ∈ ops, op.Executes) →
      (w.engine id).context.misfits.nodes = none →
      ∃ replies v, (Engine.performAll (host.notify depth) id ops).run w = (.ok replies, v) ∧
        Entries.keys (v.engine id).context.nodes = Entries.keys (w.engine id).context.nodes := by
  intro always
  let host : Host Unit := ⟨fun _ _ => .done ()⟩
  let w : World Unit := Slot.created (World.initial ⟨"canvas", .initial, none⟩ ())
    (.ofTables [] [] (Hooks.all none))
  let action : Value := .object [("type", .text "showAlert"), ("value", .text "x")]
  let change : Value := .object [("type", .text "onChange"), ("action", action)]
  let ops : List (EngineOp Callback) :=
    [.executeEvent change (.text "ghost") (.object [("value", .text "v")])]
  obtain ⟨replies, v, run, kept⟩ :=
    always host 0 1 ops w (fun _ _ => trivial) (by simp [ops, EngineOp.Executes]) rfl
  have made : Entries.keys (v.engine 0).context.nodes = [.text "ghost"] := by
    cases run
    rfl
  rw [made] at kept
  cases kept

end Host

end EventCanvas
