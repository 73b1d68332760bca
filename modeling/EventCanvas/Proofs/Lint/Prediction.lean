import EventCanvas.Proofs.Engine.Account
import EventCanvas.Proofs.Engine.Failure
import EventCanvas.Proofs.Graph
import EventCanvas.Proofs.Lint.Finding

/-!
# What warnings predict

The warnings about where actions are aimed are exact.  In a session on a graph,
with callbacks that only take note and no references replaced, an event skips an
action and reports it whenever there is such a warning about it, and never else,
whatever was triggered before.

* `Lint.Populated`: a context has the records of a graph, with the handlers of each
  node.  Every effect that an event can have keeps that.
* `Lint.Wired`: the same with a callback for diagnostics.
* `Lint.Ready.trigger`: a trigger reports as many diagnostics as were predicted.
* `Lint.diagnostics_predicted`: so does every trigger after any others.
-/

namespace EventCanvas

variable {σ : Type} {id : Nat}

/-- How many diagnostics an engine reported so far. -/
def World.diagnostics (w : World σ) (id : Nat) : Nat :=
  (w.told id).countP fun t => t.2.hook = .diagnostic

namespace Lint

open Engine

variable {g : Graph} {c c' : Context Callback}

/-! ## Contexts with the records of a graph -/

/-- A context has a record for every node of a graph and for no other text, with the handlers of the
node. -/
structure Populated (g : Graph) (c : Context Callback) : Prop where
  tables : c.misfits = .empty
  present : ∀ s, (Entries.lookup (.text s) c.nodes).isSome = true ↔ s ∈ g.nodeIds
  records : ∀ n ∈ g.nodes, ∃ fields,
    Entries.lookup (.text n.id) c.nodes = some (.object fields) ∧
    Entries.lookup "events" fields = some (.list (n.data.handlers.map Handler.toValue))

/-- A context has a record for every node of a graph and for no other text, with the handlers of the
node, and a callback for diagnostics. -/
structure Wired (g : Graph) (c : Context Callback) : Prop where
  tables : c.misfits = .empty
  listens : c.hooks.diagnostic.isSome = true
  present : ∀ s, (Entries.lookup (.text s) c.nodes).isSome = true ↔ s ∈ g.nodeIds
  records : ∀ n ∈ g.nodes, ∃ fields,
    Entries.lookup (.text n.id) c.nodes = some (.object fields) ∧
    Entries.lookup "events" fields = some (.list (n.data.handlers.map Handler.toValue))

/-- The context at the start of a session on a graph whose ids differ. -/
theorem populated_context (nodup : g.nodeIds.Nodup) (hooks : Hooks (Option Callback)) :
    Populated g (g.context hooks) where
  tables := rfl
  present s := by
    by_cases member : s ∈ g.nodeIds
    · obtain ⟨n, there, rfl⟩ := List.mem_map.1 member
      have found : Entries.lookup (.text n.id) (g.context hooks).nodes = some _ :=
        Graph.lookup_runtimeNodes_of_mem nodup there
      simp [found, member]
    · have none : Entries.lookup (.text s) (g.context hooks).nodes = none :=
        Graph.lookup_runtimeNodes_of_not_mem member
      simp [none, member]
  records n there := ⟨_, Graph.lookup_runtimeNodes_of_mem nodup there, rfl⟩

/-- An effect on a variable, on the node of a graph, or on nothing. -/
def IsWithin (g : Graph) : Engine.Effect → Prop
  | .setVariable name _ => ∃ s, name = .text s
  | .setNode _ node _ => ∃ n ∈ g.nodes, node = .text n.id
  | .showAlert _ => True

namespace Populated

theorem obstacle?_eq_none (populated : Populated g c) {x : Engine.Effect} (within : IsWithin g x) :
    x.obstacle? c = none := by
  cases x with
  | setVariable name value =>
    obtain ⟨s, rfl⟩ := within
    simp [Engine.Effect.obstacle?, populated.tables, Misfits.empty, Value.keyFault?]
  | setNode field node value =>
    obtain ⟨n, there, rfl⟩ := within
    obtain ⟨fields, found, -⟩ := populated.records n there
    simp [Engine.Effect.obstacle?, Engine.Effect.recordAt, populated.tables, Misfits.empty,
      Value.keyFault?, found, recordFields]
  | showAlert message => rfl

/-- The table of records after a field of the record of a node was written. -/
theorem nodes_write (populated : Populated g c) {n : Node} (there : n ∈ g.nodes)
    (field : NodeField) (value : Value) :
    ∃ fields, Entries.lookup (.text n.id) c.nodes = some (.object fields) ∧
      ((Engine.Effect.setNode field (.text n.id) value).write c).nodes =
        Entries.put (.text n.id) (.object (Entries.put field.name value fields)) c.nodes := by
  obtain ⟨fields, found, -⟩ := populated.records n there
  refine ⟨fields, found, ?_⟩
  simp only [Engine.Effect.write, Engine.Effect.recordAt, found, Option.getD_some, recordFields]

theorem write (populated : Populated g c) {x : Engine.Effect} (within : IsWithin g x) :
    Populated g (x.write c) := by
  have tables : (x.write c).misfits = .empty := by
    rw [Engine.Effect.misfits_write]
    exact populated.tables
  cases x with
  | setVariable name value => exact ⟨tables, populated.present, populated.records⟩
  | showAlert message => exact populated
  | setNode field node value =>
    obtain ⟨n, there, rfl⟩ := within
    obtain ⟨fields, found, nodes⟩ := populated.nodes_write there field value
    refine ⟨tables, fun s => ?_, fun m member => ?_⟩
    · rw [nodes]
      by_cases hit : n.id = s
      · subst hit
        have member : n.id ∈ g.nodeIds := List.mem_map_of_mem there
        simp [member]
      · rw [Table.lookup_put_of_ne (mt Value.text.inj hit)]
        exact populated.present s
    · rw [nodes]
      by_cases hit : n.id = m.id
      · rw [← hit, Table.lookup_put_self]
        obtain ⟨fields', found', events'⟩ := populated.records m member
        obtain rfl : fields = fields' := by
          rw [hit, found'] at found
          exact (Value.object.inj (Option.some.inj found)).symm
        have other : "events" ≠ field.name := by cases field <;> decide
        exact ⟨_, rfl, by rw [Entries.lookup_put_of_ne other, events']⟩
      · rw [Table.lookup_put_of_ne (mt Value.text.inj hit)]
        exact populated.records m member

end Populated

/-- The context at the start of a session on a graph whose ids differ, with a callback for
diagnostics. -/
theorem wired_context (nodup : g.nodeIds.Nodup) {hooks : Hooks (Option Callback)}
    (listens : hooks.diagnostic.isSome = true) : Wired g (g.context hooks) :=
  have populated := populated_context nodup hooks
  ⟨populated.tables, listens, populated.present, populated.records⟩

namespace Wired

theorem populated (wired : Wired g c) : Populated g c :=
  ⟨wired.tables, wired.present, wired.records⟩

theorem write (wired : Wired g c) {x : Engine.Effect} (within : IsWithin g x) :
    Wired g (x.write c) := by
  have populated := wired.populated.write within
  refine ⟨populated.tables, ?_, populated.present, populated.records⟩
  rw [Engine.Effect.hooks_write]
  exact wired.listens

end Wired

/-! ## Where actions are aimed -/

theorem labelTarget_eq (a : Action) (source : Value) :
    labelTarget a.target source = ((namedTarget? a).map .text).getD source := by
  unfold labelTarget namedTarget?
  cases a.target with
  | none => rfl
  | some t =>
    by_cases empty : t = ""
    · simp [empty]
    · simp [empty]

/-- Running an action and checking it look at its target in the same way. -/
theorem aim_setVariable (c : Context Callback) (source : Value) {a : Action}
    (kind : a.kind = .setVariable) :
    aim c source a =
      match namedTarget? a with
      | none => .error (noVariable source)
      | some t => .ok (.setVariable (.text t) (.text a.value)) := by
  unfold aim namedTarget?
  rw [kind]
  cases a.target with
  | none => rfl
  | some t =>
    by_cases empty : t = ""
    · simp [empty]
    · simp [empty]

theorem namedTarget?_ne_empty {a : Action} {t : String} (found : namedTarget? a = some t) :
    t ≠ "" := by
  unfold namedTarget? at found
  obtain ⟨t', -, named⟩ := Option.bind_eq_some_iff.1 found
  split at named
  · cases named
  · next full =>
    cases named
    exact full

/-- The effect of an action of a node, if it is aimed at something. -/
def aimed? (g : Graph) (source : String) (a : Action) : Option Engine.Effect :=
  match a.kind with
  | .showAlert => some (.showAlert (.text a.value))
  | .setVariable => (namedTarget? a).map fun t => .setVariable (.text t) (.text a.value)
  | .setText =>
    let node := (namedTarget? a).getD source
    if node ∈ g.nodeIds then some (.setNode .label (.text node) (.text a.value)) else none

/-- The effects that actions have: a message, a variable with a name, and the label of a node of the
graph. -/
theorem aimed?_eq_some {source : String} {a : Action} {x : Engine.Effect}
    (aimed : aimed? g source a = some x) :
    x = .showAlert (.text a.value) ∨
      (∃ t, namedTarget? a = some t ∧ x = .setVariable (.text t) (.text a.value)) ∨
      ∃ m ∈ g.nodes, (namedTarget? a).getD source = m.id ∧
        x = .setNode .label (.text m.id) (.text a.value) := by
  unfold aimed? at aimed
  cases kind : a.kind with
  | showAlert =>
    rw [kind] at aimed
    exact .inl (Option.some.inj aimed).symm
  | setVariable =>
    rw [kind] at aimed
    obtain ⟨t, named, rfl⟩ := Option.map_eq_some_iff.1 aimed
    exact .inr (.inl ⟨t, named, rfl⟩)
  | setText =>
    rw [kind] at aimed
    dsimp only at aimed
    split at aimed
    · next known =>
      obtain ⟨m, there, same⟩ := List.mem_map.1 known
      rw [← same] at aimed
      exact .inr (.inr ⟨m, there, same.symm, (Option.some.inj aimed).symm⟩)
    · cases aimed

theorem isWithin_of_aimed? {source : String} {a : Action} {x : Engine.Effect}
    (aimed : aimed? g source a = some x) : IsWithin g x := by
  rcases aimed?_eq_some aimed with rfl | ⟨t, -, rfl⟩ | ⟨m, there, -, rfl⟩
  · trivial
  · exact ⟨t, rfl⟩
  · exact ⟨m, there, rfl⟩

/-- The value that comes with an event is copied to the node of the event. -/
theorem isWithin_of_copied? {n : Node} (there : n ∈ g.nodes) {gesture : Gesture} {data : Value}
    {x : Engine.Effect} (copies : copied? gesture n.id data = some x) : IsWithin g x := by
  cases data with
  | object fields =>
    simp only [copied?] at copies
    split at copies
    · obtain ⟨value, -, rfl⟩ := Option.map_eq_some_iff.1 copies
      exact ⟨n, there, rfl⟩
    · cases copies
  | _ => cases copies

/-- What an action of a node is aimed at does not depend on the state of the session. -/
theorem Populated.aim_eq (populated : Populated g c) {source : String}
    (named : source ≠ "") (a : Action) :
    (aimed? g source a = none ∧ ∃ s, aim c (.text source) a = .error s) ∨
      ∃ x, aimed? g source a = some x ∧ aim c (.text source) a = .ok x := by
  cases kind : a.kind with
  | showAlert => exact .inr ⟨.showAlert (.text a.value), by rw [aimed?, kind], by rw [aim, kind]⟩
  | setVariable =>
    rw [aim_setVariable c _ kind, aimed?, kind]
    cases namedTarget? a with
    | none => exact .inl ⟨rfl, _, rfl⟩
    | some t => exact .inr ⟨_, rfl, rfl⟩
  | setText =>
    have target : labelTarget a.target (.text source) = .text ((namedTarget? a).getD source) := by
      rw [labelTarget_eq]
      cases namedTarget? a <;> rfl
    have full : (namedTarget? a).getD source ≠ "" := by
      cases target : namedTarget? a with
      | none => exact named
      | some t => exact namedTarget?_ne_empty target
    rw [aim, aimed?, kind]
    simp only [target]
    generalize (namedTarget? a).getD source = node at full
    by_cases member : node ∈ g.nodeIds
    · have present : Entries.has (.text node) c.nodes = true := (populated.present node).2 member
      exact .inr ⟨.setNode .label (.text node) (.text a.value), by simp [member],
        by simp [Value.truthy, full, present]⟩
    · have absent : Entries.has (.text node) c.nodes = false := by
        have none := mt (populated.present node).1 member
        simpa [Entries.has] using none
      exact .inl ⟨by simp [member], unknownLabelTarget (.text source) (.text node),
        by simp [Value.truthy, full, absent]⟩

/-- The check for what actions are aimed at finds all that are aimed at nothing. -/
theorem isNone_aimed? {n : Node} (there : n ∈ g.nodes) (a : Action) :
    (aimed? g n.id a).isNone = (misaimed? g.nodeIds a).isSome := by
  have self : n.id ∈ g.nodeIds := List.mem_map_of_mem there
  unfold aimed? misaimed?
  cases a.kind with
  | showAlert => rfl
  | setVariable => cases namedTarget? a <;> rfl
  | setText =>
    cases namedTarget? a with
    | none => simp [self]
    | some t => by_cases member : t ∈ g.nodeIds <;> simp [member]

/-! ## What events report -/

/-- Whether a notice is a diagnostic. -/
def reports (n : Notice) : Bool := n.hook = .diagnostic

theorem countP_reports_heard (listens : c.hooks.diagnostic.isSome = true) (ns : List Notice) :
    (ns.flatMap (heard c)).countP (fun t => t.2.hook = .diagnostic) = ns.countP reports := by
  induction ns with
  | nil => rfl
  | cons n ns ih =>
    have here : (heard c n).countP (fun t => t.2.hook = .diagnostic) = [n].countP reports := by
      obtain ⟨callback, bound⟩ := Option.isSome_iff_exists.1 listens
      unfold heard reports
      cases hook : n.hook <;> cases heard : c.hooks.get n.hook <;>
        simp_all [Hooks.get]
    rw [List.flatMap_cons, List.countP_append, ih, here, ← List.countP_append]
    rfl

/-- Where texts are left as they are, an action of a graph has the effect that it is aimed at, or it
is skipped because there is none that it can have. -/
theorem settles_toValue {s : EngineSettings} (plain : s.interpolates = false) {source : Value}
    {a : Action} {notice : Notice} (settled : Settles s c source a.toValue notice c') :
    (∃ x, aim c source a = .ok x ∧ notice = x.notice ∧ c' = x.write c) ∨
      (∃ d, notice = .diagnosed d) ∧ c' = c ∧
        ∀ x, aim c source a = .ok x → x.obstacle? c ≠ none := by
  have verbatim := finalParts_of_plain plain c a.target a.value
  cases settled with
  | effect reads final aimed free =>
    obtain rfl := Coerced.action.inj ((Action.coerce_toValue a).symm.trans reads)
    cases verbatim.symm.trans final
    exact .inl ⟨_, aimed, rfl, rfl⟩
  | skipped d barred =>
    have reads := Action.coerce_toValue a
    exact .inr ⟨⟨d, rfl⟩, rfl, fun x => barred a a.target a.value x reads verbatim⟩

section

variable {s : EngineSettings} (plain : s.interpolates = false) {n : Node} (there : n ∈ g.nodes)
  (named : n.id ≠ "")

include plain there named

/-- An action of a graph is reported exactly if it is aimed at nothing. -/
theorem settles_wired (wired : Wired g c) {a : Action} {notice : Notice}
    (settled : Settles s c (.text n.id) a.toValue notice c') :
    Wired g c' ∧ [notice].countP reports = (misaimed? g.nodeIds a).toList.length := by
  have found := isNone_aimed? there a
  rcases wired.populated.aim_eq named a with ⟨none, skip, missed⟩ | ⟨x, some, aim⟩
  · rw [none] at found
    obtain ⟨concern, misaimed⟩ := Option.isSome_iff_exists.1 found.symm
    rw [misaimed]
    rcases settles_toValue plain settled with ⟨x, aimed, -⟩ | ⟨⟨d, rfl⟩, rfl, -⟩
    · rw [missed] at aimed
      cases aimed
    · exact ⟨wired, rfl⟩
  · have within := isWithin_of_aimed? some
    rw [some] at found
    have well : misaimed? g.nodeIds a = .none := by simpa using found.symm
    rw [well]
    rcases settles_toValue plain settled with ⟨x', aimed, rfl, rfl⟩ | ⟨-, -, barred⟩
    · rw [aim] at aimed
      obtain rfl := Except.ok.inj aimed
      exact ⟨wired.write within, by simp [reports, Engine.Effect.hook_notice_ne]⟩
    · exact absurd (wired.populated.obstacle?_eq_none within) (barred x aim)

theorem accounted_wired (wired : Wired g c) {gesture : Gesture} {data : Value} {h : Handler}
    {account : List Notice}
    (accounted : Accounted s gesture n.id data c h.toValue account c') :
    Wired g c' ∧ account.countP reports = (misaimed? g.nodeIds h.action).toList.length := by
  cases accounted with
  | @settled notice _ settled =>
    have action : h.toValue.fieldOf "action" = h.action.toValue := rfl
    rw [action] at settled
    cases copies : copied? gesture n.id data with
    | none =>
      rw [copies] at settled
      exact settles_wired plain there named wired settled
    | some x =>
      rw [copies] at settled
      obtain ⟨after, counts⟩ :=
        settles_wired plain there named (wired.write (isWithin_of_copied? there copies)) settled
      refine ⟨after, ?_⟩
      rw [List.countP_append, counts]
      simp [reports, Engine.Effect.hook_notice_ne]

/-- The events of a node report as often as their actions are aimed at nothing, by induction on
the events. -/
theorem accounts_wired (wired : Wired g c) {gesture : Gesture} {data : Value} {hs : List Handler}
    {accounts : List (List Notice)}
    (accounted : Accounts s gesture n.id data c (hs.map Handler.toValue) accounts c') :
    Wired g c' ∧ accounts.flatten.countP reports =
      (hs.filterMap fun h => misaimed? g.nodeIds h.action).length := by
  induction hs generalizing c accounts with
  | nil =>
    cases accounted with
    | nil => exact ⟨wired, rfl⟩
  | cons h hs ih =>
    cases accounted with
    | cons first rest =>
      obtain ⟨between, here⟩ := accounted_wired plain there named wired first
      obtain ⟨after, later⟩ := ih between rest
      refine ⟨after, ?_⟩
      rw [List.flatten_cons, List.countP_append, here, later]
      cases aimed : misaimed? g.nodeIds h.action with
      | none => simp [aimed]
      | some concern =>
        simp only [List.filterMap_cons, aimed, Option.toList_some, List.length_cons,
          List.length_nil]
        omega

end

theorem matching_toValue (gesture : Gesture) (hs : List Handler) :
    matching gesture (hs.map Handler.toValue) =
      (hs.filter fun h => h.gesture = gesture).map Handler.toValue := by
  unfold matching
  rw [List.filter_map]
  refine congrArg (List.map _) (congrArg (List.filter · hs) (funext fun h => ?_))
  show (Value.text h.gesture.name).equal (.text gesture.name) = _
  cases h.gesture <;> cases gesture <;> decide

/-! ## Triggers -/

/-- A trigger that a host can make: a node, a kind of event, and event data. -/
structure Emission where
  node : String
  gesture : Gesture
  data : Value

namespace Emission

/-- The operation on an engine that a trigger is. -/
def op (e : Emission) : EngineOp Callback :=
  .executeNodeEvents (.text e.node) (.text e.gesture.name) e.data

/-- A trigger on a node of a graph, with event data as hosts pass them. -/
def IsOn (g : Graph) (e : Emission) : Prop := e.node ∈ g.nodeIds ∧ e.data.IsEventData

/-- How many warnings there are about where the actions are aimed that a trigger runs. -/
def predicted (g : Graph) (e : Emission) : Nat :=
  (findings g).countP (Finding.isAbout e.node e.gesture)

end Emission

/-- An active engine on a graph that replaces no references. -/
structure Ready (g : Graph) (id : Nat) (w : World σ) : Prop where
  active : (w.engine id).isActive = true
  plain : (w.engine id).settings.interpolates = false
  wired : Wired g (w.engine id).context

namespace Ready

variable {notify : Notify σ} {w : World σ}

section

variable (calm : notify.Calm id) (nodup : g.nodeIds.Nodup)
  (named : ∀ node ∈ g.nodeIds, node ≠ "")

include calm nodup named

/-- A trigger reports as many diagnostics as were predicted, and leaves the engine ready. -/
theorem trigger (ready : Ready g id w) {e : Emission} (on : e.IsOn g) :
    ∃ n v, (executeNodeEvents notify id (.text e.node) (.text e.gesture.name) e.data).run w =
        (.ok n, v) ∧ Ready g id v ∧ v.diagnostics id = w.diagnostics id + e.predicted g := by
  obtain ⟨⟨node, gesture, data⟩, member, given⟩ := e, on
  obtain ⟨n, there, rfl⟩ := List.mem_map.1 member
  obtain ⟨fields, found, events⟩ := ready.wired.records n there
  have tables : (w.engine id).context.misfits.nodes = none := by
    rw [ready.wired.tables]
    rfl
  have listed : (Value.object fields).fieldOf "events" =
      .list (n.data.handlers.map Handler.toValue) := by
    show (Entries.lookup "events" fields).getD .null = _
    rw [events]
    rfl
  obtain ⟨accounts, c, span, v, run, accounted, engine, told⟩ :=
    accounts_executeNodeEvents (g := gesture) calm ready.active tables found rfl listed given
  rw [matching_toValue] at accounted
  obtain ⟨wired, counts⟩ :=
    accounts_wired ready.plain there (named n.id member) ready.wired accounted
  refine ⟨_, v, run, ⟨?_, ?_, ?_⟩, ?_⟩
  · rw [engine]
    exact ready.active
  · rw [engine]
    exact ready.plain
  · rw [engine]
    exact wired
  · rw [World.diagnostics, told, List.countP_append,
      countP_reports_heard ready.wired.listens, counts]
    exact congrArg (w.diagnostics id + ·) (countP_findings nodup there gesture).symm

/-- Triggers one after the other leave the engine ready, by induction on how many there are; and if
nothing was predicted, nothing is reported. -/
theorem triggers (ready : Ready g id w) {past : List Emission} (on : ∀ e ∈ past, e.IsOn g) :
    ∃ replies v, (performAll notify id (past.map Emission.op)).run w = (.ok replies, v) ∧
      Ready g id v ∧
      ((∀ e ∈ past, e.predicted g = 0) → v.diagnostics id = w.diagnostics id) := by
  induction past generalizing w with
  | nil => exact ⟨[], w, rfl, ready, fun _ => rfl⟩
  | cons e past ih =>
    have called : Ready g id (w.record (.called (.engine id e.op))) :=
      ⟨ready.active, ready.plain, ready.wired⟩
    obtain ⟨n, u, run, ready', counts⟩ :=
      called.trigger calm nodup named (on e List.mem_cons_self)
    have performed : (perform notify id e.op).run (w.record (.called (.engine id e.op))) =
        (.ok (.value (.int n)), u) := Act.run_bind_of_ok run _
    have first := Act.run_exchange (.engine id e.op) (perform notify id e.op) w
    rw [performed] at first
    have answered : Ready g id (u.record (.answered (.engine id e.op) (.value (.int n)))) :=
      ⟨ready'.active, ready'.plain, ready'.wired⟩
    obtain ⟨replies, v, rest, ready'', counts'⟩ :=
      ih answered fun e member => on e (List.mem_cons_of_mem _ member)
    refine ⟨_, v, run_performAll_cons notify e.op _ first rest, ready'', fun none => ?_⟩
    have here : u.diagnostics id = w.diagnostics id := by
      rw [counts, none e List.mem_cons_self, Nat.add_zero, World.diagnostics,
        World.told_record_of_none _ rfl]
      rfl
    have later := counts' fun e member => none e (List.mem_cons_of_mem _ member)
    rw [later, World.diagnostics, World.told_record_of_none _ rfl]
    exact here

end

end Ready

/-- Warnings predict what is skipped.  In a session on a graph whose ids differ and are not empty,
on an engine that replaces no references and whose callbacks are calm, after any triggers on nodes
of the graph, every further trigger reports as many diagnostics as there are warnings about where
the actions are aimed that it runs.  If there are no such warnings, no triggers report anything.
The warnings are those about edges and the texts of the findings. -/
theorem diagnostics_predicted {host : Host σ} {id : Nat} (calm : host.Calm id) (depth : Nat)
    {g : Graph} (valid : Graph.checkIds g.toValue g = .ok g) (named : ∀ node ∈ g.nodeIds, node ≠ "")
    {hooks : Hooks (Option Callback)} (listens : hooks.diagnostic.isSome = true) {w : World σ}
    (active : (w.engine id).isActive = true)
    (plain : (w.engine id).settings.interpolates = false)
    (start : (w.engine id).context = g.context hooks) :
    warnings g =
      g.danglingEdges.map (edgeWarning g.nodeIds) ++ (findings g).map Finding.text ∧
    ∀ past : List Emission, (∀ e ∈ past, e.IsOn g) → ∃ replies u,
      (performAll (host.notify depth) id (past.map Emission.op)).run w = (.ok replies, u) ∧
      (∀ e : Emission, e.IsOn g → ∃ n v,
        (executeNodeEvents (host.notify depth) id (.text e.node) (.text e.gesture.name) e.data).run
          u = (.ok n, v) ∧
        v.diagnostics id = u.diagnostics id +
          (findings g).countP (Finding.isAbout e.node e.gesture)) ∧
      ((∀ f ∈ findings g, f.concern.isMisaimed = false) →
        u.diagnostics id = w.diagnostics id) := by
  have nodup := Graph.nodup_of_checkIds valid
  have ready : Ready g id w := ⟨active, plain, start ▸ wired_context nodup listens⟩
  refine ⟨warnings_eq g, fun past on => ?_⟩
  obtain ⟨replies, u, run, ready', counts⟩ :=
    ready.triggers (Host.calm_notify calm depth) nodup named on
  refine ⟨replies, u, run, fun e onto => ?_, fun aimed => ?_⟩
  · obtain ⟨n, v, run', -, counts'⟩ :=
      ready'.trigger (Host.calm_notify calm depth) nodup named onto
    exact ⟨n, v, run', counts'⟩
  · refine counts fun e _ => List.countP_eq_zero.2 fun f member => ?_
    simp [Finding.isAbout, aimed f member]

/-- A button that writes a variable without a name and relabels a node that does not exist, next to
an input without handlers that are aimed wrongly. -/
theorem diagnostics_predicted_button :
    let host : Host Nat := ⟨fun _ _ =>
      .call (.engine 1 .dispose) fun _ => .read fun told => .write (told + 1) (.done ())⟩
    let on (kind : ActionKind) (target : Option String) : Handler :=
      ⟨.click, kind, target, "pressed"⟩
    let button : Node := ⟨"button", .button, default, "Press", none,
      some [on .setVariable none, on .setText (some "gone"), on .setText (some "")]⟩
    let input : Node := ⟨"input", .input, default, "Name", none,
      some [⟨.change, .setVariable, some "name", "typed"⟩]⟩
    let g : Graph := ⟨[button, input], [], .initial⟩
    let hooks : Hooks (Option Callback) := Hooks.all (some ⟨"host", 0⟩)
    let w := Slot.created (World.initial ⟨"preview", .initial, none⟩ 0) (g.context hooks)
    let typed : Emission := ⟨"input", .change, .object [("value", .text "Ada")]⟩
    let pressed : Emission := ⟨"button", .click, .null⟩
    Graph.checkIds g.toValue g = .ok g ∧ (∀ node ∈ g.nodeIds, node ≠ "") ∧ host.Calm 0 ∧
    (w.engine 0).isActive = true ∧ (w.engine 0).settings.interpolates = false ∧
    (w.engine 0).context = g.context hooks ∧
    (∀ e ∈ [typed, pressed], e.IsOn g) ∧
    (findings g).countP (Finding.isAbout "button" .click) = 2 ∧
    ∃ replies u n v,
      (performAll (host.notify 1) 0 [typed.op, pressed.op]).run w = (.ok replies, u) ∧
      (executeNodeEvents (host.notify 1) 0 (.text "button") (.text "onClick") .null).run u =
        (.ok n, v) ∧
      v.diagnostics 0 = u.diagnostics 0 + 2 := by
  intro host on button input g hooks w typed pressed
  have calm : host.Calm 0 := fun _ _ => ⟨Nat.one_ne_zero, fun _ _ => trivial⟩
  have valid : Graph.checkIds g.toValue g = .ok g := rfl
  have named : ∀ node ∈ g.nodeIds, node ≠ "" := by decide
  have triggers : ∀ e ∈ [typed, pressed], e.IsOn g := by
    intro e member
    rcases List.mem_cons.1 member with rfl | member
    · exact ⟨by decide, trivial⟩
    · rw [List.mem_singleton.1 member]
      exact ⟨by decide, trivial⟩
  have counted : (findings g).countP (Finding.isAbout "button" .click) = 2 :=
    countP_findings (Graph.nodup_of_checkIds valid) (n := button) List.mem_cons_self .click
  have listens : hooks.diagnostic.isSome = true := rfl
  have start : (w.engine 0).context = g.context hooks := rfl
  obtain ⟨-, runs⟩ := diagnostics_predicted calm 1 valid named listens rfl rfl start
  obtain ⟨replies, u, run, further, -⟩ := runs [typed, pressed] triggers
  obtain ⟨n, v, run', counts⟩ := further pressed (triggers pressed (by simp))
  rw [show pressed.node = "button" from rfl, show pressed.gesture = .click from rfl, counted]
    at counts
  exact ⟨valid, named, calm, rfl, rfl, start, triggers, counted, replies, u, n, v, run, run',
    counts⟩

end Lint

end EventCanvas
