import EventCanvas.Proofs.Engine.Coupling
import EventCanvas.Proofs.Graph.Holding
import EventCanvas.Proofs.Host
import EventCanvas.Proofs.Slot

/-!
# How records are held is not seen

Two worlds in which the records of one engine are held differently, but look the same,
are followed side by side.  An engine turns a record into a table when it writes to it;
what it makes of records that look the same looks the same again.  So the two worlds
differ in nothing but those records, whatever is called and however deep callbacks
nest, as long as nobody asks that engine to show its context.

* `Twins id w v`: the worlds differ at most in how the records of one engine are held.
* `Twins.alongside_perform`: every call but the one keeps them so, and is answered the
  same.
* `Host.representation_unseen`: engines on the records of one graph, held in whatever
  ways, cannot be told apart.
-/

namespace EventCanvas

open Act (Alongside)

variable {σ : Type} {id : Nat}

/-- Two worlds differ at most in how the records of one engine are held. -/
structure Twins (id : Nat) (w v : World σ) : Prop where
  length : w.engines.length = v.engines.length
  engine : ∀ i, (w.engine i).Resembles (v.engine i)
  others : ∀ i, i ≠ id → w.engine i = v.engine i
  slot : w.slot = v.slot
  history : w.history = v.history
  log : w.log = v.log
  spans : w.spans = v.spans
  host : w.host = v.host

namespace Twins

variable {w v : World σ}

/-- The same changes to what is no engine, in both worlds. -/
theorem of_engines (twins : Twins id w v) {w' v' : World σ} (left : w'.engines = w.engines)
    (right : v'.engines = v.engines) (slot : w'.slot = v'.slot)
    (history : w'.history = v'.history) (log : w'.log = v'.log) (spans : w'.spans = v'.spans)
    (host : w'.host = v'.host) : Twins id w' v' where
  length := by rw [left, right, twins.length]
  engine i := by
    have alike := twins.engine i
    unfold World.engine at alike ⊢
    rwa [left, right]
  others i other := by
    have same := twins.others i other
    unfold World.engine at same ⊢
    rwa [left, right]
  slot := slot
  history := history
  log := log
  spans := spans
  host := host

theorem record (twins : Twins id w v) (e : Event) : Twins id (w.record e) (v.record e) :=
  twins.of_engines rfl rfl twins.slot (congrArg (· ++ [e]) twins.history) twins.log twins.spans
    twins.host

/-- The same change of an engine, if it keeps a resemblance. -/
theorem modifyEngine (twins : Twins id w v) (i : Nat) {f : Engine → Engine}
    (keeps : ∀ e d, e.Resembles d → (f e).Resembles (f d)) :
    Twins id (w.modifyEngine i f) (v.modifyEngine i f) where
  length := by simp only [World.modifyEngine, List.length_modify, twins.length]
  engine j := by
    rw [World.engine_modifyEngine_eq_ite, World.engine_modifyEngine_eq_ite, twins.length]
    split
    · exact keeps _ _ (twins.engine j)
    · exact twins.engine j
  others j other := by
    rw [World.engine_modifyEngine_eq_ite, World.engine_modifyEngine_eq_ite, twins.length,
      twins.others j other]
  slot := twins.slot
  history := twins.history
  log := twins.log
  spans := twins.spans
  host := twins.host

theorem dispose (twins : Twins id w v) (i : Nat) : Twins id (w.dispose i) (v.dispose i) := by
  unfold World.dispose
  rw [(twins.engine i).isActive]
  split
  · exact (twins.modifyEngine i fun _ _ alike => alike.dispose).record _
  · exact twins

/-- An engine that is created is the same in both worlds. -/
theorem created (twins : Twins id w v) (c : Context Callback) :
    Twins id (Slot.created w c) (Slot.created v c) where
  length := by simp [Slot.created, twins.length]
  engine i := by
    rw [Slot.engine_created_eq_ite, Slot.engine_created_eq_ite, twins.length, twins.slot]
    split
    · exact .refl _
    · exact twins.engine i
  others i other := by
    rw [Slot.engine_created_eq_ite, Slot.engine_created_eq_ite, twins.length, twins.slot,
      twins.others i other]
  slot := by simp only [Slot.created, twins.slot, twins.length]
  history := by simp only [Slot.created, twins.history, twins.length]
  log := twins.log
  spans := twins.spans
  host := twins.host

/-- The first engines of two worlds, on contexts that resemble each other. -/
theorem of_resembles (slot : Slot) (s : σ) {c d : Context Callback} (alike : c.Resembles d) :
    Twins 0 (Slot.created (World.initial slot s) c) (Slot.created (World.initial slot s) d) where
  length := rfl
  engine
    | 0 => ⟨alike, rfl, rfl, rfl, rfl, rfl⟩
    | _ + 1 => .refl _
  others i other := by
    have old : i ≠ (World.initial slot s).engines.length := other
    rw [Slot.engine_created_of_ne _ c old, Slot.engine_created_of_ne _ d old]
  slot := rfl
  history := rfl
  log := rfl
  spans := rfl
  host := rfl

/-! ## Calls -/

theorem alongside_log (r : LogRecord) :
    Alongside (Twins (σ := σ) id) (Act.log r) (Act.log r) :=
  fun _ _ twins => ⟨rfl, twins.of_engines rfl rfl twins.slot twins.history
    (congrArg (· ++ [r]) twins.log) twins.spans twins.host⟩

theorem alongside_record (e : Event) :
    Alongside (Twins (σ := σ) id) (Act.record e) (Act.record e) :=
  fun _ _ twins => ⟨rfl, twins.record e⟩

theorem alongside_dispose (i : Nat) :
    Alongside (Twins (σ := σ) id) (Act.dispose i) (Act.dispose i) :=
  fun _ _ twins => ⟨rfl, twins.dispose i⟩

theorem hostShares : Host.Shares (Twins (σ := σ) id) where
  host _ _ twins := twins.host
  write _ _ _ twins := twins.of_engines rfl rfl twins.slot twins.history twins.log twins.spans rfl
  log := alongside_log
  note _ := alongside_record _

theorem slotShares (op : SlotOp Callback) : Slot.Shares (Twins (σ := σ) id) op where
  slot _ _ twins := twins.slot
  active _ _ twins i := (twins.engine i).isActive
  log := alongside_log
  dispose := alongside_dispose
  empty _ _ twins := twins.of_engines rfl rfl
    (by simp only [Slot.emptied, twins.slot]) twins.history twins.log twins.spans twins.host
  create c _ w v twins := by
    rw [Slot.run_create, Slot.run_create, twins.length]
    exact ⟨rfl, twins.created c⟩

theorem engineShares (i : Nat) :
    Engine.Shares (fun {α} => Alongside (α := α) (Twins (σ := σ) id)) i where
  pure := .pure
  throw := .throw
  bind := .bind
  attempt := .attempt
  read reads next := reads.bind_alongside (fun _ _ twins => twins.engine i) next
  log := alongside_log
  record := alongside_record
  freshSpan _ _ twins := ⟨congrArg Except.ok twins.spans, twins.of_engines rfl rfl twins.slot
    twins.history twins.log (congrArg (· + 1) twins.spans) twins.host⟩
  modifyEngine _ keeps _ _ twins := ⟨rfl, twins.modifyEngine i keeps⟩
  dispose := alongside_dispose i

section

variable {notify : Notify σ}
  (callbacks : ∀ callback notice,
    Alongside (Twins id) (notify callback notice) (notify callback notice))

include callbacks

theorem alongside_tell (i : Nat) (notice : Notice) :
    Alongside (Twins id) (Engine.tell notify i notice) (Engine.tell notify i notice) := by
  refine (engineShares i).read .engine fun e d alike => ?_
  rw [alike.context.hooks]
  cases d.context.hooks.get notice.hook with
  | none => exact .pure _
  | some callback => exact .bind (alongside_record _) fun _ => callbacks callback notice

theorem alongside_skip (i : Nat) (reason : Engine.Skip) :
    Alongside (Twins id) (Engine.skip notify i reason) (Engine.skip notify i reason) := by
  refine .bind (alongside_log _) fun _ => .bind ((engineShares i).traceOpen _) fun _ =>
    .tryCatch ?_ fun _ => alongside_log _
  refine (engineShares i).read .engine fun e d alike => ?_
  rw [alike.context.hooks]
  split
  · cases Diagnostic.about? reason.kind reason.message reason.nodeId reason.detail with
    | bad issues => exact .throw _
    | ok d => exact alongside_tell callbacks i _
  · exact .pure _

theorem alongside_commit (i : Nat) (x : Engine.Effect) :
    Alongside (Twins id) (Engine.commit notify i x) (Engine.commit notify i x) := by
  have shares : Engine.Shares (fun {α} => Alongside (α := α) (Twins (σ := σ) id)) i :=
    engineShares i
  refine .bind (shares.of_reads (.requireActive i _)) fun _ =>
    shares.read .engine fun e d alike => ?_
  rw [x.obstacle?_eq alike.context]
  cases x.obstacle? d.context with
  | some f => exact .throw f
  | none =>
    refine .bind (shares.modifyEngine _ fun _ _ alike => ?_) fun _ => alongside_tell callbacks i _
    exact alike.withContext fun _ _ same => x.resembles_write same

/-- Steps in two such worlds are coupled: all of them end in the same way. -/
theorem couples (i : Nat) : Engine.Couples (fun {α} => Alongside (α := α) (Twins (σ := σ) id))
    (fun {α} => Alongside (α := α) (Twins id)) notify notify i where
  toShares := engineShares i
  part_of_whole same := same
  bind_part := .bind
  part_then _ body := .bind body fun _ => .pure _
  skip := alongside_skip callbacks i
  guarded _ body := .tryCatch body fun _ => alongside_skip callbacks i _
  commit := alongside_commit callbacks i

/-- Every call but that to show the context of the one engine is answered the same. -/
theorem alongside_perform (op : HostOp) (hides : op ≠ .engine id .debugInfo) :
    Alongside (Twins id) (Host.perform notify op) (Host.perform notify op) := by
  cases op with
  | slot op => exact Slot.alongside_perform (slotShares op)
  | engine i op =>
    by_cases shows : op = .debugInfo
    · subst shows
      have other : i ≠ id := fun same => hides (same ▸ rfl)
      refine .bind (fun w v twins => ?_) fun _ => .pure _
      obtain ⟨outcome, run⟩ := Engine.readsOnly_shownContext (σ := σ) i
      rw [run, run, twins.others i other]
      exact ⟨rfl, twins⟩
    · cases direct : Engine.isDirect op with
      | true => exact (couples callbacks i).perform_part op direct
      | false => exact (couples callbacks i).perform op direct shows

theorem alongside_exchange (op : HostOp) (hides : op ≠ .engine id .debugInfo) :
    Alongside (Twins id) (Act.exchange op (Host.perform notify op))
      (Act.exchange op (Host.perform notify op)) :=
  .exchange op (alongside_perform callbacks op hides) alongside_record

end

theorem alongside_notify {host : Host σ} (blind : host.CallsOnly (· ≠ .engine id .debugInfo))
    (depth : Nat) (callback : Callback) (notice : Notice) :
    Alongside (Twins id) (host.notify depth callback notice) (host.notify depth callback notice) :=
  Host.alongside_notify hostShares (fun _ callbacks => alongside_exchange callbacks) blind depth
    callback notice

/-- Sequences of calls are answered the same, by induction on how many there are. -/
theorem alongside_performAll {notify : Notify σ}
    (callbacks : ∀ callback notice,
      Alongside (Twins id) (notify callback notice) (notify callback notice))
    (ops : List (EngineOp Callback)) (hides : ∀ op ∈ ops, op ≠ .debugInfo) :
    Alongside (Twins id) (Engine.performAll notify id ops) (Engine.performAll notify id ops) := by
  induction ops with
  | nil => exact .pure []
  | cons op ops ih =>
    rw [List.forall_mem_cons] at hides
    have first := alongside_exchange callbacks (.engine id op) fun shows =>
      hides.1 (HostOp.engine.inj shows).2
    exact .bind first fun _ => .bind (ih hides.2) fun _ => .pure _

end Twins

/-! ## Every run -/

namespace Host

/-- How the records of a graph are held is not seen.  Two engines on the same variables work on
tables that hold the records of the nodes in any ways: prepared, as payloads, as typed data, or as
objects with attributes.  (Where ids differ the table of prepared records is such a table, by
`Graph.heldAs_runtimeNodes`.)  Whatever the settings, the same operations are answered the same.
The callbacks are started with the same, diagnostics among it, and everything else in the history
and in the log is the same, and in the end so are the variables and the values of the nodes.  This
holds however deep callbacks nest, which may fail and may make any calls, as long as neither they
nor the operations ask that engine to show its context. -/
theorem representation_unseen {host : Host σ}
    (blind : host.CallsOnly (· ≠ .engine 0 .debugInfo)) (depth : Nat) {g : Graph}
    {nodes others : Table} (held : g.HeldAs nodes) (heldToo : g.HeldAs others) (vars : Table)
    (hooks : Hooks (Option Callback)) (settings : EngineSettings) (name : String) (s : σ)
    {ops : List (EngineOp Callback)} (hides : ∀ op ∈ ops, op ≠ .debugInfo) :
    ∃ as w v,
      (Engine.performAll (host.notify depth) 0 ops).run
        (Slot.created (World.initial ⟨name, settings, none⟩ s) (.ofTables vars nodes hooks)) =
          (.ok as, w) ∧
      (Engine.performAll (host.notify depth) 0 ops).run
        (Slot.created (World.initial ⟨name, settings, none⟩ s) (.ofTables vars others hooks)) =
          (.ok as, v) ∧
      w.history = v.history ∧ w.log = v.log ∧
      (w.engine 0).context.vars = (v.engine 0).context.vars ∧
      ((Engine.nodeValues 0).run w).1 = ((Engine.nodeValues 0).run v).1 := by
  have start := Twins.of_resembles ⟨name, settings, none⟩ s
    (c := .ofTables vars nodes hooks) (d := .ofTables vars others hooks)
    ⟨rfl, held.forall₂_sameEntry heldToo, rfl, rfl⟩
  obtain ⟨same, twins⟩ := Twins.alongside_performAll (Twins.alongside_notify blind depth) ops hides
    _ _ start
  obtain ⟨as, w, left⟩ := Engine.succeeds_performAll (host.notify depth) 0 ops
    (Slot.created (World.initial ⟨name, settings, none⟩ s) (.ofTables vars nodes hooks))
  obtain ⟨bs, v, right⟩ := Engine.succeeds_performAll (host.notify depth) 0 ops
    (Slot.created (World.initial ⟨name, settings, none⟩ s) (.ofTables vars others hooks))
  rw [left, right] at same twins
  cases same
  refine ⟨as, w, v, left, right, twins.history, twins.log, (twins.engine 0).context.vars, ?_⟩
  exact ((Twins.engineShares 0).of_reads (.nodeValues 0) w v twins).1

/-- An input that is relabelled when it changes, held in the four ways, and a host whose every
callback fails. -/
theorem representation_unseen_failing :
    let host : Host Unit := ⟨fun _ _ => .fail (.failure "host is gone")⟩
    let d : NodeData := ⟨"Name", none, some [⟨.change, .setText, none, "Hello"⟩]⟩
    let g : Graph := ⟨[⟨"input", .input, default, d⟩], [], .initial⟩
    let payload : Value := .object [("label", .text "Name"), ("events", .list [.object
      [("type", .text "onChange"),
        ("action", .object [("type", .text "setText"), ("value", .text "Hello")])]])]
    let attributes : Value := .record [("label", .text "Name"), ("props", .null),
      ("events", .list [.record [("type", .text "onChange"),
        ("action", .record [("type", .text "setText"), ("value", .text "Hello")])]])]
    let holding (r : Value) : Table := [(.text "input", r)]
    let change : EngineOp Callback := .executeNodeEvents (.text "input") (.text "onChange")
      (.object [("value", .text "Ada")])
    let ops := [change, .getNodeValue (.text "input"), .setVariable (.text "name") (.int 1), change]
    let start (nodes : Table) : World Unit :=
      Slot.created (World.initial ⟨"preview", .initial, none⟩ ())
        (.ofTables g.seedVariables nodes (Hooks.all (some ⟨"host", 0⟩)))
    let Alike (nodes others : Table) : Prop := ∃ as w v,
      (Engine.performAll (host.notify 1) 0 ops).run (start nodes) = (.ok as, w) ∧
      (Engine.performAll (host.notify 1) 0 ops).run (start others) = (.ok as, v) ∧
      w.history = v.history ∧ w.log = v.log ∧
      (w.engine 0).context.vars = (v.engine 0).context.vars ∧
      ((Engine.nodeValues 0).run w).1 = ((Engine.nodeValues 0).run v).1
    host.CallsOnly (· ≠ .engine 0 .debugInfo) ∧ (∀ op ∈ ops, op ≠ .debugInfo) ∧
    g.HeldAs g.runtimeNodes ∧ g.HeldAs (holding payload) ∧ g.HeldAs (holding d.toValue) ∧
    g.HeldAs (holding attributes) ∧
    Alike g.runtimeNodes (holding payload) ∧ Alike (holding d.toValue) (holding attributes) := by
  intro host d g payload attributes holding change ops start Alike
  have blind : host.CallsOnly (· ≠ .engine 0 .debugInfo) := fun _ _ => trivial
  have hides : ∀ op ∈ ops, op ≠ .debugInfo := by simp [ops, change]
  have prepared : g.HeldAs g.runtimeNodes := Graph.heldAs_runtimeNodes (by decide)
  have raw : g.HeldAs (holding payload) :=
    .cons ⟨rfl, .payload (by simp [Entries.keys]) (by rfl) rfl⟩ .nil
  have typed : g.HeldAs (holding d.toValue) := .cons ⟨rfl, .typed⟩ .nil
  have loose : g.HeldAs (holding attributes) :=
    .cons ⟨rfl, .attributes rfl rfl rfl (.some (.cons (.mk rfl rfl rfl) .nil)) rfl⟩ .nil
  exact ⟨blind, hides, prepared, raw, typed, loose,
    representation_unseen blind 1 prepared raw g.seedVariables _ .initial "preview" () hides,
    representation_unseen blind 1 typed loose g.seedVariables _ .initial "preview" () hides⟩

end Host

end EventCanvas
