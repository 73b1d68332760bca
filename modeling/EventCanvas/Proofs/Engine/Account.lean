import EventCanvas.Proofs.Engine.Settling

/-!
# Every matched event is accounted for

No event that a dispatch picks out is lost without a word.  Where callbacks are
calm and all of them are bound, each such event starts one callback for what
became of its action, and before it one for the copied value if there is one to
copy, and nothing else is told.

* `Engine.Accounts`: the events of a dispatch, and the notices that each led to.
* `Host.events_accounted`: what a dispatch tells the host is the accounts of the
  events that match, one after the other.
-/

namespace EventCanvas

variable {σ : Type} {id : Nat}

namespace Engine

/-- Events of a node are accounted for one after the other, from one context to another. -/
inductive Accounts (s : EngineSettings) (g : Gesture) (node : String) (data : Value) :
    Context Callback → List Value → List (List Notice) → Context Callback → Prop
  | nil (c : Context Callback) : Accounts s g node data c [] [] c
  | cons {c c' c'' : Context Callback} {event : Value} {events : List Value}
    {account : List Notice} {accounts : List (List Notice)} :
    Accounted s g node data c event account c' → Accounts s g node data c' events accounts c'' →
    Accounts s g node data c (event :: events) (account :: accounts) c''

variable {notify : Notify σ} {g : Gesture} {node : String} {data : Value} {events : List Value}
  {w v : World σ}

theorem Each.accounts (each : Each (Attempts notify id (.text node) data) events w v)
    (calm : notify.Calm id) (active : (w.engine id).isActive = true)
    (receives : Receives (w.engine id).context node)
    (kinds : ∀ event ∈ events, event.fieldOf "type" = .text g.name) (given : data.IsEventData) :
    ∃ accounts c,
      Accounts (w.engine id).settings g node data (w.engine id).context events accounts c ∧
      v.engine id = { w.engine id with context := c } ∧
      v.told id = w.told id ++ accounts.flatten.flatMap (heard (w.engine id).context) := by
  induction each with
  | nil w => exact ⟨[], _, .nil _, rfl, (List.append_nil _).symm⟩
  | @cons event events w u v attempted _ ih =>
    obtain ⟨account, c, accounted, receives', same, u', run, engine, told⟩ :=
      ends_executeEvent calm active receives (kinds event List.mem_cons_self) given
    obtain rfl : u = u' := Attempts.unique attempted run
    have later := ih (by rw [engine]; exact active) (by rw [engine]; exact receives')
      fun event member => kinds event (List.mem_cons_of_mem _ member)
    rw [engine] at later
    obtain ⟨accounts, c', rest, engine', told'⟩ := later
    refine ⟨account :: accounts, c', .cons accounted rest, engine', ?_⟩
    rw [told', told, same, List.flatten_cons, List.flatMap_append, List.append_assoc]

/-- A record that holds fields can be written. -/
theorem receives_of_holdsFields {c : Context Callback} {record : Value}
    (tables : c.misfits.nodes = none)
    (found : Entries.lookup (.text node) c.nodes = some record)
    (holds : Action.holdsFields record = true) : Receives c node := by
  refine ⟨tables, ?_⟩
  rw [Effect.recordAt, found]
  cases record with
  | object fields => exact ⟨fields, rfl⟩
  | record fields => exact ⟨fields, rfl⟩
  | typed shape fields => exact ⟨_, rfl⟩
  | _ => cases holds

/-- A dispatch accounts for the events that match, and changes nothing of the engine but its context
by them and the span in progress. -/
theorem accounts_executeNodeEvents (calm : notify.Calm id) {record : Value}
    (active : (w.engine id).isActive = true)
    (tables : (w.engine id).context.misfits.nodes = none)
    (found : Entries.lookup (.text node) (w.engine id).context.nodes = some record)
    (holds : Action.holdsFields record = true)
    (listed : record.fieldOf "events" = .list events) (given : data.IsEventData) :
    ∃ accounts c span v,
      (executeNodeEvents notify id (.text node) (.text g.name) data).run w =
        (.ok (matching g events).length, v) ∧
      Accounts (w.engine id).settings g node data (w.engine id).context (matching g events) accounts
        c ∧
      v.engine id = { w.engine id with context := c, span } ∧
      v.told id = w.told id ++ accounts.flatten.flatMap (heard (w.engine id).context) := by
  obtain ⟨first, last, v, run, opened, each, closed⟩ :=
    run_executeNodeEvents notify g active tables found listed given
  obtain ⟨_, here⟩ := opened.engine id
  obtain ⟨span, there⟩ := closed.engine id
  have kinds : ∀ event ∈ matching g events, event.fieldOf "type" = .text g.name :=
    fun event member => (mem_matching.1 member).2
  have receives := receives_of_holdsFields tables found holds
  have accounted := each.accounts calm (by rw [here]; exact active) (by rw [here]; exact receives)
    kinds given
  rw [here] at accounted
  obtain ⟨accounts, c, settled, engine, told⟩ := accounted
  refine ⟨accounts, c, span, v, run, settled, by rw [there, engine], ?_⟩
  rw [closed.told_eq, told, opened.told_eq]

end Engine

namespace Host

open Engine

/-- No event is lost without a word.  An active engine with a callback for every notice, whose host
is calm, runs the events of one kind of a node whose record holds a row of them, whatever they are.
Each event that matches has an account: the copy of the value that came with it, if it is a change
that carries one, and then either the one effect that its action has or one diagnostic, where its
action can have no effect and changes nothing.  The host is told these accounts, in order, and
nothing else. -/
theorem events_accounted {host : Host σ} {id : Nat} (calm : host.Calm id) (depth : Nat)
    (g : Gesture) (node : String) (bound : Hook → Callback) {data record : Value}
    {events : List Value} {w : World σ} (active : (w.engine id).isActive = true)
    (tables : (w.engine id).context.misfits.nodes = none)
    (hooks : ∀ h, (w.engine id).context.hooks.get h = some (bound h))
    (found : Entries.lookup (.text node) (w.engine id).context.nodes = some record)
    (holds : Action.holdsFields record = true)
    (listed : record.fieldOf "events" = .list events) (given : data.IsEventData) :
    ∃ accounts v,
      (executeNodeEvents (host.notify depth) id (.text node) (.text g.name) data).run w =
        (.ok (matching g events).length, v) ∧
      Accounts (w.engine id).settings g node data (w.engine id).context (matching g events) accounts
        (v.engine id).context ∧
      v.told id = w.told id ++ accounts.flatten.map fun n => (bound n.hook, n) := by
  obtain ⟨accounts, c, span, v, run, accounted, engine, told⟩ :=
    accounts_executeNodeEvents (g := g) (calm_notify calm depth) active tables found holds listed
      given
  have everyone : heard (w.engine id).context = fun n => [(bound n.hook, n)] := by
    funext n
    simp [heard, hooks]
  refine ⟨accounts, v, run, ?_, ?_⟩
  · rw [engine]
    exact accounted
  · rw [told, everyone, List.map_eq_flatMap]

/-- An input that is changed, with one event that writes a variable, one of no known kind of action,
one for a click, and one without an action. -/
theorem events_accounted_input :
    let host : Host Nat := ⟨fun _ _ =>
      .call (.slot .get) fun _ => .read fun told => .write (told + 1) (.done ())⟩
    let bound (h : Hook) : Callback := ⟨h.name, 0⟩
    let on (kind : String) (action : Value) : Value :=
      .object [("type", .text kind), ("action", action)]
    let write : Value := .object
      [("type", .text "setVariable"), ("target", .text "name"), ("value", .text "typed")]
    let events := [on "onChange" write, on "onChange" (.object [("type", .text "explode")]),
      on "onClick" write, on "onChange" .null]
    let record : Value := .record [("events", .list events)]
    let hooks : Hooks (Option Callback) := ⟨some (bound .variableChange), some (bound .nodeUpdate),
      some (bound .alert), some (bound .diagnostic)⟩
    let w := Slot.created (World.initial ⟨"preview", .initial, none⟩ 0)
      (.ofTables [] [(.text "n1", record)] hooks)
    let data : Value := .object [("value", .text "hello")]
    host.Calm 0 ∧ (w.engine 0).isActive = true ∧ (w.engine 0).context.misfits.nodes = none ∧
    (∀ h, (w.engine 0).context.hooks.get h = some (bound h)) ∧
    Entries.lookup (.text "n1") (w.engine 0).context.nodes = some record ∧
    Action.holdsFields record = true ∧ record.fieldOf "events" = .list events ∧
    data.IsEventData ∧
    ∃ accounts v,
      (executeNodeEvents (host.notify 1) 0 (.text "n1") (.text "onChange") data).run w =
        (.ok 3, v) ∧
      Accounts (w.engine 0).settings .change "n1" data (w.engine 0).context
        [on "onChange" write, on "onChange" (.object [("type", .text "explode")]),
          on "onChange" .null] accounts (v.engine 0).context ∧
      v.told 0 = w.told 0 ++ accounts.flatten.map fun n => (bound n.hook, n) := by
  intro host bound on write events record hooks w data
  have calm : host.Calm 0 := fun _ _ => ⟨trivial, fun _ _ => trivial⟩
  have every : ∀ h, (w.engine 0).context.hooks.get h = some (bound h) := by
    intro h
    cases h <;> rfl
  have found : Entries.lookup (.text "n1") (w.engine 0).context.nodes = some record := rfl
  have listed : record.fieldOf "events" = .list events := rfl
  have given : data.IsEventData := trivial
  exact ⟨calm, rfl, rfl, every, found, rfl, listed, given,
    events_accounted calm 1 .change "n1" bound rfl rfl every found rfl listed given⟩

end Host

end EventCanvas
