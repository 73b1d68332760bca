import EventCanvas.Proofs.Engine.Calm

/-!
# What becomes of an action

Where callbacks are calm, an action that reaches an active engine has one effect,
which the host is told of, or nothing changes and one diagnostic says why.  An
event copies the value that comes with it first, if it is the change of an input.

* `Engine.aim`: what an action whose texts are final is to do, or why it is skipped.
* `Engine.Settles`: the one notice that an action leads to, and the context after it.
* `Engine.ends_executeEvent`: an event copies its value if it has one to copy, and
  its action is settled.
-/

namespace EventCanvas.Engine

variable {σ : Type} {id : Nat}

/-! ## Actions -/

/-- What an action whose texts are final is to do, or why it is skipped. -/
def aim (c : Context Callback) (source : Value) (a : Action) : Except Skip Effect :=
  match a.kind with
  | .setText =>
    let node := labelTarget a.target source
    if !node.truthy then .error noLabelTarget
    else if Entries.has node c.nodes then .ok (.setNode .label node (.text a.value))
    else .error (unknownLabelTarget source node)
  | .setVariable =>
    match a.target with
    | none => .error (noVariable source)
    | some t =>
      if t = "" then .error (noVariable source) else .ok (.setVariable (.text t) (.text a.value))
  | .showAlert => .ok (.showAlert (.text a.value))

/-- A text of an action as an engine with these settings takes it: references in it are replaced if
the settings say so. -/
def finalText (s : EngineSettings) (c : Context Callback) (text : String) : Except Fault String :=
  if s.interpolates then
    match c.misfits.vars with
    | none => Placeholder.interpolate text c.vars (valuesOf c.nodes)
    | some v => Placeholder.interpolateUpTo (fun source => source = .variable && v.truthy)
        (lacks "get" v) text [] (valuesOf c.nodes)
  else .ok text

/-- The target and the value of an action as an engine with these settings takes them. -/
def finalParts (s : EngineSettings) (c : Context Callback) (target : Option String)
    (value : String) : Except Fault (Option String × String) := do
  let value ← finalText s c value
  match target with
  | none => return (none, value)
  | some t => return (some (← finalText s c t), value)

/-- An action has no effect: it does not read, a text of it has no final form, it is aimed at
nothing, or something is in the way. -/
def Barred (s : EngineSettings) (c : Context Callback) (source action : Value) : Prop :=
  ∀ a target value x, Action.coerce action = .action a →
    finalParts s c a.target a.value = .ok (target, value) →
    aim c source ⟨a.kind, target, value⟩ = .ok x → x.obstacle? c ≠ none

/-- What becomes of an action on a context: it has the effect that it is aimed at, or it is reported
once and nothing changes. -/
inductive Settles (s : EngineSettings) (c : Context Callback) (source action : Value) :
    Notice → Context Callback → Prop
  | effect {a : Action} {target : Option String} {value : String} {x : Effect}
    (reads : Action.coerce action = .action a)
    (final : finalParts s c a.target a.value = .ok (target, value))
    (aimed : aim c source ⟨a.kind, target, value⟩ = .ok x) (free : x.obstacle? c = none) :
    Settles s c source action x.notice (x.write c)
  | skipped (d : Diagnostic) (barred : Barred s c source action) :
    Settles s c source action (.diagnosed d) c

theorem finalParts_of_plain {s : EngineSettings} (plain : s.interpolates = false)
    (c : Context Callback) (target : Option String) (value : String) :
    finalParts s c target value = .ok (target, value) := by
  have same (text : String) : finalText s c text = .ok text := by
    unfold finalText
    rw [plain]
    rfl
  unfold finalParts
  rw [same]
  cases target with
  | none => rfl
  | some t =>
    simp only [same]
    rfl

theorem run_hasNode_eq {w : World σ} (tables : (w.engine id).context.misfits.nodes = none)
    (node : Value) : (hasNode id node).run w =
      (node.asKey.map fun key => Entries.has key (w.engine id).context.nodes, w) := by
  unfold hasNode
  rw [Act.run_bind_of_ok (Act.run_engine id w)]
  dsimp only
  rw [tables]
  cases node.asKey <;> rfl

theorem run_hasNode {w : World σ} (tables : (w.engine id).context.misfits.nodes = none)
    (node : String) :
    (hasNode id (.text node)).run w =
      (.ok (Entries.has (.text node) (w.engine id).context.nodes), w) :=
  run_hasNode_eq tables (.text node)

/-- A relabelling is a write to the record of the node that it is aimed at, if there is one. -/
theorem run_runSetText (notify : Notify σ) {w : World σ}
    (tables : (w.engine id).context.misfits.nodes = none) {target : Option String} {source : Value}
    {t : String} (aimed : labelTarget target source = .text t) (value : String) :
    (runSetText notify id source target value).run w =
      (if !(Value.text t).truthy then skip notify id noLabelTarget
      else if Entries.has (.text t) (w.engine id).context.nodes then
        commit notify id (.setNode .label (.text t) (.text value))
      else skip notify id (unknownLabelTarget source (.text t)) : Act σ Unit).run w := by
  simp only [runSetText, aimed]
  cases (Value.text t).truthy with
  | false => rfl
  | true =>
    simp only [Bool.not_true, Bool.false_eq_true, if_false]
    rw [Act.run_bind_of_ok (run_hasNode tables t)]
    cases Entries.has (.text t) (w.engine id).context.nodes with
    | false => rfl
    | true => simp only [if_true, setNodeText_eq_commit]

theorem run_runAction (notify : Notify σ) {w : World σ}
    (tables : (w.engine id).context.misfits.nodes = none) (node : String) (a : Action) :
    (runAction notify id (.text node) a).run w =
      (match aim (w.engine id).context (.text node) a with
        | .error s => skip notify id s
        | .ok x => commit notify id x : Act σ Unit).run w := by
  unfold runAction aim
  cases a.kind with
  | setText =>
    have text : ∃ t, labelTarget a.target (.text node) = .text t := by
      unfold labelTarget
      cases a.target with
      | none => exact ⟨node, rfl⟩
      | some t =>
        dsimp only
        split
        · exact ⟨node, rfl⟩
        · exact ⟨t, rfl⟩
    obtain ⟨t, target⟩ := text
    dsimp only
    rw [run_runSetText notify tables target, target]
    cases (Value.text t).truthy with
    | false => rfl
    | true => cases Entries.has (.text t) (w.engine id).context.nodes <;> rfl
  | setVariable =>
    simp only [runSetVariable]
    cases a.target with
    | none => rfl
    | some t =>
      dsimp only
      split
      · rfl
      · rw [setVariable_eq_commit]
  | showAlert => simp only [showAlert_eq_commit]

theorem isNamed_of_aim {c : Context Callback} {node : String} {a : Action} {s : Skip}
    (missed : aim c (.text node) a = .error s) : s.IsNamed := by
  unfold aim at missed
  cases kind : a.kind with
  | setText =>
    rw [kind] at missed
    dsimp only at missed
    split at missed
    · cases missed
      exact .inl rfl
    · split at missed
      · cases missed
      · cases missed
        exact .inr ⟨node, rfl⟩
  | setVariable =>
    rw [kind] at missed
    dsimp only at missed
    split at missed
    · cases missed
      exact .inr ⟨node, rfl⟩
    · split at missed
      · cases missed
        exact .inr ⟨node, rfl⟩
      · cases missed
  | showAlert =>
    rw [kind] at missed
    cases missed

theorem run_evaluated {w : World σ} (active : (w.engine id).isActive = true)
    (tables : (w.engine id).context.misfits.nodes = none) (text : String) :
    (evaluated id text).run w =
      (finalText (w.engine id).settings (w.engine id).context text, w) := by
  have required (operation : String) : (requireActive id operation).run w = (.ok (), w) := by
    rw [run_requireActive, active]
    rfl
  have values : (nodeValues id).run w = (.ok (valuesOf (w.engine id).context.nodes), w) := by
    unfold nodeValues
    rw [Act.run_bind_of_ok (required _), Act.run_bind_of_ok (Act.run_engine id w), tables]
    rfl
  unfold evaluated finalText
  rw [Act.run_bind_of_ok (Act.run_engine id w)]
  cases (w.engine id).settings.interpolates with
  | false => rfl
  | true =>
    have template : (Act.ofExcept (Placeholder.template? (.text text))).run w = (.ok text, w) := rfl
    simp only [if_true]
    unfold evaluate
    rw [Act.run_bind_of_ok (required _), Act.run_bind_of_ok values, Act.run_bind_of_ok template,
      Act.run_bind_of_ok (Act.run_engine id w)]
    dsimp only
    cases (w.engine id).context.misfits.vars with
    | none => exact Act.run_ofExcept _ w
    | some v => exact Act.run_ofExcept _ w

/-- The texts of an action are taken one after the other, and read off the engine. -/
theorem run_evaluatedParts {w : World σ} (active : (w.engine id).isActive = true)
    (tables : (w.engine id).context.misfits.nodes = none) (target : Option String)
    (value : String) :
    (evaluatedParts id target value).run w =
      (finalParts (w.engine id).settings (w.engine id).context target value, w) := by
  have texts := run_evaluated (w := w) active tables
  unfold evaluatedParts finalParts
  rw [Act.run_bind, texts value]
  cases finalText (w.engine id).settings (w.engine id).context value with
  | error f => rfl
  | ok value =>
    cases target with
    | none => rfl
    | some t =>
      dsimp only
      rw [Act.run_bind, texts t]
      cases finalText (w.engine id).settings (w.engine id).context t with
      | error f => rfl
      | ok target => rfl

/-! ## Running actions -/

theorem run_executeAction_of_active (notify : Notify σ) {w : World σ}
    (active : (w.engine id).isActive = true) (action source : Value) :
    (executeAction notify id action source).run w =
      (guarded notify id (runCoerced notify id source (Action.coerce action))
        (failedAction source)).run w := by
  unfold executeAction
  rw [Act.run_bind_of_ok (Act.run_engine id w), active]
  rfl

section

variable {notify : Notify σ} (calm : notify.Calm id) {w : World σ}
  (active : (w.engine id).isActive = true)

include calm active

theorem ends_runAction (tables : (w.engine id).context.misfits.nodes = none) (node : String)
    {action : Value} {a : Action} {target : Option String} {value : String}
    (reads : Action.coerce action = .action a)
    (final : finalParts (w.engine id).settings (w.engine id).context a.target a.value =
      .ok (target, value)) :
    (∃ n c, Settles (w.engine id).settings (w.engine id).context (.text node) action n c ∧
      Ends id (runAction notify id (.text node) ⟨a.kind, target, value⟩) w (.ok ()) c
        (heard (w.engine id).context n)) ∨
    ∃ f, Barred (w.engine id).settings (w.engine id).context (.text node) action ∧
      Ends id (runAction notify id (.text node) ⟨a.kind, target, value⟩) w (.error f)
        (w.engine id).context [] := by
  have run := run_runAction notify tables node ⟨a.kind, target, value⟩
  -- there is one action to be read, and one form of its texts
  have only {a' : Action} {target' : Option String} {value' : String}
      (reads' : Action.coerce action = .action a')
      (final' : finalParts (w.engine id).settings (w.engine id).context a'.target a'.value =
        .ok (target', value')) :
      (⟨a'.kind, target', value'⟩ : Action) = ⟨a.kind, target, value⟩ := by
    obtain rfl : a = a' := Coerced.action.inj (reads.symm.trans reads')
    cases final.symm.trans final'
    rfl
  cases aimed : aim (w.engine id).context (.text node) ⟨a.kind, target, value⟩ with
  | error s =>
    rw [aimed] at run
    refine .inl ⟨_, _, .skipped s.diagnostic fun a' target' value' x reads' final' aimed' => ?_,
      .congr run (ends_skip calm.spares (isNamed_of_aim aimed) w)⟩
    rw [only reads' final', aimed] at aimed'
    cases aimed'
  | ok x =>
    rw [aimed] at run
    cases free : x.obstacle? (w.engine id).context with
    | none =>
      exact .inl ⟨_, _, .effect reads final aimed free,
        .congr run (ends_commit_of_calm active free calm)⟩
    | some f =>
      refine .inr ⟨f, fun a' target' value' x' reads' final' aimed' => ?_,
        .congr run (ends_commit_error active free)⟩
      rw [only reads' final', aimed] at aimed'
      obtain rfl := Except.ok.inj aimed'
      rw [free]
      exact Option.some_ne_none f

theorem ends_runCoerced (tables : (w.engine id).context.misfits.nodes = none) (node : String)
    (action : Value) :
    (∃ n c, Settles (w.engine id).settings (w.engine id).context (.text node) action n c ∧
      Ends id (runCoerced notify id (.text node) (Action.coerce action)) w (.ok ()) c
        (heard (w.engine id).context n)) ∨
    ∃ f, Barred (w.engine id).settings (w.engine id).context (.text node) action ∧
      Ends id (runCoerced notify id (.text node) (Action.coerce action)) w (.error f)
        (w.engine id).context [] := by
  have unread (other : ∀ a, Action.coerce action ≠ .action a) :
      Barred (w.engine id).settings (w.engine id).context (.text node) action :=
    fun a _ _ _ reads => absurd reads (other a)
  have skips (s : Skip) (about : s.nodeId = .text node) :
      Ends id (skip notify id s) w (.ok ()) (w.engine id).context
        (heard (w.engine id).context (.diagnosed s.diagnostic)) :=
    ends_skip calm.spares (.inr ⟨node, about⟩) w
  have texts := run_evaluatedParts (w := w) active tables
  cases coerced : Action.coerce action with
  | unknown tag => exact .inl ⟨_, _, .skipped _ (unread (by simp [coerced])), skips _ rfl⟩
  | malformed tag issues => exact .inl ⟨_, _, .skipped _ (unread (by simp [coerced])), skips _ rfl⟩
  | kindless target value =>
    have barred := unread (by simp [coerced])
    have run := texts target value
    cases final : finalParts (w.engine id).settings (w.engine id).context target value with
    | error f =>
      rw [final] at run
      exact .inr ⟨f, barred, .bind_error (.of_reads run)⟩
    | ok parts =>
      rw [final] at run
      exact .inl ⟨_, _, .skipped _ barred, .bind_reads run (skips _ rfl)⟩
  | action a =>
    have run := texts a.target a.value
    cases final : finalParts (w.engine id).settings (w.engine id).context a.target a.value with
    | error f =>
      rw [final] at run
      refine .inr ⟨f, fun a' _ _ _ reads' final' => ?_,
        .bind_error (.of_reads run)⟩
      obtain rfl : a = a' := Coerced.action.inj (coerced.symm.trans reads')
      rw [final] at final'
      cases final'
    | ok parts =>
      rw [final] at run
      rcases ends_runAction calm active tables node coerced final with
        ⟨n, c, settled, ends⟩ | ⟨f, barred, ends⟩
      · exact .inl ⟨n, c, settled, .bind_reads run ends⟩
      · exact .inr ⟨f, barred, .bind_reads run ends⟩

/-- Whatever an action is, it is settled. -/
theorem ends_executeAction (tables : (w.engine id).context.misfits.nodes = none) (node : String)
    (action : Value) :
    ∃ n c, Settles (w.engine id).settings (w.engine id).context (.text node) action n c ∧
      Ends id (executeAction notify id action (.text node)) w (.ok ()) c
        (heard (w.engine id).context n) := by
  have started := run_executeAction_of_active notify active action (.text node)
  rcases ends_runCoerced calm active tables node action with
    ⟨n, c, settled, ends⟩ | ⟨f, barred, ends⟩
  · exact ⟨n, c, settled, .congr started (.tryCatch ends)⟩
  · exact ⟨_, _, .skipped _ barred,
      .congr started (ends_guarded_error calm.spares ends (.inr ⟨node, rfl⟩))⟩

end

/-! ## Records that can be written -/

/-- A context after an effect, if there is one. -/
def Effect.write? (c : Context Callback) : Option Effect → Context Callback
  | none => c
  | some x => x.write c

@[simp] theorem heard_write (x : Effect) (c : Context Callback) : heard (x.write c) = heard c := by
  unfold heard
  rw [Effect.hooks_write]

@[simp] theorem heard_write? (x : Option Effect) (c : Context Callback) :
    heard (Effect.write? c x) = heard c := by
  cases x with
  | none => rfl
  | some x => exact heard_write x c

/-- The record of a node can be written: it has fields, or there is none yet. -/
structure Receives (c : Context Callback) (node : String) : Prop where
  tables : c.misfits.nodes = none
  record : ∃ fields, recordFields (Effect.recordAt c (.text node)) = .ok fields

namespace Receives

variable {c c' : Context Callback} {node : String}

theorem obstacle?_eq_none (receives : Receives c node) (field : NodeField) (value : Value) :
    (Effect.setNode field (.text node) value).obstacle? c = none := by
  obtain ⟨fields, record⟩ := receives.record
  simp [Effect.obstacle?, receives.tables, Value.keyFault?, record]

/-- No effect puts anything in the place of a record that could not be written. -/
theorem write (receives : Receives c node) (x : Effect) : Receives (x.write c) node := by
  have tables : (x.write c).misfits.nodes = none := by
    rw [Effect.misfits_write]
    exact receives.tables
  refine ⟨tables, ?_⟩
  cases x with
  | setVariable name value => exact receives.record
  | showAlert message => exact receives.record
  | setNode field other value =>
    simp only [Effect.write]
    cases recordFields (Effect.recordAt c other) with
    | error f => exact receives.record
    | ok fields =>
      simp only [Effect.recordAt]
      by_cases hit : other = .text node
      · rw [hit, Table.lookup_put_self]
        exact ⟨_, rfl⟩
      · rw [Table.lookup_put_of_ne hit]
        exact receives.record

theorem write? (receives : Receives c node) (x : Option Effect) :
    Receives (Effect.write? c x) node := by
  cases x with
  | none => exact receives
  | some x => exact receives.write x

theorem settles {s : EngineSettings} {source action : Value} {n : Notice}
    (receives : Receives c node) (settled : Settles s c source action n c') : Receives c' node := by
  cases settled with
  | effect _ _ _ _ => exact receives.write _
  | skipped _ _ => exact receives

end Receives

theorem Settles.heard_eq {s : EngineSettings} {c c' : Context Callback} {source action : Value}
    {n : Notice} (settled : Settles s c source action n c') : heard c' = heard c := by
  cases settled with
  | effect _ _ _ _ => exact heard_write _ c
  | skipped _ _ => rfl

/-! ## Running events -/

/-- The update of its node that an event makes by itself: a change that comes with a value copies
it. -/
def copied? (g : Gesture) (node : String) : Value → Option Effect
  | .object fields =>
    if g = .change then (Entries.lookup "value" fields).map (.setNode .value (.text node)) else none
  | _ => none

/-- What one event of a node leads to on a context: the copy of the value that comes with it, if it
is to be copied, and then what becomes of its action. -/
inductive Accounted (s : EngineSettings) (g : Gesture) (node : String) (data : Value)
    (c : Context Callback) (event : Value) : List Notice → Context Callback → Prop
  | settled {n : Notice} {c' : Context Callback} :
    Settles s (Effect.write? c (copied? g node data)) (.text node) (event.fieldOf "action") n c' →
    Accounted s g node data c event ((copied? g node data).toList.map Effect.notice ++ [n]) c'

section

variable {notify : Notify σ} (calm : notify.Calm id) {w : World σ}
  (active : (w.engine id).isActive = true)

include calm active

theorem ends_runEventAction (tables : (w.engine id).context.misfits.nodes = none) (node : String)
    (g : Gesture) (event : Value) :
    ∃ n c, Settles (w.engine id).settings (w.engine id).context (.text node)
        (event.fieldOf "action") n c ∧
      Ends id (runEventAction notify id g event (.text node)) w (.ok ()) c
        (heard (w.engine id).context n) := by
  unfold runEventAction
  cases action : event.fieldOf "action" with
  | null =>
    have barred : Barred (w.engine id).settings (w.engine id).context (.text node) .null :=
      fun _ _ _ _ reads => nomatch reads
    exact ⟨_, _, .skipped _ barred, ends_skip calm.spares (.inr ⟨node, rfl⟩) w⟩
  | _ => exact ends_executeAction calm active tables node _

theorem ends_copyInput {node : String} (receives : Receives (w.engine id).context node)
    (g : Gesture) {data : Value} (given : data.IsEventData) :
    Ends id (copyInput notify id g (.text node) data) w (.ok ())
      (Effect.write? (w.engine id).context (copied? g node data))
      (((copied? g node data).toList.map Effect.notice).flatMap (heard (w.engine id).context)) := by
  unfold copyInput
  by_cases change : g = .change
  · rw [if_pos change]
    cases data with
    | null => exact .pure () w
    | object fields =>
      simp only [copied?, if_pos change]
      have carries : (Act.ofExcept (carriesValue (.object fields))).run w =
          (.ok (Entries.lookup "value" fields).isSome, w) := rfl
      cases found : Entries.lookup "value" fields with
      | none =>
        rw [found] at carries
        exact .bind_reads carries (.pure () w)
      | some value =>
        rw [found] at carries
        have read : (Act.ofExcept (carriedValue (.object fields))).run w = (.ok value, w) := by
          simp only [carriedValue, found]
          rfl
        have written := ends_commit_of_calm active
          (receives.obstacle?_eq_none .value value) calm
        rw [← setNodeValue_eq_commit, ← List.flatMap_singleton (heard _)] at written
        exact .bind_reads carries (.tryCatch (.bind_reads read written))
    | _ => exact given.elim
  · rw [if_neg change]
    have none : copied? g node data = none := by
      cases data with
      | object fields => exact if_neg change
      | _ => rfl
    rw [none]
    exact .pure () w

/-- An event of a node that can be written is accounted for, and leaves the node so. -/
theorem ends_executeEvent {node : String} (receives : Receives (w.engine id).context node)
    {g : Gesture} {event data : Value} (kind : event.fieldOf "type" = .text g.name)
    (given : data.IsEventData) :
    ∃ ns c, Accounted (w.engine id).settings g node data (w.engine id).context event ns c ∧
      Receives c node ∧ heard c = heard (w.engine id).context ∧
      Ends id (executeEvent notify id event (.text node) data) w (.ok ()) c
        (ns.flatMap (heard (w.engine id).context)) := by
  have started : (executeEvent notify id event (.text node) data).run w =
      (runEvent notify id g event (.text node) data).run w :=
    run_executeEvent_of_active active kind
  let entry := logLine .debug ("Executing " ++ g.name ++ " event on node " ++
    (Value.text node).message)
  have first : Ends id (Act.log entry >>= fun _ => copyInput notify id g (.text node) data) w
      (.ok ()) (Effect.write? (w.engine id).context (copied? g node data))
      (((copied? g node data).toList.map Effect.notice).flatMap (heard (w.engine id).context)) :=
    (silent_log entry).ends_bind fun u same =>
      same ▸ ends_copyInput calm (by rw [same]; exact active) (by rw [same]; exact receives) g given
  obtain ⟨u, copied, engine, told⟩ := first
  have receives' := receives.write? (copied? g node data)
  obtain ⟨n, c, settled, v, ran, engine', told'⟩ := ends_runEventAction calm (w := u)
    (by rw [engine]; exact active) (by rw [engine]; exact receives'.tables) node g event
  rw [engine] at settled engine' told'
  have both : (runEvent notify id g event (.text node) data).run w = (.ok (), v) := by
    unfold runEvent
    rw [← bind_assoc, Act.run_bind_of_ok copied, ran]
  refine ⟨_, c, .settled settled, receives'.settles settled, ?_, v, started.trans both, engine', ?_⟩
  · rw [settled.heard_eq, heard_write?]
  · rw [told', told, heard_write?, List.append_assoc, List.flatMap_append, List.flatMap_singleton]

end

end EventCanvas.Engine
