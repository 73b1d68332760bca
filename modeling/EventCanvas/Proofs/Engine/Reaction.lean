import EventCanvas.Proofs.Engine.Settling

/-!
# The effects of an event

Where callbacks leave an engine alone, what the engine does depends on its context
and its settings only, even where callbacks fail.  `Gains id w v xs` says that from
the world `w` to the world `v` the engine `id` had the effects `xs`, told the host
of each of them, and did nothing else but trace and report.

* `Engine.eventEffects`: the effects of one event, as a function of the context.
* `Engine.gains_attemptEvent`: an event has these effects.
-/

namespace EventCanvas

open Act (Maintains Succeeds)

variable {σ α β : Type} {id : Nat}

namespace Engine

/-- What an engine told the host of its effects is all that it told it but the diagnostics. -/
theorem effects_eq_filter_told (id : Nat) (w : World σ) :
    effects id w = (w.told id).filter fun e => e.2.hook ≠ .diagnostic := by
  unfold effects World.told
  rw [List.filter_filterMap]
  refine congrArg (fun f => List.filterMap f w.history) (funext fun e => ?_)
  cases e with
  | observed o =>
    cases o with
    | started i callback notice =>
      by_cases hit : i = id <;> by_cases diagnostic : notice.hook = .diagnostic <;>
        simp [effectIn?, Event.toldBy?, Option.filter, hit, diagnostic]
    | _ => rfl
  | _ => rfl

theorem effects_eq_of_told_eq {w v : World σ} (told : v.told id = w.told id) :
    effects id v = effects id w := by
  rw [effects_eq_filter_told, effects_eq_filter_told, told]

theorem effects_eq_of_told_heard {w v : World σ} {c : Context Callback} {notice : Notice}
    (told : v.told id = w.told id ++ heard c notice) :
    effects id v =
      effects id w ++ if notice.hook = .diagnostic then [] else heard c notice := by
  rw [effects_eq_filter_told, told, List.filter_append, ← effects_eq_filter_told]
  by_cases diagnostic : notice.hook = .diagnostic <;> simp [heard, diagnostic]

/-! ## Effects one after the other -/

/-- An effect, if it can be had on a context. -/
def Effect.had (c : Context Callback) (x : Effect) : List Effect :=
  if (x.obstacle? c).isNone then [x] else []

/-- A context after some effects. -/
def Effect.writeAll (c : Context Callback) (xs : List Effect) : Context Callback :=
  xs.foldl Effect.write c

namespace Effect

theorem writeAll_append (c : Context Callback) (xs ys : List Effect) :
    writeAll c (xs ++ ys) = writeAll (writeAll c xs) ys := List.foldl_append

/-- What every effect keeps, some effects keep. -/
theorem writeAll_keeps {I : Context Callback → Prop} (keeps : ∀ c x, I c → I (Effect.write c x))
    {c : Context Callback} (holds : I c) (xs : List Effect) : I (writeAll c xs) := by
  induction xs generalizing c with
  | nil => exact holds
  | cons x xs ih => exact ih (keeps c x holds)

@[simp] theorem misfits_writeAll (c : Context Callback) (xs : List Effect) :
    (writeAll c xs).misfits = c.misfits :=
  writeAll_keeps (I := fun d => d.misfits = c.misfits)
    (fun d x same => (misfits_write d x).trans same) rfl xs

end Effect

@[simp] theorem heard_writeAll (c : Context Callback) (xs : List Effect) :
    heard (Effect.writeAll c xs) = heard c :=
  Effect.writeAll_keeps (I := fun d => heard d = heard c)
    (fun d x same => (heard_write x d).trans same) rfl xs

/-- From one world to another an engine had some effects and told the host of each. -/
structure Gains (id : Nat) (w v : World σ) (xs : List Effect) : Prop where
  engine : ∃ span, v.engine id =
    { w.engine id with context := Effect.writeAll (w.engine id).context xs, span }
  effects : Engine.effects id v =
    Engine.effects id w ++ xs.flatMap fun x => heard (w.engine id).context x.notice

namespace Gains

variable {u v w : World σ} {xs ys : List Effect}

theorem context_eq (gains : Gains id w v xs) :
    (v.engine id).context = Effect.writeAll (w.engine id).context xs := by
  obtain ⟨span, same⟩ := gains.engine
  rw [same]

theorem settings_eq (gains : Gains id w v xs) :
    (v.engine id).settings = (w.engine id).settings := by
  obtain ⟨span, same⟩ := gains.engine
  rw [same]

theorem active (gains : Gains id w v xs) (active : (w.engine id).isActive = true) :
    (v.engine id).isActive = true := by
  obtain ⟨span, same⟩ := gains.engine
  rw [same]
  exact active

theorem misfits_eq (gains : Gains id w v xs) :
    (v.engine id).context.misfits = (w.engine id).context.misfits := by
  rw [gains.context_eq, Effect.misfits_writeAll]

theorem tables (gains : Gains id w v xs) (tables : (w.engine id).context.misfits.nodes = none) :
    (v.engine id).context.misfits.nodes = none := by
  rw [gains.misfits_eq]
  exact tables

theorem of_eq {span : Option Span} (engine : v.engine id = { w.engine id with span })
    (told : v.told id = w.told id) : Gains id w v [] where
  engine := ⟨span, engine⟩
  effects := by rw [effects_eq_of_told_eq told, List.flatMap_nil, List.append_nil]

theorem refl (w : World σ) : Gains id w w [] := of_eq rfl rfl

theorem of_traced (traced : w.Traced id v) : Gains id w v [] := by
  obtain ⟨span, engine⟩ := traced.engine id
  exact of_eq engine (traced.told_eq id)

theorem trans (first : Gains id u v xs) (next : Gains id v w ys) : Gains id u w (xs ++ ys) where
  engine := by
    obtain ⟨span, engine⟩ := first.engine
    obtain ⟨span', engine'⟩ := next.engine
    exact ⟨span', by rw [engine', engine, Effect.writeAll_append]⟩
  effects := by
    rw [next.effects, first.effects, first.context_eq, heard_writeAll, List.append_assoc,
      List.flatMap_append]

/-- What changes nothing may come after. -/
theorem trans_nil (first : Gains id u v xs) (next : Gains id v w []) : Gains id u w xs := by
  have both := first.trans next
  rwa [List.append_nil] at both

/-- A step that never fails ends well, with its effects. -/
theorem run_of_succeeds {x : Act σ Unit} (succeeds : Succeeds x)
    (gains : Gains id w (x.run w).2 xs) : ∃ v, x.run w = (.ok (), v) ∧ Gains id w v xs := by
  obtain ⟨v, run⟩ := succeeds.run w
  rw [run] at gains
  exact ⟨v, run, gains⟩

/-- After a step that never fails, what follows goes on from where it ended. -/
theorem bind {x : Act σ Unit} {k : Unit → Act σ β} (succeeds : Succeeds x)
    (first : Gains id w (x.run w).2 xs)
    (next : ∀ v, Gains id w v xs → Gains id v ((k ()).run v).2 ys) :
    Gains id w ((x >>= k).run w).2 (xs ++ ys) := by
  obtain ⟨v, run, gains⟩ := run_of_succeeds succeeds first
  rw [Act.run_bind_of_ok run]
  exact gains.trans (next v gains)

/-- After a step that has no effect, what follows has all of them. -/
theorem bind_nil {x : Act σ Unit} {k : Unit → Act σ β} (succeeds : Succeeds x)
    (first : Gains id w (x.run w).2 [])
    (next : ∀ v, Gains id w v [] → Gains id v ((k ()).run v).2 ys) :
    Gains id w ((x >>= k).run w).2 ys := bind succeeds first next

end Gains

/-! ## The effects of an event -/

/-- The effects of an action whose texts are final: one, or none if it is skipped. -/
def plainEffects (c : Context Callback) (source : Value) (a : Action) : List Effect :=
  match aim c source a with
  | .error _ => []
  | .ok x => x.had c

/-- The effects of an action: none where a text of it has no final form. -/
def actionEffects (s : EngineSettings) (c : Context Callback) (source action : Value) :
    List Effect :=
  match Action.coerce action with
  | .action a =>
    ((finalParts s c a.target a.value).toOption.map fun parts =>
      plainEffects c source ⟨a.kind, parts.1, parts.2⟩).getD []
  | _ => []

/-- The effects of copying the value that comes with an event. -/
def copyEffects (c : Context Callback) (g : Gesture) (node : String) (data : Value) :
    List Effect :=
  (copied? g node data).toList.flatMap (Effect.had c)

/-- The context that the action of an event finds: the one before it, with the value copied that
comes with the event. -/
def mirrored (c : Context Callback) (g : Gesture) (node : String) (data : Value) :
    Context Callback :=
  Effect.writeAll c (copyEffects c g node data)

/-- Whether an event copies a value, if that can be said. -/
def copies (g : Gesture) (data : Value) : Except Fault Bool :=
  if g = .change then carriesValue data else .ok false

/-- The effects of an event: the copy of the value that comes with it, and then what its action
does. -/
def eventEffects (s : EngineSettings) (c : Context Callback) (g : Gesture) (node : String)
    (data event : Value) : List Effect :=
  match copies g data with
  | .error _ => []
  | .ok _ => copyEffects c g node data ++
    actionEffects s (mirrored c g node data) (.text node) (event.fieldOf "action")

theorem copyInput_eq (notify : Notify σ) (id : Nat) (g : Gesture) (source data : Value) :
    copyInput notify id g source data = (do
      if ← Act.ofExcept (copies g data) then copyValue notify id source data) := by
  unfold copyInput copies
  split <;> rfl

/-- An event that copies no value has none to copy. -/
theorem copied?_eq_none {g : Gesture} {data : Value} (without : copies g data = .ok false)
    (node : String) : copied? g node data = none := by
  cases data with
  | object fields =>
    unfold copies at without
    split at without
    · have missing : Entries.lookup "value" fields = none := by
        simpa [carriesValue, Value.contains?, Entries.has] using without
      simp [copied?, missing]
    · next other => exact if_neg other
  | _ => rfl

/-- What goes on with the final texts of an action has its effects, if there are final texts. -/
theorem gains_evaluatedParts {w : World σ} (active : (w.engine id).isActive = true)
    (tables : (w.engine id).context.misfits.nodes = none)
    {k : Option String × String → Act σ Unit} {xs : Option String × String → List Effect}
    (target : Option String) (value : String)
    (next : ∀ parts, Gains id w ((k parts).run w).2 (xs parts)) :
    Gains id w ((evaluatedParts id target value >>= k).run w).2
      (((finalParts (w.engine id).settings (w.engine id).context target value).toOption.map
        xs).getD []) := by
  have run := run_evaluatedParts active tables target value
  cases final : finalParts (w.engine id).settings (w.engine id).context target value with
  | error f =>
    rw [final] at run
    rw [Act.run_bind_of_error run]
    exact .refl w
  | ok parts =>
    rw [final] at run
    rw [Act.run_bind_of_ok run]
    exact next parts

section

variable {notify : Notify σ} (spares : notify.Spares id) {w : World σ}

include spares

/-! ## Telling -/

/-- Telling the host changes nothing but what the host was told. -/
theorem gains_tell (notice : Notice) (w : World σ) :
    ((tell notify id notice).run w).2.engine id = w.engine id ∧
      effects id ((tell notify id notice).run w).2 =
        effects id w ++ if notice.hook = .diagnostic then [] else
          heard (w.engine id).context notice := by
  obtain ⟨v, run, engine, told⟩ := ends_tell spares notice w
  rw [run]
  exact ⟨engine, effects_eq_of_told_heard told⟩

/-- A skip has no effect. -/
theorem gains_skip (s : Skip) (w : World σ) : Gains id w ((skip notify id s).run w).2 [] := by
  have reports : Reports (fun v => Gains id w v []) notify id := by
    refine ⟨fun _ v gains => ?_, fun _ v gains => ?_, fun d v gains => ?_⟩
    · exact gains.trans (.of_eq rfl rfl)
    · exact gains.trans (.of_eq rfl (v.told_record_of_none rfl))
    · obtain ⟨engine, effects⟩ := gains_tell spares (.diagnosed d) v
      exact gains.trans ⟨⟨_, engine⟩, effects⟩
  exact reports.skip s w (.refl w)

/-- What a guard catches takes no effect back and has none. -/
theorem gains_guarded {x : Act σ Unit} {xs : List Effect} (body : Gains id w (x.run w).2 xs)
    (onFault : Fault → Skip) : Gains id w ((guarded notify id x onFault).run w).2 xs := by
  unfold guarded
  rw [Act.run_tryCatch]
  rcases run : x.run w with ⟨f | a, v⟩
  · rw [run] at body
    exact body.trans_nil (gains_skip spares _ v)
  · rw [run] at body
    exact body

/-- An effect is had unless something is in the way, also if the callback that is told of it
fails. -/
theorem gains_commit (active : (w.engine id).isActive = true) (x : Effect) :
    Gains id w ((commit notify id x).run w).2 (x.had (w.engine id).context) := by
  unfold Effect.had
  rw [run_commit, active]
  cases x.obstacle? (w.engine id).context with
  | some f => exact .refl w
  | none =>
    have wrote : (written w id x).engine id =
        { w.engine id with context := x.write (w.engine id).context } :=
      World.engine_modifyEngine_self _ (World.lt_length_of_isActive active)
    -- the write is made before the host is told, so how the callback ends does not matter
    obtain ⟨engine, effects⟩ := gains_tell spares x.notice (written w id x)
    refine ⟨⟨_, engine.trans wrote⟩, effects.trans ?_⟩
    rw [if_neg x.hook_notice_ne, wrote, heard_write]
    simp only [Option.isNone_none, if_true, List.flatMap_singleton]
    rfl

/-! ## Running an event -/

variable (active : (w.engine id).isActive = true)

include active

theorem gains_copyValue (node : String) {data : Value} (carries : carriesValue data = .ok true) :
    Gains id w ((copyValue notify id (.text node) data).run w).2
      (copyEffects (w.engine id).context .change node data) := by
  refine gains_guarded spares ?_ _
  have unread (f : Fault) (fails : carriedValue data = .error f)
      (none : copied? .change node data = Option.none) :
      Gains id w ((Act.ofExcept (carriedValue data) >>= fun value =>
        setNodeValue notify id (.text node) value).run w).2
        (copyEffects (w.engine id).context .change node data) := by
    rw [fails, Act.run_bind_of_error (Act.run_ofExcept _ w), copyEffects, none]
    exact .refl w
  cases data with
  | object fields =>
    cases found : Entries.lookup "value" fields with
    | none => simp [carriesValue, Value.contains?, Entries.has, found] at carries
    | some value =>
      have copies : copied? .change node (.object fields) =
          some (.setNode .value (.text node) value) := by simp [copied?, found]
      have read : (Act.ofExcept (carriedValue (.object fields)) : Act σ Value).run w =
          (.ok value, w) := by
        simp only [carriedValue, found]
        rfl
      rw [Act.run_bind_of_ok read, setNodeValue_eq_commit, copyEffects, copies]
      simpa using gains_commit spares active _
  | text t => exact unread _ rfl rfl
  | tuple xs => exact unread _ rfl rfl
  | _ => exact unread _ rfl rfl

theorem gains_copyInput (g : Gesture) (node : String) {data : Value} {copied : Bool}
    (searched : copies g data = .ok copied) :
    ∃ v, (copyInput notify id g (.text node) data).run w = (.ok (), v) ∧
      Gains id w v (copyEffects (w.engine id).context g node data) := by
  rw [copyInput_eq, searched]
  cases copied with
  | false =>
    rw [copyEffects, copied?_eq_none searched]
    exact ⟨w, rfl, .refl w⟩
  | true =>
    unfold copies at searched
    split at searched
    · next change =>
      subst change
      exact Gains.run_of_succeeds (succeeds_guarded notify id _ _)
        (gains_copyValue spares active node searched)
    · cases searched

variable (tables : (w.engine id).context.misfits.nodes = none)

include tables

theorem gains_runAction (node : String) (a : Action) :
    Gains id w ((runAction notify id (.text node) a).run w).2
      (plainEffects (w.engine id).context (.text node) a) := by
  unfold plainEffects
  rw [run_runAction notify tables]
  cases aim (w.engine id).context (.text node) a with
  | error s => exact gains_skip spares s w
  | ok x => exact gains_commit spares active x

theorem gains_runCoerced (node : String) (action : Value) :
    Gains id w ((runCoerced notify id (.text node) (Action.coerce action)).run w).2
      (actionEffects (w.engine id).settings (w.engine id).context (.text node) action) := by
  unfold actionEffects
  cases Action.coerce action with
  | unknown tag => exact gains_skip spares _ w
  | malformed tag issues => exact gains_skip spares _ w
  | kindless target value =>
    have skipped := gains_evaluatedParts active tables target value
      fun _ => gains_skip spares (unknownAction (.text node) Shape.action.name []) w
    have none (parts? : Option (Option String × String)) :
        (parts?.map fun _ => ([] : List Effect)).getD [] = [] := by cases parts? <;> rfl
    rwa [none] at skipped
  | action a =>
    exact gains_evaluatedParts active tables a.target a.value
      fun parts => gains_runAction spares active tables node ⟨a.kind, parts.1, parts.2⟩

theorem gains_executeAction (node : String) (action : Value) :
    Gains id w ((executeAction notify id action (.text node)).run w).2
      (actionEffects (w.engine id).settings (w.engine id).context (.text node) action) := by
  unfold executeAction
  rw [Act.run_bind_of_ok (Act.run_engine id w), active]
  exact gains_guarded spares (gains_runCoerced spares active tables node action) _

theorem gains_runEventAction (g : Gesture) (node : String) (event : Value) :
    Gains id w ((runEventAction notify id g event (.text node)).run w).2
      (actionEffects (w.engine id).settings (w.engine id).context (.text node)
        (event.fieldOf "action")) := by
  unfold runEventAction
  cases event.fieldOf "action" with
  | null => exact gains_skip spares _ w
  | _ => exact gains_executeAction spares active tables node _

theorem gains_runEvent (g : Gesture) (node : String) (event data : Value) :
    Gains id w ((runEvent notify id g event (.text node) data).run w).2
      (eventEffects (w.engine id).settings (w.engine id).context g node data event) := by
  unfold runEvent
  refine Gains.bind_nil (.log _) (.of_eq rfl rfl) fun v logged => ?_
  have same : (v.engine id).context = (w.engine id).context := logged.context_eq
  rw [← logged.settings_eq, ← same]
  unfold eventEffects
  cases searched : copies g data with
  | error f =>
    -- data in which nothing can be looked for end the event before its action
    have fails : (copyInput notify id g (.text node) data).run v = (.error f, v) := by
      rw [copyInput_eq, searched]
      rfl
    rw [Act.run_bind_of_error fails]
    exact .refl v
  | ok copied =>
    obtain ⟨u, run, gains⟩ := gains_copyInput spares (logged.active active) g node searched
    have acts := gains_runEventAction spares (gains.active (logged.active active))
      (gains.tables (logged.tables tables)) g node event
    rw [gains.settings_eq, gains.context_eq] at acts
    rw [Act.run_bind_of_ok run]
    exact gains.trans acts

/-- An event has the effects computed for it, and no fault leaves it. -/
theorem gains_attemptEvent {g : Gesture} (node : String) (data : Value) {event : Value}
    (kind : event.fieldOf "type" = .text g.name) :
    Gains id w ((attemptEvent notify id g (.text node) data event).run w).2
      (eventEffects (w.engine id).settings (w.engine id).context g node data event) := by
  refine gains_guarded spares ?_ _
  rw [run_executeEvent_of_active active kind]
  exact gains_runEvent spares active tables g node event data

end

end Engine

end EventCanvas
