import EventCanvas.Proofs.Engine.Settling
import EventCanvas.Proofs.Graph.Reading
import EventCanvas.Proofs.Outcome

/-!
# Where a label lands

A relabelling that names its target writes to the record of that node, if there is one,
and else is skipped with one diagnostic.  The target may have references in it, and then
the node is known only once these were replaced.  All the same the label goes nowhere
else, with one exception: a target that comes out empty counts as none, and the label
goes to the node that the action came from.

* `Action.Relabels`: a value that declares such an action, however it is held.
* `Engine.lands_executeAction`: a target that does not come out empty is kept.
* `Engine.run_executeAction_of_empty`: one that comes out empty is dropped.
* `Host.target_kept_unless_empty`: the two together, for callbacks that may fail.
* `Host.target_kept_fails`: so a label may land on a node that was never named.
-/

namespace EventCanvas

namespace Action

/-! ## What is read as a relabelling -/

/-- A value declares a relabelling of a node that it names. -/
structure Relabels (action : Value) (target : String) : Prop where
  tagged : action.fieldOf "type" = .text ActionKind.setText.tag
  aimed : action.fieldOf "target" = .text target
  named : target ≠ ""

/-- A field that is a text is there. -/
theorem lookup_of_fieldOf_eq_text {v : Value} {name s : String} (field : v.fieldOf name = .text s) :
    Entries.lookup name v.fields = some (.text s) := by
  unfold Value.fieldOf at field
  cases found : Entries.lookup name v.fields with
  | none =>
    rw [found] at field
    cases field
  | some w =>
    rw [found] at field
    exact congrArg some field

/-- An action that a value comes to has the kind of its tag and the fields of the value. -/
theorem readFields_of_coerce {v : Value} {a : Action} (coerced : coerce v = .action a) :
    ∃ kind, ActionKind.ofTag? (v.fieldOf "type") = some kind ∧ readFields kind v = .ok a := by
  have tagged : coerceTagged v = .action a := by
    unfold coerce at coerced
    split at coerced
    · cases coerced
    · exact coerced
  dsimp only [coerceTagged] at tagged
  split at tagged
  · cases tagged
  · split at tagged
    · next a' given =>
      obtain rfl := Coerced.action.inj tagged
      unfold readGiven at given
      split at given
      · obtain ⟨kind, known, shaped⟩ := readTagged_eq_ok given
        exact ⟨kind, known, (Reading.shaped_eq_ok_iff.1 shaped).2⟩
      · exact readTagged_eq_ok given
    · cases tagged

/-- What declares a relabelling of a node comes to one, if it comes to an action. -/
theorem Relabels.eq_of_coerce {action : Value} {target : String} {a : Action}
    (relabels : Relabels action target) (coerced : coerce action = .action a) :
    a = ⟨.setText, some target, a.value⟩ := by
  obtain ⟨kind, known, fields⟩ := readFields_of_coerce coerced
  rw [relabels.tagged, ActionKind.ofTag?_tag] at known
  obtain rfl := Option.some.inj known
  obtain ⟨t, value, _, aimed, -, -, rfl⟩ := Reading.map_seq_seq_eq_ok_iff.1 fields
  have there := lookup_of_fieldOf_eq_text relabels.aimed
  rcases Reading.fieldD_eq_ok_iff.1 aimed with ⟨absent, -⟩ | ⟨v, found, read⟩
  · rw [there] at absent
    cases absent
  · rw [there] at found
    obtain rfl := Option.some.inj found
    obtain rfl : some target = t := Reading.ok.inj read
    rfl

end Action

namespace Engine

variable {σ : Type} {id : Nat}

/-! ## What becomes of a relabelling -/

/-- A target and a value are final if both are. -/
theorem finalParts_some_eq_ok {s : EngineSettings} {c : Context Callback} {target value : String}
    {parts : Option String × String} (final : finalParts s c (some target) value = .ok parts) :
    ∃ t, finalText s c target = .ok t ∧ parts.1 = some t := by
  obtain ⟨v, -, rest⟩ := Outcome.bind_eq_ok_iff.1 final
  obtain ⟨t, aimed, same⟩ := Outcome.bind_eq_ok_iff.1 rest
  exact ⟨t, aimed, (congrArg Prod.fst (Except.ok.inj same)).symm⟩

/-- A relabelling of a node that is named is a write to its record, if there is one. -/
theorem run_runAction_of_named (notify : Notify σ) {w : World σ}
    (tables : (w.engine id).context.misfits.nodes = none) (source : Value) {t : String}
    (named : t ≠ "") (value : String) :
    (runAction notify id source ⟨.setText, some t, value⟩).run w =
      (if Entries.has (.text t) (w.engine id).context.nodes then
        commit notify id (.setNode .label (.text t) (.text value))
      else skip notify id (unknownLabelTarget source (.text t)) : Act σ Unit).run w := by
  have target : labelTarget (some t) source = .text t := if_neg named
  have truthy : (Value.text t).truthy = true := by simpa [Value.truthy] using named
  unfold runAction
  rw [run_runSetText notify tables target, truthy]
  rfl

/-- How a step ends that is to relabel a node: the label is in the record of the node with the final
target as its id, or nothing changed and one diagnostic says why, or a fault is still to be
reported. -/
inductive Lands (id : Nat) (target : Except Fault String) (x : Act σ Unit) (w : World σ) : Prop
  | written {t value : String} {r : Except Fault Unit} {news : List (Callback × Notice)}
    (final : target = .ok t)
    (there : Entries.has (.text t) (w.engine id).context.nodes = true)
    (ends : Ends id x w r
      ((Effect.setNode .label (.text t) (.text value)).write (w.engine id).context) news)
  | skipped (d : Diagnostic)
    (ends : Ends id x w (.ok ()) (w.engine id).context
      (heard (w.engine id).context (.diagnosed d)))
  | failed (f : Fault) (ends : Ends id x w (.error f) (w.engine id).context [])

theorem Lands.bind_reads {α : Type} {target : Except Fault String} {x : Act σ α} {a : α}
    {k : α → Act σ Unit} {w : World σ} (reads : x.run w = (.ok a, w))
    (next : Lands id target (k a) w) : Lands id target (x >>= k) w := by
  cases next with
  | written final there ends => exact .written final there (.bind_reads reads ends)
  | skipped d ends => exact .skipped d (.bind_reads reads ends)
  | failed f ends => exact .failed f (.bind_reads reads ends)

section

variable {notify : Notify σ} (spares : notify.Spares id) {w : World σ}
  (active : (w.engine id).isActive = true) (tables : (w.engine id).context.misfits.nodes = none)
  {source : Value} (about : source = .null ∨ ∃ node, source = .text node)

include spares about

theorem ends_skip_about {s : Skip} (of : s.nodeId = source) :
    Ends id (skip notify id s) w (.ok ()) (w.engine id).context
      (heard (w.engine id).context (.diagnosed s.diagnostic)) := by
  refine ends_skip spares ?_ w
  rw [Skip.IsNamed, of]
  exact about

include active tables

theorem lands_runAction {target : Except Fault String} {t : String} (final : target = .ok t)
    (named : t ≠ "") (value : String) :
    Lands id target (runAction notify id source ⟨.setText, some t, value⟩) w := by
  have run := run_runAction_of_named notify tables source named value
  cases there : Entries.has (.text t) (w.engine id).context.nodes with
  | false =>
    rw [there] at run
    exact .skipped _ (.congr run (ends_skip_about spares about rfl))
  | true =>
    rw [there] at run
    let x : Effect := .setNode .label (.text t) (.text value)
    cases free : x.obstacle? (w.engine id).context with
    | some f => exact .failed f (.congr run (ends_commit_error active free))
    | none => exact .written final there (.congr run (ends_commit active free spares))

theorem lands_runCoerced {action : Value} {target : String}
    (relabels : Action.Relabels action target)
    (named : finalText (w.engine id).settings (w.engine id).context target ≠ .ok "") :
    Lands id (finalText (w.engine id).settings (w.engine id).context target)
      (runCoerced notify id source (Action.coerce action)) w := by
  have texts := run_evaluatedParts (w := w) active tables
  cases coerced : Action.coerce action with
  | unknown tag => exact .skipped _ (ends_skip_about spares about rfl)
  | malformed tag issues => exact .skipped _ (ends_skip_about spares about rfl)
  | kindless aimed value =>
    have run := texts aimed value
    cases final : finalParts (w.engine id).settings (w.engine id).context aimed value with
    | error f =>
      rw [final] at run
      exact .failed f (.bind_error (.of_reads run))
    | ok parts =>
      rw [final] at run
      exact .skipped _ (.bind_reads run (ends_skip_about spares about rfl))
  | action a =>
    have relabelling := relabels.eq_of_coerce coerced
    rw [relabelling]
    have run := texts (some target) a.value
    cases final : finalParts (w.engine id).settings (w.engine id).context (some target) a.value with
    | error f =>
      rw [final] at run
      exact .failed f (.bind_error (.of_reads run))
    | ok parts =>
      rw [final] at run
      obtain ⟨t, aimed, first⟩ := finalParts_some_eq_ok final
      have ne : t ≠ "" := fun empty => named (by rw [aimed, empty])
      have lands := lands_runAction spares active tables about aimed ne parts.2
      rw [← first] at lands
      exact .bind_reads run lands

/-- A relabelling whose target does not come out empty is written to the record of that target, if
there is one, or changes nothing and is reported once. -/
theorem lands_executeAction {action : Value} {target : String}
    (relabels : Action.Relabels action target)
    (named : finalText (w.engine id).settings (w.engine id).context target ≠ .ok "") :
    (∃ t value news, finalText (w.engine id).settings (w.engine id).context target = .ok t ∧
      Entries.has (.text t) (w.engine id).context.nodes = true ∧
      Ends id (executeAction notify id action source) w (.ok ())
        ((Effect.setNode .label (.text t) (.text value)).write (w.engine id).context) news) ∨
    ∃ d, Ends id (executeAction notify id action source) w (.ok ()) (w.engine id).context
      (heard (w.engine id).context (.diagnosed d)) := by
  have started := run_executeAction_of_active notify active action source
  have skips (f : Fault) : (failedAction source f).IsNamed := about
  cases lands_runCoerced spares active tables about relabels named with
  | @written t value r news final there ends =>
    cases r with
    | ok _ => exact .inl ⟨t, value, news, final, there, .congr started (.tryCatch ends)⟩
    -- the callback failed after the write, which stays
    | error f =>
      exact .inl ⟨t, value, _, final, there,
        .congr started (ends_guarded_error spares ends (skips f))⟩
  | skipped d ends => exact .inr ⟨d, .congr started (.tryCatch ends)⟩
  | failed f ends =>
    exact .inr ⟨_, .congr started (ends_guarded_error spares ends (skips f))⟩

end

/-! ## Targets that come out empty -/

/-- A relabelling whose target comes out empty is run as one without a target. -/
theorem run_executeAction_of_empty (notify : Notify σ) {w : World σ}
    (active : (w.engine id).isActive = true) (tables : (w.engine id).context.misfits.nodes = none)
    (source : Value) {action : Value} {target : String} (relabels : Action.Relabels action target)
    (empty : finalText (w.engine id).settings (w.engine id).context target = .ok "")
    {a : Action} (coerced : Action.coerce action = .action a) :
    (executeAction notify id action source).run w =
      (executeAction notify id (Action.toValue { a with target := none }) source).run w := by
  rw [run_executeAction_of_active notify active, run_executeAction_of_active notify active,
    coerced, Action.coerce_toValue, relabels.eq_of_coerce coerced]
  have same : (runCoerced notify id source (.action ⟨.setText, some target, a.value⟩)).run w =
      (runCoerced notify id source (.action ⟨.setText, none, a.value⟩)).run w := by
    simp only [runCoerced, Act.run_bind, run_evaluatedParts active tables, finalParts]
    cases finalText (w.engine id).settings (w.engine id).context a.value with
    | error f => rfl
    | ok value =>
      rw [empty]
      rfl
  simp only [guarded, Act.run_tryCatch, same]

/-- An effect on the record of one node leaves what is under every other key. -/
theorem Effect.lookup_write_setNode {field : NodeField} {value key : Value} {t : String}
    (c : Context Callback) (other : (key == .text t) = false) :
    Entries.lookup key ((Effect.setNode field (.text t) value).write c).nodes =
      Entries.lookup key c.nodes := by
  simp only [Effect.write]
  cases recordFields (Effect.recordAt c (.text t)) with
  | error f => rfl
  | ok fields =>
    dsimp only
    rw [Table.lookup_put_text, other]
    rfl

/-- A relabelling went nowhere but to its target: every other record is as before, and if there is
no record of the target then nothing changed and one diagnostic was reported, if a callback for it
is bound. -/
structure KeptTarget (id : Nat) (target : Except Fault String) (w v : World σ) : Prop where
  others (key : Value) (other : ∀ t, target = .ok t → (key == .text t) = false) :
    Entries.lookup key (v.engine id).context.nodes = Entries.lookup key (w.engine id).context.nodes
  missed (unknown : ∀ t, target = .ok t →
      Entries.has (.text t) (w.engine id).context.nodes = false) :
    (v.engine id).context = (w.engine id).context ∧
      ∃ d, v.told id = w.told id ++ heard (w.engine id).context (.diagnosed d)

end Engine

namespace Host

open Engine

variable {σ : Type} {id : Nat}

/-- A relabelling of a named node never fails, and goes nowhere but to the node of that name, with
the references in the name replaced if the engine does so, unless the name comes out empty.  Then
the action is run as if it had no target, and it is the node it comes from that is relabelled. -/
theorem target_kept_unless_empty {host : Host σ} (spares : host.CallsOnly (HostOp.Spares id))
    (depth : Nat) {w : World σ} (active : (w.engine id).isActive = true)
    (tables : (w.engine id).context.misfits.nodes = none) {source : Value}
    (about : source = .null ∨ ∃ node, source = .text node) {action : Value} {target : String}
    (relabels : Action.Relabels action target) :
    let final := finalText (w.engine id).settings (w.engine id).context target
    ∃ v, (executeAction (host.notify depth) id action source).run w = (.ok (), v) ∧
      (final ≠ .ok "" → KeptTarget id final w v) ∧
      (final = .ok "" → ∀ a, Action.coerce action = .action a →
        (executeAction (host.notify depth) id (Action.toValue { a with target := none })
          source).run w = (.ok (), v)) := by
  intro final
  have spared := spared_notify spares depth
  by_cases empty : final = .ok ""
  · obtain ⟨v, run⟩ := (succeeds_executeAction (host.notify depth) id action source).run w
    refine ⟨v, run, fun named => absurd empty named, fun _ a coerced => ?_⟩
    rw [← run_executeAction_of_empty _ active tables source relabels empty coerced]
    exact run
  · rcases lands_executeAction spared active tables about relabels empty with
      ⟨t, value, news, is, there, v, run, engine, -⟩ | ⟨d, v, run, engine, told⟩
    · refine ⟨v, run, fun _ => ⟨fun key other => ?_, fun unknown => ?_⟩,
        fun is => absurd is empty⟩
      · rw [engine]
        exact Effect.lookup_write_setNode _ (other t is)
      · rw [unknown t is] at there
        cases there
    · have same : (v.engine id).context = (w.engine id).context := by rw [engine]
      exact ⟨v, run, fun _ => ⟨fun key _ => by rw [same], fun _ => ⟨same, d, told⟩⟩,
        fun is => absurd is empty⟩

/-- A target whose reference is to a variable that names no node, with a host whose every callback
fails. -/
theorem target_kept_unless_empty_ghost :
    let host : Host Unit := ⟨fun _ _ => .fail (.failure "host is gone")⟩
    let on : EngineSettings := { EngineSettings.initial with interpolateActions := .bool true }
    let button : Value := .object [("label", .text "Go")]
    let w : World Unit := Slot.created (World.initial ⟨"preview", on, none⟩ ())
      (.ofTables [(.text "x", .text "ghost")] [(.text "b1", button)]
        (Hooks.all (some ⟨"host", 0⟩)))
    let relabel : Value := .object
      [("type", .text "setText"), ("target", .text "$\x7bx\x7d"), ("value", .text "oops")]
    host.CallsOnly (HostOp.Spares 0) ∧ (w.engine 0).isActive = true ∧
    (w.engine 0).context.misfits.nodes = none ∧ Action.Relabels relabel "$\x7bx\x7d" ∧
    (finalText on (w.engine 0).context "$\x7bx\x7d").toOption = some "ghost" ∧
    ∃ v d, (executeAction (host.notify 1) 0 relabel (.text "b1")).run w = (.ok (), v) ∧
      Entries.lookup (.text "b1") (v.engine 0).context.nodes = some button ∧
      v.told 0 = [(⟨"host", 0⟩, .diagnosed d)] := by
  intro host on button w relabel
  have spares : host.CallsOnly (HostOp.Spares 0) := fun _ _ => trivial
  have relabels : Action.Relabels relabel "$\x7bx\x7d" := ⟨rfl, rfl, by decide⟩
  have final : (finalText on (w.engine 0).context "$\x7bx\x7d").toOption = some "ghost" := by
    decide +kernel
  have named : finalText on (w.engine 0).context "$\x7bx\x7d" ≠ .ok "" := fun empty => by
    rw [empty] at final
    exact absurd final (by decide)
  obtain ⟨v, run, kept, -⟩ := target_kept_unless_empty spares 1 (w := w) rfl rfl
    (.inr ⟨"b1", rfl⟩) relabels
  obtain ⟨same, d, told⟩ := (kept named).missed fun t (is : finalText on _ _ = .ok t) => by
    rw [is] at final
    obtain rfl : t = "ghost" := Option.some.inj final
    rfl
  exact ⟨spares, rfl, rfl, relabels, final, v, d, run, by rw [same]; rfl, told⟩

/-- A relabelling of a named node can land on the node that it comes from. -/
theorem target_kept_fails :
    ¬∀ (host : Host Unit) (id depth : Nat) (w : World Unit) (source action : Value)
      (target : String), host.CallsOnly (HostOp.Spares id) → (w.engine id).isActive = true →
      (w.engine id).context.misfits.nodes = none →
      (source = .null ∨ ∃ node, source = .text node) → Action.Relabels action target →
      ∃ v, (executeAction (host.notify depth) id action source).run w = (.ok (), v) ∧
        KeptTarget id (finalText (w.engine id).settings (w.engine id).context target) w v := by
  intro always
  let host : Host Unit := ⟨fun _ _ => .done ()⟩
  let on : EngineSettings := { EngineSettings.initial with interpolateActions := .bool true }
  let w : World Unit := Slot.created (World.initial ⟨"preview", on, none⟩ ())
    (.ofTables [(.text "x", .text "")] [(.text "b1", .object [("label", .text "Go")])]
      (Hooks.all none))
  let relabel : Value := .object
    [("type", .text "setText"), ("target", .text "$\x7bx\x7d"), ("value", .text "oops")]
  obtain ⟨v, run, kept⟩ := always host 0 1 w (.text "b1") relabel "$\x7bx\x7d"
    (fun _ _ => trivial) rfl rfl (.inr ⟨"b1", rfl⟩) ⟨rfl, rfl, by decide⟩
  have empty : (finalText on (w.engine 0).context "$\x7bx\x7d").toOption = some "" := by
    decide +kernel
  have same := kept.others (.text "b1") fun t (is : finalText on _ _ = .ok t) => by
    rw [is] at empty
    obtain rfl : t = "" := Option.some.inj empty
    rfl
  have after : ((Effect.recordAt (((executeAction (host.notify 1) 0 relabel (.text "b1")).run
      w).2.engine 0).context (.text "b1")).fieldOf "label").text? = some "oops" := by decide +kernel
  have before : ((Effect.recordAt (w.engine 0).context (.text "b1")).fieldOf "label").text? =
      some "Go" := rfl
  rw [run, Effect.recordAt, same] at after
  exact absurd (before.symm.trans after) (by decide)

end Host

end EventCanvas
