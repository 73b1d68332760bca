import EventCanvas.Proofs.Engine.Likeness
import EventCanvas.Proofs.Graph.Reading

/-!
# The ways in which a host may hold the records of a graph

The runtime record of a node may be the one that is prepared for a session, a payload
that the data of the node are read from, the typed data themselves, or an object whose
attributes are the data.  Whatever it is, it shows an engine the handlers of the node
and no runtime value, and so do its fields once they were copied.

* `NodeData.Held d r`: the record `r` holds the data `d` in one of the four ways.
* `NodeData.Held.shows`: a held record shows the handlers of the data.
* `Graph.HeldAs.forall₂_sameEntry`: two tables that hold the records of one graph hold
  records that look the same.
-/

namespace EventCanvas

open Engine (eventsOf? recordFields SameEvent SameFields SameRecord SameEntry)

/-- What is related to the same rows is related to each other. -/
theorem forall₂_of_common {α β γ : Type} {R : α → β → Prop} {R' : α → γ → Prop} {S : β → γ → Prop}
    (each : ∀ a b c, R a b → R' a c → S b c) {as : List α} {bs : List β} {cs : List γ}
    (left : List.Forall₂ R as bs) (right : List.Forall₂ R' as cs) : List.Forall₂ S bs cs := by
  induction left generalizing cs with
  | nil =>
    cases right
    exact .nil
  | cons first _ ih =>
    cases right with
    | cons first' rest => exact .cons (each _ _ _ first first') (ih rest)

/-! ## Actions -/

namespace Action

/-- What is read as an action has a tag that names its kind. -/
theorem ofTag?_isSome_of_readTagged {v : Value} {readAs : ActionKind → Value → Reading Action}
    {a : Action} (done : readTagged v readAs = .ok a) :
    (ActionKind.ofTag? (v.fieldOf "type")).isSome := by
  obtain ⟨kind, known, -⟩ := readTagged_eq_ok done
  simp [known]

/-- A value that an engine reads as an action comes to that action. -/
theorem coerceTagged_of_readGiven {v : Value} {a : Action} (done : readGiven v = .ok a) :
    coerceTagged v = .action a := by
  have tagged : (ActionKind.ofTag? (v.fieldOf "type")).isSome := by
    unfold readGiven at done
    split at done <;> exact ofTag?_isSome_of_readTagged done
  unfold coerceTagged
  rw [done]
  simp [Option.isSome_iff_ne_none.1 tagged]

end Action

/-! ## Events -/

namespace Handler

/-- A value given as an event shows a handler: its kind, and its action. -/
structure ShownBy (h : Handler) (v : Value) : Prop where
  kind : v.fieldOf "type" = .text h.gesture.name
  action : Action.coerce (v.fieldOf "action") = .action h.action

theorem ShownBy.isNull {h : Handler} {v : Value} (shown : h.ShownBy v) :
    (v.fieldOf "action").isNull = false := by
  have action := shown.action
  cases given : v.fieldOf "action" with
  | null =>
    rw [given] at action
    cases action
  | _ => rfl

/-- Two values that show one handler look the same to an engine. -/
theorem ShownBy.sameEvent {h : Handler} {v w : Value} (left : h.ShownBy v) (right : h.ShownBy w) :
    SameEvent v w :=
  ⟨left.kind.trans right.kind.symm, left.isNull.trans right.isNull.symm,
    left.action.trans right.action.symm⟩

theorem shownBy_toValue (h : Handler) : h.ShownBy h.toValue :=
  ⟨rfl, Action.coerce_toValue h.action⟩

theorem shownBy_declaredWorking (depth : Nat) (h : Handler) :
    h.ShownBy (Value.declaredWorking depth h.toValue) := by
  rcases h with ⟨g, _ | _ | _, _ | t, v⟩ <;> exact ⟨rfl, rfl⟩

theorem shownBy_of_read {h : Handler} {v : Value} (json : v.IsJson) (done : read v = .ok h) :
    h.ShownBy v := by
  obtain ⟨-, kind, action⟩ := read_eq_ok_iff.1 done
  obtain ⟨_, named, known⟩ := Reading.field_eq_ok_iff.1 kind
  obtain ⟨s, rfl, meant⟩ := Reading.oneOf_eq_ok_iff.1 known
  obtain ⟨w, given, acts⟩ := Reading.field_eq_ok_iff.1 action
  refine ⟨?_, ?_⟩
  · rw [Value.fieldOf, named, Gesture.eq_name_of_lookup meant]
    rfl
  · rw [Value.fieldOf, given]
    obtain ⟨as, rfl⟩ : ∃ as, w = .object as := by
      cases json.of_lookup_fields given with
      | object => exact ⟨_, rfl⟩
      | _ => cases acts
    exact Action.coerceTagged_of_readGiven acts

/-- A row of payloads shows the handlers that are read from it. -/
theorem shownBy_of_items {hs : List Handler} {events : List Value}
    (items : ∀ v ∈ events, v.IsJson)
    (listed : List.Forall₂ (fun v h => read v = .ok h) events hs) :
    List.Forall₂ ShownBy hs events := by
  induction listed with
  | nil => exact .nil
  | cons first _ ih =>
    rw [List.forall_mem_cons] at items
    exact .cons (shownBy_of_read items.1 first) (ih items.2)

theorem shownBy_declaredWorkings (depth : Nat) (hs : List Handler) :
    List.Forall₂ ShownBy hs (Value.declaredWorkings depth (hs.map toValue)) := by
  induction hs with
  | nil => exact .nil
  | cons h hs ih => exact .cons (h.shownBy_declaredWorking depth) ih

theorem shownBy_map_toValue (hs : List Handler) : List.Forall₂ ShownBy hs (hs.map toValue) :=
  List.forall₂_map_right_iff.2 (List.forall₂_same.2 fun h _ => h.shownBy_toValue)

/-- An object whose attributes are those of a handler, with an object for its action. -/
inductive AsAttributes (h : Handler) : Value → Prop
  | mk {fields action : Fields}
    (kind : Entries.lookup "type" fields = some (.text h.gesture.name))
    (holds : Entries.lookup "action" fields = some (.record action))
    (reads : Action.readLoose (.record action) = .ok h.action) : AsAttributes h (.record fields)

theorem AsAttributes.shownBy {h : Handler} {v : Value} (held : h.AsAttributes v) : h.ShownBy v := by
  obtain ⟨kind, holds, reads⟩ := held
  refine ⟨congrArg (·.getD .null) kind, ?_⟩
  rw [Value.fieldOf, Value.fields, holds]
  exact Action.coerceTagged_of_readGiven reads

/-- The fields of a record show handlers as its events, and no runtime value. -/
structure ShownIn (hs : List Handler) (fields : Fields) : Prop where
  unset : Entries.lookup "value" fields = none
  events : ∃ events, eventsOf? (.object fields) = some events ∧ List.Forall₂ ShownBy hs events

theorem ShownIn.sameFields {hs : List Handler} {fs gs : Fields} (left : ShownIn hs fs)
    (right : ShownIn hs gs) : SameFields fs gs := by
  obtain ⟨unset, events, row, shown⟩ := left
  obtain ⟨unset', others, row', shown'⟩ := right
  refine ⟨unset.trans unset'.symm, ?_⟩
  rw [row, row']
  exact .some (forall₂_of_common (fun _ _ _ one other => one.sameEvent other) shown shown')

end Handler

/-! ## Records -/

/-- A record shows handlers to an engine, now and when its fields are copied. -/
structure Handler.ShownAll (hs : List Handler) (r : Value) : Prop where
  isNull : r.isNull = false
  fields : Handler.ShownIn hs r.fields
  copied : ∃ fields, recordFields r = .ok fields ∧ Handler.ShownIn hs fields

theorem Handler.ShownAll.sameRecord {hs : List Handler} {r s : Value} (left : ShownAll hs r)
    (right : ShownAll hs s) : SameRecord r s := by
  obtain ⟨isNull, fields, fs, copied, shown⟩ := left
  obtain ⟨isNull', fields', gs, copied', shown'⟩ := right
  refine ⟨isNull.trans isNull'.symm, fields.sameFields fields', ?_⟩
  rw [copied, copied']
  exact .ok (shown.sameFields shown')

namespace NodeData

/-- The ways in which a runtime record may hold the data of a node.  None of them has a runtime
value, which is not part of the data. -/
inductive Held (d : NodeData) : Value → Prop
  /-- The record that is prepared for a session, with typed events. -/
  | prepared : Held d (Graph.runtimeRecord d)
  /-- A payload that the data are read from, a table of tables and lists. -/
  | payload {fields : Fields} (json : (Value.object fields).IsJson)
    (reads : read (.object fields) = .ok d) (unset : Entries.lookup "value" fields = none) :
    Held d (.object fields)
  /-- The data as a typed value. -/
  | typed : Held d d.toValue
  /-- An object whose attributes are the data, with such objects for its events. -/
  | attributes {fields : Fields} {events : Option (List Value)}
    (label : Entries.lookup "label" fields = some (.text d.label))
    (props : Entries.lookup "props" fields = some ((d.props.map .object).getD .null))
    (row : Entries.lookup "events" fields = some ((events.map .list).getD .null))
    (each : Option.Rel (List.Forall₂ Handler.AsAttributes) d.events events)
    (unset : Entries.lookup "value" fields = none) : Held d (.record fields)

variable {d : NodeData}

theorem shownIn_runtimeRecord (d : NodeData) :
    Handler.ShownIn d.handlers (Graph.runtimeRecord d).fields :=
  ⟨rfl, _, rfl, Handler.shownBy_map_toValue d.handlers⟩

theorem shownIn_of_read {fields : Fields} (json : (Value.object fields).IsJson)
    (reads : read (.object fields) = .ok d) (unset : Entries.lookup "value" fields = none) :
    Handler.ShownIn d.handlers fields where
  unset := unset
  events := by
    obtain ⟨-, -, -, events⟩ := read_eq_ok_iff.1 reads
    unfold eventsOf? Value.fieldOf handlers
    rcases Reading.fieldD_eq_ok_iff.1 events with ⟨missing, absent⟩ | ⟨v, given, row⟩
    · rw [missing, ← absent]
      exact ⟨[], rfl, .nil⟩
    · rw [given]
      have format := json.of_lookup_fields given
      cases format with
      | null =>
        rw [← Reading.ok.inj row]
        exact ⟨[], rfl, .nil⟩
      | @list events items =>
        obtain ⟨hs, listed, some⟩ := Reading.map_eq_ok_iff.1 row
        rw [← some]
        exact ⟨events, rfl, Handler.shownBy_of_items items (Reading.itemsFrom_eq_ok_iff.1 listed)⟩
      | _ => cases row

/-- The typed data show their handlers, which a copy of them holds as tables. -/
theorem shownAll_toValue (d : NodeData) : Handler.ShownAll d.handlers d.toValue := by
  obtain ⟨label, props, _ | hs⟩ := d
  · have shown : Handler.ShownIn [] (toValue ⟨label, props, none⟩).fields := ⟨rfl, [], rfl, .nil⟩
    have shown' : Handler.ShownIn [] (toValue ⟨label, props, none⟩).working.fields :=
      ⟨rfl, [], rfl, .nil⟩
    exact ⟨rfl, shown, _, rfl, shown'⟩
  · have shown : Handler.ShownIn hs (toValue ⟨label, props, some hs⟩).fields :=
      ⟨rfl, _, rfl, Handler.shownBy_map_toValue hs⟩
    have shown' : Handler.ShownIn hs (toValue ⟨label, props, some hs⟩).working.fields :=
      ⟨rfl, _, rfl, Handler.shownBy_declaredWorkings 0 hs⟩
    exact ⟨rfl, shown, _, rfl, shown'⟩

theorem shownIn_of_attributes {fields : Fields} {events : Option (List Value)}
    (row : Entries.lookup "events" fields = some ((events.map .list).getD .null))
    (each : Option.Rel (List.Forall₂ Handler.AsAttributes) d.events events)
    (unset : Entries.lookup "value" fields = none) : Handler.ShownIn d.handlers fields where
  unset := unset
  events := by
    unfold eventsOf? Value.fieldOf handlers
    rw [show Entries.lookup "events" (Value.object fields).fields = _ from row]
    generalize d.events = hs at each ⊢
    cases each with
    | none => exact ⟨[], rfl, .nil⟩
    | some each => exact ⟨_, rfl, each.imp fun _ _ held => held.shownBy⟩

/-- However the data of a node are held, an engine is shown the handlers. -/
theorem Held.shows {r : Value} (held : d.Held r) : Handler.ShownAll d.handlers r := by
  cases held with
  | prepared => exact ⟨rfl, shownIn_runtimeRecord d, _, rfl, shownIn_runtimeRecord d⟩
  | payload json reads unset =>
    have shown := shownIn_of_read json reads unset
    exact ⟨rfl, shown, _, rfl, shown⟩
  | typed => exact shownAll_toValue d
  | attributes _ _ row each unset =>
    have shown := shownIn_of_attributes row each unset
    exact ⟨rfl, shown, _, rfl, shown⟩

end NodeData

/-! ## Tables of records -/

namespace Graph

variable {g : Graph} {nodes others : Table}

/-- A table holds the record of each node of a graph, in order and under its id, in one way or
another. -/
def HeldAs (g : Graph) (nodes : Table) : Prop :=
  List.Forall₂ (fun n e => e.1 = .text n.id ∧ n.data.Held e.2) g.nodes nodes

theorem HeldAs.forall₂_sameEntry (left : g.HeldAs nodes) (right : g.HeldAs others) :
    List.Forall₂ SameEntry nodes others :=
  forall₂_of_common (fun _ _ _ one other =>
    ⟨one.1.trans other.1.symm, one.2.shows.sameRecord other.2.shows⟩) left right

/-- The prepared records of a graph whose ids differ are held as they are prepared. -/
theorem heldAs_runtimeNodes (nodup : g.nodeIds.Nodup) : g.HeldAs g.runtimeNodes := by
  rw [runtimeNodes_eq_map nodup]
  exact List.forall₂_map_right_iff.2 (List.forall₂_same.2 fun _ _ => ⟨rfl, .prepared⟩)

end Graph

end EventCanvas
