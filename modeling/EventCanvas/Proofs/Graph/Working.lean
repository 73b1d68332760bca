import EventCanvas.Proofs.Graph.Reading

/-!
# Reading the working form of a node or of settings

The working form has a table for each typed value, down to the actions of a handler.
Reading makes the same typed values of these tables again.  Properties and variables
are not read any further, so a typed value among them stays the table that it became.

* `NodeData.read_working`: the data of a node are read back, with the properties in
  working form.
* `Value.IsTypeless.workingAt_eq`: where nothing is typed the working form changes
  nothing.
-/

namespace EventCanvas

namespace Value

/-- Nothing in a value is an instance of a declared shape or of a data class.  What a record holds
does not count. -/
inductive IsTypeless : Value → Prop
  | null : IsTypeless null
  | bool (b : Bool) : IsTypeless (bool b)
  | int (n : Int) : IsTypeless (int n)
  | float (d : Double) : IsTypeless (float d)
  | text (s : String) : IsTypeless (text s)
  | instant (t : Instant) : IsTypeless (instant t)
  | identifier (u : Identifier) : IsTypeless (identifier u)
  | record {fs : Fields} (plain : isBlankInstance fs = false) : IsTypeless (record fs)
  | list {xs : List Value} (items : ∀ x ∈ xs, IsTypeless x) : IsTypeless (list xs)
  | tuple {xs : List Value} (items : ∀ x ∈ xs, IsTypeless x) : IsTypeless (tuple xs)
  | object {fs : Fields} (values : ∀ e ∈ fs, IsTypeless e.2) : IsTypeless (object fs)

theorem workingItems_eq_self {depth : Nat} {xs : List Value}
    (each : ∀ x ∈ xs, workingAt depth x = x) : workingItems depth xs = xs := by
  induction xs with
  | nil => rfl
  | cons x xs ih =>
    rw [workingItems, each x List.mem_cons_self,
      ih fun y member => each y (List.mem_cons_of_mem x member)]

theorem workingEntries_eq_self {depth : Nat} {fs : Fields}
    (each : ∀ e ∈ fs, workingAt depth e.2 = e.2) : workingEntries depth fs = fs := by
  induction fs with
  | nil => rfl
  | cons e fs ih =>
    rw [workingEntries, each e List.mem_cons_self,
      ih fun d member => each d (List.mem_cons_of_mem e member)]

theorem declaredWorkings_eq (depth : Nat) (xs : List Value) :
    declaredWorkings depth xs = xs.map (declaredWorking depth) := by
  induction xs with
  | nil => rfl
  | cons x xs ih => rw [declaredWorkings, ih, List.map_cons]

/-- Where nothing is typed the working form changes nothing. -/
theorem IsTypeless.workingAt_eq {v : Value} (typeless : v.IsTypeless) (depth : Nat) :
    workingAt depth v = v := by
  induction typeless generalizing depth with
  | list items ih =>
    rw [workingAt, workingItems_eq_self fun x member => ih x member (depth + 1)]
    split <;> rfl
  | tuple items ih =>
    rw [workingAt, workingItems_eq_self fun x member => ih x member (depth + 1)]
    split <;> rfl
  | object values ih =>
    rw [workingAt, workingEntries_eq_self fun e member => ih e member (depth + 1)]
    split <;> rfl
  | record plain => simp [workingAt, plain]
  | _ => simp [workingAt]

end Value

open Value (workingEntries declaredWorkings)

/-- Node data with its properties in working form. -/
def NodeData.asWorking (d : NodeData) : NodeData :=
  { d with props := d.props.map (workingEntries 0) }

/-- No property of a node is a typed value or has one inside. -/
def NodeData.IsTypeless (d : NodeData) : Prop :=
  ∀ ps, d.props = some ps → ∀ e ∈ ps, e.2.IsTypeless

theorem NodeData.IsTypeless.asWorking_eq {d : NodeData} (typeless : d.IsTypeless) :
    d.asWorking = d := by
  obtain ⟨label, _ | ps, events⟩ := d
  · rfl
  · have same : workingEntries 0 ps = ps :=
      Value.workingEntries_eq_self fun e member => (typeless ps rfl e member).workingAt_eq 0
    rw [asWorking, Option.map_some, same]

theorem Position.read_working (p : Position) : Position.read p.toValue.working = .ok p := rfl

theorem Action.read_working (a : Action) : Action.read a.toValue.working = .ok a := by
  rcases a with ⟨kind, _ | target, value⟩ <;> cases kind <;> rfl

theorem Handler.read_working (h : Handler) : Handler.read h.toValue.working = .ok h := by
  have gesture : Reading.oneOf Gesture.byName (.text h.gesture.name) = .ok h.gesture := by
    cases h.gesture <;> rfl
  exact read_eq_ok_iff.2 ⟨rfl, Reading.field_eq_ok_iff.2 ⟨_, rfl, gesture⟩,
    Reading.field_eq_ok_iff.2 ⟨_, rfl, h.action.read_working⟩⟩

theorem NodeData.read_working (d : NodeData) :
    NodeData.read d.toValue.working = .ok d.asWorking := by
  have handlers (hs : List Handler) : Reading.list Handler.read
      (.list (declaredWorkings 0 (hs.map Handler.toValue))) = .ok hs := by
    rw [Value.declaredWorkings_eq, List.map_map]
    exact (Reading.list_map fun h _ => h.read_working).trans (congrArg _ (List.map_id hs))
  rcases d with ⟨label, props, _ | hs⟩
  · cases props <;> rfl
  · have events : Reading.ok (NodeData.mk label (props.map (workingEntries 0))) <*>
        (some <$> Reading.list Handler.read
          (.list (declaredWorkings 0 (hs.map Handler.toValue)))).under (.name "events") =
        .ok (⟨label, props, some hs⟩ : NodeData).asWorking := by
      rw [handlers]
      rfl
    cases props <;> exact events

end EventCanvas
