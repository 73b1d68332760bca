import EventCanvas.Lint
import EventCanvas.Proofs.Graph.Reading
import EventCanvas.Proofs.Graph.Storage

/-!
# Graphs that were read

A graph that was read from a payload of a data format holds values of that format.  So all that can
keep it from being stored is the depth of its values, and what it is stored as is accepted again.

* `Graph.stored_loads_back`: with finite numbers, the stored form is not changed by an upgrade and
  loads as the same graph.
* `Graph.stored_accepted`: whatever its numbers, the stored form is accepted, and has the same
  nodes.
-/

namespace EventCanvas

/-! ## The values of a graph that was read -/

section Read

variable {v : Value} (json : v.IsJson)

include json

theorem NodeData.isJson_of_read {d : NodeData} (done : NodeData.read v = .ok d) {ps : Fields}
    (props : d.props = some ps) : (Value.object ps).IsJson := by
  obtain ⟨-, -, read, -⟩ := NodeData.read_eq_ok_iff.1 done
  rw [props] at read
  rcases Reading.of_fieldD_eq_ok read with absent | ⟨name, w, there, read⟩
  · cases absent
  · rcases Reading.optional_eq_ok read with absent | ⟨fs, same, read⟩
    · cases absent
    · cases same
      rw [Reading.table_eq_ok_iff] at read
      exact read ▸ json.of_lookup_fields there

theorem Node.isJson_of_read {n : Node} (done : Node.read v = .ok n) {ps : Fields}
    (props : n.data.props = some ps) : (Value.object ps).IsJson := by
  obtain ⟨-, -, -, -, read⟩ := Node.read_eq_ok_iff.1 done
  obtain ⟨w, there, read⟩ := Reading.field_eq_ok_iff.1 read
  exact NodeData.isJson_of_read (json.of_lookup_fields there) read props

theorem Settings.isJson_of_read {s : Settings} (done : Settings.read v = .ok s) :
    (Value.object s.vars).IsJson := by
  obtain ⟨-, -, -, read⟩ := Settings.read_eq_ok_iff.1 done
  rcases Reading.of_fieldD_eq_ok read with none | ⟨name, w, there, read⟩
  · rw [none]
    exact .object List.nodup_nil (by simp)
  · rw [Reading.table_eq_ok_iff] at read
    exact read ▸ json.of_lookup_fields there

theorem Graph.isJson_of_readParts {g : Graph} (done : Graph.readParts v = .ok g) : g.IsJson := by
  obtain ⟨listed, -, read⟩ := Graph.readParts_eq_ok_iff.1 done
  intro fs member
  rcases List.mem_append.1 member with inside | last
  · obtain ⟨n, there, props⟩ := List.mem_filterMap.1 inside
    rcases Reading.of_fieldD_eq_ok listed with none | ⟨name, w, found, listed⟩
    · rw [none] at there
      cases there
    · obtain ⟨x, item, read⟩ :=
        Reading.of_list_eq_ok (json.of_lookup_fields found) listed n there
      exact Node.isJson_of_read item read props
  · obtain rfl := List.mem_singleton.1 last
    rcases Reading.of_fieldD_eq_ok read with initial | ⟨name, w, found, read⟩
    · rw [initial]
      exact .object List.nodup_nil (by simp [Settings.initial])
    · exact Settings.isJson_of_read (json.of_lookup_fields found) read

end Read

/-! ## Too deep to be stored -/

namespace Graph

/-- The payload with one variable, whose value is inside a number of lists. -/
def nestedPayload (n : Nat) : Value :=
  .object
    [("nodes", .list []), ("edges", .list []),
      ("settings", .object
        [("theme", .text "light"), ("previewMode", .bool false),
          ("variables", .object [("v", .wrapped n (.int 1))])])]

/-- The graph with one variable, whose value is inside a number of lists. -/
def nested (n : Nat) : Graph := ⟨[], [], ⟨.light, false, [("v", .wrapped n (.int 1))]⟩⟩

theorem isJson_nestedPayload (n : Nat) : (nestedPayload n).IsJson := by
  simp [nestedPayload, Entries.keys]

theorem validate_nestedPayload (n : Nat) : validate (nestedPayload n) = .ok (nested n) := rfl

theorem load_nestedPayload (n : Nat) :
    Upgrade.load (Upgrade.unwrap (nestedPayload n)) = .ok (nested n) := rfl

theorem isFinite_nested (n : Nat) : (nested n).IsFinite where
  positions := by simp [nested]
  values := by simp [nested, tables]

theorem isShallow_nested_iff {n : Nat} : (nested n).IsShallow ↔ n < Value.maxDepth := by
  have depth : (Value.object (nested n).settings.vars).nesting = n + 1 := by
    show max ((Value.wrapped n (.int 1)).nesting + 1) 0 = n + 1
    rw [Value.nesting_wrapped, Nat.max_zero]
    rfl
  show (∀ fs ∈ [(nested n).settings.vars], _) ↔ _
  rw [List.forall_mem_singleton, depth]
  rfl

theorem stored?_nested_of_le {n : Nat} (deep : Value.maxDepth ≤ n) :
    (nested n).stored? = .error .tooDeep := by
  have json : (nested n).IsJson :=
    isJson_of_readParts (isJson_nestedPayload n)
      (validate_eq_ok_iff.1 (validate_nestedPayload n)).2.1
  exact stored?_of_not_shallow json fun shallow =>
    absurd (isShallow_nested_iff.1 shallow) (Nat.not_lt.2 deep)

/-! ## Stored and loaded again -/

variable {raw : Value} {g : Graph}

/-- A graph that was read from a payload, with finite numbers, is stored in a form that an upgrade
leaves alone and that loads as the same graph, unless its values are too deep to be stored. -/
theorem stored_loads_back (json : raw.IsJson) (valid : validate raw = .ok g)
    (finite : g.IsFinite) :
    (g.IsShallow → ∃ w, g.stored? = .ok w ∧ Upgrade.payload? w = .ok w ∧
      Upgrade.load w = .ok g) ∧
    (¬ g.IsShallow → g.stored? = .error .tooDeep) := by
  obtain ⟨-, read, nodup⟩ := validate_eq_ok_iff.1 valid
  have values := isJson_of_readParts json read
  refine ⟨fun shallow => ⟨g.stored, stored?_of_shallow values shallow, g.payload?_stored, ?_⟩,
    stored?_of_not_shallow values⟩
  rw [load_stored nodup, asStored_eq_self values finite]

/-- A payload with numbers and a truth value in other forms, with nulls and without edges. -/
def lenientPayload : Value :=
  .object
    [("nodes", .list [.object
        [("id", .text "b"), ("type", .text "button"),
          ("position", .object [("x", .int 10), ("y", .bool true)]),
          ("data", .object
            [("label", .text "Go"), ("props", .object [("variant", .null)]),
              ("events", .list [.object
                [("type", .text "onClick"),
                  ("action", .object
                    [("type", .text "setText"), ("target", .null), ("value", .text "hi")])]])])]]),
      ("settings", .object
        [("preview_mode", .text "Yes"), ("variables", .object [("rows", .list [.int 1, .null])])])]

/-- The graph in that payload. -/
def lenientGraph : Graph :=
  ⟨[⟨"b", .button, ⟨Double.ofRatio false 10 1, Double.ofRatio false 1 1⟩,
      ⟨"Go", some [("variant", .null)], some [⟨.click, ⟨.setText, none, "hi"⟩⟩]⟩⟩], [],
    ⟨.light, true, [("rows", .list [.int 1, .null])]⟩⟩

theorem stored_loads_back_lenient :
    lenientPayload.IsJson ∧ validate lenientPayload = .ok lenientGraph ∧ lenientGraph.IsFinite ∧
    ∃ w, lenientGraph.stored? = .ok w ∧ Upgrade.payload? w = .ok w ∧
      Upgrade.load w = .ok lenientGraph := by
  have json : lenientPayload.IsJson := by simp [lenientPayload, Entries.keys]
  have valid : validate lenientPayload = .ok lenientGraph := by rfl
  have finite : lenientGraph.IsFinite :=
    { positions := by simpa [lenientGraph] using by decide
      values := by simp [lenientGraph, tables] }
  exact ⟨json, valid, finite, (stored_loads_back json valid finite).1 (by decide)⟩

/-- Not every graph that was read from a payload has a stored form. -/
theorem stored_loads_back_fails :
    (nestedPayload 255).IsJson ∧ validate (nestedPayload 255) = .ok (nested 255) ∧
    (nested 255).IsFinite ∧
    ¬ ∃ w, (nested 255).stored? = .ok w ∧ Upgrade.payload? w = .ok w ∧
      Upgrade.load w = .ok (nested 255) := by
  refine ⟨isJson_nestedPayload 255, validate_nestedPayload 255, isFinite_nested 255, ?_⟩
  rintro ⟨w, stored, -⟩
  rw [stored?_nested_of_le (Nat.le_refl 255)] at stored
  cases stored

/-- What a payload that was accepted is stored as is accepted again, as it is and by the checks,
and has the same nodes, unless its values are too deep to be stored. -/
theorem stored_accepted (json : raw.IsJson) (loaded : Upgrade.load (Upgrade.unwrap raw) = .ok g) :
    (g.IsShallow → ∃ w h, g.stored? = .ok w ∧ Upgrade.load (Upgrade.unwrap w) = .ok h ∧
      h.nodeIds = g.nodeIds ∧ Lint.check w = .ok ⟨some h, [], Lint.warnings h⟩) ∧
    (¬ g.IsShallow → g.stored? = .error .tooDeep) := by
  have inner := Upgrade.isJson_unwrap json
  have valid : validate (Upgrade.payload (Upgrade.unwrap raw)) = .ok g := by
    rw [Upgrade.load, Upgrade.payload?_of_isJson inner] at loaded
    exact loaded
  obtain ⟨-, read, nodup⟩ := validate_eq_ok_iff.1 valid
  have values := isJson_of_readParts (Upgrade.isJson_payload inner) read
  refine ⟨fun shallow => ?_, stored?_of_not_shallow values⟩
  have again : Upgrade.load (Upgrade.unwrap g.stored) = .ok (g.asStored .compact) := by
    rw [unwrap_stored, load_stored nodup]
  refine ⟨g.stored, g.asStored .compact, stored?_of_shallow values shallow, again,
    g.nodeIds_asStored .compact, ?_⟩
  rw [Lint.check, again]

/-- A project row with an early payload, in which one number is infinite. -/
def earlyRow : Value :=
  .object
    [("name", .text "demo"),
      ("data", .object
        [("nodes", .list [.object
          [("id", .text "t"), ("type", .text "textNode"),
            ("position", .object [("x", .int 0), ("y", .int 0)]),
            ("data", .object
              [("text", .text "Hi"), ("fontSize", .float (.infinity false))])]])])]

/-- The graph in that row. -/
def earlyGraph : Graph :=
  ⟨[⟨"t", .text, ⟨.zero false, .zero false⟩,
      ⟨"text-t", some [("text", .text "Hi"), ("fontSize", .float (.infinity false))], none⟩⟩], [],
    Settings.initial⟩

theorem stored_accepted_early :
    earlyRow.IsJson ∧ Upgrade.load (Upgrade.unwrap earlyRow) = .ok earlyGraph ∧
    ∃ w h, earlyGraph.stored? = .ok w ∧ Upgrade.load (Upgrade.unwrap w) = .ok h ∧
      h.nodeIds = earlyGraph.nodeIds ∧ Lint.check w = .ok ⟨some h, [], Lint.warnings h⟩ := by
  have json : earlyRow.IsJson := by simp [earlyRow, Entries.keys]
  have loaded : Upgrade.load (Upgrade.unwrap earlyRow) = .ok earlyGraph := by rfl
  exact ⟨json, loaded, (stored_accepted json loaded).1 (by decide)⟩

/-- Not every graph in an accepted payload can be stored to be accepted again. -/
theorem stored_accepted_fails :
    (nestedPayload 255).IsJson ∧
    Upgrade.load (Upgrade.unwrap (nestedPayload 255)) = .ok (nested 255) ∧
    ¬ ∃ w h, (nested 255).stored? = .ok w ∧ Upgrade.load (Upgrade.unwrap w) = .ok h ∧
      h.nodeIds = (nested 255).nodeIds := by
  refine ⟨isJson_nestedPayload 255, load_nestedPayload 255, ?_⟩
  rintro ⟨w, h, stored, -⟩
  rw [stored?_nested_of_le (Nat.le_refl 255)] at stored
  cases stored

end Graph

end EventCanvas
