import EventCanvas.Proofs.Value.Json
import EventCanvas.Upgrade

/-!
# The present form of payloads

An upgrade rewrites the type of a node, the place of its properties and its label, each of which
another rewriting may have touched before.  What comes out has the present form, and none of the
rewritings finds anything left to do in it.

* `Upgrade.isPresent_payloadFields`: an upgraded payload has the present form.
* `Upgrade.payloadFields_payloadFields`: it is not changed by another upgrade.
* `Upgrade.payload_settled`: so one upgrade is enough, and another one notes nothing.
-/

namespace EventCanvas.Upgrade

/-- The data of a node in the present form. -/
structure IsPresentData (data : Fields) : Prop where
  labelled : ∃ label, Entries.lookup "label" data = some label ∧ label ≠ .null
  typed_outside : Entries.lookup "componentType" data = none
  gathered : ∀ name ∈ presentationFields, Entries.lookup name data = none
  props : ∀ v, Entries.lookup "props" data = some v → ∃ ps, v = .object ps

/-- A node in the present form.  What is no table is no concern of an upgrade. -/
def IsPresentNode (v : Value) : Prop :=
  ∀ fs, v = .object fs →
    ∃ data, Entries.lookup "data" fs = some (.object data) ∧ IsPresentData data

variable {fs data node : Fields} {name : String}

theorem dataOf_of_lookup (found : Entries.lookup "data" node = some (.object data)) :
    dataOf node = data := by
  rw [dataOf, found]

/-! ## Properties -/

theorem misplaced_eq_nil_iff :
    misplaced data = [] ↔ ∀ name ∈ presentationFields, Entries.lookup name data = none := by
  unfold misplaced
  rw [List.filterMap_eq_nil_iff]
  simp

theorem lookup_withoutMisplaced (name : String) (data : Fields) :
    Entries.lookup name (withoutMisplaced data) =
      if presentationFields.contains name then none else Entries.lookup name data := by
  rw [withoutMisplaced, Entries.lookup_filter fun k => !presentationFields.contains k]
  cases presentationFields.contains name <;> rfl

theorem gathered_gatherProps (data : Fields) :
    ∀ name ∈ presentationFields, Entries.lookup name (gatherProps data) = none := by
  intro name presents
  have ne : name ≠ "props" := by
    rintro rfl
    revert presents
    decide
  unfold gatherProps
  split
  · next settled =>
    rw [Bool.and_eq_true, List.isEmpty_iff, misplaced_eq_nil_iff] at settled
    exact settled.1 name presents
  · rw [Entries.lookup_put_of_ne ne, lookup_withoutMisplaced,
      if_pos (List.contains_iff_mem.2 presents)]

theorem props_gatherProps {v : Value} (found : Entries.lookup "props" (gatherProps data) = some v) :
    ∃ ps, v = .object ps := by
  unfold gatherProps at found
  split at found
  · next settled =>
    rw [Bool.and_eq_true, Bool.not_eq_true', Entries.has, found] at settled
    cases settled.2
  · rw [Entries.lookup_put_self] at found
    exact ⟨_, (Option.some.inj found).symm⟩

theorem lookup_gatherProps_of_ne (ne : name ≠ "props") (other : name ∉ presentationFields) :
    Entries.lookup name (gatherProps data) = Entries.lookup name data := by
  unfold gatherProps
  split
  · rfl
  · rw [Entries.lookup_put_of_ne ne, lookup_withoutMisplaced,
      if_neg (mt List.contains_iff_mem.1 other)]

/-- Data whose properties are in their place stays. -/
theorem gatherProps_of_present (present : IsPresentData data) : gatherProps data = data := by
  unfold gatherProps
  have none : misplaced data = [] := misplaced_eq_nil_iff.2 present.gathered
  split
  · rfl
  · next unsettled =>
    have there : Entries.has "props" data = true := by simpa [none] using unsettled
    obtain ⟨v, found⟩ := Option.isSome_iff_exists.1 there
    obtain ⟨ps, rfl⟩ := present.props v found
    have same : gatheredProps data = ps := by
      rw [gatheredProps, none, propsOf, found]
      rfl
    have all : withoutMisplaced data = data := by
      refine Entries.filter_of_absent (fun k => !presentationFields.contains k) fun k presents => ?_
      exact present.gathered k (by simpa using presents)
    rw [same, all, Entries.put_of_lookup found]

/-! ## Labels -/

theorem labelled_addLabel (node data : Fields) :
    ∃ label, Entries.lookup "label" (addLabel node data) = some label ∧ label ≠ .null := by
  unfold addLabel
  split
  · exact ⟨_, Entries.lookup_put_self _ _ _, by simp⟩
  · next labelled =>
    unfold fieldOrNull at labelled
    cases found : Entries.lookup "label" data with
    | none => simp [found, Value.isNull] at labelled
    | some label =>
      refine ⟨label, rfl, ?_⟩
      rintro rfl
      simp [found, Value.isNull] at labelled

theorem lookup_addLabel_of_ne (ne : name ≠ "label") :
    Entries.lookup name (addLabel node data) = Entries.lookup name data := by
  unfold addLabel
  split
  · exact Entries.lookup_put_of_ne ne _ _
  · rfl

theorem addLabel_of_present (present : IsPresentData data) : addLabel node data = data := by
  obtain ⟨label, found, some⟩ := present.labelled
  have labelled : (fieldOrNull "label" data).isNull = false := by
    rw [fieldOrNull, found]
    cases label with
    | null => exact absurd rfl some
    | _ => rfl
  rw [addLabel, labelled]
  rfl

/-- Whatever the data of a node was, it comes out in the present form. -/
theorem isPresentData_upgraded (node data : Fields) :
    IsPresentData (addLabel node (gatherProps (Entries.remove "componentType" data))) where
  labelled := labelled_addLabel node _
  typed_outside := by
    rw [lookup_addLabel_of_ne (by decide), lookup_gatherProps_of_ne (by decide) (by decide),
      Entries.lookup_remove_self]
  gathered name presents := by
    have ne : name ≠ "label" := by
      rintro rfl
      revert presents
      decide
    rw [lookup_addLabel_of_ne ne, gathered_gatherProps _ name presents]
  props v found := by
    rw [lookup_addLabel_of_ne (by decide)] at found
    exact props_gatherProps found

/-! ## Types -/

/-- The type of a node, if it has one, is not the name of a renderer. -/
def HasSettledType (node : Fields) : Prop :=
  (Entries.lookup "type" node).bind rendererComponent? = none

theorem rendererComponent?_name (c : Component) : rendererComponent? (.text c.name) = none := by
  simp [rendererComponent?]

theorem renameType_of_known {c : Component}
    (typed : Entries.lookup "type" node = some (.text c.name)) : renameType node = node := by
  rw [renameType, typed, Option.bind_some, rendererComponent?_name]

theorem adoptType_of_known {c : Component}
    (typed : Entries.lookup "type" node = some (.text c.name)) : adoptType node = node := by
  have known : hasKnownType node = true := by
    simp [hasKnownType, typed, Component.ofValue?]
  unfold adoptType
  split
  · rw [if_pos known]
  · rfl

theorem hasSettledType_renameType (node : Fields) : HasSettledType (renameType node) := by
  unfold renameType HasSettledType
  split
  · next c _ =>
    rw [Entries.lookup_put_self]
    exact rendererComponent?_name c
  · next settled => exact settled

theorem hasSettledType_adoptType (settled : HasSettledType node) :
    HasSettledType (adoptType node) := by
  unfold adoptType
  split
  · next c _ =>
    split
    · exact settled
    · unfold HasSettledType
      rw [Entries.lookup_put_self]
      exact rendererComponent?_name c
  · exact settled

/-! ## Nodes -/

/-- A node in the present form, with a settled type, is not changed. -/
theorem nodeFields_of_present (settled : HasSettledType fs)
    (found : Entries.lookup "data" fs = some (.object data)) (present : IsPresentData data) :
    nodeFields fs = fs := by
  have renamed : renameType fs = fs := by
    rw [renameType, settled]
  have inside : dataOf fs = data := dataOf_of_lookup found
  have adopted : adoptType fs = fs := by
    rw [adoptType, innerType?, inside, present.typed_outside]
    rfl
  have kept : Entries.remove "componentType" data = data :=
    Entries.remove_of_absent present.typed_outside
  show Entries.put "data" (.object (addLabel (adoptType (renameType fs))
    (gatherProps (Entries.remove "componentType" (dataOf fs))))) (adoptType (renameType fs)) = fs
  rw [renamed, adopted, inside, kept, gatherProps_of_present present,
    addLabel_of_present present, Entries.put_of_lookup found]

theorem lookup_data_nodeFields (fs : Fields) :
    ∃ data, Entries.lookup "data" (nodeFields fs) = some (.object data) ∧ IsPresentData data :=
  ⟨_, Entries.lookup_put_self _ _ _, isPresentData_upgraded _ _⟩

theorem hasSettledType_nodeFields (fs : Fields) : HasSettledType (nodeFields fs) := by
  have settled := hasSettledType_adoptType (hasSettledType_renameType fs)
  unfold nodeFields HasSettledType
  rw [Entries.lookup_put_of_ne (by decide)]
  exact settled

theorem nodeFields_nodeFields (fs : Fields) : nodeFields (nodeFields fs) = nodeFields fs := by
  obtain ⟨data, found, present⟩ := lookup_data_nodeFields fs
  exact nodeFields_of_present (hasSettledType_nodeFields fs) found present

theorem node_node (v : Value) : Upgrade.node (Upgrade.node v) = Upgrade.node v := by
  cases v with
  | object fs => exact congrArg Value.object (nodeFields_nodeFields fs)
  | _ => rfl

theorem isPresentNode_node (v : Value) : IsPresentNode (Upgrade.node v) := by
  intro fs same
  cases v with
  | object raw =>
    obtain rfl := Value.object.inj same
    exact lookup_data_nodeFields raw
  | _ => cases same

/-! ## Payloads -/

/-- The parts of an upgraded payload are as they have to be. -/
theorem parts_eq (source : Fields) :
    ∃ xs es ss,
      parts source = [("nodes", .list xs), ("edges", .list es), ("settings", .object ss)] ∧
      ∀ x ∈ xs, Upgrade.node x = x ∧ IsPresentNode x := by
  obtain ⟨ss, settings⟩ : ∃ ss, tableOrEmpty "settings" source = .object ss := by
    unfold tableOrEmpty
    split <;> exact ⟨_, rfl⟩
  obtain ⟨es, edges⟩ : ∃ es, listOrEmpty "edges" source = .list es := by
    unfold listOrEmpty
    split <;> exact ⟨_, rfl⟩
  unfold parts
  rw [settings, edges]
  split
  · exact ⟨[], [], ss, rfl, by simp⟩
  · next xs _ =>
    refine ⟨xs.map Upgrade.node, es, ss, rfl, fun x member => ?_⟩
    obtain ⟨raw, -, rfl⟩ := List.mem_map.1 member
    exact ⟨node_node raw, isPresentNode_node raw⟩

/-- An upgraded payload begins with its parts. -/
theorem payloadFields_eq_append (source : Fields) :
    ∃ rest, payloadFields source = parts source ++ rest ∧
      (Entries.keys (parts source ++ rest)).Nodup := by
  obtain ⟨rest, grown, -, nodup⟩ := Entries.foldl_putNew_eq_append (parts source) source
  refine ⟨rest, grown, nodup ?_⟩
  obtain ⟨xs, es, ss, same, -⟩ := parts_eq source
  rw [same]
  show ["nodes", "edges", "settings"].Nodup
  decide

theorem isJson_renameType (json : (Value.object fs).IsJson) :
    (Value.object (renameType fs)).IsJson := by
  unfold renameType
  split
  · exact json.put (.text _) _
  · exact json

theorem isJson_adoptType (json : (Value.object fs).IsJson) :
    (Value.object (adoptType fs)).IsJson := by
  unfold adoptType
  split
  · split
    · exact json
    · exact json.put (.text _) _
  · exact json

theorem isJson_dataOf (json : (Value.object fs).IsJson) : (Value.object (dataOf fs)).IsJson := by
  unfold dataOf
  split
  · next found => exact json.of_lookup found
  · exact .object List.nodup_nil (by simp)

theorem isJson_gatheredProps (json : (Value.object data).IsJson) :
    (Value.object (gatheredProps data)).IsJson := by
  have props : (Value.object (propsOf data)).IsJson := by
    unfold propsOf
    split
    · next found => exact json.of_lookup found
    · exact .object List.nodup_nil (by simp)
  refine props.foldl_putNew fun e member => ?_
  obtain ⟨name, -, moved⟩ := List.mem_filterMap.1 member
  obtain ⟨v, found, rfl⟩ := Option.map_eq_some_iff.1 moved
  exact json.of_lookup found

theorem isJson_gatherProps (json : (Value.object data).IsJson) :
    (Value.object (gatherProps data)).IsJson := by
  unfold gatherProps
  split
  · exact json
  · exact (json.filter _).put (isJson_gatheredProps json) _

theorem isJson_addLabel (json : (Value.object data).IsJson) (node : Fields) :
    (Value.object (addLabel node data)).IsJson := by
  unfold addLabel
  split
  · exact json.put (.text _) _
  · exact json

theorem isJson_node {v : Value} (json : v.IsJson) : (Upgrade.node v).IsJson := by
  cases v with
  | object fs =>
    have kept : (Value.object (Entries.remove "componentType" (dataOf fs))).IsJson :=
      (isJson_dataOf json).filter _
    exact (isJson_adoptType (isJson_renameType json)).put
      (isJson_addLabel (isJson_gatherProps kept) _) _
  | _ => exact json

theorem isJson_parts (json : (Value.object fs).IsJson) : (Value.object (parts fs)).IsJson := by
  have nodes : ∀ xs, nodesOf? fs = some xs → (Value.list (xs.map Upgrade.node)).IsJson := by
    intro xs found
    unfold nodesOf? at found
    split at found
    · next there =>
      cases found
      refine .list fun x member => ?_
      obtain ⟨v, inside, rfl⟩ := List.mem_map.1 member
      exact isJson_node (Value.isJson_list_iff.1 (json.of_lookup there) v inside)
    · cases found
  have edges : (listOrEmpty "edges" fs).IsJson := by
    unfold listOrEmpty
    split
    · next found => exact json.of_lookup found
    · exact .list (by simp)
  have settings : (tableOrEmpty "settings" fs).IsJson := by
    unfold tableOrEmpty
    split
    · next found => exact json.of_lookup found
    · exact .object List.nodup_nil (by simp)
  have empty : (Value.list []).IsJson := .list (by simp)
  have distinct : ["nodes", "edges", "settings"].Nodup := by decide
  unfold parts
  split
  · exact .object distinct (by simp [empty, settings])
  · next xs found => exact .object distinct (by simp [nodes xs found, edges, settings])

theorem isJson_payload {v : Value} (json : v.IsJson) : (payload v).IsJson := by
  have source : (Value.object (sourceOf v)).IsJson := by
    unfold sourceOf
    split
    · exact json
    · exact .object List.nodup_nil (by simp)
  exact (isJson_parts source).foldl_putNew (Value.isJson_object_iff.1 source).2

theorem isJson_unwrap {v : Value} (json : v.IsJson) : (unwrap v).IsJson := by
  unfold unwrap
  split
  · split
    · next found =>
      split
      · exact json
      · exact json.of_lookup found
    · exact json
  · exact json

/-- A value of a data format is taken for a payload. -/
theorem payload?_of_isJson {v : Value} (json : v.IsJson) : payload? v = .ok (payload v) := by
  cases json <;> rfl

/-! ## Notes -/

/-- What is noted where a payload with some number of nodes was changed. -/
def migrated (count : Nat) : LogRecord :=
  ⟨.info, "migration",
    "Migrated project data to current shape (" ++ toString count ++ " nodes)", false⟩

/-- Nodes are noted one by one, and then the payload, if it is not equal to what becomes of it. -/
theorem notes_object (fs : Fields) : notes (.object fs) =
    ((nodesOf? fs).getD []).filterMap nodeNote? ++
      if (Value.object (payloadFields fs)).equal (.object fs) then []
      else [migrated (nodeCount fs)] := by
  have same : notes (.object fs) = ((nodesOf? fs).getD []).filterMap nodeNote? ++
      if !(Value.object (payloadFields fs)).equal (.object fs) then [migrated (nodeCount fs)]
      else [] := rfl
  rw [same]
  cases (Value.object (payloadFields fs)).equal (.object fs) <;> rfl

end EventCanvas.Upgrade
