import EventCanvas.Proofs.Graph.Reading

/-!
# What the check of the ids comes to

A graph is put together from its parts or read from a payload, and either way the ids of its
nodes are checked.  With a repeated id it is rejected, and the repeated ids are reported.  Without
one it is accepted as it is, and its nodes and their runtime records are found by their ids.

* `Graph.KeyedById`: how the nodes of an accepted graph and their records are found.
* `Graph.IdsChecked`: when the answer must be a rejection, what it must report then, and what must
  hold of an accepted graph.
* `Graph.ids_checked_exactly`: both ways into a project check the ids so.
-/

namespace EventCanvas.Graph

variable {g : Graph} {fields : Fields}

/-! ## Accepted graphs -/

/-- The runtime records of a graph have the ids of its nodes for their keys, in the order of the
nodes.  Each is made of the node in its place, and that node is the one found by the key. -/
structure KeyedById (g : Graph) : Prop where
  keys : Entries.keys g.runtimeNodes = g.nodeIds.map .text
  made : g.runtimeNodes = g.nodes.map fun n => (.text n.id, runtimeRecord n.data)
  found : ∀ n ∈ g.nodes, g.node? n.id = some n

theorem keyedById_of_nodup (distinct : g.nodeIds.Nodup) : g.KeyedById where
  keys := keys_runtimeNodes distinct
  made := runtimeNodes_eq_map distinct
  found _ member := node?_of_mem distinct member

/-! ## Exact checks -/

variable {α : Type} {accept : Graph → α} {refuse : List String → α} {answer : α}

/-- The answer to a graph that its ids call for, where one kind of answer accepts a graph and
another one reports repeated ids. -/
structure IdsChecked (g : Graph) (accept : Graph → α) (refuse : List String → α) (answer : α) :
    Prop where
  rejects : (¬∃ h, answer = accept h) ↔ ∃ id, 2 ≤ g.nodeIds.count id
  reports : (¬∃ h, answer = accept h) → ∃ ids, Repeats g.nodeIds ids ∧ answer = refuse ids
  accepts : ∀ h, answer = accept h → h = g ∧ h.KeyedById

/-- The ids are checked if a graph whose ids differ is accepted, and any other one is rejected
with what the walk over its ids reports. -/
theorem idsChecked_of_answer (injective : ∀ {h k}, accept h = accept k → h = k)
    (apart : ∀ ids h, refuse ids ≠ accept h) (done : g.nodeIds.Nodup → answer = accept g)
    (refused : ¬g.nodeIds.Nodup → answer = refuse (repeatedIds g.nodeIds)) :
    IdsChecked g accept refuse answer := by
  by_cases distinct : g.nodeIds.Nodup
  · have accepted : ¬¬∃ h, answer = accept h := not_not.2 ⟨g, done distinct⟩
    refine ⟨iff_of_false accepted ?_, fun rejected => absurd rejected accepted, ?_⟩
    · exact mt not_nodup_iff_repeated.2 (not_not.2 distinct)
    · intro h same
      obtain rfl : g = h := injective ((done distinct).symm.trans same)
      exact ⟨rfl, keyedById_of_nodup distinct⟩
  · have report := refused distinct
    have rejected : ¬∃ h, answer = accept h := by
      rintro ⟨h, same⟩
      exact apart _ h (report.symm.trans same)
    refine ⟨iff_of_true rejected (not_nodup_iff_repeated.1 distinct), ?_, ?_⟩
    · intro _
      exact ⟨_, repeats_repeatedIds g.nodeIds, report⟩
    · intro h same
      exact absurd ⟨h, same⟩ rejected

/-! ## The two ways in -/

/-- What is said of repeated ids in the place of a whole payload. -/
def repeatedText (ids : List String) : String :=
  "<root>: Value error, duplicate node ids: " ++ ", ".intercalate ids

theorem place_root (problem : Problem) (input : Value) :
    Issue.place ⟨[], problem, input⟩ = "<root>" := by
  simp [Issue.place]

theorem text_duplicateIds (ids : List String) (input : Value) :
    Issue.text ⟨[], .duplicateIds ids, input⟩ = repeatedText ids := by
  let joined := ", ".intercalate ids
  have start : "<root>" ++ ": " ++ "Value error, duplicate node ids: " =
      "<root>: Value error, duplicate node ids: " := by simp
  calc Issue.text ⟨[], .duplicateIds ids, input⟩
    _ = "<root>" ++ ": " ++ ("Value error, duplicate node ids: " ++ joined) :=
      congrArg (· ++ ": " ++ (Problem.duplicateIds ids).message) (place_root _ input)
    _ = "<root>" ++ ": " ++ "Value error, duplicate node ids: " ++ joined :=
      String.append_assoc.symm
    _ = repeatedText ids := congrArg (· ++ joined) start

/-- Once the parts of a graph are read from a payload, all that can be wrong is a repeated id. -/
theorem validate_of_not_nodup (parts : readParts (.object fields) = .ok g)
    (repeated : ¬g.nodeIds.Nodup) :
    validate (.object fields) = .error (.invalidProject [repeatedText (repeatedIds g.nodeIds)]) := by
  have checked : read (.object fields) =
      .issue (.duplicateIds (repeatedIds g.nodeIds)) (.object fields) := by
    show (readParts (.object fields)).andThen (checkIds (.object fields)) = _
    rw [parts]
    exact checkIds_of_not_nodup repeated _
  have admitted : Reading.admits .graph (.object fields) = true := rfl
  rw [validate, if_pos admitted, checked, ← text_duplicateIds _ (.object fields)]
  rfl

/-- Whether a graph is put together or read from a payload, it is rejected just if an id occurs
at least twice among its nodes.  Then just the ids that do are reported, each once, in the order
of their second places; and the nodes of an accepted graph are found by their ids. -/
theorem ids_checked_exactly (g : Graph) :
    IdsChecked g .ok (fun ids => .issue (.duplicateIds ids) g.toValue)
      (ofParts g.nodes g.edges g.settings) ∧
    ∀ fields, readParts (.object fields) = .ok g →
      IdsChecked g .ok (fun ids => .error (.invalidProject [repeatedText ids]))
        (validate (.object fields)) := by
  constructor
  · apply idsChecked_of_answer Reading.ok.inj
    · intro ids h no
      cases no
    · intro distinct
      exact checkIds_eq_ok_iff.2 ⟨rfl, distinct⟩
    · intro repeated
      exact checkIds_of_not_nodup repeated g.toValue
  · intro fields parts
    apply idsChecked_of_answer Except.ok.inj
    · intro ids h no
      cases no
    · intro distinct
      exact validate_eq_ok_iff.2 ⟨rfl, parts, distinct⟩
    · exact validate_of_not_nodup parts

/-- The payload of a graph of texts with some ids. -/
def textsPayload (ids : List String) : Fields :=
  [("nodes", .list (ids.map fun id => .object
    [("id", .text id), ("type", .text "text"),
      ("position", .object [("x", .int 0), ("y", .int 0)]),
      ("data", .object [("label", .text id)])]))]

/-- A graph of texts with some ids. -/
def texts (ids : List String) : Graph :=
  ⟨ids.map fun id => ⟨id, .text, ⟨.zero false, .zero false⟩, ⟨id, none, none⟩⟩, [], .initial⟩

/-- Two ids come again in the other order, and one of them a third time; without the repeats the
rest is found by its ids. -/
theorem ids_checked_exactly_crosswise :
    readParts (.object (textsPayload ["a", "b", "b", "c", "a", "b"])) =
        .ok (texts ["a", "b", "b", "c", "a", "b"]) ∧
      validate (.object (textsPayload ["a", "b", "b", "c", "a", "b"])) =
        .error (.invalidProject ["<root>: Value error, duplicate node ids: b, a"]) ∧
      ofParts (texts ["b", "c", "a"]).nodes [] .initial = .ok (texts ["b", "c", "a"]) ∧
      Entries.keys (texts ["b", "c", "a"]).runtimeNodes = [.text "b", .text "c", .text "a"] := by
  have parts : readParts (.object (textsPayload ["a", "b", "b", "c", "a", "b"])) =
      .ok (texts ["a", "b", "b", "c", "a", "b"]) := by rfl
  have checked := (ids_checked_exactly _).2 _ parts
  have rejected := checked.rejects.2 ⟨"a", by decide⟩
  obtain ⟨ids, report, said⟩ := checked.reports rejected
  have reported : ids = ["b", "a"] := report.unique (repeats_repeatedIds _)
  subst reported
  have accepted : ofParts (texts ["b", "c", "a"]).nodes [] .initial =
      .ok (texts ["b", "c", "a"]) := by rfl
  have keyed := ((ids_checked_exactly (texts ["b", "c", "a"])).1.accepts _ accepted).2
  exact ⟨parts, said, accepted, keyed.keys⟩

end EventCanvas.Graph
