import EventCanvas.Lint

/-!
# Warnings as findings

The warnings about a graph are texts.  A `Finding` is what such a text says: which
event of which node it is about, and what is wrong with it.

* `Lint.warnings_eq`: the warnings about a graph are those about its edges and
  then the texts of its findings.
* `Lint.countP_findings`: how many findings there are of one kind about the events
  of one kind of a node whose id no other node has.
-/

namespace EventCanvas.Lint

/-- What may be wrong with a handler. -/
inductive Concern where
  | neverEmitted (component : Component) (gesture : Gesture)
  | unknownTarget (target : String)
  | noVariable
  | unknownReference (name : String)
deriving DecidableEq

namespace Concern

/-- How a warning puts it. -/
def text : Concern → String
  | neverEmitted component gesture => "a " ++ component.name ++ " never emits " ++ gesture.name
  | unknownTarget target => "setText target " ++ target ++ " does not exist"
  | noVariable => "setVariable has no target variable"
  | unknownReference name => "placeholder #\x7b" ++ name ++ "\x7d names no node"

/-- Whether it is about where an action is aimed, so that the action is skipped when it is run. -/
def isMisaimed : Concern → Bool
  | unknownTarget _ | noVariable => true
  | neverEmitted .. | unknownReference _ => false

end Concern

/-- Something that is wrong with the handler at an index of a node. -/
structure Finding where
  node : String
  index : Nat
  gesture : Gesture
  concern : Concern
deriving DecidableEq

/-- The warning that a finding is told as. -/
def Finding.text (f : Finding) : String :=
  "node " ++ f.node ++ " event #" ++ toString f.index ++ " (" ++ f.gesture.name ++ "): " ++
    f.concern.text

/-! ## The concerns of a handler -/

/-- Why an action is aimed at nothing, if it is. -/
def misaimed? (ids : List String) (a : Action) : Option Concern :=
  match a.kind, namedTarget? a with
  | .setText, some t => if ids.contains t then none else some (.unknownTarget t)
  | .setVariable, none => some .noVariable
  | _, _ => none

/-- The references of an action that name no node. -/
def unknownReferences (ids : List String) (a : Action) : List Concern :=
  (Placeholder.placeholders a.value ++ Placeholder.placeholders (a.target.getD "")).filterMap
    fun (source, name) =>
      if source = .node && !ids.contains name then some (.unknownReference name) else none

/-- What is wrong with a handler of a component. -/
def concerns (ids : List String) (component : Component) (h : Handler) : List Concern :=
  (if (emitted component).contains h.gesture then [] else [.neverEmitted component h.gesture]) ++
    (misaimed? ids h.action).toList ++ unknownReferences ids h.action

/-- What is wrong with the handlers of a node. -/
def nodeFindings (ids : List String) (n : Node) : List Finding :=
  n.data.handlers.zipIdx.flatMap fun (h, i) =>
    (concerns ids n.component h).map fun c => ⟨n.id, i, h.gesture, c⟩

/-- What is wrong with the handlers of a graph. -/
def findings (g : Graph) : List Finding := g.nodes.flatMap (nodeFindings g.nodeIds)

/-! ## Findings and warnings -/

theorem misaimed_text (ids : List String) (a : Action) :
    missingNode ids a ++ missingVariable a = (misaimed? ids a).toList.map Concern.text := by
  unfold missingNode missingVariable misaimed?
  cases a.kind with
  | showAlert => rfl
  | setText =>
    cases namedTarget? a with
    | none => rfl
    | some t =>
      dsimp only
      split <;> rfl
  | setVariable =>
    cases namedTarget? a with
    | none => rfl
    | some t => rfl

theorem unknownReferences_text (ids : List String) (a : Action) :
    missingReferences ids a = (unknownReferences ids a).map Concern.text := by
  unfold missingReferences unknownReferences
  rw [List.map_filterMap]
  refine congrArg (List.filterMap · _) (funext fun reference => ?_)
  dsimp only
  split <;> rfl

theorem handlerWarnings_eq (ids : List String) (n : Node) (h : Handler) :
    handlerWarnings ids n h = (concerns ids n.component h).map Concern.text := by
  have emits : neverEmitted n h =
      (if (emitted n.component).contains h.gesture then []
        else [Concern.neverEmitted n.component h.gesture]).map Concern.text := by
    unfold neverEmitted
    split <;> rfl
  unfold handlerWarnings concerns
  rw [List.append_assoc (neverEmitted n h), emits, misaimed_text, unknownReferences_text,
    List.map_append, List.map_append]

theorem handlersFrom_eq (ids : List String) (n : Node) (i : Nat) (hs : List Handler) :
    handlersFrom ids n i hs = ((hs.zipIdx i).flatMap fun (h, i) =>
      (concerns ids n.component h).map fun c => (⟨n.id, i, h.gesture, c⟩ : Finding)).map
        Finding.text := by
  induction hs generalizing i with
  | nil => rfl
  | cons h hs ih =>
    have here : (handlerWarnings ids n h).map (place n i h ++ ": " ++ ·) =
        ((concerns ids n.component h).map fun c => (⟨n.id, i, h.gesture, c⟩ : Finding)).map
          Finding.text := by
      rw [handlerWarnings_eq, List.map_map, List.map_map]
      refine congrArg (List.map · _) (funext fun c => ?_)
      show place n i h ++ ": " ++ c.text = Finding.text ⟨n.id, i, h.gesture, c⟩
      simp only [place, Finding.text, String.append_assoc]
      rfl
    rw [handlersFrom, here, ih, List.zipIdx_cons, List.flatMap_cons, List.map_append]

/-- The warnings about a graph are those about its edges, and the texts of its findings. -/
theorem warnings_eq (g : Graph) :
    warnings g = g.danglingEdges.map (edgeWarning g.nodeIds) ++ (findings g).map Finding.text := by
  unfold warnings findings
  rw [List.map_flatMap]
  refine congrArg (_ ++ List.flatMap · _) (funext fun n => ?_)
  exact handlersFrom_eq g.nodeIds n 0 n.data.handlers

/-! ## Counting findings -/

/-- The finding is about where an action is aimed that an event of the given kind runs on the given
node. -/
def Finding.isAbout (node : String) (gesture : Gesture) (f : Finding) : Bool :=
  f.node = node && f.gesture = gesture && f.concern.isMisaimed

theorem isMisaimed_of_misaimed? {ids : List String} {a : Action} {c : Concern}
    (found : misaimed? ids a = some c) : c.isMisaimed = true := by
  unfold misaimed? at found
  split at found
  · split at found
    · cases found
    · cases found
      rfl
  · cases found
    rfl
  · cases found

/-- Of the concerns of a handler one at most is about where its action is aimed. -/
theorem countP_concerns (ids : List String) (component : Component) (h : Handler) :
    (concerns ids component h).countP Concern.isMisaimed =
      (misaimed? ids h.action).toList.length := by
  have emits : (if (emitted component).contains h.gesture then []
      else [Concern.neverEmitted component h.gesture]).countP Concern.isMisaimed = 0 := by
    split <;> rfl
  have aimed : (misaimed? ids h.action).toList.countP Concern.isMisaimed =
      (misaimed? ids h.action).toList.length :=
    List.countP_eq_length.2 fun c member => isMisaimed_of_misaimed? (Option.mem_toList.1 member)
  have refers : (unknownReferences ids h.action).countP Concern.isMisaimed = 0 := by
    refine List.countP_eq_zero.2 fun c member => ?_
    obtain ⟨reference, -, found⟩ := List.mem_filterMap.1 member
    dsimp only at found
    split at found
    · cases found
      simp [Concern.isMisaimed]
    · cases found
  rw [concerns, List.countP_append, List.countP_append, emits, aimed, refers]
  omega

/-- The concerns about where actions are aimed that events of one kind run. -/
def misaimed (ids : List String) (gesture : Gesture) (hs : List Handler) : List Concern :=
  (hs.filter fun h => h.gesture = gesture).filterMap fun h => misaimed? ids h.action

theorem countP_nodeFindings_self (ids : List String) (n : Node) (gesture : Gesture) :
    (nodeFindings ids n).countP (Finding.isAbout n.id gesture) =
      (misaimed ids gesture n.data.handlers).length := by
  have from_index (i : Nat) (hs : List Handler) :
      ((hs.zipIdx i).flatMap fun (h, i) => (concerns ids n.component h).map fun c =>
        (⟨n.id, i, h.gesture, c⟩ : Finding)).countP (Finding.isAbout n.id gesture) =
        (misaimed ids gesture hs).length := by
    induction hs generalizing i with
    | nil => rfl
    | cons h hs ih =>
      rw [List.zipIdx_cons, List.flatMap_cons, List.countP_append, ih, List.countP_map]
      by_cases due : h.gesture = gesture
      · have counts : Finding.isAbout n.id gesture ∘ (fun c => ⟨n.id, i, h.gesture, c⟩) =
            Concern.isMisaimed := by
          funext c
          simp [Finding.isAbout, due]
        rw [counts, countP_concerns, misaimed, misaimed,
          List.filter_cons_of_pos (by simpa using due)]
        cases found : misaimed? ids h.action with
        | none => simp [found]
        | some c =>
          simp only [List.filterMap_cons, found, Option.toList_some, List.length_cons,
            List.length_nil]
          omega
      · have never : Finding.isAbout n.id gesture ∘ (fun c => ⟨n.id, i, h.gesture, c⟩) =
            fun _ => false := by
          funext c
          simp [Finding.isAbout, due]
        rw [never, misaimed, misaimed, List.filter_cons_of_neg (by simpa using due)]
        simp
  exact from_index 0 n.data.handlers

theorem countP_nodeFindings_of_ne (ids : List String) (n : Node) {node : String}
    (ne : n.id ≠ node) (gesture : Gesture) :
    (nodeFindings ids n).countP (Finding.isAbout node gesture) = 0 := by
  refine List.countP_eq_zero.2 fun f member => ?_
  obtain ⟨handler, -, member⟩ := List.mem_flatMap.1 member
  obtain ⟨c, -, rfl⟩ := List.mem_map.1 member
  simp [Finding.isAbout, ne]

/-- The findings about where actions are aimed are counted at the one node that has an id. -/
theorem countP_findings {g : Graph} (nodup : g.nodeIds.Nodup) {n : Node} (member : n ∈ g.nodes)
    (gesture : Gesture) :
    (findings g).countP (Finding.isAbout n.id gesture) =
      (misaimed g.nodeIds gesture n.data.handlers).length := by
  obtain ⟨before, after, split⟩ := List.append_of_mem member
  have ids : (before.map Node.id ++ n.id :: after.map Node.id).Nodup := by
    rwa [Graph.nodeIds, split, List.map_append, List.map_cons] at nodup
  have others (ns : List Node) (apart : n.id ∉ ns.map Node.id) :
      (ns.flatMap (nodeFindings g.nodeIds)).countP (Finding.isAbout n.id gesture) = 0 := by
    refine List.countP_eq_zero.2 fun f found => ?_
    obtain ⟨m, there, found⟩ := List.mem_flatMap.1 found
    have ne : m.id ≠ n.id := fun same => apart (same ▸ List.mem_map_of_mem there)
    exact List.countP_eq_zero.1 (countP_nodeFindings_of_ne g.nodeIds m ne gesture) f found
  rw [List.perm_middle.nodup_iff, List.nodup_cons, List.mem_append, not_or] at ids
  rw [findings, split, List.flatMap_append, List.flatMap_cons, List.countP_append,
    List.countP_append, others before ids.1.1, others after ids.1.2, countP_nodeFindings_self]
  omega

end EventCanvas.Lint
