import EventCanvas.Proofs.Document.Editing
import Mathlib.Data.List.Perm.Subperm
import Mathlib.Data.Nat.Find

/-!
# The id of a new node

A new node is given the first of a row of candidates that is not taken.  The row is
settled by the clock, which is read once for every candidate and may show anything:
stand still, repeat itself or go backwards.  No candidate comes up twice all the same.
The first has no dash behind its time, and each of the others ends in a dash and its
own number, whatever digits the time before it has.

* `Document.candidate_injective`: the candidates differ, for any clock.
* `Document.exists_isFirstFree`: so among one more candidates than there are ids, one
  is free.
* `Document.freshId_eq`: the search stops at the first of them.
* `Document.createNode_appends`: creating a node always succeeds and appends it.
-/

namespace EventCanvas

/-- The clock after some more readings were taken. -/
def Clock.after (n : Nat) (clock : Clock) : Clock := { clock with taken := clock.taken + n }

namespace Document

variable {taken : List String} {c : Component} {clock : Clock}

/-- The id that is tried after a number of others. -/
def candidate (c : Component) (clock : Clock) : Nat → String
  | 0 => timedId c clock.millis
  | attempt + 1 => numberedId c (clock.after (attempt + 1)).millis (attempt + 1)

/-- A candidate is not taken, and all that are tried before it are. -/
structure IsFirstFree (taken : List String) (c : Component) (clock : Clock) (tries : Nat) :
    Prop where
  free : candidate c clock tries ∉ taken
  least : ∀ i < tries, candidate c clock i ∈ taken

/-! ## Dashes in written numbers -/

theorem dash_not_mem_toString (n : Nat) : '-' ∉ (toString n).toList := by
  rw [Nat.toString_eq_repr, Nat.toList_repr]
  intro dash
  have digit := Nat.isDigit_of_mem_toDigits (by decide) (by decide) dash
  exact absurd digit (by decide)

/-- A written number has a dash nowhere but at its front. -/
theorem toString_eq_cons (millis : Int) :
    ∃ first rest, (toString millis).toList = first :: rest ∧ '-' ∉ rest := by
  cases millis with
  | ofNat n =>
    have clean := dash_not_mem_toString n
    obtain ⟨first, rest, written⟩ : ∃ first rest, (toString n).toList = first :: rest := by
      rw [Nat.toString_eq_repr, Nat.toList_repr]
      exact List.exists_cons_of_ne_nil Nat.toDigits_ne_nil
    rw [written] at clean
    exact ⟨first, rest, written, fun dash => clean (List.mem_cons_of_mem first dash)⟩
  | negSucc n =>
    refine ⟨'-', (toString (n + 1)).toList, ?_, dash_not_mem_toString (n + 1)⟩
    show ("-" ++ toString (n + 1)).toList = _
    rw [String.toList_append]
    rfl

/-- What comes after the last dash is settled by the whole. -/
theorem eq_of_append_dash_eq {front front' back back' : List Char} (clean : '-' ∉ back)
    (clean' : '-' ∉ back') (same : front ++ '-' :: back = front' ++ '-' :: back') :
    back = back' := by
  rcases List.append_eq_append_iff.1 same with ⟨between, -, rest⟩ | ⟨between, -, rest⟩
  · cases between with
    | nil => exact (List.cons.inj rest).2
    | cons d between =>
      refine absurd ?_ clean
      rw [(List.cons.inj rest).2]
      simp
  · cases between with
    | nil => exact (List.cons.inj rest).2.symm
    | cons d between =>
      refine absurd ?_ clean'
      rw [(List.cons.inj rest).2]
      simp

/-! ## The candidates differ -/

theorem toList_timedId (c : Component) (millis : Int) :
    (timedId c millis).toList = c.name.toList ++ '-' :: (toString millis).toList := by
  simp [timedId]

theorem toList_numberedId (c : Component) (millis : Int) (attempt : Nat) :
    (numberedId c millis attempt).toList =
      (timedId c millis).toList ++ '-' :: (toString attempt).toList := by
  simp [numberedId]

/-- Behind the time of the first candidate there is no dash, behind the time of any other there
is. -/
theorem timedId_ne_numberedId (c : Component) (millis millis' : Int) (attempt : Nat) :
    timedId c millis ≠ numberedId c millis' attempt := by
  intro same
  have whole := congrArg String.toList same
  obtain ⟨first, rest, written, clean⟩ := toString_eq_cons millis
  obtain ⟨first', rest', written', -⟩ := toString_eq_cons millis'
  rw [toList_numberedId, toList_timedId, toList_timedId, List.append_assoc, written, written',
    List.cons_append, List.cons_append] at whole
  have times := (List.cons.inj (List.append_cancel_left whole)).2
  refine clean ?_
  rw [(List.cons.inj times).2]
  simp

/-- The number at the end tells the other candidates apart. -/
theorem attempt_eq_of_numberedId_eq {millis millis' : Int} {attempt attempt' : Nat}
    (same : numberedId c millis attempt = numberedId c millis' attempt') : attempt = attempt' := by
  have whole := congrArg String.toList same
  rw [toList_numberedId, toList_numberedId] at whole
  have digits := eq_of_append_dash_eq (dash_not_mem_toString attempt)
    (dash_not_mem_toString attempt') whole
  rw [Nat.toString_eq_repr, Nat.toString_eq_repr, Nat.toList_repr, Nat.toList_repr] at digits
  have read := congrArg (Nat.ofDigitChars 10 · 0) digits
  simpa using read

theorem candidate_injective (c : Component) (clock : Clock) :
    Function.Injective (candidate c clock) := by
  intro i j same
  cases i with
  | zero =>
    cases j with
    | zero => rfl
    | succ j => exact absurd same (timedId_ne_numberedId c _ _ _)
  | succ i =>
    cases j with
    | zero => exact absurd same.symm (timedId_ne_numberedId c _ _ _)
    | succ j => exact attempt_eq_of_numberedId_eq same

/-! ## The search -/

/-- Ids that are taken stand in the way of one candidate each, so one that is free comes up after as
many tries at most. -/
theorem exists_isFirstFree (taken : List String) (c : Component) (clock : Clock) :
    ∃ tries ≤ taken.length, IsFirstFree taken c clock tries := by
  have free : ∃ i, i ≤ taken.length ∧ candidate c clock i ∉ taken := by
    by_contra none
    have all : (List.range (taken.length + 1)).map (candidate c clock) ⊆ taken := by
      intro id member
      obtain ⟨i, among, rfl⟩ := List.mem_map.1 member
      by_contra unused
      exact none ⟨i, Nat.le_of_lt_succ (List.mem_range.1 among), unused⟩
    have differ : ((List.range (taken.length + 1)).map (candidate c clock)).Nodup :=
      List.nodup_range.map (candidate_injective c clock)
    have fits := (differ.subperm all).length_le
    rw [List.length_map, List.length_range] at fits
    omega
  refine ⟨Nat.find free, (Nat.find_spec free).1, (Nat.find_spec free).2, fun i before => ?_⟩
  by_contra unused
  have within := Nat.le_trans (Nat.le_of_lt before) (Nat.find_spec free).1
  exact Nat.find_min free before ⟨within, unused⟩

/-- A search that starts before the first free candidate, and has tries enough to come to it, ends
there. -/
theorem retryId_eq {tries : Nat} (first : IsFirstFree taken c clock tries) {left attempt : Nat}
    (counted : 0 < attempt) (before : attempt ≤ tries) (enough : tries ≤ attempt + left) :
    retryId taken c left attempt (clock.after attempt) =
      (candidate c clock tries, clock.after (tries + 1)) := by
  obtain ⟨i, rfl⟩ : ∃ i, attempt = i + 1 := ⟨attempt - 1, by omega⟩
  induction left generalizing i with
  | zero =>
    obtain rfl : i + 1 = tries := by omega
    rfl
  | succ left ih =>
    rw [retryId]
    rcases Nat.eq_or_lt_of_le before with rfl | later
    · have free : taken.contains (candidate c clock (i + 1)) = false := by
        simpa using first.free
      rw [candidate] at free
      simp only [free]
      rfl
    · have there : taken.contains (candidate c clock (i + 1)) = true := by
        simpa using first.least _ later
      rw [candidate] at there
      simp only [there]
      exact ih (i + 1) (by omega) later (by omega)

theorem freshId_eq {tries : Nat} (first : IsFirstFree taken c clock tries)
    (enough : tries ≤ taken.length) :
    freshId taken c clock = (candidate c clock tries, clock.after (tries + 1)) := by
  rw [freshId]
  cases tries with
  | zero =>
    have free : taken.contains (candidate c clock 0) = false := by simpa using first.free
    rw [candidate] at free
    simp only [free]
    rfl
  | succ tries =>
    have there : taken.contains (candidate c clock 0) = true := by
      simpa using first.least 0 (Nat.succ_pos tries)
    rw [candidate] at there
    simp only [there]
    exact retryId_eq first Nat.one_pos (by omega) (by omega)

/-! ## New nodes -/

/-- What a place given for a new node stands for: two numbers for their position, and nothing for
the origin. -/
inductive GivesPlace : Value → Position → Prop
  | nothing : GivesPlace .null origin
  | pair (x y : Double) : GivesPlace (.tuple [.float x, .float y]) ⟨x, y⟩
  | row (x y : Double) : GivesPlace (.list [.float x, .float y]) ⟨x, y⟩

theorem placeOf_eq {place : Value} {p : Position} (given : GivesPlace place p) :
    placeOf place = .ok p := by
  cases given <;> rfl

/-- Nodes with another one behind them that has an id of its own are accepted. -/
theorem ofParts_append_eq_ok {g : Graph} {n : Node} (distinct : g.nodeIds.Nodup)
    (unused : n.id ∉ g.nodeIds) :
    Graph.ofParts (g.nodes ++ [n]) g.edges g.settings =
      .ok { g with nodes := g.nodes ++ [n] } := by
  refine Graph.ofParts_eq_ok_iff.2 ⟨rfl, ?_⟩
  rw [Graph.nodeIds, List.map_append, List.map_singleton]
  refine List.nodup_append.2 ⟨distinct, List.nodup_singleton n.id, ?_⟩
  intro id there last added same
  obtain rfl : last = n.id := List.mem_singleton.1 added
  exact unused (same ▸ there)

theorem run_addNode {s : Editor} {n : Node} (distinct : s.document.data.nodeIds.Nodup)
    (unused : n.id ∉ s.document.data.nodeIds) :
    (addNode n).run s =
      (.ok (), { s with
        document := { s.document with
          data := { s.document.data with nodes := s.document.data.nodes ++ [n] }
          hasUnsavedChanges := true }
        log := s.log ++ [⟨.debug, "project", "Added node " ++ n.id, false⟩] }) := by
  show (commit (Graph.ofParts (s.document.data.nodes ++ [n]) s.document.data.edges
    s.document.data.settings) >>= fun _ => Editing.note _ : Editing Unit).run s = _
  rw [ofParts_append_eq_ok distinct unused]
  rfl

/-- Creating a node succeeds whatever the clock shows.  After at most one reading for each node and
one more it has an id that no node has, the first of the candidates to be free, and the document
has a new node with that id behind those it had. -/
theorem createNode_appends {s : Editor} (distinct : s.document.data.nodeIds.Nodup) (c : Component)
    {place : Value} {p : Position} (given : GivesPlace place p) :
    ∃ tries, tries ≤ s.document.data.nodes.length ∧
      IsFirstFree s.document.data.nodeIds c s.clock tries ∧
      let n := newNode c (candidate c s.clock tries) p
      (createNode (.text c.name) place).run s =
        (.ok n,
          { document := { s.document with
              data := { s.document.data with nodes := s.document.data.nodes ++ [n] }
              hasUnsavedChanges := true }
            clock := s.clock.after (tries + 1)
            log := s.log ++ [⟨.debug, "project", "Added node " ++ n.id, false⟩] }) := by
  obtain ⟨tries, enough, first⟩ := exists_isFirstFree s.document.data.nodeIds c s.clock
  refine ⟨tries, by simpa [Graph.nodeIds] using enough, first, ?_⟩
  intro n
  have known : Component.ofValue? (.text c.name) = some c := Component.ofName?_name c
  have found : (Editing.newId s.document.data.nodeIds c).run s =
      (.ok (candidate c s.clock tries), { s with clock := s.clock.after (tries + 1) }) := by
    show (Except.ok (freshId s.document.data.nodeIds c s.clock).1,
      { s with clock := (freshId s.document.data.nodeIds c s.clock).2 }) = _
    rw [freshId_eq first enough]
  have added : (addNode n).run { s with clock := s.clock.after (tries + 1) } = (.ok (), _) :=
    run_addNode distinct first.free
  simp only [createNode, known]
  rw [Editing.run_document_bind, Outcome.run_bind, found]
  simp only [placeOf_eq given]
  show (addNode n >>= fun _ => pure n : Editing Node).run _ = _
  rw [Outcome.run_bind, added]
  rfl

/-- A clock that stands still, and the first two candidates taken: the third reading ends the
search. -/
theorem createNode_appends_stopped :
    let node (id : String) : Node := newNode .button id origin
    let g : Graph := ⟨[node "button-5", node "button-5-1"], [], .initial⟩
    let s : Editor := ⟨ofGraph g, ⟨fun _ => 5, 0⟩, []⟩
    g.nodeIds.Nodup ∧ GivesPlace .null origin ∧
      (createNode (.text "button") .null).run s =
        (.ok (node "button-5-2"),
          ⟨⟨{ g with nodes := g.nodes ++ [node "button-5-2"] }, none, true⟩, s.clock.after 3,
            [⟨.debug, "project", "Added node button-5-2", false⟩]⟩) := by
  intro node g s
  have distinct : g.nodeIds.Nodup := by decide
  obtain ⟨tries, enough, first, created⟩ :=
    createNode_appends (show s.document.data.nodeIds.Nodup from distinct) .button .nothing
  have two : tries = 2 := by
    have within : tries ≤ 2 := enough
    rcases tries with _ | _ | _
    · exact absurd (show "button-5" ∈ g.nodeIds by decide) first.free
    · exact absurd (show "button-5-1" ∈ g.nodeIds by decide) first.free
    · omega
  subst two
  exact ⟨distinct, .nothing, created⟩

end Document

end EventCanvas
