import EventCanvas.Engine.Context
import EventCanvas.Proofs.Entries

/-!
# Text keys of tables

A table may have any value for a key, and two values may be equal as keys
without being the same.  Texts are equal as keys only to themselves, so what a
table has under a text depends on nothing that was put under other keys.

The runtime records of a project are found under the ids of its nodes, which are
texts.

A table all of whose keys are texts is a table of named values, and everything
that is done with it under texts is done with the named values
(`Table.put_ofFields`, `Table.lookup_ofFields`).
-/

namespace EventCanvas

namespace Value

@[simp] theorem text_beq (s : String) (v : Value) : (Value.text s == v) = true ↔ v = .text s := by
  show equal (.text s) v = true ↔ _
  cases v with
  | text t => simpa [equal] using eq_comm
  | _ => simp [equal]

@[simp] theorem beq_text (s : String) (v : Value) : (v == Value.text s) = true ↔ v = .text s := by
  show equal v (.text s) = true ↔ _
  cases v <;> simp [equal, integer?]

end Value

namespace Table

variable {s : String}

@[simp] theorem lookup_put_self (s : String) (v : Value) (t : Table) :
    Entries.lookup (.text s) (Entries.put (.text s) v t) = some v := by
  induction t with
  | nil => simp [Entries.put, Entries.lookup]
  | cons e t ih =>
    obtain ⟨l, b⟩ := e
    by_cases hit : l = .text s
    · simp [Entries.put, Entries.lookup, hit]
    · simp [Entries.put, Entries.lookup, hit, ih]

theorem lookup_put_of_ne {k : Value} (ne : k ≠ .text s) (v : Value) (t : Table) :
    Entries.lookup (.text s) (Entries.put k v t) = Entries.lookup (.text s) t := by
  induction t with
  | nil => simp [Entries.put, Entries.lookup, ne]
  | cons e t ih =>
    obtain ⟨l, b⟩ := e
    cases same : k == l with
    | false => simp [Entries.put, Entries.lookup, same, ih]
    | true =>
      have other : l ≠ .text s := by
        rintro rfl
        exact ne ((Value.beq_text s k).1 same)
      simp [Entries.put, Entries.lookup, same, other]

/-- A text that is put is found under nothing but itself. -/
theorem lookup_put_text (key : Value) (s : String) (v : Value) (t : Table) :
    Entries.lookup key (Entries.put (.text s) v t) =
      if key == .text s then some v else Entries.lookup key t := by
  cases hit : key == .text s with
  | true =>
    obtain rfl := (Value.beq_text s key).1 hit
    simp
  | false =>
    induction t with
    | nil => simp [Entries.put, Entries.lookup, hit]
    | cons e t ih =>
      obtain ⟨l, b⟩ := e
      by_cases same : l = .text s
      · simp [Entries.put, Entries.lookup, same, hit]
      · simp only [Bool.false_eq_true, if_false] at ih
        simp [Entries.put, Entries.lookup, same, ih]

/-- What is found under a text once every one of some texts was given the same. -/
theorem lookup_foldl_put (s : String) (v : Value) (ids : List String) (t : Table) :
    Entries.lookup (.text s) (ids.foldl (fun t id => Entries.put (.text id) v t) t) =
      if s ∈ ids then some v else Entries.lookup (.text s) t := by
  induction ids generalizing t with
  | nil => rfl
  | cons id ids ih =>
    rw [List.foldl_cons, ih]
    by_cases hit : id = s
    · simp [hit]
    · rw [lookup_put_of_ne (mt Value.text.inj hit)]
      simp [Ne.symm hit]

/-- What is found under a text after some changes is what they came to, or what was there before. -/
theorem lookup_merge (s : String) (es changes : Table) :
    Entries.lookup (.text s) (Entries.merge es changes) =
      (Entries.lookup (.text s) (Entries.ofPairs changes)).or (Entries.lookup (.text s) es) := by
  have alike (t t' : Table)
      (same : Entries.lookup (.text s) t =
        (Entries.lookup (.text s) t').or (Entries.lookup (.text s) es)) :
      Entries.lookup (.text s) (Entries.merge t changes) =
        (Entries.lookup (.text s) (Entries.merge t' changes)).or (Entries.lookup (.text s) es) := by
    induction changes generalizing t t' with
    | nil => exact same
    | cons e changes ih =>
      refine ih (Entries.put e.1 e.2 t) (Entries.put e.1 e.2 t') ?_
      by_cases hit : e.1 = .text s
      · rw [hit, lookup_put_self, lookup_put_self, Option.some_or]
      · rw [lookup_put_of_ne hit, lookup_put_of_ne hit, same]
  exact alike es [] rfl

/-! ## Tables of named values -/

@[simp] theorem keys_ofFields (fs : Fields) :
    Entries.keys (ofFields fs) = (Entries.keys fs).map .text := by
  simp [Entries.keys, ofFields]

theorem text_beq_text (s t : String) : (Value.text s == Value.text t) = (s == t) := by
  show Value.equal (.text s) (.text t) = _
  rw [Value.equal]

@[simp] theorem lookup_ofFields (s : String) (fs : Fields) :
    Entries.lookup (.text s) (ofFields fs) = Entries.lookup s fs := by
  induction fs with
  | nil => rfl
  | cons e fs ih =>
    show (if Value.text s == .text e.1 then some e.2 else Entries.lookup (.text s) (ofFields fs)) = _
    rw [ih, text_beq_text]
    rfl

@[simp] theorem put_ofFields (s : String) (v : Value) (fs : Fields) :
    Entries.put (.text s) v (ofFields fs) = ofFields (Entries.put s v fs) := by
  induction fs with
  | nil => rfl
  | cons e fs ih =>
    show (if Value.text s == .text e.1 then (Value.text e.1, v) :: ofFields fs
      else (.text e.1, e.2) :: Entries.put (.text s) v (ofFields fs)) =
        ofFields (if s == e.1 then (e.1, v) :: fs else e :: Entries.put s v fs)
    rw [ih, text_beq_text, apply_ite ofFields]
    rfl

/-- A table whose keys are texts, each once. -/
def IsNamed (t : Table) : Prop := ∃ fs : Fields, (Entries.keys fs).Nodup ∧ t = ofFields fs

theorem isNamed_nil : IsNamed [] := ⟨[], List.nodup_nil, rfl⟩

theorem isNamed_ofFields {fs : Fields} (nodup : (Entries.keys fs).Nodup) : IsNamed (ofFields fs) :=
  ⟨fs, nodup, rfl⟩

theorem IsNamed.put {t : Table} (named : t.IsNamed) (s : String) (v : Value) :
    IsNamed (Entries.put (.text s) v t) := by
  obtain ⟨fs, nodup, rfl⟩ := named
  exact ⟨_, Entries.nodup_keys_put nodup s v, put_ofFields s v fs⟩

theorem isNamed_foldl_put (ids : List String) (v : Value) {t : Table} (named : t.IsNamed) :
    IsNamed (ids.foldl (fun t id => Entries.put (.text id) v t) t) := by
  induction ids generalizing t with
  | nil => exact named
  | cons id ids ih => exact ih (named.put id v)

theorem merge_ofFields (fs changes : Fields) :
    Entries.merge (ofFields fs) (ofFields changes) = ofFields (Entries.merge fs changes) := by
  induction changes generalizing fs with
  | nil => rfl
  | cons e changes ih =>
    show Entries.merge (Entries.put (.text e.1) e.2 (ofFields fs)) (ofFields changes) = _
    rw [put_ofFields, ih]
    rfl

end Table

theorem Reading.namedTable_ofFields (fs : Fields) : namedTable (Table.ofFields fs) = .ok fs := by
  induction fs with
  | nil => rfl
  | cons e fs ih =>
    show (fun name rest => (name, e.2) :: rest) <$> Reading.ok e.1 <*>
      namedTable (Table.ofFields fs) = _
    rw [ih]
    rfl

/-- Under a text a project has the runtime record of one of its nodes, if anything. -/
theorem Graph.lookup_runtimeNodes {g : Graph} {s : String} {r : Value}
    (found : Entries.lookup (.text s) g.runtimeNodes = some r) :
    ∃ n ∈ g.nodes, r = runtimeRecord n.data := by
  have merged (nodes : List Node) (t : Table)
      (found : Entries.lookup (.text s)
        (Entries.merge t (nodes.map fun n => (Value.text n.id, runtimeRecord n.data))) = some r) :
      (∃ n ∈ nodes, r = runtimeRecord n.data) ∨ Entries.lookup (.text s) t = some r := by
    induction nodes generalizing t with
    | nil => exact .inr found
    | cons n nodes ih =>
      rcases ih _ found with ⟨m, member, same⟩ | earlier
      · exact .inl ⟨m, List.mem_cons_of_mem n member, same⟩
      · by_cases hit : n.id = s
        · subst hit
          rw [Table.lookup_put_self] at earlier
          exact .inl ⟨n, List.mem_cons_self, (Option.some.inj earlier).symm⟩
        · rw [Table.lookup_put_of_ne (mt Value.text.inj hit)] at earlier
          exact .inr earlier
  rcases merged g.nodes [] found with record | none
  · exact record
  · cases none

end EventCanvas
