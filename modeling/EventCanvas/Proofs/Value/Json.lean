import EventCanvas.Proofs.Entries
import EventCanvas.Value.Stored

/-!
# Values of a data format

What is read from a file is made of nulls, truth values, numbers and texts, of lists, and of
tables whose keys differ: `Value.IsJson`.  Such a value is well behaved in three ways.

* `Value.IsJson.equal_self`: it equals itself.
* `Value.IsJson.obstacle?_eq`: nothing keeps it from being stored but too many lists and
  tables inside one another, which `Value.nesting` counts.
* `Value.IsJson.flatten_eq_self`: where its numbers are finite it is its own stored form.
-/

namespace EventCanvas.Value

/-- A value that a data format can express. -/
inductive IsJson : Value → Prop
  | null : IsJson null
  | bool (b : Bool) : IsJson (bool b)
  | int (n : Int) : IsJson (int n)
  | float (d : Double) : IsJson (float d)
  | text (s : String) : IsJson (text s)
  | list {xs : List Value} (items : ∀ x ∈ xs, IsJson x) : IsJson (list xs)
  | object {fs : Fields} (nodup : (Entries.keys fs).Nodup) (values : ∀ e ∈ fs, IsJson e.2) :
    IsJson (object fs)

attribute [simp] IsJson.null IsJson.bool IsJson.int IsJson.float IsJson.text

@[simp] theorem isJson_list_iff {xs : List Value} : IsJson (list xs) ↔ ∀ x ∈ xs, IsJson x :=
  ⟨fun | .list items => items, .list⟩

@[simp] theorem isJson_object_iff {fs : Fields} :
    IsJson (object fs) ↔ (Entries.keys fs).Nodup ∧ ∀ e ∈ fs, IsJson e.2 :=
  ⟨fun | .object nodup values => ⟨nodup, values⟩, fun ⟨nodup, values⟩ => .object nodup values⟩

@[simp] theorem isJson_ofText? (s : Option String) : (ofText? s).IsJson := by
  cases s <;> simp [ofText?]

/-! ## Equality -/

theorem equalItems_map_iff {α : Type} {f g : α → Value} {xs : List α} :
    equalItems (xs.map f) (xs.map g) = true ↔ ∀ x ∈ xs, equal (f x) (g x) = true := by
  induction xs with
  | nil => simp [equalItems]
  | cons x xs ih =>
    rw [List.map_cons, List.map_cons, equalItems, Bool.and_eq_true, ih, List.forall_mem_cons]

theorem equalItems_self {xs : List Value} (items : ∀ x ∈ xs, equal x x = true) :
    equalItems xs xs = true := by
  have same : equalItems (xs.map id) (xs.map id) = true := equalItems_map_iff.2 items
  rwa [List.map_id] at same

theorem equalFields_of_lookup {as bs : Fields} {name : String} {a b : Value}
    (same : equalFields as bs = true) (left : Entries.lookup name as = some a)
    (right : Entries.lookup name bs = some b) : equal a b = true := by
  induction as with
  | nil => cases left
  | cons e as ih =>
    rw [equalFields, Bool.and_eq_true] at same
    rw [Entries.lookup_cons] at left
    split at left
    · next here =>
      have first := same.1
      rw [← eq_of_beq here, right] at first
      rwa [← Option.some.inj left]
    · exact ih same.2 left

/-- Equal tables have equal values under a key. -/
theorem equal_of_lookup {as bs : Fields} (name : String) {a b : Value}
    (same : (object as).equal (object bs) = true) (left : Entries.lookup name as = some a)
    (right : Entries.lookup name bs = some b) : equal a b = true := by
  rw [equal, Bool.and_eq_true] at same
  exact equalFields_of_lookup same.2 left right

theorem equalFields_of_found {as bs : Fields}
    (found : ∀ e ∈ as, ∃ b, Entries.lookup e.1 bs = some b ∧ equal e.2 b = true) :
    equalFields as bs = true := by
  induction as with
  | nil => simp [equalFields]
  | cons e as ih =>
    obtain ⟨b, here, same⟩ := found e List.mem_cons_self
    simp only [equalFields, here, same, Bool.true_and]
    exact ih fun e member => found e (List.mem_cons_of_mem _ member)

namespace IsJson

variable {v : Value}

theorem equal_self (json : v.IsJson) : v.equal v = true := by
  induction json with
  | null => simp [equal]
  | bool b => simp [equal, integer?]
  | int n => simp [equal, integer?]
  | float d => simp [equal, Double.equal]
  | text s => simp [equal]
  | list items ih => simpa [equal] using equalItems_self ih
  | object nodup values ih =>
    have found := equalFields_of_found fun e member =>
      ⟨e.2, Entries.lookup_of_mem nodup member, ih e member⟩
    simpa [equal] using found

variable {fs : Fields} {name : String}

theorem of_lookup (json : (Value.object fs).IsJson) (found : Entries.lookup name fs = some v) :
    v.IsJson :=
  (isJson_object_iff.1 json).2 _ (Entries.mem_of_lookup found)

theorem of_lookup_fields {owner : Value} (json : owner.IsJson)
    (found : Entries.lookup name owner.fields = some v) : v.IsJson := by
  cases json with
  | object nodup values => exact of_lookup (.object nodup values) found
  | _ => cases found

theorem put (json : (Value.object fs).IsJson) (value : v.IsJson) (name : String) :
    (Value.object (Entries.put name v fs)).IsJson := by
  obtain ⟨nodup, values⟩ := isJson_object_iff.1 json
  refine .object (Entries.nodup_keys_put nodup name v) fun e member => ?_
  rcases Entries.mem_put member with rfl | there
  · exact value
  · exact values e there

theorem filter (json : (Value.object fs).IsJson) (p : String × Value → Bool) :
    (Value.object (fs.filter p)).IsJson := by
  obtain ⟨nodup, values⟩ := isJson_object_iff.1 json
  exact .object (Entries.nodup_keys_filter nodup p) fun e member =>
    values e (List.mem_filter.1 member).1

/-- Entries that are put where there are none leave the keys different. -/
theorem foldl_putNew {more : Fields} (json : (Value.object fs).IsJson)
    (values : ∀ e ∈ more, e.2.IsJson) :
    (Value.object (more.foldl (fun acc e => Entries.putNew e.1 e.2 acc) fs)).IsJson := by
  obtain ⟨nodup, old⟩ := isJson_object_iff.1 json
  obtain ⟨rest, grown, from_more, distinct⟩ := Entries.foldl_putNew_eq_append fs more
  rw [grown]
  refine .object (distinct nodup) fun e member => ?_
  rcases List.mem_append.1 member with there | new
  · exact old e there
  · exact values e (from_more e new)

end IsJson

/-! ## What stands inside what -/

mutual
/-- How many lists and tables there are around the innermost value inside a value. -/
def nesting : Value → Nat
  | list xs => nestingItems xs
  | tuple xs => nestingItems xs
  | object fs => nestingEntries fs
  | record fs => nestingEntries fs
  | typed _ fs => nestingEntries fs
  | _ => 0

/-- The nesting of a row: its items stand inside it. -/
def nestingItems : List Value → Nat
  | [] => 0
  | x :: xs => max (nesting x + 1) (nestingItems xs)

/-- The nesting of a table: its values stand inside it. -/
def nestingEntries : List (String × Value) → Nat
  | [] => 0
  | (_, v) :: fs => max (nesting v + 1) (nestingEntries fs)
end

/-- A value is part of itself, of a list that has it in an item, and of a table that has it in the
value of an entry. -/
inductive IsPart (x : Value) : Value → Prop
  | self : IsPart x x
  | item {xs : List Value} {y : Value} (member : y ∈ xs) (part : IsPart x y) : IsPart x (list xs)
  | entry {fs : Fields} {e : String × Value} (member : e ∈ fs) (part : IsPart x e.2) :
    IsPart x (object fs)

/-- All numbers in a value that may have a fraction are finite. -/
def IsFinite (v : Value) : Prop := ∀ d, IsPart (float d) v → d.isFinite = true

/-! ## Finite numbers -/

@[simp] theorem isFinite_float_iff {d : Double} : (float d).IsFinite ↔ d.isFinite = true :=
  ⟨fun finite => finite d .self, fun | finite, _, .self => finite⟩

@[simp] theorem isFinite_list_iff {xs : List Value} : (list xs).IsFinite ↔ ∀ x ∈ xs, x.IsFinite :=
  ⟨fun finite _ member d part => finite d (.item member part),
    fun | items, d, .item member part => items _ member d part⟩

@[simp] theorem isFinite_object_iff {fs : Fields} :
    (object fs).IsFinite ↔ ∀ e ∈ fs, e.2.IsFinite :=
  ⟨fun finite _ member d part => finite d (.entry member part),
    fun | values, d, .entry member part => values _ member d part⟩

@[simp] theorem isFinite_null : null.IsFinite := nofun

@[simp] theorem isFinite_bool (b : Bool) : (bool b).IsFinite := nofun

@[simp] theorem isFinite_int (n : Int) : (int n).IsFinite := nofun

@[simp] theorem isFinite_text (s : String) : (text s).IsFinite := nofun

/-! ## Nesting -/

theorem nestingEntries_eq (fs : Fields) : nestingEntries fs = nestingItems (fs.map (·.2)) := by
  induction fs with
  | nil => rfl
  | cons e fs ih => rw [List.map_cons, nestingEntries, nestingItems, ih]

theorem nestingItems_le_iff {xs : List Value} {n : Nat} :
    nestingItems xs ≤ n ↔ ∀ x ∈ xs, x.nesting < n := by
  induction xs with
  | nil => simp [nestingItems]
  | cons x xs ih =>
    rw [nestingItems, Nat.max_le, ih, List.forall_mem_cons]
    rfl

theorem nesting_list_le_iff {xs : List Value} {n : Nat} :
    (list xs).nesting ≤ n ↔ ∀ x ∈ xs, x.nesting < n := nestingItems_le_iff

theorem nesting_object_le_iff {fs : Fields} {n : Nat} :
    (object fs).nesting ≤ n ↔ ∀ e ∈ fs, e.2.nesting < n := by
  rw [nesting, nestingEntries_eq, nestingItems_le_iff, List.forall_mem_map]

/-- A value inside a number of lists, one in the other. -/
def wrapped : Nat → Value → Value
  | 0, v => v
  | n + 1, v => list [wrapped n v]

@[simp] theorem nesting_wrapped (n : Nat) (v : Value) : (wrapped n v).nesting = n + v.nesting := by
  induction n with
  | zero => rw [wrapped, Nat.zero_add]
  | succ n ih =>
    rw [wrapped, nesting, nestingItems, nestingItems, ih, Nat.max_zero]
    omega

@[simp] theorem isJson_wrapped_iff {n : Nat} {v : Value} : (wrapped n v).IsJson ↔ v.IsJson := by
  induction n with
  | zero => rfl
  | succ n ih => simpa [wrapped] using ih

@[simp] theorem isFinite_wrapped_iff {n : Nat} {v : Value} :
    (wrapped n v).IsFinite ↔ v.IsFinite := by
  induction n with
  | zero => rfl
  | succ n ih => simpa [wrapped] using ih

/-! ## Storing -/

theorem obstacleItems?_eq (depth : Nat) (xs : List Value) :
    obstacleItems? depth xs = xs.findSome? (obstacle? depth) := by
  induction xs with
  | nil => rfl
  | cons x xs ih =>
    rw [obstacleItems?, List.findSome?_cons, ih]
    cases obstacle? depth x <;> rfl

theorem obstacleEntries?_eq (depth : Nat) (fs : Fields) :
    obstacleEntries? depth fs = (fs.map (·.2)).findSome? (obstacle? depth) := by
  rw [← obstacleItems?_eq]
  induction fs with
  | nil => rfl
  | cons e fs ih => rw [List.map_cons, obstacleEntries?, obstacleItems?, ih]

theorem declaredObstacles?_eq (depth : Nat) (xs : List Value) :
    declaredObstacles? depth xs = xs.findSome? (declaredObstacle? depth) := by
  induction xs with
  | nil => rfl
  | cons x xs ih =>
    rw [declaredObstacles?, List.findSome?_cons, ih]
    cases declaredObstacle? depth x <;> rfl

theorem flatten?_eq_ok_iff {form : FlatForm} {v w : Value} :
    v.flatten? form = .ok w ↔ declaredObstacle? 0 v = none ∧ v.flatten form = w := by
  unfold flatten?
  cases declaredObstacle? 0 v <;> simp

theorem flattenItems_eq (form : FlatForm) (xs : List Value) :
    flattenItems form xs = xs.map (flatten form) := by
  induction xs with
  | nil => rfl
  | cons x xs ih => rw [flattenItems, List.map_cons, ih]

theorem flattenEntries_eq (form : FlatForm) (fs : Fields) :
    flattenEntries form fs = fs.map fun e => (e.1, flatten form e.2) := by
  induction fs with
  | nil => rfl
  | cons e fs ih => rw [flattenEntries, List.map_cons, ih]

/-- Where all fields of a shape are declared, each is stored by itself. -/
theorem flattenFields_eq {s : Shape} (declared : s.declaredNames? = none) (form : FlatForm)
    (past : List String) (fs : Fields) :
    flattenFields form s past fs =
      (fs.filter fun e => !(form.omitNull && e.2.isNull)).map fun e =>
        (if form.outerNames then s.outerName e.1 else e.1,
          match declaredNumber? s e.2 with
          | some d => float d
          | none => e.2.flatten form) := by
  have known (name : String) (past : List String) : s.isFurther past name = false := by
    rw [Shape.isFurther, declared]
  induction fs generalizing past with
  | nil => rfl
  | cons e fs ih =>
    rw [flattenFields, List.filter_cons, ih, known, Bool.not_false, Bool.and_true]
    cases form.omitNull && e.2.isNull <;> rfl

/-- What stands inside a value is not in the way if none of it is too deep. -/
theorem inside_eq_none_iff {xs : List Value} {depth : Nat}
    (items : ∀ x ∈ xs, (obstacle? (depth + 1) x = none ↔ depth + 1 + x.nesting < maxDepth)) :
    (if maxDepth ≤ depth then some Fault.tooDeep else xs.findSome? (obstacle? (depth + 1))) = none ↔
      depth + nestingItems xs < maxDepth := by
  have shallow : (∀ x ∈ xs, obstacle? (depth + 1) x = none) ↔
      nestingItems xs ≤ maxDepth - (depth + 1) := by
    rw [nestingItems_le_iff]
    refine forall₂_congr fun x member => ?_
    rw [items x member]
    omega
  split
  · next deep => simpa using Nat.le_add_right_of_le deep
  · rw [List.findSome?_eq_none_iff, shallow]
    omega

/-- What stands inside a value is in the way only if it is too deep. -/
theorem inside_eq_tooDeep {xs : List Value} {depth : Nat} {f : Fault}
    (items : ∀ x ∈ xs, obstacle? (depth + 1) x = some f → f = .tooDeep)
    (found : (if maxDepth ≤ depth then some Fault.tooDeep
      else xs.findSome? (obstacle? (depth + 1))) = some f) : f = .tooDeep := by
  split at found
  · exact (Option.some.inj found).symm
  · obtain ⟨x, member, obstacle⟩ := List.exists_of_findSome?_eq_some found
    exact items x member obstacle

/-- The stored form of a typed value is of a data format if those of its fields are. -/
theorem isJson_flatten_typed {s : Shape} {fs : Fields} {form : FlatForm}
    (declared : s.declaredNames? = none) (inner : (Entries.keys fs).Nodup)
    (outer : (fs.map fun e => s.outerName e.1).Nodup)
    (values : ∀ e ∈ fs, (e.2.flatten form).IsJson) : ((typed s fs).flatten form).IsJson := by
  rw [flatten, flattenFields_eq declared]
  refine .object ?_ (List.forall_mem_map.2 fun e member => ?_)
  · rw [Entries.keys, List.map_map]
    refine List.Nodup.sublist ((List.filter_sublist (l := fs)).map _) ?_
    cases form.outerNames
    · exact inner
    · exact outer
  · show (match declaredNumber? s e.2 with
      | some d => float d
      | none => e.2.flatten form).IsJson
    split
    · exact .float _
    · exact values e (List.mem_filter.1 member).1

namespace IsJson

variable {v : Value}

/-- A value of a data format can be stored if nothing in it is too deep. -/
theorem obstacle?_eq_none_iff (json : v.IsJson) {depth : Nat} :
    obstacle? depth v = none ↔ depth + v.nesting < maxDepth := by
  induction json generalizing depth with
  | null | bool | int | float | text => simp [obstacle?, nesting]
  | list items ih =>
    rw [obstacle?, nesting, obstacleItems?_eq]
    exact inside_eq_none_iff fun x member => ih x member
  | object nodup values ih =>
    rw [obstacle?, nesting, obstacleEntries?_eq, nestingEntries_eq]
    refine inside_eq_none_iff fun x member => ?_
    obtain ⟨e, there, rfl⟩ := List.mem_map.1 member
    exact ih e there

theorem eq_tooDeep (json : v.IsJson) {depth : Nat} {f : Fault}
    (obstacle : obstacle? depth v = some f) : f = .tooDeep := by
  induction json generalizing depth with
  | null | bool | int | float | text =>
    simp only [obstacle?] at obstacle
    split at obstacle
    · exact (Option.some.inj obstacle).symm
    · cases obstacle
  | list items ih =>
    rw [obstacle?, obstacleItems?_eq] at obstacle
    exact inside_eq_tooDeep (fun x member => ih x member) obstacle
  | object nodup values ih =>
    rw [obstacle?, obstacleEntries?_eq] at obstacle
    refine inside_eq_tooDeep (fun x member => ?_) obstacle
    obtain ⟨e, there, rfl⟩ := List.mem_map.1 member
    exact ih e there

/-- With finite numbers, a value of a data format is its own stored form. -/
theorem flatten_eq_self (json : v.IsJson) (finite : v.IsFinite) (form : FlatForm) :
    v.flatten form = v := by
  induction json with
  | null | bool | int | text => rfl
  | float d => rw [flatten, flatNumber, if_pos (isFinite_float_iff.1 finite)]
  | @list xs items ih =>
    have kept : xs.map (flatten form) = xs.map id := List.map_congr_left fun x member =>
      ih x member (isFinite_list_iff.1 finite x member)
    rw [flatten, flattenItems_eq, kept, List.map_id]
  | @object fs nodup values ih =>
    have kept : fs.map (fun e => (e.1, flatten form e.2)) = fs.map id :=
      List.map_congr_left fun e member => Prod.ext rfl
        (ih e member (isFinite_object_iff.1 finite e member))
    rw [flatten, flattenEntries_eq, kept, List.map_id]

/-- Whatever its numbers, the stored form of a value of a data format is of that format. -/
theorem flatten (json : v.IsJson) (form : FlatForm) : (v.flatten form).IsJson := by
  induction json with
  | null | bool | int | text => simp [Value.flatten]
  | float d =>
    rw [Value.flatten, flatNumber]
    split <;> simp
  | @list xs items ih =>
    rw [Value.flatten, flattenItems_eq]
    exact .list (List.forall_mem_map.2 ih)
  | @object fs nodup values ih =>
    have keys : Entries.keys (fs.map fun e => (e.1, e.2.flatten form)) = Entries.keys fs := by
      rw [Entries.keys, List.map_map]
      rfl
    rw [Value.flatten, flattenEntries_eq]
    exact .object (keys ▸ nodup) (List.forall_mem_map.2 ih)

/-- What a table holds can be stored if nothing in it is too deep, and else it is too deep. -/
theorem obstacleEntries?_eq {fs : Fields} (json : (Value.object fs).IsJson) :
    obstacleEntries? 0 fs =
      if (Value.object fs).nesting ≤ maxDepth then none else some .tooDeep := by
  obtain ⟨-, values⟩ := isJson_object_iff.1 json
  have shallow : obstacleEntries? 0 fs = none ↔ (Value.object fs).nesting ≤ maxDepth := by
    rw [Value.obstacleEntries?_eq, List.findSome?_eq_none_iff, nesting_object_le_iff,
      List.forall_mem_map]
    refine forall₂_congr fun e member => ?_
    rw [(values e member).obstacle?_eq_none_iff, Nat.zero_add]
  split
  · next fits => exact shallow.2 fits
  · next deep =>
    obtain ⟨f, obstacle⟩ := Option.ne_none_iff_exists'.1 (mt shallow.1 deep)
    rw [obstacle]
    rw [Value.obstacleEntries?_eq] at obstacle
    obtain ⟨x, member, obstacle⟩ := List.exists_of_findSome?_eq_some obstacle
    obtain ⟨e, there, rfl⟩ := List.mem_map.1 member
    rw [(values e there).eq_tooDeep obstacle]

end IsJson

end EventCanvas.Value
