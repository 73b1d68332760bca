import EventCanvas.Proofs.Outcome
import EventCanvas.Proofs.Placeholder
import EventCanvas.Proofs.Table

/-!
# What a text depends on

The placeholders that are listed for a text are what its interpolation reads, no
more and no less.  Two environments are compared by what they show under a
listed name (`ShowsAlike`), and an environment is compared with itself after one
name was bound to something else (`Rebound`).

* `fill_of_alike`: no more is read.  Environments that show alike what is looked up
  give the same text.
* `Rebound.length_fill`, `Rebound.eq_of_fill_eq`: no less is read.  The text grows or
  shrinks with the value under a name, once for every reference to it, and values of
  one length stand in the same places, where they are told apart.
* `interpolate_reads_placeholders`: the two together.
-/

namespace EventCanvas.Placeholder

variable {bound bound' : Bindings} {ref : Source × String} {ps : List Piece} {v w : Value}

/-- Two environments both have nothing under a name, or values that are displayed as the same
text. -/
inductive ShowsAlike : Option Value → Option Value → Prop
  | unbound : ShowsAlike none none
  | bound {v w : Value} {text : String} (left : v.display = .ok text)
      (right : w.display = .ok text) : ShowsAlike (some v) (some w)

/-- An environment has one value under a name, and another environment, which is the same
elsewhere, has another value there. -/
structure Rebound (bound bound' : Bindings) (ref : Source × String) (v w : Value) : Prop where
  before : bound ref.1 ref.2 = some v
  after : bound' ref.1 ref.2 = some w
  elsewhere : ∀ other, other ≠ ref → bound' other.1 other.2 = bound other.1 other.2

/-- To put a value where a variable has one binds the name of the variable to it. -/
theorem Rebound.of_put {name : String} {vars : Table}
    (there : Entries.lookup (.text name) vars = some v) (w : Value) (nodeValues : Table) :
    Rebound (bindings vars nodeValues) (bindings (Entries.put (.text name) w vars) nodeValues)
      (.variable, name) v w where
  before := there
  after := Table.lookup_put_self name w vars
  elsewhere := by
    rintro ⟨_ | _, other⟩ ne
    · refine Table.lookup_put_of_ne (fun hit => ne ?_) w vars
      rw [Value.text.inj hit]
    · rfl

/-! ## What takes the place of a piece -/

theorem fillPiece_of_bound {p : Piece} {text : String} (hit : p.lookup? = some ref)
    (there : bound ref.1 ref.2 = some v) (shown : v.display = .ok text) :
    fillPiece bound p = .ok text.toList := by
  cases p with
  | plain c => cases hit
  | reference s written =>
    cases hit
    rw [fillPiece, there]
    exact congrArg (·.map String.toList) shown

theorem fillPiece_of_alike {p : Piece}
    (alike : ∀ ref, p.lookup? = some ref → ShowsAlike (bound ref.1 ref.2) (bound' ref.1 ref.2)) :
    ∃ cs, fillPiece bound p = .ok cs ∧ fillPiece bound' p = .ok cs := by
  cases p with
  | plain c => exact ⟨[c], rfl, rfl⟩
  | reference s written =>
    have shown := alike _ rfl
    simp only [fillPiece]
    generalize bound s (lookupName written) = here at shown ⊢
    generalize bound' s (lookupName written) = here' at shown ⊢
    cases shown with
    | unbound => exact ⟨_, rfl, rfl⟩
    | @bound v w text left right =>
      exact ⟨text.toList, congrArg (·.map String.toList) left, congrArg (·.map String.toList) right⟩

/-- Only what refers to the rebound name is filled otherwise. -/
theorem Rebound.fillPiece_eq (rebound : Rebound bound bound' ref v w) {p : Piece}
    (other : p.lookup? ≠ some ref) : fillPiece bound' p = fillPiece bound p := by
  cases p with
  | plain c => rfl
  | reference s written =>
    have same := rebound.elsewhere (s, lookupName written) fun hit => other (congrArg some hit)
    rw [fillPiece, fillPiece, same]

/-! ## Filling in -/

theorem fill_cons_eq_ok_iff {p : Piece} {cs : List Char} :
    fill bound (p :: ps) = .ok cs ↔
      ∃ front rest, fillPiece bound p = .ok front ∧ fill bound ps = .ok rest ∧
        cs = front ++ rest := by
  rw [fill, Outcome.bind_eq_ok_iff]
  constructor
  · rintro ⟨front, here, filled⟩
    obtain ⟨rest, later, whole⟩ := Outcome.bind_eq_ok_iff.1 filled
    exact ⟨front, rest, here, later, (Except.ok.inj whole).symm⟩
  · rintro ⟨front, rest, here, later, rfl⟩
    exact ⟨front, here, Outcome.bind_eq_ok_iff.2 ⟨rest, later, rfl⟩⟩

/-- Environments that show alike what is looked up give the same text. -/
theorem fill_of_alike (ps : List Piece)
    (alike : ∀ p ∈ ps, ∀ ref, p.lookup? = some ref →
      ShowsAlike (bound ref.1 ref.2) (bound' ref.1 ref.2)) :
    ∃ cs, fill bound ps = .ok cs ∧ fill bound' ps = .ok cs := by
  induction ps with
  | nil => exact ⟨[], rfl, rfl⟩
  | cons p ps ih =>
    obtain ⟨front, here, here'⟩ := fillPiece_of_alike (alike p List.mem_cons_self)
    obtain ⟨rest, later, later'⟩ := ih fun q member => alike q (List.mem_cons_of_mem _ member)
    exact ⟨front ++ rest, fill_cons_eq_ok_iff.2 ⟨front, rest, here, later, rfl⟩,
      fill_cons_eq_ok_iff.2 ⟨front, rest, here', later', rfl⟩⟩

namespace Rebound

variable {old new : String}

/-- The text grows or shrinks with the value under the rebound name, once for every reference to
it. -/
theorem length_fill (rebound : Rebound bound bound' ref v w) (shown : v.display = .ok old)
    (shown' : w.display = .ok new) {cs : List Char} (filled : fill bound ps = .ok cs) :
    ∃ cs', fill bound' ps = .ok cs' ∧
      cs'.length + ps.countP (·.lookup? = some ref) * old.length =
        cs.length + ps.countP (·.lookup? = some ref) * new.length := by
  induction ps generalizing cs with
  | nil => exact ⟨cs, filled, by simp⟩
  | cons p ps ih =>
    obtain ⟨front, rest, here, later, rfl⟩ := fill_cons_eq_ok_iff.1 filled
    obtain ⟨rest', later', lengths⟩ := ih later
    by_cases hit : p.lookup? = some ref
    · obtain rfl := Except.ok.inj (here.symm.trans (fillPiece_of_bound hit rebound.before shown))
      have here' := fillPiece_of_bound hit rebound.after shown'
      refine ⟨_, fill_cons_eq_ok_iff.2 ⟨_, _, here', later', rfl⟩, ?_⟩
      rw [List.countP_cons_of_pos (by simpa using hit)]
      simp only [List.length_append, String.length_toList, Nat.succ_mul]
      omega
    · have here' := (rebound.fillPiece_eq hit).trans here
      refine ⟨_, fill_cons_eq_ok_iff.2 ⟨_, _, here', later', rfl⟩, ?_⟩
      rw [List.countP_cons_of_neg (by simpa using hit)]
      simp only [List.length_append]
      omega

/-- Values of one length are told apart where the first of them stands. -/
theorem eq_of_fill_eq (rebound : Rebound bound bound' ref v w) (shown : v.display = .ok old)
    (shown' : w.display = .ok new) (lengths : old.length = new.length) {cs : List Char}
    (filled : fill bound ps = .ok cs) (filled' : fill bound' ps = .ok cs)
    (referred : ∃ p ∈ ps, p.lookup? = some ref) : old = new := by
  induction ps generalizing cs with
  | nil =>
    obtain ⟨p, none, -⟩ := referred
    cases none
  | cons p ps ih =>
    obtain ⟨front, rest, here, later, rfl⟩ := fill_cons_eq_ok_iff.1 filled
    obtain ⟨front', rest', here', later', whole⟩ := fill_cons_eq_ok_iff.1 filled'
    by_cases hit : p.lookup? = some ref
    · obtain rfl := Except.ok.inj (here.symm.trans (fillPiece_of_bound hit rebound.before shown))
      obtain rfl := Except.ok.inj (here'.symm.trans (fillPiece_of_bound hit rebound.after shown'))
      rw [← String.length_toList, ← String.length_toList] at lengths
      exact String.toList_injective (List.append_inj whole lengths).1
    · rw [rebound.fillPiece_eq hit, here] at here'
      obtain rfl := Except.ok.inj here'
      obtain rfl := List.append_cancel_left whole
      obtain ⟨q, member, looked⟩ := referred
      rcases List.mem_cons.1 member with rfl | inside
      · exact absurd looked hit
      · exact ih later later' ⟨q, inside, looked⟩

/-- A name that is looked up and is bound to what is displayed otherwise makes another text. -/
theorem interpolate_ne {template text : String} {vars nodeValues vars' nodeValues' : Table}
    (rebound : Rebound (bindings vars nodeValues) (bindings vars' nodeValues') ref v w)
    (listed : ref ∈ placeholders template) (shown : v.display = .ok old)
    (shown' : w.display = .ok new) (ne : new ≠ old)
    (before : interpolate template vars nodeValues = .ok text) :
    ∃ text', interpolate template vars' nodeValues' = .ok text' ∧ text' ≠ text := by
  obtain ⟨cs, filled, rfl⟩ := Outcome.map_eq_ok_iff.1 before
  obtain ⟨cs', filled', grown⟩ := rebound.length_fill shown shown' filled
  refine ⟨String.ofList cs', Outcome.map_eq_ok_iff.2 ⟨cs', filled', rfl⟩, fun same => ?_⟩
  obtain rfl := String.ofList_injective same
  have referred := mem_placeholders_iff.1 listed
  have often : 0 < (pieces template.toList).countP (·.lookup? = some ref) := by
    simpa [List.countP_pos_iff] using referred
  have lengths := Nat.eq_of_mul_eq_mul_left often (Nat.add_left_cancel grown)
  exact ne (rebound.eq_of_fill_eq shown shown' lengths filled filled' referred).symm

end Rebound

/-- Interpolation reads the names that are listed for a text, and no others: environments that show
alike what is listed give the same text, the text itself if they bind nothing that is listed, and
another text as soon as one listed name is bound to a value that is displayed otherwise. -/
theorem interpolate_reads_placeholders (template : String)
    (vars nodeValues vars' nodeValues' : Table)
    (alike : ∀ ref ∈ placeholders template,
      ShowsAlike (bindings vars nodeValues ref.1 ref.2) (bindings vars' nodeValues' ref.1 ref.2)) :
    ∃ text, interpolate template vars nodeValues = .ok text ∧
      interpolate template vars' nodeValues' = .ok text ∧
      ((∀ ref ∈ placeholders template, bindings vars nodeValues ref.1 ref.2 = none) →
        text = template) ∧
      ∀ ref ∈ placeholders template, ∀ (v w : Value) (old new : String)
        (vars₁ nodeValues₁ : Table), v.display = .ok old → w.display = .ok new → new ≠ old →
        Rebound (bindings vars nodeValues) (bindings vars₁ nodeValues₁) ref v w →
        ∃ text₁, interpolate template vars₁ nodeValues₁ = .ok text₁ ∧ text₁ ≠ text := by
  obtain ⟨cs, filled, filled'⟩ := fill_of_alike (pieces template.toList) fun p member ref looked =>
    alike ref (mem_placeholders_iff.2 ⟨p, member, looked⟩)
  have before : interpolate template vars nodeValues = .ok (String.ofList cs) :=
    Outcome.map_eq_ok_iff.2 ⟨cs, filled, rfl⟩
  refine ⟨String.ofList cs, before, Outcome.map_eq_ok_iff.2 ⟨cs, filled', rfl⟩, ?_, ?_⟩
  · intro unbound
    exact Except.ok.inj (before.symm.trans (interpolate_of_unbound unbound))
  · intro ref listed v w old new vars₁ nodeValues₁ shown shown' ne rebound
    exact rebound.interpolate_ne listed shown shown' ne before

/-- A name is listed without the blanks around it, and what is bound to it is read. -/
theorem interpolate_reads_placeholders_trimmed :
    (∀ ref ∈ placeholders "$\x7b x \x7d", ShowsAlike
      (bindings [(.text "x", .int 1)] [] ref.1 ref.2)
      (bindings [(.text "x", .text "1"), (.text "y", .null)] [] ref.1 ref.2)) ∧
    ∃ text, interpolate "$\x7b x \x7d" [(.text "x", .int 1)] [] = .ok text ∧
      interpolate "$\x7b x \x7d" [(.text "x", .text "1"), (.text "y", .null)] [] = .ok text ∧
      ∃ text₁, interpolate "$\x7b x \x7d" [(.text "x", .text "ten")] [] = .ok text₁ ∧
        text₁ ≠ text := by
  have listed : placeholders "$\x7b x \x7d" = [(.variable, "x")] := by decide +kernel
  have alike : ∀ ref ∈ placeholders "$\x7b x \x7d", ShowsAlike
      (bindings [(.text "x", .int 1)] [] ref.1 ref.2)
      (bindings [(.text "x", .text "1"), (.text "y", .null)] [] ref.1 ref.2) := by
    intro ref member
    rw [listed] at member
    obtain rfl := List.mem_singleton.1 member
    have shown : (Value.int 1).display = .ok "1" := rfl
    exact ShowsAlike.bound shown rfl
  obtain ⟨text, left, right, -, other⟩ := interpolate_reads_placeholders "$\x7b x \x7d"
    [(.text "x", .int 1)] [] [(.text "x", .text "1"), (.text "y", .null)] [] alike
  have there : Entries.lookup (.text "x") ([(.text "x", .int 1)] : Table) = some (.int 1) := rfl
  have rebound : Rebound (bindings [(.text "x", .int 1)] [])
      (bindings [(.text "x", .text "ten")] []) (.variable, "x") (.int 1) (.text "ten") :=
    Rebound.of_put there (.text "ten") []
  exact ⟨alike, text, left, right,
    other _ (listed ▸ List.mem_singleton_self _) _ _ "1" "ten" _ _ rfl rfl (by decide) rebound⟩

end EventCanvas.Placeholder
