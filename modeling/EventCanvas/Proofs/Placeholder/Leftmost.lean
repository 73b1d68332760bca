import EventCanvas.Proofs.Placeholder
import Mathlib.Data.List.TakeWhile

/-!
# Placeholders from left to right

What a scan should find is said without the scan: a `Reference` is written in a
text wherever its characters are (`Reference.IsAt`), and one place is the first
if no reference starts before it (`Reference.IsFirst`).  The scan stops exactly
there: the characters in front are plain, the reference comes next, and the rest
is scanned on its own (`pieces_of_isFirst`).

What is looked up is said without the look-up, too: a written name is made of
blanks, the name meant, and blanks, and the name meant neither starts nor ends
with a blank (`Text.IsTrimmed`).

* `interpolate_leftmost`: a text in which nothing is referred to is delivered as
  it is; in any other text one reference is the first, and the result is what
  stands before it, what takes its place, and the result for what comes after.

A substituted text is in the second part only, so it is not looked at again.
-/

namespace EventCanvas

namespace Text

/-- `core` is what stands between the characters of a class at the two ends of a text: it neither
starts nor ends with such a character. -/
structure IsTrimmed (p : Char → Bool) (text core : List Char) : Prop where
  surrounded : ∃ before after, text = before ++ (core ++ after) ∧
    (∀ c ∈ before, p c = true) ∧ ∀ c ∈ after, p c = true
  head_unblank : ∀ c ∈ core.head?, p c = false
  getLast_unblank : ∀ c ∈ core.getLast?, p c = false

theorem dropWhile_eq_self_of_head? {p : Char → Bool} {l : List Char}
    (stops : ∀ c ∈ l.head?, p c = false) : l.dropWhile p = l := by
  cases l with
  | nil => rfl
  | cons c l =>
    rw [List.dropWhile_cons, stops c rfl]
    rfl

theorem head?_dropWhile_eq_false {p : Char → Bool} {l : List Char} :
    ∀ c ∈ (l.dropWhile p).head?, p c = false := fun c first => by
  have stops := List.head?_dropWhile_not p l
  rw [Option.mem_def.1 first] at stops
  simpa using stops

/-- Taking a class of characters off both ends gives what is trimmed of that class, and nothing
else does. -/
theorem trimBoth_eq_iff {p : Char → Bool} {text core : List Char} :
    trimBoth p text = core ↔ IsTrimmed p text core := by
  constructor
  · rintro rfl
    have front := List.takeWhile_append_dropWhile (p := p) (l := text)
    have back := congrArg List.reverse
      (List.takeWhile_append_dropWhile (p := p) (l := (text.dropWhile p).reverse))
    rw [List.reverse_append, List.reverse_reverse] at back
    refine ⟨⟨text.takeWhile p, ((text.dropWhile p).reverse.takeWhile p).reverse, ?_,
      fun _ => List.mem_takeWhile_imp,
      fun _ member => List.mem_takeWhile_imp (List.mem_reverse.1 member)⟩, ?_, ?_⟩
    · rw [trimBoth, back, front]
    · intro c first
      -- the core is the front part of what is left after the blanks in front
      refine head?_dropWhile_eq_false (l := text) c ?_
      rw [← back, List.head?_append]
      exact Option.mem_def.2 (by rw [← trimBoth, Option.mem_def.1 first]; rfl)
    · intro c last
      rw [trimBoth, List.getLast?_reverse] at last
      exact head?_dropWhile_eq_false c last
  · rintro ⟨⟨before, after, rfl, front, back⟩, starts, ends⟩
    unfold trimBoth
    rw [List.dropWhile_append_of_pos front]
    cases core with
    | nil => rw [List.nil_append, List.dropWhile_eq_nil_iff.2 back]; rfl
    | cons c core =>
      rw [dropWhile_eq_self_of_head? (l := (c :: core) ++ after) starts, List.reverse_append,
        List.dropWhile_append_of_pos fun c member => back c (List.mem_reverse.1 member),
        dropWhile_eq_self_of_head? (by rwa [List.head?_reverse]), List.reverse_reverse]

end Text

namespace Placeholder

/-- A reference as it can be written: its name is not empty, and has no brace that would close it
too early. -/
structure Reference where
  source : Source
  name : List Char
  name_ne_nil : name ≠ []
  brace_not_mem : '\x7d' ∉ name

namespace Reference

/-- The characters of a reference: its sign, and its name in braces. -/
def chars (r : Reference) : List Char :=
  (match r.source with
    | .variable => '$'
    | .node => '#') :: '\x7b' :: (r.name ++ ['\x7d'])

/-- A text is made of `front`, a reference, and `rest`. -/
def IsAt (r : Reference) (text front rest : List Char) : Prop :=
  text = front ++ (r.chars ++ rest)

/-- A text is made of `front`, a reference, and `rest`, and no reference in it starts earlier. -/
structure IsFirst (r : Reference) (text front rest : List Char) : Prop where
  isAt : r.IsAt text front rest
  le_length : ∀ (r' : Reference) (front' rest' : List Char), r'.IsAt text front' rest' →
    front.length ≤ front'.length

/-- The name that a reference means: what it has in its braces, without the blanks around it. -/
def Means (r : Reference) (name : String) : Prop :=
  Text.IsTrimmed Text.isBlank r.name name.toList

/-- The table that a reference is about. -/
def table (r : Reference) (vars nodeValues : Table) : Table :=
  match r.source with
  | .variable => vars
  | .node => nodeValues

/-- The text that takes the place of a reference with some name: what the variable or the node of
that name holds as it is displayed, or the reference as it is written if there is none. -/
def replacement (r : Reference) (name : String) (vars nodeValues : Table) :
    Except Fault String :=
  match Entries.lookup (.text name) (r.table vars nodeValues) with
  | none => .ok (String.ofList r.chars)
  | some v => v.display

end Reference

/-- Nothing is referred to in a text. -/
def IsLiteral (text : List Char) : Prop :=
  ∀ (r : Reference) (front rest : List Char), ¬ r.IsAt text front rest

/-! ## The reference at the front of a text -/

theorem ofSigil?_sigil (s : Source) : Source.ofSigil? s.sigil = some s := by
  cases s <;> rfl

theorem not_mem_of_nameAt? {cs name rest : List Char} (named : nameAt? cs = some (name, rest)) :
    name ≠ [] ∧ '\x7d' ∉ name := by
  unfold nameAt? at named
  split at named
  · cases named
  · split at named
    · cases named
    · next filled =>
      cases named
      refine ⟨fun none => filled (List.isEmpty_iff.2 none), fun brace => ?_⟩
      have inside := List.mem_takeWhile_imp brace
      simp [isNameChar] at inside

/-- A name runs to the first closing brace. -/
theorem nameAt?_append {name : List Char} (filled : name ≠ []) (unclosed : '\x7d' ∉ name)
    (rest : List Char) : nameAt? (name ++ '\x7d' :: rest) = some (name, rest) := by
  have inside : ∀ c ∈ name, isNameChar c = true := fun c member => by
    simpa [isNameChar] using fun same : c = '\x7d' => unclosed (same ▸ member)
  have stops : isNameChar '\x7d' = false := rfl
  unfold nameAt?
  rw [List.dropWhile_append_of_pos inside, List.takeWhile_append_of_pos inside,
    List.dropWhile_cons, List.takeWhile_cons, stops]
  simp [filled]

theorem Reference.chars_eq (r : Reference) :
    r.chars = (Piece.reference r.source r.name).chars := by
  obtain ⟨source, name, -, -⟩ := r
  cases source <;> rfl

theorem Reference.means_iff {r : Reference} {name : String} :
    r.Means name ↔ lookupName r.name = name := by
  rw [Reference.Means, ← Text.trimBoth_eq_iff, lookupName, Text.trim, String.toList_ofList]
  constructor
  · intro trimmed
    rw [trimmed, String.ofList_toList]
  · rintro rfl
    rw [String.toList_ofList]

/-- A reference is found where it is written. -/
theorem reference?_chars_append (r : Reference) (rest : List Char) :
    reference? (r.chars ++ rest) = some (r.source, r.name, rest) := by
  have named := nameAt?_append r.name_ne_nil r.brace_not_mem rest
  simp [r.chars_eq, Piece.chars, reference?, ofSigil?_sigil, named]

/-- What is found at the front of a text is a reference that is written there. -/
theorem isAt_of_reference? {cs name rest : List Char} {s : Source}
    (found : reference? cs = some (s, name, rest)) :
    ∃ r : Reference, r.source = s ∧ r.name = name ∧ r.IsAt cs [] rest := by
  have written := chars_append_of_reference? found
  have shaped : name ≠ [] ∧ '\x7d' ∉ name := by
    unfold reference? at found
    split at found
    · split at found
      · cases found
      · obtain ⟨⟨_, _⟩, named, same⟩ := Option.map_eq_some_iff.1 found
        cases same
        exact not_mem_of_nameAt? named
    · cases found
  exact ⟨⟨s, name, shaped.1, shaped.2⟩, rfl, rfl, written.symm⟩

/-- A reference in a text that does not start with one stands in the rest of the text. -/
theorem isAt_cons {c : Char} {cs front rest : List Char} {r : Reference}
    (absent : reference? (c :: cs) = none) (written : r.IsAt (c :: cs) front rest) :
    ∃ front', front = c :: front' ∧ r.IsAt cs front' rest := by
  cases front with
  | nil =>
    unfold Reference.IsAt at written
    rw [written, List.nil_append, reference?_chars_append] at absent
    cases absent
  | cons d front' =>
    obtain ⟨rfl, written'⟩ := List.cons.inj written
    exact ⟨front', rfl, written'⟩

/-! ## The first reference of a text -/

/-- A text in which something is referred to has a first reference. -/
theorem exists_isFirst (text : List Char) (referring : ¬ IsLiteral text) :
    ∃ (r : Reference) (front rest : List Char), r.IsFirst text front rest := by
  induction text with
  | nil =>
    refine absurd (fun r front rest written => ?_) referring
    simp [Reference.IsAt, Reference.chars] at written
  | cons c cs ih =>
    cases found : reference? (c :: cs) with
    | some answer =>
      obtain ⟨s, name, rest⟩ := answer
      obtain ⟨r, -, -, written⟩ := isAt_of_reference? found
      exact ⟨r, [], rest, written, fun _ _ _ _ => Nat.zero_le _⟩
    | none =>
      have later : ¬ IsLiteral cs := fun literal => referring fun r front rest written => by
        obtain ⟨front', -, written'⟩ := isAt_cons found written
        exact literal r front' rest written'
      obtain ⟨r, front, rest, first⟩ := ih later
      refine ⟨r, c :: front, rest, congrArg (c :: ·) first.isAt, fun r' front' rest' written => ?_⟩
      obtain ⟨front'', rfl, written'⟩ := isAt_cons found written
      exact Nat.succ_le_succ (first.le_length r' front'' rest' written')

/-- Before the first reference no reference is found. -/
theorem Reference.IsFirst.reference?_eq_none {r : Reference} {c : Char}
    {cs front rest : List Char} (first : r.IsFirst (c :: cs) (c :: front) rest) :
    reference? (c :: cs) = none := by
  cases found : reference? (c :: cs) with
  | none => rfl
  | some answer =>
    obtain ⟨s, name, rest'⟩ := answer
    obtain ⟨r', -, -, written⟩ := isAt_of_reference? found
    have := first.le_length r' [] rest' written
    simp at this

/-- What is first in a text is first in the rest of the text, if it is not at its front. -/
theorem Reference.IsFirst.tail {r : Reference} {c : Char} {cs front rest : List Char}
    (first : r.IsFirst (c :: cs) (c :: front) rest) : r.IsFirst cs front rest where
  isAt := (List.cons.inj first.isAt).2
  le_length r' front' rest' written := Nat.le_of_succ_le_succ
    (first.le_length r' (c :: front') rest' (congrArg (c :: ·) written))

/-! ## The scan -/

theorem pieces_of_reference?_eq_none {c : Char} {cs : List Char}
    (absent : reference? (c :: cs) = none) : pieces (c :: cs) = .plain c :: pieces cs := by
  rw [pieces]
  split
  · next found => cases absent.symm.trans found
  · rfl

theorem pieces_chars_append (r : Reference) (rest : List Char) :
    pieces (r.chars ++ rest) = .reference r.source r.name :: pieces rest := by
  have found := reference?_chars_append r rest
  rw [pieces]
  split
  · next found' =>
    cases found.symm.trans found'
    rfl
  · next found' => cases found.symm.trans found'

/-- A text in which nothing is referred to is scanned as plain characters. -/
theorem pieces_of_isLiteral {text : List Char} (literal : IsLiteral text) :
    pieces text = text.map .plain := by
  induction text with
  | nil => rw [pieces]; rfl
  | cons c cs ih =>
    have absent : reference? (c :: cs) = none := by
      cases found : reference? (c :: cs) with
      | none => rfl
      | some answer =>
        obtain ⟨r, -, -, written⟩ := isAt_of_reference? found
        exact absurd written (literal r [] answer.2.2)
    have rest : IsLiteral cs := fun r front rest written =>
      literal r (c :: front) rest (congrArg (c :: ·) written)
    rw [pieces_of_reference?_eq_none absent, ih rest, List.map_cons]

/-- The scan stops at the first reference and goes on after it. -/
theorem pieces_of_isFirst {r : Reference} {text front rest : List Char}
    (first : r.IsFirst text front rest) :
    pieces text = front.map .plain ++ .reference r.source r.name :: pieces rest := by
  induction front generalizing text with
  | nil =>
    rw [first.isAt]
    exact pieces_chars_append r rest
  | cons c front ih =>
    obtain ⟨cs, rfl⟩ : ∃ cs, text = c :: cs := ⟨_, first.isAt⟩
    rw [pieces_of_reference?_eq_none first.reference?_eq_none, ih first.tail]
    rfl

/-! ## Filling in -/

theorem fill_map_plain_append (bound : Bindings) (front : List Char) (ps : List Piece) :
    fill bound (front.map .plain ++ ps) = (fill bound ps).map (front ++ ·) := by
  induction front with
  | nil =>
    rw [List.map_nil, List.nil_append]
    cases fill bound ps <;> rfl
  | cons c front ih =>
    rw [List.map_cons, List.cons_append, fill, ih]
    cases fill bound ps <;> rfl

theorem fillPiece_reference {r : Reference} {name : String} (means : r.Means name)
    (vars nodeValues : Table) :
    fillPiece (bindings vars nodeValues) (.reference r.source r.name) =
      (r.replacement name vars nodeValues).map String.toList := by
  have held : bindings vars nodeValues r.source name =
      Entries.lookup (.text name) (r.table vars nodeValues) := by
    unfold Reference.table
    cases r.source <;> rfl
  unfold fillPiece Reference.replacement
  dsimp only
  rw [Reference.means_iff.1 means, held]
  cases Entries.lookup (.text name) (r.table vars nodeValues) with
  | none =>
    rw [r.chars_eq]
    exact congrArg Except.ok String.toList_ofList.symm
  | some v => rfl

theorem interpolate_of_isLiteral {template : String} (literal : IsLiteral template.toList)
    (vars nodeValues : Table) : interpolate template vars nodeValues = .ok template := by
  refine interpolate_of_placeholders_eq_nil ?_ vars nodeValues
  rw [placeholders, pieces_of_isLiteral literal]
  simp

theorem interpolate_of_isFirst {r : Reference} {template name : String} {front rest : List Char}
    (first : r.IsFirst template.toList front rest) (means : r.Means name)
    (vars nodeValues : Table) :
    interpolate template vars nodeValues = do
      let shown ← r.replacement name vars nodeValues
      let tail ← interpolate (String.ofList rest) vars nodeValues
      return String.ofList front ++ shown ++ tail := by
  unfold interpolate
  rw [pieces_of_isFirst first, fill_map_plain_append, fill, fillPiece_reference means,
    String.toList_ofList]
  cases r.replacement name vars nodeValues with
  | error f => rfl
  | ok shown =>
    cases fill (bindings vars nodeValues) (pieces rest) with
    | error f => rfl
    | ok tail =>
      refine congrArg Except.ok ?_
      simp only [String.ofList_append, String.ofList_toList, String.append_assoc]

/-- Interpolation replaces references from left to right, each once by what is bound to the one
name it means, and never scans what it has put in. -/
theorem interpolate_leftmost (template : String) (vars nodeValues : Table) :
    (IsLiteral template.toList → interpolate template vars nodeValues = .ok template) ∧
    (¬ IsLiteral template.toList →
      ∃ (r : Reference) (front rest : List Char), r.IsFirst template.toList front rest) ∧
    (∀ r : Reference, ∃! name, r.Means name) ∧
    ∀ (r : Reference) (front rest : List Char) (name : String),
      r.IsFirst template.toList front rest → r.Means name →
      interpolate template vars nodeValues = do
        let shown ← r.replacement name vars nodeValues
        let tail ← interpolate (String.ofList rest) vars nodeValues
        return String.ofList front ++ shown ++ tail :=
  ⟨fun literal => interpolate_of_isLiteral literal vars nodeValues,
    exists_isFirst template.toList,
    fun r => ⟨lookupName r.name, Reference.means_iff.2 rfl,
      fun _ means => (Reference.means_iff.1 means).symm⟩,
    fun _ _ _ _ first means => interpolate_of_isFirst first means vars nodeValues⟩

/-- A name is looked up without the blanks around it, and a value that looks like a reference is
put in as it is. -/
theorem interpolate_leftmost_verbatim :
    (∃ (r : Reference) (front rest : List Char), r.IsFirst "<$\x7b x \x7d>".toList front rest ∧
      r.name = [' ', 'x', ' '] ∧ r.Means "x") ∧
      IsLiteral ">".toList ∧
      interpolate "<$\x7b x \x7d>" [(.text "x", .text "$\x7by\x7d"), (.text "y", .text "z")] [] =
        .ok "<$\x7by\x7d>" := by
  let vars : Table := [(.text "x", .text "$\x7by\x7d"), (.text "y", .text "z")]
  let x : Reference := ⟨.variable, [' ', 'x', ' '], by decide, by decide⟩
  have first : x.IsFirst "<$\x7b x \x7d>".toList ['<'] ['>'] := by
    refine ⟨rfl, fun r front rest written => ?_⟩
    cases front with
    | nil =>
      have sign := (List.cons.inj written).1
      cases source : r.source <;> rw [source] at sign <;> exact absurd sign (by decide)
    | cons c front => simp
  have blank : ∀ c ∈ [' '], Text.isBlank c = true := List.forall_mem_singleton.2 rfl
  have unblank : ∀ c ∈ some 'x', Text.isBlank c = false := fun c same => by
    cases same
    rfl
  have means : x.Means "x" := ⟨⟨[' '], [' '], rfl, blank, blank⟩, unblank, unblank⟩
  have literal : IsLiteral ">".toList := fun r front rest written => by
    have length := congrArg List.length written
    simp [Reference.chars] at length
    omega
  have shown : x.replacement "x" vars [] = .ok "$\x7by\x7d" := rfl
  have tail := (interpolate_leftmost ">" vars []).1 literal
  have whole := (interpolate_leftmost "<$\x7b x \x7d>" vars []).2.2.2 x ['<'] ['>'] "x" first means
  rw [shown, show String.ofList ['>'] = ">" from rfl, tail] at whole
  exact ⟨⟨x, _, _, first, rfl, means⟩, literal, whole⟩

end Placeholder

end EventCanvas
