import EventCanvas.Placeholder

/-!
# Texts without bound placeholders

Cutting a text into pieces loses nothing: the pieces have the characters of the
text, in their order.  So a text is delivered as it stands if nothing is bound to
what it refers to, as when it refers to nothing.
-/

namespace EventCanvas

/-- What a piece looks up. -/
def Piece.lookup? : Piece → Option (Source × String)
  | plain _ => none
  | reference s written => some (s, Placeholder.lookupName written)

namespace Placeholder

theorem sigil_of_ofSigil? {c : Char} {s : Source} (opened : Source.ofSigil? c = some s) :
    s.sigil = c := by
  unfold Source.ofSigil? at opened
  split at opened
  · next dollar =>
    cases opened
    exact dollar.symm
  · split at opened
    · next hash =>
      cases opened
      exact hash.symm
    · cases opened

/-- A name at the front of a text is written there, and closed by a brace. -/
theorem append_of_nameAt? {cs name rest : List Char} (named : nameAt? cs = some (name, rest)) :
    name ++ '\x7d' :: rest = cs := by
  unfold nameAt? at named
  split at named
  · cases named
  · next brace _ dropped =>
    split at named
    · cases named
    · cases named
      have closing : brace = '\x7d' := by
        have stops := List.head?_dropWhile_not isNameChar cs
        rw [dropped] at stops
        simpa [isNameChar] using stops
      have whole := List.takeWhile_append_dropWhile (p := isNameChar) (l := cs)
      rwa [dropped, closing] at whole

/-- A reference at the front of a text is written there. -/
theorem chars_append_of_reference? {cs name rest : List Char} {s : Source}
    (found : reference? cs = some (s, name, rest)) :
    (Piece.reference s name).chars ++ rest = cs := by
  unfold reference? at found
  split at found
  · split at found
    · cases found
    · next opened =>
      obtain ⟨⟨_, _⟩, named, same⟩ := Option.map_eq_some_iff.1 found
      cases same
      rw [Piece.chars, sigil_of_ofSigil? opened, List.cons_append, List.cons_append,
        List.append_assoc, List.singleton_append, append_of_nameAt? named]
  · cases found

/-- The pieces of a text have its characters. -/
theorem chars_pieces (cs : List Char) : (pieces cs).flatMap Piece.chars = cs := by
  induction cs using pieces.induct with
  | case1 cs s name rest found _ ih =>
    rw [pieces]
    split
    · next found' =>
      cases found.symm.trans found'
      rw [List.flatMap_cons, ih, chars_append_of_reference? found]
    · next found' => cases found.symm.trans found'
  | case2 found =>
    rw [pieces]
    rfl
  | case3 c rest found ih =>
    rw [pieces]
    split
    · next found' => cases found.symm.trans found'
    · rw [List.flatMap_cons, ih]
      rfl

/-! ## What a piece looks up -/

theorem mem_placeholders_iff {template : String} {ref : Source × String} :
    ref ∈ placeholders template ↔ ∃ p ∈ pieces template.toList, p.lookup? = some ref :=
  List.mem_filterMap

/-- Where nothing is bound to what they look up, pieces are put into the text as they are. -/
theorem fill_of_unbound {bound : Bindings} {ps : List Piece}
    (unbound : ∀ p ∈ ps, ∀ ref, p.lookup? = some ref → bound ref.1 ref.2 = none) :
    fill bound ps = .ok (ps.flatMap Piece.chars) := by
  induction ps with
  | nil => rfl
  | cons p ps ih =>
    have here : fillPiece bound p = .ok p.chars := by
      cases p with
      | plain c => rfl
      | reference s written =>
        have none := unbound _ List.mem_cons_self _ rfl
        rw [fillPiece, none]
    rw [fill, here, ih fun p member => unbound p (List.mem_cons_of_mem _ member)]
    rfl

/-- A text is delivered as it stands if nothing is bound to what it refers to. -/
theorem interpolate_of_unbound {template : String} {vars nodeValues : Table}
    (unbound : ∀ ref ∈ placeholders template, bindings vars nodeValues ref.1 ref.2 = none) :
    interpolate template vars nodeValues = .ok template := by
  have filled : fill (bindings vars nodeValues) (pieces template.toList) = .ok _ :=
    fill_of_unbound fun p member ref looked =>
      unbound ref (mem_placeholders_iff.2 ⟨p, member, looked⟩)
  rw [interpolate, filled, chars_pieces]
  exact congrArg Except.ok String.ofList_toList

/-- A text that refers to nothing is delivered as it stands. -/
theorem interpolate_of_placeholders_eq_nil {template : String}
    (literal : placeholders template = []) (vars nodeValues : Table) :
    interpolate template vars nodeValues = .ok template :=
  interpolate_of_unbound fun _ listed => nomatch literal ▸ listed

end Placeholder

end EventCanvas
