/-!
# Control sequences

A control sequence tells a terminal how to show the text around it: an escape
character and an opening bracket, then parameters, then intermediates, then one
final character.  `withoutControls` takes the sequences out of a text that is
written to something else than a terminal.
-/

namespace EventCanvas.Text

/-- The characters of the parameters in a control sequence: `0` to `?`. -/
def isParameter (c : Char) : Bool := 0x30 ≤ c.toNat && c.toNat ≤ 0x3F

/-- The characters between the parameters and the end of a control sequence: space to `/`. -/
def isIntermediate (c : Char) : Bool := 0x20 ≤ c.toNat && c.toNat ≤ 0x2F

/-- The characters that end a control sequence: `@` to `~`. -/
def isFinal (c : Char) : Bool := 0x40 ≤ c.toNat && c.toNat ≤ 0x7E

/-- What follows the control sequence at the very front of a text, if there is one. -/
def afterControl? : List Char → Option (List Char)
  | '\x1b' :: '[' :: cs =>
    match (cs.dropWhile isParameter).dropWhile isIntermediate with
    | c :: rest => if isFinal c then some rest else none
    | [] => none
  | _ => none

theorem length_lt_of_afterControl? {cs rest : List Char} (h : afterControl? cs = some rest) :
    rest.length < cs.length := by
  unfold afterControl? at h
  split at h
  · next body =>
    have le₁ := (List.dropWhile_suffix isParameter (l := body)).length_le
    have le₂ := (List.dropWhile_suffix isIntermediate (l := body.dropWhile isParameter)).length_le
    split at h
    · next hd =>
      rw [hd] at le₂
      split at h
      · cases h
        simp only [List.length_cons] at le₂ ⊢
        omega
      · cases h
    · cases h
  · cases h

/-- A text without its control sequences. -/
def dropControls (cs : List Char) : List Char :=
  match h : afterControl? cs with
  | some rest =>
    have := length_lt_of_afterControl? h
    dropControls rest
  | none =>
    match cs with
    | [] => []
    | c :: rest => c :: dropControls rest
termination_by cs.length

/-- A text without its control sequences. -/
def withoutControls (s : String) : String := String.ofList (dropControls s.toList)

end EventCanvas.Text
