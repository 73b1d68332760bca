import EventCanvas.Command.Preview
import EventCanvas.Shell.Machine
import Mathlib.Data.List.TakeWhile

/-!
# Triggers are read as they are written

The two separators of a written trigger may occur where they separate nothing: a
colon inside the name of a node, either of them inside a value.  `IsWritable`
says which names leave no doubt, and the written form of such a trigger stands
for it alone.

* `Trigger.splitFirst_eq_iff`, `Trigger.splitLast?_eq_some_iff`: what the two ways
  of splitting find.
* `Trigger.ofText?_eq_some_iff`: a text is read as a trigger just if the trigger is
  writable and the text is its written form.
* `Preview.fire_exactly`: so every text fires the one trigger it is the written form
  of, or is refused.
-/

namespace EventCanvas

namespace Trigger

/-- A trigger whose written form can be taken apart again. -/
structure IsWritable (t : Trigger) : Prop where
  node_ne : t.node ≠ ""
  equals_not_mem_node : '=' ∉ t.node.toList
  event_ne : t.event ≠ ""
  equals_not_mem_event : '=' ∉ t.event.toList
  colon_not_mem_event : ':' ∉ t.event.toList

variable {c : Char} {cs head front back : List Char} {tail : Option (List Char)} {t : Trigger}

/-! ## Splitting -/

theorem splitFirst_of_not_mem (absent : c ∉ cs) : splitFirst c cs = (cs, none) := by
  have passed : cs.dropWhile (· ≠ c) = [] :=
    List.dropWhile_eq_nil_iff.2 fun d member => decide_eq_true fun same => absent (same ▸ member)
  rw [splitFirst, passed]

theorem splitFirst_append_cons (absent : c ∉ head) (rest : List Char) :
    splitFirst c (head ++ c :: rest) = (head, some rest) := by
  have passed : ∀ d ∈ head, decide (d ≠ c) = true :=
    fun d member => decide_eq_true fun same => absent (same ▸ member)
  rw [splitFirst, List.dropWhile_append_of_pos passed, List.takeWhile_append_of_pos passed]
  simp

/-- What stands before the first occurrence holds none, and nothing is lost. -/
theorem splitFirst_eq_iff :
    splitFirst c cs = (head, tail) ↔ c ∉ head ∧ cs = head ++ tail.elim [] (c :: ·) := by
  constructor
  · intro found
    by_cases member : c ∈ cs
    · obtain ⟨front, rest, rfl, absent⟩ := List.eq_append_cons_of_mem member
      rw [splitFirst_append_cons absent] at found
      cases found
      exact ⟨absent, rfl⟩
    · rw [splitFirst_of_not_mem member] at found
      cases found
      exact ⟨member, (List.append_nil cs).symm⟩
  · rintro ⟨absent, rfl⟩
    cases tail with
    | none =>
      rw [Option.elim_none, List.append_nil]
      exact splitFirst_of_not_mem absent
    | some rest => exact splitFirst_append_cons absent rest

/-- What stands after the last occurrence holds none, and nothing is lost. -/
theorem splitLast?_eq_some_iff :
    splitLast? c cs = some (front, back) ↔ c ∉ back ∧ cs = front ++ c :: back := by
  have backwards : splitLast? c cs = some (front, back) ↔
      splitFirst c cs.reverse = (back.reverse, some front.reverse) := by
    unfold splitLast?
    split
    · next found => simp [found]
    · next found =>
      rw [found]
      simp [List.reverse_eq_iff, and_comm]
  rw [backwards, splitFirst_eq_iff, List.mem_reverse, List.reverse_eq_iff]
  simp

/-! ## Reading -/

theorem toList_text (t : Trigger) :
    t.text.toList = (t.node.toList ++ ':' :: t.event.toList) ++
      (t.value.map String.toList).elim [] ('=' :: ·) := by
  unfold text
  cases t.value <;> simp

/-- The value begins at the first equality sign, which is not in the names. -/
theorem splitFirst_text (writable : t.IsWritable) :
    splitFirst '=' t.text.toList =
      (t.node.toList ++ ':' :: t.event.toList, t.value.map String.toList) := by
  refine splitFirst_eq_iff.2 ⟨?_, t.toList_text⟩
  simp [writable.equals_not_mem_node, writable.equals_not_mem_event]

/-- A trigger that was read is writable, and the text is its written form. -/
theorem of_ofText?_eq_some {s : String} (read : ofText? s = some t) :
    t.IsWritable ∧ t.text = s := by
  obtain ⟨⟨head, value⟩, first⟩ : ∃ parts, splitFirst '=' s.toList = parts := ⟨_, rfl⟩
  simp only [ofText?, ofChars?, first] at read
  split at read
  · cases read
  · next node event last =>
    split at read
    · cases read
    · next filled =>
      cases read
      obtain ⟨no_equals, whole⟩ := splitFirst_eq_iff.1 first
      obtain ⟨no_colon, rfl⟩ := splitLast?_eq_some_iff.1 last
      simp only [List.mem_append, List.mem_cons, not_or] at no_equals
      simp only [Bool.or_eq_true, List.isEmpty_iff, not_or] at filled
      refine ⟨⟨?_, ?_, ?_, ?_, ?_⟩, String.toList_injective ?_⟩
      · simpa using filled.1
      · simpa using no_equals.1
      · simpa using filled.2
      · simpa using no_equals.2.2
      · simpa using no_colon
      · rw [toList_text, whole]
        cases value <;> simp

/-- A text is read as a trigger just if the trigger is writable and the text is its written form. -/
theorem ofText?_eq_some_iff {s : String} : ofText? s = some t ↔ t.IsWritable ∧ t.text = s := by
  refine ⟨of_ofText?_eq_some, ?_⟩
  rintro ⟨writable, rfl⟩
  have apart : splitLast? ':' (t.node.toList ++ ':' :: t.event.toList) =
      some (t.node.toList, t.event.toList) :=
    splitLast?_eq_some_iff.2 ⟨writable.colon_not_mem_event, rfl⟩
  simp [ofText?, ofChars?, splitFirst_text writable, apart, writable.node_ne, writable.event_ne]

end Trigger

namespace Preview

variable {m : Type → Type} [Monad m] [Shell m]

/-- Every text fires the one trigger it is the written form of; where there is none it is refused,
and nothing is run. -/
theorem fire_exactly (command : Grammar) (threshold : Nat) (s : String) :
    (∀ t : Trigger, Trigger.ofText? s = some t ↔ t.IsWritable ∧ t.text = s) ∧
    (∀ t : Trigger, t.IsWritable → t.text = s →
      (∀ t' : Trigger, t'.IsWritable → t'.text = s → t' = t) ∧
      (fire command threshold s : Session m Unit) = do
        let data : Value :=
          match t.value with
          | none => .null
          | some v => .object [("value", .text v)]
        let matched ← act threshold (Harness.trigger (.text t.node) (.text t.event) data)
        inShell (Shell.say
          ("→ " ++ t.node ++ ":" ++ t.event ++ " ran " ++ toString matched ++ " event(s)"))) ∧
    ((∀ t : Trigger, t.IsWritable → t.text ≠ s) →
      Trigger.ofText? s = none ∧
      (fire command threshold s : Session m Unit) = throw (.misuse command (.badTrigger s))) := by
  refine ⟨fun t => Trigger.ofText?_eq_some_iff, fun t writable written => ?_, fun unwritten => ?_⟩
  · have read : Trigger.ofText? s = some t := Trigger.ofText?_eq_some_iff.2 ⟨writable, written⟩
    refine ⟨fun t' writable' written' => ?_, by rw [fire, read]; rfl⟩
    have read' : Trigger.ofText? s = some t' :=
      Trigger.ofText?_eq_some_iff.2 ⟨writable', written'⟩
    exact Option.some.inj (read'.symm.trans read)
  · have read : Trigger.ofText? s = none := by
      refine Option.eq_none_iff_forall_ne_some.2 fun t read => ?_
      obtain ⟨writable, written⟩ := Trigger.ofText?_eq_some_iff.1 read
      exact unwritten t writable written
    exact ⟨read, by rw [fire, read]⟩

/-- Colons belong to the node and equality signs to the value, but a node has no equality sign. -/
theorem fire_exactly_separators (command : Grammar) (threshold : Nat) :
    Trigger.ofText? "a:b:onChange=x=y:z" = some ⟨"a:b", "onChange", some "x=y:z"⟩ ∧
      (∀ t : Trigger, t.IsWritable → t.text ≠ "a=b:onClick") ∧
      (fire command threshold "a=b:onClick" : Session (StateM Machine) Unit) =
        throw (.misuse command (.badTrigger "a=b:onClick")) := by
  have typed : (⟨"a:b", "onChange", some "x=y:z"⟩ : Trigger).IsWritable := by
    constructor <;> decide
  have read := (fire_exactly (m := StateM Machine) command threshold "a:b:onChange=x=y:z").1
  have unwritten : ∀ t : Trigger, t.IsWritable → t.text ≠ "a=b:onClick" := by
    intro t writable written
    have none : Trigger.ofText? "a=b:onClick" = none := by decide
    rw [Trigger.ofText?_eq_some_iff.2 ⟨writable, written⟩] at none
    cases none
  exact ⟨(read _).2 ⟨typed, by decide⟩, unwritten,
    ((fire_exactly command threshold "a=b:onClick").2.2 unwritten).2⟩

end Preview

end EventCanvas
