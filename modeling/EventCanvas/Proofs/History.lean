import EventCanvas.Engine.World

/-!
# Events between their past and their future

* `Throughout P h`: every event of the history `h` stands in the relation `P` to
  what came before it and what came after it.
* `Paired next h`: every event that calls for another is followed by it, with
  nothing in between.
-/

namespace EventCanvas

/-- Every event of a history stands in a relation to its past and its future. -/
def Throughout (P : List Event → Event → List Event → Prop) (h : List Event) : Prop :=
  ∀ past e future, h = past ++ e :: future → P past e future

/-- Every event that calls for another is followed by it at once. -/
def Paired (next : Event → Option Event) (h : List Event) : Prop :=
  ∀ past e future, h = past ++ e :: future → ∀ e', next e = some e' → ∃ rest, future = e' :: rest

namespace Throughout

variable {P : List Event → Event → List Event → Prop} {h h₁ h₂ : List Event} {e : Event}

theorem nil : Throughout P [] := fun _ _ _ split => by simp at split

theorem cons (here : P [] e h) (rest : Throughout (fun past => P (e :: past)) h) :
    Throughout P (e :: h) := by
  intro past e₁ future split
  rcases past with _ | ⟨e₀, past⟩
  · obtain ⟨rfl, rfl⟩ := List.cons.inj split
    exact here
  · obtain ⟨rfl, tail⟩ := List.cons.inj split
    exact rest past e₁ future tail

theorem single (here : P [] e []) : Throughout P [e] := cons here nil

/-- What holds of an event before a longer future holds in the whole if it holds in the parts. -/
theorem append (first : Throughout P h₁)
    (later : ∀ past e future more, P past e future → P past e (future ++ more))
    (second : Throughout (fun past => P (h₁ ++ past)) h₂) : Throughout P (h₁ ++ h₂) := by
  intro past e₁ future split
  rcases List.append_eq_append_iff.1 split with ⟨a, rfl, rest⟩ | ⟨a, rest, tail⟩
  · exact second a e₁ future rest
  · -- the event is in `h₁`, or it is what `h₂` begins with
    rcases a with _ | ⟨e₀, a⟩
    · rw [List.append_nil] at rest
      have here : P (h₁ ++ []) e₁ future := second [] e₁ future tail.symm
      rwa [List.append_nil, rest] at here
    · rw [List.cons_append, List.cons.injEq] at tail
      obtain ⟨rfl, rfl⟩ := tail
      exact later _ _ _ _ (first past e₁ a rest)

end Throughout

namespace Paired

variable {next : Event → Option Event} {h₁ h₂ : List Event} {e e' : Event}

theorem nil : Paired next [] := Throughout.nil

theorem single (none : next e = none) : Paired next [e] :=
  Throughout.single fun e' follows => by rw [none] at follows; cases follows

theorem pair (follows : next e = some e') (none : next e' = none) : Paired next [e, e'] := by
  refine Throughout.cons (fun e₂ follows₂ => ?_) (single none)
  rw [follows] at follows₂
  exact ⟨[], by rw [Option.some.inj follows₂]⟩

theorem append (first : Paired next h₁) (second : Paired next h₂) : Paired next (h₁ ++ h₂) :=
  Throughout.append first
    (fun _ _ _ more follows e' called =>
      (follows e' called).imp' (· ++ more) fun rest same => by rw [same, List.cons_append])
    fun past => second past

theorem of_append (whole : Paired next (h₁ ++ h₂)) : Paired next h₂ :=
  fun past e₁ future split =>
    whole (h₁ ++ past) e₁ future (by rw [split, List.append_assoc])

end Paired

end EventCanvas
