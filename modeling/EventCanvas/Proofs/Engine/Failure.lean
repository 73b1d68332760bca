import EventCanvas.Proofs.Engine.Coupling
import EventCanvas.Proofs.Host
import EventCanvas.Proofs.Slot

/-!
# Failures of callbacks stay outside

Two runs on equal engines, whose hosts fail at different moments, are followed
side by side.  `Agree` relates the worlds that they may reach.

* `Matches`: two steps end in the same way and in worlds that agree.  Whatever
  catches the faults of callbacks is so, as every fault has a text to be reported by.
* `Parallel`: two steps end in worlds that agree, though one may fail where the
  other does not.  An effect is so: it was written before the host is told.
* `Unseen`: a step after which the world agrees with the one before.  Skipping is
  so, and with it the failures that are reported by it.
* `Host.failures_unseen`: the results of executing, the state of the engine and
  the effects that callbacks are told of do not depend on which callbacks fail.
-/

namespace EventCanvas

open Act (Maintains)

variable {σ α β : Type} {id : Nat}

/-- Two worlds have the same engine, and callbacks were told the same of its effects. -/
structure Agree (id : Nat) (w v : World σ) : Prop where
  there : id < w.engines.length ↔ id < v.engines.length
  engine : w.engine id = v.engine id
  spans : w.spans = v.spans
  effects : Engine.effects id w = Engine.effects id v

namespace Agree

variable {u w v : World σ}

theorem refl (w : World σ) : Agree id w w := ⟨Iff.rfl, rfl, rfl, rfl⟩

theorem symm (a : Agree id w v) : Agree id v w :=
  ⟨a.there.symm, a.engine.symm, a.spans.symm, a.effects.symm⟩

theorem trans (a : Agree id u w) (b : Agree id w v) : Agree id u v :=
  ⟨a.there.trans b.there, a.engine.trans b.engine, a.spans.trans b.spans,
    a.effects.trans b.effects⟩

/-- The same change of the engine in both worlds. -/
theorem modifyEngine (a : Agree id w v) (f : Engine → Engine) :
    Agree id (w.modifyEngine id f) (v.modifyEngine id f) where
  there := by simpa [World.modifyEngine] using a.there
  engine := by
    rw [World.engine_modifyEngine_eq_ite, World.engine_modifyEngine_eq_ite, a.engine]
    simp only [a.there]
  spans := a.spans
  effects := a.effects

theorem record (a : Agree id w v) (e : Event) : Agree id (w.record e) (v.record e) where
  there := a.there
  engine := a.engine
  spans := a.spans
  effects := by rw [Engine.effects_record, Engine.effects_record, a.effects]

/-- What is not told of an effect is not seen. -/
theorem record_right (a : Agree id w v) {e : Event} (none : Engine.effectIn? id e = none) :
    Agree id w (v.record e) :=
  ⟨a.there, a.engine, a.spans, a.effects.trans (Engine.effects_record_of_none v none).symm⟩

end Agree

/-! ## Steps side by side -/

/-- Two steps end in the same way, in worlds that agree. -/
def Matches (id : Nat) (x y : Act σ α) : Prop :=
  ∀ w v, Agree id w v → (x.run w).1 = (y.run v).1 ∧ Agree id (x.run w).2 (y.run v).2

/-- Two steps end in worlds that agree. -/
def Parallel (id : Nat) (x y : Act σ α) : Prop :=
  ∀ w v, Agree id w v → Agree id (x.run w).2 (y.run v).2

/-- After a step the world agrees with the one before. -/
def Unseen (id : Nat) (x : Act σ α) : Prop := ∀ u, Maintains (Agree id u) x

namespace Matches

theorem pure (a : α) : Matches id (Pure.pure a : Act σ α) (Pure.pure a) := Act.Alongside.pure a

theorem throw (f : Fault) : Matches id (throw f : Act σ α) (throw f) := Act.Alongside.throw f

theorem bind {x y : Act σ α} {k l : α → Act σ β} (first : Matches id x y)
    (next : ∀ a, Matches id (k a) (l a)) : Matches id (x >>= k) (y >>= l) :=
  Act.Alongside.bind first next

theorem attempt {x y : Act σ α} (body : Matches id x y) :
    Matches id (Act.attempt x) (Act.attempt y) := Act.Alongside.attempt body

/-- What only reads the engine reads the same. -/
theorem of_readsOnly {x : Act σ α} (reads : Act.ReadsOnly id x) : Matches id x x := by
  obtain ⟨outcome, run⟩ := reads
  intro w v agree
  rw [run, run]
  exact ⟨by rw [agree.engine], agree⟩

theorem parallel {x y : Act σ α} (matched : Matches id x y) : Parallel id x y :=
  fun w v agree => (matched w v agree).2

theorem log (r : LogRecord) : Matches id (Act.log r : Act σ Unit) (Act.log r) :=
  fun _ _ agree => ⟨rfl, agree.there, agree.engine, agree.spans, agree.effects⟩

theorem record (e : Event) : Matches id (Act.record e : Act σ Unit) (Act.record e) :=
  fun _ _ agree => ⟨rfl, agree.record e⟩

theorem freshSpan : Matches id (Act.freshSpan : Act σ Nat) Act.freshSpan :=
  fun _ _ agree => ⟨congrArg Except.ok agree.spans, agree.there, agree.engine,
    congrArg (· + 1) agree.spans, agree.effects⟩

theorem modifyEngine (f : Engine → Engine) :
    Matches id (Act.modifyEngine id f : Act σ Unit) (Act.modifyEngine id f) :=
  fun _ _ agree => ⟨rfl, agree.modifyEngine f⟩

end Matches

namespace Parallel

theorem bind {x y : Act σ α} {k l : α → Act σ β} (first : Matches id x y)
    (next : ∀ a, Parallel id (k a) (l a)) : Parallel id (x >>= k) (y >>= l) := by
  intro w v agree
  obtain ⟨same, between⟩ := first w v agree
  rw [Act.run_bind, Act.run_bind]
  rcases left : x.run w with ⟨f | a, w'⟩ <;> rcases right : y.run v with ⟨g | b, v'⟩ <;>
    rw [left, right] at same between <;> cases same
  · exact between
  · exact next a w' v' between

/-- What comes after a step does not matter if it changes nothing. -/
theorem then_pure {x y : Act σ Unit} (first : Parallel id x y) (a b : α) :
    Parallel id (x >>= fun _ => Pure.pure a) (y >>= fun _ => Pure.pure b) := by
  intro w v agree
  have after := first w v agree
  rw [Act.run_bind, Act.run_bind]
  rcases left : x.run w with ⟨f | a', w'⟩ <;> rcases right : y.run v with ⟨g | b', v'⟩ <;>
    (rw [left, right] at after; exact after)

end Parallel

namespace Unseen

theorem agree {x : Act σ α} (unseen : Unseen id x) (w : World σ) : Agree id w (x.run w).2 :=
  unseen w w (.refl w)

theorem parallel {x y : Act σ α} (left : Unseen id x) (right : Unseen id y) : Parallel id x y :=
  fun w v agree => ((left.agree w).symm.trans agree).trans (right.agree v)

/-- Steps that are not seen match if they cannot fail. -/
theorem matches_of_ok {x y : Act σ Unit} (left : Unseen id x) (right : Unseen id y)
    (okLeft : ∀ w, (x.run w).1 = .ok ()) (okRight : ∀ v, (y.run v).1 = .ok ()) :
    Matches id x y :=
  fun w v agree => ⟨(okLeft w).trans (okRight v).symm, left.parallel right w v agree⟩

theorem log (r : LogRecord) : Unseen id (Act.log r : Act σ Unit) :=
  fun _ _ agree => ⟨agree.there, agree.engine, agree.spans, agree.effects⟩

theorem observe {o : Observation} (none : Engine.effectIn? id (.observed o) = none) :
    Unseen id (Act.observe o : Act σ Unit) :=
  fun _ _ agree => agree.record_right none

end Unseen

namespace Engine

variable {notify notify' : Notify σ}

/-! ## Skipping is not seen -/

section

variable (quiet : ∀ callback notice, Unseen id (notify callback notice))

include quiet

theorem reports_agree (u : World σ) : Reports (Agree id u) notify id where
  log r := Unseen.log r u
  traced _ := Unseen.observe rfl u
  report d := by
    intro w agree
    rw [run_tell]
    cases (w.engine id).context.hooks.get (Notice.diagnosed d).hook with
    | none => exact agree
    | some callback =>
      exact quiet callback _ u _ (agree.record_right (if_neg fun effect => effect.2 rfl))

theorem unseen_skip (s : Skip) : Unseen id (skip notify id s) :=
  fun u => (reports_agree quiet u).skip s

end

theorem run_skip_ok (notify : Notify σ) (id : Nat) (s : Skip) (w : World σ) :
    ((skip notify id s).run w).1 = .ok () := by
  obtain ⟨v, run⟩ := (succeeds_skip notify id s).run w
  rw [run]

/-! ## Handling side by side -/

theorem matches_dispose : Matches id (disposeAt id : Act σ Unit) (disposeAt id) := by
  intro w v agree
  refine ⟨rfl, ?_⟩
  show Agree id (w.dispose id) (v.dispose id)
  cases active : (w.engine id).isActive with
  | true =>
    rw [World.dispose_of_isActive active, World.dispose_of_isActive (agree.engine ▸ active)]
    exact (agree.modifyEngine _).record _
  | false =>
    rw [World.dispose_of_not_isActive active,
      World.dispose_of_not_isActive (agree.engine ▸ active)]
    exact agree

section

variable (quiet : ∀ callback notice, Unseen id (notify callback notice))
  (quiet' : ∀ callback notice, Unseen id (notify' callback notice))

include quiet quiet'

theorem matches_skip (s s' : Skip) : Matches id (skip notify id s) (skip notify' id s') :=
  (unseen_skip quiet s).matches_of_ok (unseen_skip quiet' s') (run_skip_ok notify id s)
    (run_skip_ok notify' id s')

/-- Telling of an effect starts the same callback, whatever it then does. -/
theorem parallel_tell (notice : Notice) :
    Parallel id (tell notify id notice) (tell notify' id notice) := by
  intro w v agree
  rw [run_tell, run_tell, ← agree.engine]
  cases (w.engine id).context.hooks.get notice.hook with
  | none => exact agree
  | some callback =>
    exact (quiet callback notice).parallel (quiet' callback notice) _ _ (agree.record _)

/-- An effect is written before the host is told, so it is the same if that fails. -/
theorem parallel_commit (x : Effect) : Parallel id (commit notify id x) (commit notify' id x) := by
  intro w v agree
  rw [run_commit, run_commit, ← agree.engine]
  cases (w.engine id).isActive with
  | false => exact agree
  | true =>
    simp only [if_true]
    cases x.obstacle? (w.engine id).context with
    | some f => exact agree
    | none => exact parallel_tell quiet quiet' x.notice _ _ (agree.modifyEngine _)

/-- A fault that is turned into a skip makes no difference. -/
theorem matches_guarded {x y : Act σ Unit} (body : Parallel id x y) (onFault : Fault → Skip) :
    Matches id (guarded notify id x onFault) (guarded notify' id y onFault) := by
  intro w v agree
  have after := body w v agree
  have skipped (f : Fault) (u : World σ) := (unseen_skip quiet (onFault f)).agree u
  have skipped' (f : Fault) (u : World σ) := (unseen_skip quiet' (onFault f)).agree u
  have ends (f : Fault) := run_skip_ok notify id (onFault f)
  have ends' (f : Fault) := run_skip_ok notify' id (onFault f)
  unfold guarded
  rw [Act.run_tryCatch, Act.run_tryCatch]
  rcases left : x.run w with ⟨f | ⟨⟩, w'⟩ <;> rcases right : y.run v with ⟨g | ⟨⟩, v'⟩ <;>
    rw [left, right] at after
  · exact ⟨(ends f w').trans (ends' g v').symm,
      ((skipped f w').symm.trans after).trans (skipped' g v')⟩
  · exact ⟨ends f w', (skipped f w').symm.trans after⟩
  · exact ⟨(ends' g v').symm, after.trans (skipped' g v')⟩
  · exact ⟨rfl, after⟩

/-- Steps on two equal engines are coupled: they match, but for effects, which are parallel. -/
theorem couples_matches :
    Couples (fun {α} => Matches (α := α) id) (fun {α} => Parallel (α := α) id) notify notify'
      id where
  pure := .pure
  throw := .throw
  bind := .bind
  attempt := .attempt
  read reads next := reads.bind_alongside (fun _ _ agree => agree.engine ▸ .refl _) next
  part_of_whole := Matches.parallel
  bind_part := .bind
  part_then reply body := body.then_pure reply reply
  log := .log
  record := .record
  freshSpan := .freshSpan
  modifyEngine f _ := .modifyEngine f
  dispose := matches_dispose
  skip reason := matches_skip quiet quiet' reason reason
  guarded onFault body := matches_guarded quiet quiet' body onFault
  commit := parallel_commit quiet quiet'

end

/-! ## Operations side by side -/

section

variable (quiet : ∀ callback notice, Unseen id (notify callback notice))
  (quiet' : ∀ callback notice, Unseen id (notify' callback notice))

include quiet quiet'

/-- What has an effect directly ends in worlds that agree. -/
theorem parallel_perform (op : EngineOp Callback) (direct : isDirect op = true) :
    Parallel id (perform notify id op) (perform notify' id op) :=
  (couples_matches quiet quiet').perform_part op direct

/-- Every other operation also ends in the same way. -/
theorem matches_perform (op : EngineOp Callback) (executes : isDirect op = false) :
    Matches id (perform notify id op) (perform notify' id op) := by
  by_cases shows : op = .debugInfo
  · subst shows
    exact .bind (.of_readsOnly (readsOnly_shownContext id)) fun _ => .pure _
  · exact (couples_matches quiet quiet').perform op executes shows

end

/-! ## Sequences of calls -/

/-- A call of an operation ends in worlds that agree, and is answered the same unless the operation
has an effect directly. -/
theorem agree_exchange (quiet : ∀ callback notice, Unseen id (notify callback notice))
    (quiet' : ∀ callback notice, Unseen id (notify' callback notice)) (op : EngineOp Callback)
    {w v : World σ} (agree : Agree id w v) :
    ∃ a b w' v', (Act.exchange (.engine id op) (perform notify id op)).run w = (.ok a, w') ∧
      (Act.exchange (.engine id op) (perform notify' id op)).run v = (.ok b, v') ∧
      Agree id w' v' ∧ (isDirect op = false → a = b) := by
  have called := agree.record (.called (.engine id op))
  refine ⟨_, _, _, _, Act.run_exchange _ _ w, Act.run_exchange _ _ v, ?_, fun executes => ?_⟩
  · have performed : Parallel id (perform notify id op) (perform notify' id op) := by
      cases direct : isDirect op with
      | true => exact parallel_perform quiet quiet' op direct
      | false => exact (matches_perform quiet quiet' op direct).parallel
    exact ((performed _ _ called).record_right rfl).symm.record_right rfl |>.symm
  · rw [(matches_perform quiet quiet' op executes _ _ called).1]

/-- Sequences of calls end in worlds that agree, by induction on how many there are. -/
theorem agree_performAll (quiet : ∀ callback notice, Unseen id (notify callback notice))
    (quiet' : ∀ callback notice, Unseen id (notify' callback notice))
    (ops : List (EngineOp Callback)) {w v : World σ} (agree : Agree id w v) :
    ∃ as bs w' v', (performAll notify id ops).run w = (.ok as, w') ∧
      (performAll notify' id ops).run v = (.ok bs, v') ∧ Agree id w' v' ∧
      as.length = ops.length ∧ bs.length = ops.length ∧
      ∀ (i : Nat) (op : EngineOp Callback), ops[i]? = some op → isDirect op = false →
        as[i]? = bs[i]? := by
  induction ops generalizing w v with
  | nil => exact ⟨[], [], w, v, rfl, rfl, agree, rfl, rfl, fun _ _ _ _ => rfl⟩
  | cons op ops ih =>
    obtain ⟨a, b, w₁, v₁, left, right, between, same⟩ := agree_exchange quiet quiet' op agree
    obtain ⟨as, bs, w₂, v₂, lefts, rights, after, lengths, lengths', sames⟩ := ih between
    refine ⟨a :: as, b :: bs, w₂, v₂, run_performAll_cons notify op ops left lefts,
      run_performAll_cons notify' op ops right rights, after, by simp [lengths],
      by simp [lengths'], fun i op' at_i executes => ?_⟩
    cases i with
    | zero =>
      obtain rfl := Option.some.inj at_i
      rw [List.getElem?_cons_zero, List.getElem?_cons_zero, same executes]
    | succ i => exact sames i op' at_i executes

end Engine

/-! ## Every run -/

namespace Host

/-- The host that does the same whatever it is told. -/
def always (p : Program Unit Unit) : Host Unit := ⟨fun _ _ => p⟩

/-- What a host does that makes no calls is not seen. -/
theorem unseen_notify {host : Host σ} (free : host.CallsOnly fun _ => False) (depth : Nat)
    (callback : Callback) (notice : Notice) : Unseen id (host.notify depth callback notice) := by
  intro u
  refine Host.maintains_notify ⟨?_, fun r => Unseen.log r u, fun n => Unseen.observe rfl u⟩
    (fun _ _ _ none => none.elim) free depth callback notice
  exact fun _ _ agree => ⟨agree.there, agree.engine, agree.spans, agree.effects⟩

/-- Which callbacks fail, and when, changes nothing about an engine.  Two hosts that make no calls
and are otherwise arbitrary, and the same operations on the same engine: both runs end with the same
variables and nodes, in both the callbacks are started with the same effects, and every operation is
answered the same, but for those that pass on the failure of the one callback they start. -/
theorem failures_unseen (host host' : Host σ) (free : host.CallsOnly fun _ => False)
    (free' : host'.CallsOnly fun _ => False) (depth : Nat) (context : Context Callback)
    (settings : EngineSettings) (name : String) (s s' : σ) (ops : List (EngineOp Callback)) :
    ∃ as bs w v,
      (Engine.performAll (host.notify depth) 0 ops).run
        (Slot.created (World.initial ⟨name, settings, none⟩ s) context) = (.ok as, w) ∧
      (Engine.performAll (host'.notify depth) 0 ops).run
        (Slot.created (World.initial ⟨name, settings, none⟩ s') context) = (.ok bs, v) ∧
      (w.engine 0).context = (v.engine 0).context ∧
      Engine.effects 0 w = Engine.effects 0 v ∧
      as.length = ops.length ∧ bs.length = ops.length ∧
      ∀ (i : Nat) (op : EngineOp Callback), ops[i]? = some op → Engine.isDirect op = false →
        as[i]? = bs[i]? := by
  have start : Agree 0 (Slot.created (World.initial ⟨name, settings, none⟩ s) context)
      (Slot.created (World.initial ⟨name, settings, none⟩ s') context) := ⟨Iff.rfl, rfl, rfl, rfl⟩
  obtain ⟨as, bs, w, v, left, right, agree, answers⟩ :=
    Engine.agree_performAll (unseen_notify free depth) (unseen_notify free' depth) ops start
  exact ⟨as, bs, w, v, left, right, by rw [agree.engine], agree.effects, answers⟩

/-- One host whose every callback fails and one whose callbacks do nothing. -/
theorem failures_unseen_failing :
    let start := Slot.created (World.initial ⟨"preview", .initial, none⟩ ())
      (.ofTables [] [] (Hooks.all (some ⟨"host", 0⟩)))
    let ops := [.setVariable (.text "score") (.int 1),
      .executeNodeEvents (.text "n1") (.text "onClick") .null]
    (always (.fail (.failure "host is gone"))).CallsOnly (fun _ => False) ∧
    (always (.done ())).CallsOnly (fun _ => False) ∧
    ∃ as bs w v,
      (Engine.performAll ((always (.fail (.failure "host is gone"))).notify 1) 0 ops).run start =
        (.ok as, w) ∧
      (Engine.performAll ((always (.done ())).notify 1) 0 ops).run start = (.ok bs, v) ∧
      (w.engine 0).context = (v.engine 0).context ∧ Engine.effects 0 w = Engine.effects 0 v ∧
      as[1]? = bs[1]? := by
  intro start ops
  have fails : (always (.fail (.failure "host is gone"))).CallsOnly fun _ => False :=
    fun _ _ => trivial
  have rests : (always (.done ())).CallsOnly fun _ => False := fun _ _ => trivial
  obtain ⟨as, bs, w, v, left, right, context, effects, -, -, same⟩ :=
    failures_unseen _ _ fails rests 1 (.ofTables [] [] (Hooks.all (some ⟨"host", 0⟩))) .initial
      "preview" () () ops
  exact ⟨fails, rests, as, bs, w, v, left, right, context, effects, same 1 _ rfl rfl⟩

end Host

end EventCanvas
