import EventCanvas.Proofs.Engine.Dispatch

/-!
# Callbacks that only take note

A host is calm about an engine if its callbacks never fail and leave that engine
alone: they look at their own state, change it, write to the log, note something,
look at the slot and call other engines, but not this one.  Then what the engine
does can be followed exactly.  `Ends id x w r c news` says how the step `x` ends
from the world `w`, which context the engine `id` then has, and which callbacks it
started with what.

* `Host.spared_notify`, `Host.calm_notify`: callbacks of a host that makes no call on an
  engine leave it alone, and those of a calm host are calm, however deep they nest.
* `Engine.ends_skip`: a skip starts the diagnostic callback once, if one is bound, also
  where that callback fails.
* `Engine.ends_commit`: an effect is written and starts the callback for it.
-/

namespace EventCanvas

open Act (Maintains)

variable {σ α β : Type} {id : Nat}

/-! ## What an engine told -/

/-- The callback that an engine started, and what it was told. -/
def Event.toldBy? (id : Nat) : Event → Option (Callback × Notice)
  | .observed (.started i callback notice) => if i = id then some (callback, notice) else none
  | _ => none

/-- What an engine told the host so far, in order, and by which callbacks. -/
def World.told (w : World σ) (id : Nat) : List (Callback × Notice) :=
  w.history.filterMap (Event.toldBy? id)

namespace World

theorem told_record (w : World σ) (e : Event) (id : Nat) :
    (w.record e).told id = w.told id ++ (e.toldBy? id).toList := by
  rw [told, history_record, List.filterMap_append]
  cases told : e.toldBy? id <;> simp [World.told, told]

theorem told_record_of_none (w : World σ) {e : Event} (none : e.toldBy? id = none) :
    (w.record e).told id = w.told id := by
  rw [told_record, none]
  exact List.append_nil _

@[simp] theorem told_sent (w : World σ) (i : Nat) (events : List SpanEvent) (id : Nat) :
    (w.sent i events).told id = w.told id := by
  have silent : (events.map fun e => Event.observed (.traced i e)).filterMap (Event.toldBy? id) =
      [] := by
    simp [Event.toldBy?]
  rw [told, sent, List.filterMap_append, silent, List.append_nil]
  rfl

theorem Traced.told_eq {i : Nat} {w v : World σ} (traced : w.Traced i v) (id : Nat) :
    v.told id = w.told id := by
  obtain ⟨events, history⟩ := traced.history
  rw [← told_sent w i events id, told, history]
  rfl

end World

/-! ## Leaving an engine alone -/

/-- A world in which an engine is as in another, and told as much. -/
structure Spared (id : Nat) (w v : World σ) : Prop where
  engine : v.engine id = w.engine id
  told : v.told id = w.told id

namespace Spared

variable {u w v : World σ}

theorem refl (w : World σ) : Spared id w w := ⟨rfl, rfl⟩

theorem record (spared : Spared id w v) {e : Event} (none : e.toldBy? id = none) :
    Spared id w (v.record e) :=
  ⟨spared.engine, (v.told_record_of_none none).trans spared.told⟩

theorem modifyEngine (spared : Spared id w v) {i : Nat} (ne : i ≠ id) (f : Engine → Engine) :
    Spared id w (v.modifyEngine i f) :=
  ⟨(World.engine_modifyEngine_of_ne v f ne).trans spared.engine, spared.told⟩

theorem dispose (spared : Spared id w v) {i : Nat} (ne : i ≠ id) : Spared id w (v.dispose i) :=
  World.dispose_of_holds spared i fun _ => (spared.modifyEngine ne _).record rfl

section

variable {notify : Notify σ}
  (callbacks : ∀ callback notice, Maintains (Spared id w) (notify callback notice))

include callbacks

theorem maintains_tell {i : Nat} (ne : i ≠ id) (notice : Notice) :
    Maintains (Spared id w) (Engine.tell notify i notice) :=
  Engine.maintains_tell notice (fun _ _ spared _ => spared.record (if_neg ne))
    fun callback => callbacks callback notice

/-- Whatever another engine does spares this one. -/
theorem supports {i : Nat} (ne : i ≠ id) : Engine.Supports (Spared id w) notify i where
  log _ _ spared := ⟨spared.engine, spared.told⟩
  traced _ _ spared := spared.record rfl
  freshSpan _ spared := ⟨spared.engine, spared.told⟩
  setSpan _ _ spared := spared.modifyEngine ne _
  commit x := Engine.maintains_commit x fun _ spared _ _ =>
    maintains_tell callbacks ne x.notice _ (spared.modifyEngine ne _)
  report _ := maintains_tell callbacks ne _

end

end Spared

/-- A call that leaves an engine alone: of another engine, or a look at the slot. -/
def HostOp.Spares (id : Nat) : HostOp → Prop
  | .engine i _ => i ≠ id
  | .slot .get => True
  | .slot _ => False

/-- Callbacks that leave an engine alone, however they end. -/
def Notify.Spares (id : Nat) (notify : Notify σ) : Prop :=
  ∀ (w : World σ) callback notice, Maintains (Spared id w) (notify callback notice)

/-- Callbacks that end normally and leave an engine alone. -/
def Notify.Calm (id : Nat) (notify : Notify σ) : Prop :=
  ∀ callback notice w, ∃ v, (notify callback notice).run w = (.ok (), v) ∧ Spared id w v

theorem Notify.Calm.spares {notify : Notify σ} (calm : notify.Calm id) : notify.Spares id := by
  intro w callback notice u spared
  obtain ⟨v, run, after⟩ := calm callback notice u
  rw [run]
  exact ⟨after.engine.trans spared.engine, after.told.trans spared.told⟩

/-- A call that leaves an engine alone does so with all that it leads to, if callbacks do. -/
theorem HostOp.Spares.maintains {notify : Notify σ} {w : World σ}
    (callbacks : ∀ callback notice, Maintains (Spared id w) (notify callback notice))
    {op : HostOp} (spares : op.Spares id) :
    Maintains (Spared id w) (Act.exchange op (Host.perform notify op)) := by
  intro u spared
  have performed : Maintains (Spared id w) (Host.perform notify op) := by
    cases op with
    | engine i op =>
      refine (Spared.supports callbacks spares).perform op
        (fun _ _ spared => spared.dispose spares) fun changes _ => ?_
      exact Engine.maintains_updateContext changes fun _ spared _ => spared.modifyEngine spares _
    | slot op =>
      cases op with
      | get => exact fun _ spared => spared
      | _ => exact spares.elim
  rw [Act.run_exchange]
  exact (performed _ (spared.record rfl)).record rfl

/-- Callbacks that make no call on an engine leave it alone, however deep they nest. -/
theorem Host.spared_notify {host : Host σ} (spares : host.CallsOnly (HostOp.Spares id))
    (depth : Nat) : Notify.Spares id (host.notify depth) := by
  intro w
  refine Host.maintains_notify ⟨?_, ?_, ?_⟩ (fun _ told _ => HostOp.Spares.maintains told) spares
    depth
  · exact fun _ _ spared => ⟨spared.engine, spared.told⟩
  · exact fun _ _ spared => ⟨spared.engine, spared.told⟩
  · exact fun _ _ spared => spared.record rfl

/-! ## Calm hosts -/

/-- The program ends normally, whatever it reads and is answered, and leaves an engine alone. -/
def Program.Calm (id : Nat) : Program σ α → Prop
  | .done _ => True
  | .fail _ => False
  | .read next => ∀ s, (next s).Calm id
  | .write _ next => next.Calm id
  | .log _ next => next.Calm id
  | .note _ next => next.Calm id
  | .call op next => op.Spares id ∧ ∀ r, (next r).Calm id

/-- The host reacts to everything without a failure, and leaves an engine alone. -/
def Host.Calm (id : Nat) (host : Host σ) : Prop :=
  ∀ callback notice, (host.react callback notice).Calm id

theorem Program.run_of_calm {notify : Notify σ} (callbacks : notify.Calm id) (p : Program σ α)
    (calm : p.Calm id) {w v : World σ} (spared : Spared id w v) :
    ∃ a u, (p.run (Host.perform notify)).run v = (.ok a, u) ∧ Spared id w u := by
  induction p generalizing v with
  | done a => exact ⟨a, v, rfl, spared⟩
  | fail _ => exact calm.elim
  | read next ih => exact ih v.host (calm v.host) spared
  | write s next ih => exact ih calm (v := { v with host := s }) ⟨spared.engine, spared.told⟩
  | log r next ih =>
    exact ih calm (v := { v with log := v.log ++ [r] }) ⟨spared.engine, spared.told⟩
  | note n next ih => exact ih calm (spared.record rfl)
  | call op next ih =>
    have answered := Act.run_exchange op (Host.perform notify op) v
    have after := HostOp.Spares.maintains (callbacks.spares w) calm.1 v spared
    rw [answered] at after
    obtain ⟨a, u, run, spared'⟩ := ih _ (calm.2 _) after
    exact ⟨a, u, (Act.run_bind_of_ok answered _).trans run, spared'⟩

/-- Callbacks of a calm host are calm, by induction on how deep they nest. -/
theorem Host.calm_notify {host : Host σ} (calm : host.Calm id) (depth : Nat) :
    Notify.Calm id (host.notify depth) := by
  induction depth with
  | zero => exact fun _ _ w => ⟨w, rfl, .refl w⟩
  | succ depth ih =>
    intro callback notice w
    obtain ⟨⟨⟩, v, run, spared⟩ :=
      (host.react callback notice).run_of_calm ih (calm callback notice) (.refl w)
    exact ⟨v, run, spared⟩

namespace Engine

/-! ## How steps end -/

/-- Which callback a notice starts on a context, if one is bound to its hook. -/
def heard (c : Context Callback) (notice : Notice) : List (Callback × Notice) :=
  (c.hooks.get notice.hook).toList.map fun callback => (callback, notice)

/-- A step ends in the given way, with the given context in an engine that is otherwise as before,
and the engine has told the given news. -/
def Ends (id : Nat) (x : Act σ α) (w : World σ) (r : Except Fault α) (c : Context Callback)
    (news : List (Callback × Notice)) : Prop :=
  ∃ v, x.run w = (r, v) ∧ v.engine id = { w.engine id with context := c } ∧
    v.told id = w.told id ++ news

namespace Ends

variable {x : Act σ α} {k : α → Act σ β} {w : World σ} {a : α} {c : Context Callback}
  {news : List (Callback × Notice)} {f : Fault}

theorem of_reads {r : Except Fault α} (reads : x.run w = (r, w)) :
    Ends id x w r (w.engine id).context [] :=
  ⟨w, reads, rfl, (List.append_nil _).symm⟩

theorem pure (a : α) (w : World σ) :
    Ends id (Pure.pure a : Act σ α) w (.ok a) (w.engine id).context [] := of_reads rfl

theorem bind_error (first : Ends id x w (.error f) c news) :
    Ends id (x >>= k) w (.error f) c news := by
  obtain ⟨v, run, same⟩ := first
  exact ⟨v, Act.run_bind_of_error run k, same⟩

/-- What handles a fault starts from the engine as the fault left it. -/
theorem tryCatch_error {handle : Fault → Act σ α} {r : Except Fault α} {c' : Context Callback}
    {news' : List (Callback × Notice)} (body : Ends id x w (.error f) c news)
    (handler : ∀ v : World σ, v.engine id = { w.engine id with context := c } →
      Ends id (handle f) v r c' news') :
    Ends id (tryCatch x handle) w r c' (news ++ news') := by
  obtain ⟨u, run, engine, told⟩ := body
  obtain ⟨v, run', engine', told'⟩ := handler u engine
  refine ⟨v, ?_, ?_, ?_⟩
  · rw [Act.run_tryCatch, run]
    exact run'
  · rw [engine', engine]
  · rw [told', told, List.append_assoc]

theorem tryCatch {handle : Fault → Act σ α} (body : Ends id x w (.ok a) c news) :
    Ends id (tryCatch x handle) w (.ok a) c news := by
  obtain ⟨v, run, same⟩ := body
  refine ⟨v, ?_, same⟩
  rw [Act.run_tryCatch, run]

theorem congr {y : Act σ α} {r : Except Fault α} (same : x.run w = y.run w)
    (ends : Ends id y w r c news) : Ends id x w r c news := by
  unfold Ends
  rw [same]
  exact ends

/-- After a step that only reads the engine, what follows starts from the same world. -/
theorem bind_reads {r : Except Fault β} (reads : x.run w = (.ok a, w))
    (next : Ends id (k a) w r c news) : Ends id (x >>= k) w r c news := by
  obtain ⟨v, run, same⟩ := next
  exact ⟨v, (Act.run_bind_of_ok reads k).trans run, same⟩

end Ends

/-- A step that leaves every engine alone and starts no callback. -/
def Silent (x : Act σ Unit) : Prop :=
  ∀ w, ∃ v, x.run w = (.ok (), v) ∧ v.engines = w.engines ∧ ∀ id, v.told id = w.told id

theorem silent_log (r : LogRecord) : Silent (Act.log r : Act σ Unit) :=
  fun w => ⟨_, Act.run_log r w, rfl, fun _ => rfl⟩

theorem silent_traceOpen (id : Nat) (event : Span → SpanEvent) :
    Silent (traceOpen id event : Act σ Unit) := by
  intro w
  obtain ⟨events, run⟩ := sent_traceOpen id event w
  exact ⟨_, run, rfl, w.told_sent id events⟩

/-- A silent step changes nothing and tells nothing. -/
theorem Silent.ends {x : Act σ Unit} (silent : Silent x) (w : World σ) :
    Ends id x w (.ok ()) (w.engine id).context [] := by
  obtain ⟨v, run, engines, told⟩ := silent w
  refine ⟨v, run, ?_, by rw [told, List.append_nil]⟩
  simp only [World.engine, engines]

/-- What follows a silent step finds the engine as it was. -/
theorem Silent.ends_bind {x : Act σ Unit} (silent : Silent x) {k : Unit → Act σ α} {w : World σ}
    {r : Except Fault α} {c : Context Callback} {news : List (Callback × Notice)}
    (next : ∀ u : World σ, u.engine id = w.engine id → Ends id (k ()) u r c news) :
    Ends id (x >>= k) w r c news := by
  obtain ⟨u, run, engines, told⟩ := silent w
  have same : u.engine id = w.engine id := by simp only [World.engine, engines]
  obtain ⟨v, run', engine', told'⟩ := next u same
  exact ⟨v, (Act.run_bind_of_ok run k).trans run', by rw [engine', same], by rw [told', told]⟩

/-! ## Reporting -/

/-- A skip is about a node that a diagnostic can name, or about none. -/
def Skip.IsNamed (s : Skip) : Prop := s.nodeId = .null ∨ ∃ node, s.nodeId = .text node

/-- What a skip is reported as. -/
def Skip.diagnostic (s : Skip) : Diagnostic := ⟨s.kind, s.message, s.nodeId.text?, s.detail⟩

theorem Skip.IsNamed.about? {s : Skip} (named : s.IsNamed) :
    Diagnostic.about? s.kind s.message s.nodeId s.detail = .ok s.diagnostic := by
  unfold Skip.diagnostic
  rcases named with null | ⟨node, text⟩
  · rw [null]
    rfl
  · rw [text]
    rfl

variable {notify : Notify σ}

/-- Whether or not the callback fails, telling the host changes nothing but what it was told. -/
theorem ends_tell (spares : notify.Spares id) (notice : Notice) (w : World σ) :
    Ends id (tell notify id notice) w ((tell notify id notice).run w).1 (w.engine id).context
      (heard (w.engine id).context notice) := by
  unfold Ends heard
  rw [run_tell]
  cases (w.engine id).context.hooks.get notice.hook with
  | none => exact Ends.of_reads rfl
  | some callback =>
    have spared := spares (w.record (.observed (.started id callback notice))) callback notice _
      (.refl _)
    refine ⟨_, rfl, spared.engine, spared.told.trans ?_⟩
    rw [World.told_record, Event.toldBy?, if_pos rfl]
    rfl

theorem run_reportSkip {s : Skip} (named : s.IsNamed) (w : World σ) :
    (reportSkip notify id s).run w = (tell notify id (.diagnosed s.diagnostic)).run w := by
  unfold reportSkip
  rw [Act.run_bind_of_ok (Act.run_engine id w)]
  cases bound : (w.engine id).context.hooks.diagnostic with
  | none =>
    rw [run_tell]
    simp [Notice.hook, Hooks.get, bound]
    rfl
  | some callback => simp only [Option.isSome_some, if_true, named.about?]

/-- A skip is reported by one diagnostic, and goes on where the callback for it fails. -/
theorem ends_skip (spares : notify.Spares id) {s : Skip} (named : s.IsNamed) (w : World σ) :
    Ends id (skip notify id s) w (.ok ()) (w.engine id).context
      (heard (w.engine id).context (.diagnosed s.diagnostic)) := by
  refine (silent_log _).ends_bind fun u logged => ?_
  refine (silent_traceOpen id _).ends_bind fun u' traced => ?_
  have same : u'.engine id = w.engine id := traced.trans logged
  rw [← same]
  have reported := Ends.congr (run_reportSkip named u') (ends_tell spares _ u')
  generalize ((tell notify id (.diagnosed s.diagnostic)).run u').1 = outcome at reported
  cases outcome with
  | ok a => exact reported.tryCatch
  | error f =>
    rw [← List.append_nil (heard _ _)]
    refine reported.tryCatch_error fun v here => ?_
    have logged : Ends id (Act.log (hookFault f)) v _ _ _ := (silent_log (hookFault f)).ends v
    rwa [here] at logged

/-- What failed is skipped, with whatever it did and told before. -/
theorem ends_guarded_error (spares : notify.Spares id) {w : World σ} {x : Act σ Unit} {f : Fault}
    {c : Context Callback} {news : List (Callback × Notice)} {onFault : Fault → Skip}
    (body : Ends id x w (.error f) c news) (named : (onFault f).IsNamed) :
    Ends id (guarded notify id x onFault) w (.ok ()) c
      (news ++ heard c (.diagnosed (onFault f).diagnostic)) := by
  refine body.tryCatch_error fun v same => ?_
  have skipped := ends_skip spares named v
  rwa [same] at skipped

/-! ## Effects -/

variable {x : Effect} {w : World σ} (active : (w.engine id).isActive = true)

include active

theorem ends_commit_error {f : Fault} (barred : x.obstacle? (w.engine id).context = some f) :
    Ends id (commit notify id x) w (.error f) (w.engine id).context [] := by
  refine .of_reads ?_
  rw [run_commit, active, barred]
  rfl

variable (free : x.obstacle? (w.engine id).context = none)

include free

theorem run_commit_of_free :
    (commit notify id x).run w = (tell notify id x.notice).run (written w id x) := by
  rw [run_commit, active, free]
  rfl

/-- An effect with nothing in its way is written and the host is told, whether or not the callback
fails. -/
theorem ends_commit (spares : notify.Spares id) :
    Ends id (commit notify id x) w ((commit notify id x).run w).1 (x.write (w.engine id).context)
      (heard (w.engine id).context x.notice) := by
  have inside := World.lt_length_of_isActive active
  have engine : (written w id x).engine id =
      { w.engine id with context := x.write (w.engine id).context } :=
    World.engine_modifyEngine_self _ inside
  obtain ⟨v, run, after, told⟩ := ends_tell spares x.notice (written w id x)
  have news : heard ((written w id x).engine id).context x.notice =
      heard (w.engine id).context x.notice := by
    rw [engine]
    simp only [heard, Effect.hooks_write]
  rw [run_commit_of_free active free]
  refine ⟨v, ?_, ?_, ?_⟩
  · rw [run_commit_of_free active free]
    exact run
  · rw [after, engine]
  · rw [told, news]
    rfl

/-- A calm host does not keep an effect from ending well. -/
theorem ends_commit_of_calm (calm : notify.Calm id) :
    Ends id (commit notify id x) w (.ok ()) (x.write (w.engine id).context)
      (heard (w.engine id).context x.notice) := by
  have ends := ends_commit active free calm.spares
  have outcome : ((commit notify id x).run w).1 = .ok () := by
    rw [run_commit_of_free active free, run_tell]
    cases ((written w id x).engine id).context.hooks.get x.notice.hook with
    | none => rfl
    | some callback =>
      obtain ⟨v, run, -⟩ := calm callback x.notice
        ((written w id x).record (.observed (.started id callback x.notice)))
      dsimp only
      rw [run]
  rwa [outcome] at ends

end Engine

end EventCanvas
