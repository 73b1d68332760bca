import EventCanvas.Host.Program
import EventCanvas.Proofs.Act

/-!
# What hosts maintain

A host may do anything between two calls, but only to its own state, to the log
and by noting something; everything else it does through the calls it makes.

* `Program.CallsOnly P p`: whatever `p` is answered, it makes only calls in `P`.
* `Program.alongside`, `Host.alongside_notify`: in two worlds that are related a host
  does the same, however deep callbacks nest, if every call does where callbacks do.
* `Host.Leaves I`: what a host does by itself maintains `I`.
* `Host.maintains`: a property of worlds that a host leaves alone, and that every
  call maintains if callbacks do, is maintained by every run, however deep
  callbacks nest.  `Host.maintains_each` is about a family of properties.
-/

namespace EventCanvas

open Act (Alongside Maintains)

variable {σ α : Type} {I : World σ → Prop} {P : HostOp → Prop}

/-- Running a program and going on is running both. -/
theorem Program.run_bind {β : Type} {perform : HostOp → Act σ Reply} (p : Program σ α)
    (k : α → Program σ β) :
    (p >>= k).run perform = (p.run perform >>= fun a => (k a).run perform) := by
  induction p with
  | done a => exact (pure_bind a fun a => (k a).run perform).symm
  | fail f => rfl
  | read next ih =>
    refine (congrArg (get >>= ·) (funext fun w => ih w.host)).trans ?_
    exact (bind_assoc ..).symm
  | write s next ih => exact (congrArg (_ >>= ·) (funext fun _ => ih)).trans (bind_assoc ..).symm
  | log r next ih => exact (congrArg (_ >>= ·) (funext fun _ => ih)).trans (bind_assoc ..).symm
  | note n next ih => exact (congrArg (_ >>= ·) (funext fun _ => ih)).trans (bind_assoc ..).symm
  | call op next ih =>
    exact (congrArg (_ >>= ·) (funext fun r => ih r)).trans (bind_assoc ..).symm

/-! ## The calls of a program -/

/-- The program makes only calls of one kind, whatever it is answered. -/
def Program.CallsOnly (P : HostOp → Prop) : Program σ α → Prop
  | .done _ => True
  | .fail _ => True
  | .read next => ∀ s, (next s).CallsOnly P
  | .write _ next => next.CallsOnly P
  | .log _ next => next.CallsOnly P
  | .note _ next => next.CallsOnly P
  | .call op next => P op ∧ ∀ r, (next r).CallsOnly P

/-- The host makes only calls of one kind, whatever it is told. -/
def Host.CallsOnly (P : HostOp → Prop) (host : Host σ) : Prop :=
  ∀ callback notice, (host.react callback notice).CallsOnly P

theorem Program.callsOnly_of_forall (every : ∀ op, P op) (p : Program σ α) : p.CallsOnly P := by
  induction p with
  | done _ => trivial
  | fail _ => trivial
  | read next ih => exact ih
  | write _ next ih => exact ih
  | log _ next ih => exact ih
  | note _ next ih => exact ih
  | call op next ih => exact ⟨every op, ih⟩

theorem Program.CallsOnly.bind {β : Type} {p : Program σ α} (first : p.CallsOnly P)
    {k : α → Program σ β} (next : ∀ a, (k a).CallsOnly P) : (p >>= k).CallsOnly P := by
  induction p with
  | done a => exact next a
  | fail _ => trivial
  | read next ih => exact fun s => ih s (first s)
  | write _ next ih => exact ih first
  | log _ next ih => exact ih first
  | note _ next ih => exact ih first
  | call op next ih => exact ⟨first.1, fun r => ih r (first.2 r)⟩

theorem Program.CallsOnly.within {τ : Type} {p : Program σ α} (only : p.CallsOnly P) (get : τ → σ)
    (set : σ → τ → τ) : (p.within get set).CallsOnly P := by
  induction p with
  | done _ => trivial
  | fail _ => trivial
  | read next ih => exact fun t => ih (get t) (only (get t))
  | write _ next ih => exact fun _ => ih only
  | log _ next ih => exact ih only
  | note _ next ih => exact ih only
  | call op next ih => exact ⟨only.1, fun r => ih r (only.2 r)⟩

/-! ## Side by side -/

/-- A host does the same by itself in two worlds that are related, which stay so. -/
structure Host.Shares (T : World σ → World σ → Prop) : Prop where
  host : ∀ w v, T w v → w.host = v.host
  write : ∀ w v s, T w v → T { w with host := s } { v with host := s }
  log : ∀ r, Alongside T (Act.log r) (Act.log r)
  note : ∀ n, Alongside T (Act.observe (.noted n)) (Act.observe (.noted n))

/-- A program does the same in two worlds if its calls do. -/
theorem Program.alongside {T : World σ → World σ → Prop} {perform perform' : HostOp → Act σ Reply}
    (shares : Host.Shares T)
    (calls : ∀ op, P op →
      Alongside T (Act.exchange op (perform op)) (Act.exchange op (perform' op)))
    (p : Program σ α) (only : p.CallsOnly P) : Alongside T (p.run perform) (p.run perform') := by
  induction p with
  | done a => exact .pure a
  | fail f => exact .throw f
  | read next ih =>
    refine .get_bind fun w v related => ?_
    rw [shares.host w v related]
    exact ih v.host (only v.host)
  | write s next ih =>
    exact .bind (.modify fun w v related => shares.write w v s related) fun _ => ih only
  | log r next ih => exact .bind (shares.log r) fun _ => ih only
  | note n next ih => exact .bind (shares.note n) fun _ => ih only
  | call op next ih => exact .bind (calls op only.1) fun r => ih r (only.2 r)

/-- Starting a callback does the same in worlds that are related in each of some ways, if every call
does where callbacks do, by induction on how deep callbacks nest.  What a call does in worlds that
are related in one way may come down to callbacks in worlds that are related in another. -/
theorem Host.alongside_notify_each {ι : Type} {T : ι → World σ → World σ → Prop} {host : Host σ}
    (shares : ∀ i, Host.Shares (T i))
    (calls : ∀ notify : Notify σ,
      (∀ i callback notice, Alongside (T i) (notify callback notice) (notify callback notice)) →
      ∀ i op, P op → Alongside (T i) (Act.exchange op (Host.perform notify op))
        (Act.exchange op (Host.perform notify op)))
    (only : host.CallsOnly P) (depth : Nat) (i : ι) (callback : Callback) (notice : Notice) :
    Alongside (T i) (host.notify depth callback notice) (host.notify depth callback notice) := by
  induction depth generalizing i callback notice with
  | zero => exact .pure ()
  | succ depth ih =>
    exact Program.alongside (shares i) (calls (host.notify depth) ih i) _ (only callback notice)

/-- Starting a callback does the same in two worlds if every call does where callbacks do. -/
theorem Host.alongside_notify {T : World σ → World σ → Prop} {host : Host σ}
    (shares : Host.Shares T)
    (calls : ∀ notify : Notify σ,
      (∀ callback notice, Alongside T (notify callback notice) (notify callback notice)) →
      ∀ op, P op → Alongside T (Act.exchange op (Host.perform notify op))
        (Act.exchange op (Host.perform notify op)))
    (only : host.CallsOnly P) (depth : Nat) (callback : Callback) (notice : Notice) :
    Alongside T (host.notify depth callback notice) (host.notify depth callback notice) :=
  Host.alongside_notify_each (T := fun _ : Unit => T) (fun _ => shares)
    (fun notify told _ => calls notify (told ())) only depth () callback notice

/-- What a program does depends only on the calls that it can make. -/
theorem Program.run_congr {perform perform' : HostOp → Act σ Reply}
    (same : ∀ op, P op → perform op = perform' op) (p : Program σ α) (only : p.CallsOnly P) :
    p.run perform = p.run perform' := by
  have shares : Host.Shares (Eq : World σ → World σ → Prop) :=
    ⟨fun _ _ related => congrArg World.host related, fun _ _ _ related => by rw [related],
      fun _ => .of_eq rfl, fun _ => .of_eq rfl⟩
  exact (p.alongside shares (fun op allowed => .of_eq (by rw [same op allowed])) only).eq

/-! ## Maintaining -/

/-- What a host does by itself maintains a property of worlds. -/
structure Host.Leaves (I : World σ → Prop) : Prop where
  write : ∀ w s, I w → I { w with host := s }
  log : ∀ r, Maintains I (Act.log r)
  note : ∀ n, Maintains I (Act.observe (.noted n))

theorem Host.Leaves.shares (leaves : Host.Leaves I) : Host.Shares fun w v => w = v ∧ I w where
  host _ _ related := congrArg World.host related.1
  write w v s := by
    rintro ⟨rfl, holds⟩
    exact ⟨rfl, leaves.write w s holds⟩
  log r := .of_maintains (leaves.log r)
  note n := .of_maintains (leaves.note n)

/-- A program maintains what its calls maintain. -/
theorem Program.maintains {perform : HostOp → Act σ Reply} (leaves : Host.Leaves I)
    (calls : ∀ op, P op → Maintains I (Act.exchange op (perform op))) (p : Program σ α)
    (only : p.CallsOnly P) : Maintains I (p.run perform) :=
  (p.alongside leaves.shares (fun op allowed => .of_maintains (calls op allowed)) only).maintains

/-- Starting a callback maintains each of some properties that every call maintains if callbacks
do.  What a call does on the way to maintaining one of them may come down to callbacks that maintain
another. -/
theorem Host.maintains_notify_each {ι : Type} {J : ι → World σ → Prop} {host : Host σ}
    (leaves : ∀ i, Host.Leaves (J i))
    (calls : ∀ notify : Notify σ,
      (∀ i callback notice, Maintains (J i) (notify callback notice)) →
      ∀ i op, P op → Maintains (J i) (Act.exchange op (Host.perform notify op)))
    (only : host.CallsOnly P) (depth : Nat) (i : ι) (callback : Callback) (notice : Notice) :
    Maintains (J i) (host.notify depth callback notice) := by
  have alongside := Host.alongside_notify_each (fun i => (leaves i).shares)
    (fun notify told i op allowed => .of_maintains
      (calls notify (fun i callback notice => (told i callback notice).maintains) i op allowed))
    only depth i callback notice
  exact alongside.maintains

/-- A run of any host maintains each of some properties that every call maintains if callbacks
do. -/
theorem Host.maintains_each {ι : Type} {J : ι → World σ → Prop} (host : Host σ)
    (leaves : ∀ i, Host.Leaves (J i))
    (calls : ∀ notify : Notify σ,
      (∀ i callback notice, Maintains (J i) (notify callback notice)) →
      ∀ i op, Maintains (J i) (Act.exchange op (Host.perform notify op)))
    (depth : Nat) (p : Program σ α) (i : ι) : Maintains (J i) (host.run depth p) := by
  have any {τ β : Type} (q : Program τ β) : q.CallsOnly fun _ => True :=
    q.callsOnly_of_forall fun _ => trivial
  have callbacks := Host.maintains_notify_each leaves
    (fun notify told i op _ => calls notify told i op)
    (fun callback notice => any (host.react callback notice)) depth
  exact Program.maintains (leaves i) (fun op _ => calls _ callbacks i op) p (any p)

/-- Starting a callback maintains what every call maintains if callbacks do. -/
theorem Host.maintains_notify {host : Host σ} (leaves : Host.Leaves I)
    (calls : ∀ notify : Notify σ, (∀ callback notice, Maintains I (notify callback notice)) →
      ∀ op, P op → Maintains I (Act.exchange op (Host.perform notify op)))
    (only : host.CallsOnly P) (depth : Nat) (callback : Callback) (notice : Notice) :
    Maintains I (host.notify depth callback notice) :=
  Host.maintains_notify_each (J := fun _ : Unit => I) (fun _ => leaves)
    (fun notify told _ => calls notify (told ())) only depth () callback notice

/-- A run of any host maintains what every call maintains if callbacks do. -/
theorem Host.maintains (host : Host σ) (leaves : Host.Leaves I)
    (calls : ∀ notify : Notify σ, (∀ callback notice, Maintains I (notify callback notice)) →
      ∀ op, Maintains I (Act.exchange op (Host.perform notify op)))
    (depth : Nat) (p : Program σ α) : Maintains I (host.run depth p) :=
  host.maintains_each (J := fun _ : Unit => I) (fun _ => leaves)
    (fun notify told _ => calls notify (told ())) depth p ()

/-! ## How deep callbacks nest -/

/-- What starting a callback does, where callbacks nest to the given depth and then do as `bottom`
says. -/
def Host.notifyFrom (host : Host σ) (bottom : Notify σ) : Nat → Notify σ
  | 0 => bottom
  | depth + 1 => fun callback notice =>
    (host.react callback notice).run (Host.perform (host.notifyFrom bottom depth))

/-- The depth is enough for a run of a program: what callbacks below it would do makes no
difference to it. -/
def Host.Suffices (host : Host σ) (depth : Nat) (p : Program σ α) (w : World σ) : Prop :=
  ∀ bottom, (p.run (Host.perform (host.notifyFrom bottom depth))).run w = (host.run depth p).run w

end EventCanvas
