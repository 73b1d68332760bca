import EventCanvas.Proofs.Engine.Handling
import EventCanvas.Proofs.Host
import EventCanvas.Proofs.Slot
import Mathlib.Data.List.Induction

/-!
# One live engine

However installing, mounting, resetting, entering and leaving session blocks and
disposing engines follow each other, also from callbacks in the middle of one
another, a slot has at most one live engine.

A history is `Lawful` if an engine comes to life only while none is alive, starts
callbacks only while it is alive, and the slot answers what is then so.  Lawful
histories have the properties wanted, by reasoning about histories alone.  `Owned`
relates the history to the engines and to the slot of a world, and
`Host.owned_run` shows that every run keeps it.

* `Host.live_engine_unique`: at every moment at most one engine is alive, it is the one
  that the slot gives, and what was replaced, reset, left or disposed is never alive
  again and starts no callback.
-/

namespace EventCanvas

open Act (Maintains)

/-! ## Lawful histories -/

namespace History

/-- An engine was created and not disposed. -/
def Alive (h : List Event) (i : Nat) : Prop := .created i ∈ h ∧ .disposed i ∉ h

/-- Some engine, if any, is the one that is alive. -/
def IsAlive (h : List Event) (found : Option Nat) : Prop := ∀ i, found = some i ↔ Alive h i

/-- What a call may have been answered after a history. -/
def Truthful (h : List Event) : HostOp → Reply → Prop
  | .slot .get, reply => ∃ found, reply = .engine found ∧ IsAlive h found
  | .slot (.install _), reply => ∃ i, reply = .engine (some i) ∧ IsAlive h (some i)
  | .slot (.mount c), reply =>
    ∃ found, reply = .engine found ∧ found.isNone = c.nodes.isEmpty ∧ IsAlive h found
  | .slot .reset, _ => IsAlive h none
  | .slot (.leave i), _ => ¬Alive h i
  | .engine i .dispose, _ => ¬Alive h i
  | .engine i .isActive, reply =>
    ∃ active, reply = .value (.bool active) ∧ (active = true ↔ Alive h i)
  | _, _ => True

/-- What may happen after a history. -/
def May (h : List Event) : Event → Prop
  | .created i => IsAlive h none ∧ .created i ∉ h
  | .disposed i => Alive h i
  | .observed (.started i _ _) => Alive h i
  | .answered op reply => Truthful h op reply
  | _ => True

/-- Everything in a history could happen after what was before it. -/
def Lawful (h : List Event) : Prop :=
  ∀ past e future, h = past ++ e :: future → May past e

/-- What ends the life of an engine that there is: another one is created, the slot is emptied, its
session block is left, or it is disposed. -/
inductive Ends (i : Nat) : Event → Prop
  | replaced (j : Nat) : Ends i (.created j)
  | reset (reply : Reply) : Ends i (.answered (.slot .reset) reply)
  | unmounted (c : Context Callback) (reply : Reply) (empty : c.nodes.isEmpty = true) :
    Ends i (.answered (.slot (.mount c)) reply)
  | left (reply : Reply) : Ends i (.answered (.slot (.leave i)) reply)
  | disposed (reply : Reply) : Ends i (.answered (.engine i .dispose) reply)

/-- The life of an engine was ended. -/
def Ended (h : List Event) (i : Nat) : Prop :=
  ∃ past e future, h = past ++ e :: future ∧ .created i ∈ past ∧ Ends i e

variable {h past future : List Event} {e : Event} {i j : Nat}

theorem isAlive_none_iff : IsAlive h none ↔ ∀ i, ¬Alive h i := by simp [IsAlive]

/-- What neither creates nor disposes leaves everything as alive as it was. -/
theorem alive_concat (creates : ∀ i, e ≠ .created i) (disposes : ∀ i, e ≠ .disposed i) :
    Alive (h ++ [e]) i ↔ Alive h i := by
  simp [Alive, (creates i).symm, (disposes i).symm]

theorem alive_concat_created (fresh : .disposed i ∉ h) : Alive (h ++ [.created i]) i := by
  simp [Alive, fresh]

theorem Lawful.of_append (lawful : Lawful (past ++ future)) : Lawful past :=
  fun before e after split =>
    lawful before e (after ++ future) (by rw [split, List.append_assoc, List.cons_append])

theorem Lawful.nil : Lawful [] := fun _ _ _ split => by simp at split

theorem Lawful.concat (lawful : Lawful h) (may : May h e) : Lawful (h ++ [e]) := by
  intro past e' future split
  rcases List.eq_nil_or_concat future with rfl | ⟨rest, last, rfl⟩
  · obtain ⟨rfl, same⟩ := List.append_inj' split rfl
    cases same
    exact may
  · rw [List.concat_eq_append, ← List.cons_append, ← List.append_assoc] at split
    obtain ⟨rfl, -⟩ := List.append_inj' split rfl
    exact lawful past e' rest rfl

/-- In a lawful history at most one engine is alive, by induction on how long it is. -/
theorem Lawful.alive_unique (lawful : Lawful h) (one : Alive h i) (other : Alive h j) : i = j := by
  induction h using List.reverseRecOn generalizing i j with
  | nil => cases one.1
  | append_singleton h e ih =>
    have may : May h e := lawful h e [] rfl
    have alone := ih lawful.of_append (i := i) (j := j)
    have was {k : Nat} (alive : Alive (h ++ [e]) k) (older : e ≠ .created k) : Alive h k := by
      refine ⟨?_, fun member => alive.2 (List.mem_append_left _ member)⟩
      rcases List.mem_append.1 alive.1 with member | member
      · exact member
      · exact absurd (List.mem_singleton.1 member).symm older
    -- nothing was alive before an engine was created
    have new {k l : Nat} (alive : Alive (h ++ [e]) l) (created : e = .created k) : l = k := by
      subst created
      by_contra ne
      exact isAlive_none_iff.1 may.1 l (was alive fun same => ne (Event.created.inj same).symm)
    by_cases newI : e = .created i
    · exact (new other newI).symm
    · by_cases newJ : e = .created j
      · exact new one newJ
      · exact alone (was one newI) (was other newJ)

/-- A life that ended is over. -/
theorem Lawful.not_alive_of_ended (lawful : Lawful h) (ended : Ended h i) : ¬Alive h i := by
  obtain ⟨past, e, future, rfl, created, ends⟩ := ended
  have may := lawful past e future rfl
  have gone : ¬Alive past i := by
    cases ends with
    | replaced j => exact isAlive_none_iff.1 may.1 i
    | reset reply => exact isAlive_none_iff.1 may i
    | unmounted c reply empty =>
      obtain ⟨found, -, none, alive⟩ := may
      rw [empty, Option.isNone_iff_eq_none] at none
      rw [none] at alive
      exact isAlive_none_iff.1 alive i
    | left reply => exact may
    | disposed reply => exact may
  intro alive
  exact gone ⟨created, fun member => alive.2 (List.mem_append_left _ member)⟩

theorem Ended.append (ended : Ended past i) (future : List Event) : Ended (past ++ future) i := by
  obtain ⟨before, e, after, rfl, created, ends⟩ := ended
  exact ⟨before, e, after ++ future, by simp, created, ends⟩

/-- An engine whose life ended starts no callback. -/
theorem Lawful.not_started_of_ended (lawful : Lawful (past ++ future)) (ended : Ended past i)
    (callback : Callback) (notice : Notice) :
    .observed (.started i callback notice) ∉ future := by
  intro member
  obtain ⟨before, after, rfl⟩ := List.append_of_mem member
  rw [← List.append_assoc] at lawful
  have alive : Alive (past ++ before) i := lawful _ _ after rfl
  exact lawful.of_append.not_alive_of_ended (ended.append before) alive

/-- Only what was created is disposed. -/
theorem Lawful.created_of_disposed (lawful : Lawful h) (member : .disposed i ∈ h) :
    .created i ∈ h := by
  obtain ⟨past, future, rfl⟩ := List.append_of_mem member
  have alive : Alive past i := lawful past _ future rfl
  exact List.mem_append_left _ alive.1

end History

open History

variable {σ : Type}

/-! ## The invariant -/

/-- The history of a world is lawful and says which engines are active.  An active engine is in the
slot, and one that is not has no callbacks. -/
structure Owned (w : World σ) : Prop where
  lawful : Lawful w.history
  active : ∀ i, (w.engine i).isActive = true ↔ Alive w.history i
  fresh : ∀ i, w.engines.length ≤ i → .created i ∉ w.history
  owner : ∀ i, (w.engine i).isActive = true → w.slot.engine = some i
  quiet : ∀ i, (w.engine i).isActive = false → ∀ h, (w.engine i).context.hooks.get h = none

/-- No engine is active. -/
def World.Idle (w : World σ) : Prop := ∀ i, (w.engine i).isActive = false

theorem owned_initial (slot : Slot) (s : σ) : Owned (World.initial slot s) where
  lawful := .nil
  active i := by simp [World.initial, World.engine, Engine.absent, Engine.isActive, Alive]
  fresh i _ := List.not_mem_nil
  owner i active := by simp [World.initial, World.engine, Engine.absent, Engine.isActive] at active
  quiet i _ h := Context.isEmpty_empty.2.2.2 h

namespace Owned

variable {w v : World σ} {i : Nat}

theorem idle_iff (owned : Owned w) : w.Idle ↔ IsAlive w.history none := by
  rw [isAlive_none_iff]
  exact forall_congr' fun i => by rw [← owned.active i, Bool.not_eq_true]

/-- The engine in the slot, if it is active, is the one that is alive. -/
theorem live (owned : Owned w) :
    IsAlive w.history (w.slot.engine.filter fun id => (w.engine id).isActive) := by
  intro i
  rw [← owned.active i, Option.filter_eq_some_iff]
  exact ⟨fun found => found.2, fun active => ⟨owned.owner i active, active⟩⟩

theorem of_eq (owned : Owned w) (engines : v.engines = w.engines) (history : v.history = w.history)
    (slot : v.slot = w.slot) : Owned v := by
  have same (i : Nat) : v.engine i = w.engine i := by simp only [World.engine, engines]
  refine ⟨by rw [history]; exact owned.lawful, fun i => ?_, fun i outside => ?_, fun i active => ?_,
    fun i inactive => ?_⟩
  · rw [same, history]
    exact owned.active i
  · rw [history]
    exact owned.fresh i (by rwa [engines] at outside)
  · rw [slot]
    exact owned.owner i (by rwa [same] at active)
  · rw [same] at inactive ⊢
    exact owned.quiet i inactive

theorem record (owned : Owned w) {e : Event} (may : May w.history e)
    (creates : ∀ i, e ≠ .created i) (disposes : ∀ i, e ≠ .disposed i) : Owned (w.record e) where
  lawful := owned.lawful.concat may
  active i := (owned.active i).trans (alive_concat creates disposes).symm
  fresh i outside member := by
    rcases List.mem_append.1 member with member | member
    · exact owned.fresh i outside member
    · exact creates i (List.mem_singleton.1 member).symm
  owner i active := owned.owner i active
  quiet i inactive := owned.quiet i inactive

/-- A change that leaves lives alone and binds no callback on an engine that is not active. -/
theorem modifyEngine (owned : Owned w) {f : Engine → Engine}
    (lives : ∀ e, (f e).isActive = e.isActive)
    (binds : (w.engine i).isActive = false →
      (f (w.engine i)).context.hooks = (w.engine i).context.hooks) :
    Owned (w.modifyEngine i f) := by
  have same (j : Nat) : ((w.modifyEngine i f).engine j).isActive = (w.engine j).isActive ∧
      ((w.engine j).isActive = false →
        ((w.modifyEngine i f).engine j).context.hooks = (w.engine j).context.hooks) := by
    rcases w.engine_modifyEngine_eq_or i j f with kept | ⟨rfl, changed⟩
    · rw [kept]
      exact ⟨rfl, fun _ => rfl⟩
    · rw [changed]
      exact ⟨lives _, binds⟩
  refine ⟨owned.lawful, fun j => ?_, fun j outside => ?_, fun j active => ?_,
    fun j inactive h => ?_⟩
  · rw [(same j).1]
    exact owned.active j
  · exact owned.fresh j (by simpa [World.modifyEngine] using outside)
  · exact owned.owner j (by rwa [(same j).1] at active)
  · rw [(same j).1] at inactive
    rw [(same j).2 inactive]
    exact owned.quiet j inactive h

/-- Disposing an engine ends its life and no other. -/
theorem dispose (owned : Owned w) (i : Nat) : Owned (w.dispose i) := by
  cases active : (w.engine i).isActive with
  | false => rwa [World.dispose_of_not_isActive active]
  | true =>
    have history : (w.dispose i).history = w.history ++ [.disposed i] := by
      rw [World.dispose_of_isActive active]
      rfl
    have gone : ((w.dispose i).engine i).isActive = false := by
      rw [World.engine_dispose, Engine.isActive_dispose]
    have other {j : Nat} (ne : i ≠ j) := World.engine_dispose_of_ne w ne
    refine ⟨?_, fun j => ?_, fun j outside member => ?_, fun j still => ?_, fun j inactive h => ?_⟩
    · rw [history]
      exact owned.lawful.concat ((owned.active i).1 active)
    · rw [history]
      by_cases hit : i = j
      · subst hit
        simp [gone, Alive]
      · rw [other hit, owned.active j]
        simp [Alive, Ne.symm hit]
    · rw [World.dispose_of_isActive active] at outside member
      refine owned.fresh j ?_ (by simpa using member)
      simpa [World.record, World.modifyEngine] using outside
    · by_cases hit : i = j
      · subst hit
        rw [gone] at still
        cases still
      · rw [other hit] at still
        rw [World.dispose_of_isActive active]
        exact owned.owner j still
    · by_cases hit : i = j
      · subst hit
        rw [World.engine_dispose, Engine.dispose_of_isActive active]
        exact Context.isEmpty_empty.2.2.2 h
      · rw [other hit] at inactive ⊢
        exact owned.quiet j inactive h

/-- After the engine in the slot was disposed none is active. -/
theorem idle_dispose (owned : Owned w) (slot : w.slot.engine = some i) : (w.dispose i).Idle := by
  intro j
  by_cases hit : i = j
  · subst hit
    rw [World.engine_dispose, Engine.isActive_dispose]
  · rw [World.engine_dispose_of_ne w hit, Bool.eq_false_iff]
    intro active
    exact hit (Option.some.inj (slot.symm.trans (owned.owner j active)))

/-- An engine may be created while none is active. -/
theorem created (owned : Owned w) (idle : w.Idle) (c : Context Callback) :
    Owned (Slot.created w c) := by
  have fresh := owned.fresh w.engines.length (Nat.le_refl _)
  have undisposed : .disposed w.engines.length ∉ w.history :=
    fun member => fresh (owned.lawful.created_of_disposed member)
  have none : IsAlive w.history none := owned.idle_iff.1 idle
  have self := Slot.engine_created_self w c
  have other {j : Nat} (ne : j ≠ w.engines.length) := Slot.engine_created_of_ne w c ne
  refine ⟨owned.lawful.concat ⟨none, fresh⟩, fun j => ?_, fun j outside member => ?_,
    fun j active => ?_, fun j inactive h => ?_⟩
  · by_cases hit : j = w.engines.length
    · subst hit
      rw [self]
      exact ⟨fun _ => alive_concat_created undisposed, fun _ => rfl⟩
    · rw [other hit, owned.active j]
      simp [Slot.created, Alive, hit]
  · have older : w.engines.length < j := Nat.lt_of_succ_le (by simpa [Slot.created] using outside)
    have member : .created j ∈ w.history := by simpa [Slot.created, Nat.ne_of_gt older] using member
    exact owned.fresh j (Nat.le_of_lt older) member
  · by_cases hit : j = w.engines.length
    · rw [hit]
      rfl
    · rw [other hit, idle j] at active
      cases active
  · by_cases hit : j = w.engines.length
    · rw [hit, self] at inactive
      cases inactive
    · rw [other hit] at inactive ⊢
      exact owned.quiet j inactive h

/-- The slot may be emptied while no engine is active. -/
theorem emptied (owned : Owned w) (idle : w.Idle) : Owned (Slot.emptied w) where
  lawful := owned.lawful
  active := owned.active
  fresh := owned.fresh
  owner i active := by
    have inactive : (w.engine i).isActive = false := idle i
    rw [show (Slot.emptied w).engine i = w.engine i from rfl, inactive] at active
    cases active
  quiet := owned.quiet

/-! ## The slot's operations -/

theorem run_live (w : World σ) :
    (Slot.live : Act σ (Option Nat)).run w =
      (.ok (w.slot.engine.filter fun id => (w.engine id).isActive), w) := rfl

/-- Replacing leaves no engine active. -/
theorem run_replace (owned : Owned w) :
    ∃ v, (Slot.replace : Act σ Unit).run w = (.ok (), v) ∧ Owned v ∧ v.Idle := by
  unfold Slot.replace
  rw [Act.run_bind_of_ok (run_live w)]
  have found := owned.live
  cases live : w.slot.engine.filter fun id => (w.engine id).isActive with
  | none =>
    rw [live] at found
    exact ⟨w, rfl, owned, owned.idle_iff.2 found⟩
  | some i =>
    have slot : w.slot.engine = some i := (Option.filter_eq_some_iff.1 live).1
    have logged : Owned
        { w with log := w.log ++ [Slot.logLine w.slot.name "replacing active engine"] } :=
      owned.of_eq rfl rfl rfl
    exact ⟨_, rfl, logged.dispose i, logged.idle_dispose slot⟩

/-- Resetting leaves no engine active. -/
theorem run_reset (owned : Owned w) :
    ∃ v, (Slot.reset : Act σ Unit).run w = (.ok (), v) ∧ Owned v ∧ v.Idle := by
  unfold Slot.reset
  rw [Act.run_bind_of_ok (Act.run_get w)]
  cases slot : w.slot.engine with
  | none =>
    refine ⟨w, rfl, owned, fun i => Bool.eq_false_iff.2 fun active => ?_⟩
    cases slot.symm.trans (owned.owner i active)
  | some i =>
    have idle := owned.idle_dispose slot
    exact ⟨_, rfl, ((owned.dispose i).emptied idle).of_eq rfl rfl rfl, idle⟩

/-- Installing leaves the engine that it answers active. -/
theorem run_install (owned : Owned w) (c : Context Callback) :
    ∃ i v, (Slot.install c : Act σ Nat).run w = (.ok i, v) ∧ Owned v ∧
      (v.engine i).isActive = true := by
  obtain ⟨u, run, owned, idle⟩ := owned.run_replace
  unfold Slot.install
  rw [Act.run_bind_of_ok run, Act.run_bind_of_ok (Slot.run_create c u)]
  refine ⟨_, _, rfl, (owned.created idle c).of_eq rfl rfl rfl, ?_⟩
  show ((Slot.created u c).engine u.engines.length).isActive = true
  rw [Slot.engine_created_self]
  rfl

/-- In a world an active engine is the only one alive. -/
theorem isAlive_some (owned : Owned w) (active : (w.engine i).isActive = true) :
    IsAlive w.history (some i) := by
  have alive := (owned.active i).1 active
  intro j
  constructor
  · rintro ⟨⟩
    exact alive
  · intro other
    rw [owned.lawful.alive_unique alive other]

/-- Every operation on the slot answers what is then so. -/
theorem run_slot (owned : Owned w) (op : SlotOp Callback) :
    ∃ reply v, (Slot.perform op : Act σ Reply).run w = (.ok reply, v) ∧ Owned v ∧
      Truthful v.history (.slot op) reply := by
  cases op with
  | install c =>
    obtain ⟨i, v, run, owned, active⟩ := owned.run_install c
    exact ⟨_, v, Act.run_bind_of_ok run _, owned, i, rfl, owned.isAlive_some active⟩
  | mount c =>
    cases empty : c.nodes.isEmpty with
    | true =>
      obtain ⟨v, run, owned, idle⟩ := owned.run_reset
      refine ⟨.engine none, v, Act.run_bind_of_ok (a := none) ?_ _, owned, none, rfl, empty.symm,
        owned.idle_iff.1 idle⟩
      unfold Slot.mount
      rw [empty]
      exact Act.run_bind_of_ok run _
    | false =>
      obtain ⟨i, v, run, owned, active⟩ := owned.run_install c
      refine ⟨.engine (some i), v, Act.run_bind_of_ok (a := some i) ?_ _, owned, some i, rfl,
        empty.symm, owned.isAlive_some active⟩
      unfold Slot.mount
      rw [empty]
      exact Act.run_bind_of_ok run _
  | get => exact ⟨_, w, Act.run_bind_of_ok (run_live w) _, owned, _, rfl, owned.live⟩
  | reset =>
    obtain ⟨v, run, owned, idle⟩ := owned.run_reset
    exact ⟨_, v, Act.run_bind_of_ok run _, owned, owned.idle_iff.1 idle⟩
  | leave i =>
    have left : ∃ v, (Slot.leave i : Act σ Unit).run w = (.ok (), v) ∧ Owned v ∧
        (v.engine i).isActive = false := by
      unfold Slot.leave
      rw [Act.run_bind_of_ok (Act.run_get w)]
      by_cases slot : w.slot.engine = some i
      · obtain ⟨v, run, owned, idle⟩ := owned.run_reset
        rw [if_pos slot]
        exact ⟨v, run, owned, idle i⟩
      · rw [if_neg slot]
        refine ⟨_, Act.run_dispose i w, owned.dispose i, ?_⟩
        rw [World.engine_dispose, Engine.isActive_dispose]
    obtain ⟨v, run, owned, inactive⟩ := left
    refine ⟨_, v, Act.run_bind_of_ok run _, owned, fun alive => ?_⟩
    rw [← owned.active i, inactive] at alive
    cases alive

end Owned

/-! ## Every step keeps the invariant -/

section

variable {notify : Notify σ}

/-- Telling the host keeps the invariant: only an active engine has somebody to tell. -/
theorem Owned.maintains_tell
    (callbacks : ∀ callback notice, Maintains Owned (notify callback notice)) (i : Nat)
    (notice : Notice) : Maintains Owned (Engine.tell notify i notice) := by
  refine Engine.maintains_tell notice (fun w callback owned bound => ?_)
    fun callback => callbacks callback notice
  have alive : Alive w.history i := by
    rw [← owned.active i, ← Bool.not_eq_false]
    intro inactive
    rw [owned.quiet i inactive] at bound
    cases bound
  exact owned.record alive (by simp) (by simp)

open Engine in
theorem Owned.supports (callbacks : ∀ callback notice, Maintains Owned (notify callback notice))
    (i : Nat) : Supports Owned notify i where
  log _ _ owned := owned.of_eq rfl rfl rfl
  traced _ _ owned := owned.record trivial (by simp) (by simp)
  freshSpan _ owned := owned.of_eq rfl rfl rfl
  setSpan _ _ owned := owned.modifyEngine (fun _ => rfl) fun _ => rfl
  commit x := maintains_commit x fun w owned _ _ =>
    Owned.maintains_tell callbacks i x.notice _
      (owned.modifyEngine (fun _ => rfl) fun _ => Effect.hooks_write _ x)
  report _ := Owned.maintains_tell callbacks i _

/-- An operation keeps the invariant if callbacks do, and is answered what is then so. -/
theorem Owned.maintains_perform
    (callbacks : ∀ callback notice, Maintains Owned (notify callback notice)) (op : HostOp)
    {w : World σ} (owned : Owned w) :
    Owned ((Host.perform notify op).run w).2 ∧
      Truthful ((Host.perform notify op).run w).2.history op
        (Act.replyTo ((Host.perform notify op).run w).1) := by
  cases op with
  | slot op =>
    obtain ⟨reply, v, run, kept, truthful⟩ := owned.run_slot op
    rw [Host.perform, run]
    exact ⟨kept, truthful⟩
  | engine i op =>
    have performed : Maintains Owned (Engine.perform notify i op) := by
      refine (Owned.supports callbacks i).perform op (fun _ _ owned => owned.dispose i)
        fun changes _ => Engine.maintains_updateContext changes fun w owned active => ?_
      refine owned.modifyEngine (fun _ => rfl) fun inactive => ?_
      rw [active] at inactive
      cases inactive
    refine ⟨performed w owned, ?_⟩
    cases op with
    | dispose =>
      intro alive
      have active := ((owned.dispose i).active i).2 alive
      rw [World.engine_dispose, Engine.isActive_dispose] at active
      cases active
    | isActive => exact ⟨_, rfl, owned.active i⟩
    | _ => trivial

theorem Owned.maintains_exchange
    (callbacks : ∀ callback notice, Maintains Owned (notify callback notice)) (op : HostOp) :
    Maintains Owned (Act.exchange op (Host.perform notify op)) := by
  intro w owned
  have called : Owned (w.record (.called op)) := owned.record trivial (by simp) (by simp)
  obtain ⟨kept, truthful⟩ := Owned.maintains_perform callbacks op called
  rw [Act.run_exchange]
  exact kept.record truthful (by simp) (by simp)

end

/-! ## Every run -/

theorem Owned.leaves : Host.Leaves (Owned : World σ → Prop) where
  write _ _ owned := owned.of_eq rfl rfl rfl
  log _ _ owned := owned.of_eq rfl rfl rfl
  note _ _ owned := owned.record trivial (by simp) (by simp)

namespace Host

variable {α : Type}

theorem owned_run (host : Host σ) (depth : Nat) (p : Program σ α) {w : World σ} (owned : Owned w) :
    Owned ((host.run depth p).run w).2 :=
  host.maintains Owned.leaves (fun _ callbacks => Owned.maintains_exchange callbacks) depth p w
    owned

/-- Whatever hosts do with a slot and its engines, an engine is active just if it was created and
not disposed.  At every moment at most one is, it is the one that the slot answers, and one that was
replaced, reset, left or disposed is never so again and starts no callback. -/
theorem live_engine_unique (host : Host σ) (depth : Nat) (p : Program σ α) (slot : Slot) (s : σ) :
    let w := ((host.run depth p).run (World.initial slot s)).2
    (∀ i, (w.engine i).isActive = true ↔ Alive w.history i) ∧
    (∃ found, (Slot.live : Act σ (Option Nat)).run w = (.ok found, w) ∧ IsAlive w.history found) ∧
    ∀ past future, w.history = past ++ future →
      (∀ i j, Alive past i → Alive past j → i = j) ∧
      (∀ op reply rest, future = .answered op reply :: rest → Truthful past op reply) ∧
      ∀ i, Ended past i → ¬Alive past i ∧
        ∀ callback notice, .observed (.started i callback notice) ∉ future := by
  intro w
  have owned : Owned w := host.owned_run depth p (owned_initial slot s)
  refine ⟨owned.active, ⟨_, Owned.run_live w, owned.live⟩, fun past future split => ?_⟩
  have lawful : Lawful (past ++ future) := by
    rw [← split]
    exact owned.lawful
  refine ⟨fun i j one other => lawful.of_append.alive_unique one other, ?_, fun i ended =>
    ⟨lawful.of_append.not_alive_of_ended ended, lawful.not_started_of_ended ended⟩⟩
  rintro op reply rest rfl
  exact lawful past _ rest rfl

end Host

end EventCanvas
