import EventCanvas.Preview.Recorder
import EventCanvas.Proofs.Engine.Effect
import EventCanvas.Proofs.Host
import EventCanvas.Proofs.Table

/-!
# What a recorder does about an effect

The recorder is told of an effect after the engine has it.  It then writes its own
copy, adds one entry to its history (`Effect.entry`), and only after that passes
the notice on (`Recorder.run_react`).  It never fails to do so: whatever could be
written to the engine can be written to the recorder.
-/

namespace EventCanvas

/-! ## The entry for an effect -/

namespace Engine.Effect

/-- The entry of a preview's history about an effect. -/
def entry (time : Instant) : Effect → HistoryEntry
  | setVariable name value =>
    ⟨"Variable " ++ name.message ++ " updated", time,
      .object [("name", name), ("value", value)]⟩
  | setNode .value node value =>
    ⟨"Node " ++ node.message ++ " value updated", time,
      .object [("nodeId", node), ("value", value)]⟩
  | setNode .label node label =>
    ⟨"Node " ++ node.message ++ " updated", time, .object [("nodeId", node), ("label", label)]⟩
  | showAlert message => ⟨"Alert shown", time, .object [("message", message)]⟩

/-- The variables that a recorder holds after an effect. -/
def writeVars (vars : Table) : Effect → Table
  | setVariable name value => Entries.put name value vars
  | _ => vars

/-- The node values that a recorder holds after an effect. -/
def writeValues (values : Table) : Effect → Table
  | setNode .value node value => Entries.put node value values
  | _ => values

/-- The recorder after an effect was recorded, its log still to be handed on. -/
def recordIn (r : Recorder) (x : Effect) : Recorder where
  clock := r.clock.next
  nodeValues := x.writeValues r.nodeValues
  vars := x.writeVars r.vars
  history := r.history ++ [x.entry r.clock.now]
  unlogged := r.unlogged ++ [Recorder.logLine (x.entry r.clock.now)]

/-- What stands in the way of no effect can be a key. -/
theorem asKey_of_setVariable {c : Context Callback} {name value : Value}
    (free : (setVariable name value).obstacle? c = none) : name.asKey = .ok name := by
  unfold obstacle? at free
  unfold Value.asKey
  cases misfit : c.misfits.vars with
  | some v => simp [misfit] at free
  | none =>
    cases fault : name.keyFault? with
    | some kind => simp [misfit, fault] at free
    | none => rfl

theorem asKey_of_setNode {c : Context Callback} {field : NodeField} {node value : Value}
    (free : (setNode field node value).obstacle? c = none) : node.asKey = .ok node := by
  rw [Value.asKey, keyFault?_eq_none free]

end Engine.Effect

namespace Recorder

variable {σ α : Type}

/-- The recorder records every effect that an engine has. -/
theorem run_recordNotice {c : Context Callback} {x : Engine.Effect} (free : x.obstacle? c = none)
    (r : Recorder) : (recordNotice x.notice).run r = (.ok (), x.recordIn r) := by
  cases x with
  | setVariable name value =>
    simp only [Engine.Effect.notice, recordNotice, updateVariable,
      Engine.Effect.asKey_of_setVariable free]
    rfl
  | setNode field node value =>
    cases field with
    | value =>
      simp only [Engine.Effect.notice, recordNotice, recordUpdate, updateNodeValue,
        Engine.Effect.asKey_of_setNode free]
      rfl
    | label => rfl
  | showAlert message => rfl

theorem blankValues_texts (ids : List String) :
    blankValues (ids.map .text) =
      .ok (ids.foldl (fun t id => Entries.put (.text id) (.text "") t) []) := by
  have blank (t : Table) :
      ((ids.map Value.text).foldlM (fun t id => do
        return Entries.put (← id.asKey) (.text "") t) t : Except Fault Table) =
      .ok (ids.foldl (fun t id => Entries.put (.text id) (.text "") t) t) := by
    induction ids generalizing t with
    | nil => rfl
    | cons id ids ih => exact ih (Entries.put (.text id) (.text "") t)
  exact blank []

/-- A recorder for texts holds the empty text for each of them, and nothing else. -/
theorem new_texts (clock : Clock) (ids : List String) :
    new clock (ids.map .text) =
      .ok ⟨clock, ids.foldl (fun t id => Entries.put (.text id) (.text "") t) [], [], [], []⟩ := by
  unfold new
  rw [blankValues_texts]
  rfl

/-! ## Standing between an engine and a host -/

variable {perform : HostOp → Act (Recorder × σ) Reply}

/-- Handing on log records, one after the other, before going on. -/
theorem run_forM_logs (records : List LogRecord) (p : Program Recorder α)
    (w : World (Recorder × σ)) :
    (((records.forM Program.logs >>= fun _ => p).within Prod.fst fun r s => (r, s.2)).run
        perform).run w =
      ((p.within Prod.fst fun r s => (r, s.2)).run perform).run
        { w with log := w.log ++ records } := by
  induction records generalizing w with
  | nil => simp only [List.append_nil]; rfl
  | cons r rest ih =>
    refine (ih { w with log := w.log ++ [r] }).trans ?_
    simp only [List.append_assoc, List.singleton_append]

/-- An operation on the recorder of a host changes the recorder, and its log is handed on. -/
theorem run_lift (x : Step α) (w : World (Recorder × σ)) :
    (((lift x).within Prod.fst fun r s => (r, s.2)).run perform).run w =
      ((x.run w.host.1).1,
        { w with
          host := ({ (x.run w.host.1).2 with unlogged := [] }, w.host.2)
          log := w.log ++ (x.run w.host.1).2.unlogged }) := by
  refine (run_forM_logs (x.run w.host.1).2.unlogged (Program.ofExcept (x.run w.host.1).1)
    { w with host := ({ (x.run w.host.1).2 with unlogged := [] }, w.host.2) }).trans ?_
  cases (x.run w.host.1).1 <;> rfl

/-- The world after a recorder recorded an effect. -/
def recorded (w : World (Recorder × σ)) (x : Engine.Effect) : World (Recorder × σ) :=
  { w with
    host := ({ x.recordIn w.host.1 with unlogged := [] }, w.host.2)
    log := w.log ++ (x.recordIn w.host.1).unlogged }

/-- A recorder that is told of an effect records it, and only then passes it on. -/
theorem run_react {forward : Hooks (Option Callback)} {inner : Host σ} {c : Context Callback}
    {x : Engine.Effect} (free : x.obstacle? c = none) (callback : Callback)
    (w : World (Recorder × σ)) :
    (((host forward inner).react callback x.notice).run perform).run w =
      match forward.get x.notice.hook with
      | none => (.ok (), recorded w x)
      | some passed =>
        (((inner.react passed x.notice).within Prod.snd fun t s => (s.1, t)).run perform).run
          ((recorded w x).record (.observed (.noted (.forwarded passed x.notice)))) := by
  have relays : (host forward inner).react callback x.notice = relay forward inner x.notice := by
    cases x <;> rfl
  rw [relays]
  unfold relay
  rw [Program.run_bind, Act.run_bind, run_lift, run_recordNotice free]
  dsimp only
  cases forward.get x.notice.hook <;> rfl

/-- A recorder makes no calls of its own. -/
theorem callsOnly_react {P : HostOp → Prop} {forward : Hooks (Option Callback)} {inner : Host σ}
    {notice : Notice} (only : ∀ callback, (inner.react callback notice).CallsOnly P)
    (callback : Callback) : ((host forward inner).react callback notice).CallsOnly P := by
  have logs (records : List LogRecord) :
      (records.forM Program.logs : Program Recorder Unit).CallsOnly P := by
    induction records with
    | nil => trivial
    | cons r rest ih => exact ih
  have ended (outcome : Except Fault Unit) :
      (Program.ofExcept outcome : Program Recorder Unit).CallsOnly P := by
    cases outcome <;> trivial
  have lifted (x : Step Unit) : (lift x).CallsOnly P :=
    fun r _ => (logs (x.run r).2.unlogged).bind fun _ => ended (x.run r).1
  have relayed : (relay forward inner notice).CallsOnly P := by
    refine ((lifted _).within _ _).bind fun _ => ?_
    cases forward.get notice.hook with
    | none => trivial
    | some passed => exact (only passed).within _ _
  cases notice with
  | diagnosed d => exact (only callback).within _ _
  | _ => exact relayed

end Recorder

end EventCanvas
