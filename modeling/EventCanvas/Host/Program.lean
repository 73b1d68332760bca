import EventCanvas.Engine.Operation
import EventCanvas.Slot

/-!
# Hosts

A host decides what happens when one of its callbacks is started.  What it then
does is a `Program`: it may read and change its own state, write to the log, add
notes to the trace, call any operation of any engine or of the slot and go on
with the answer, and finish or fail.  A program is finite, but what its calls
lead to may start callbacks again; `Host.notify` follows such nesting to a given
depth, below which callbacks do nothing.
-/

namespace EventCanvas

/-- What a host does, step by step. -/
inductive Program (σ α : Type) where
  | done (a : α)
  | fail (f : Fault)
  | read (next : σ → Program σ α)
  | write (s : σ) (next : Program σ α)
  | log (r : LogRecord) (next : Program σ α)
  | note (n : Note) (next : Program σ α)
  | call (op : HostOp) (next : Reply → Program σ α)

namespace Program

variable {σ τ ρ α β : Type}

/-- Goes on after a program. -/
def bind : Program σ α → (α → Program σ β) → Program σ β
  | done a, k => k a
  | fail f, _ => fail f
  | read next, k => read fun s => (next s).bind k
  | write s next, k => write s (next.bind k)
  | log r next, k => log r (next.bind k)
  | note n next, k => note n (next.bind k)
  | call op next, k => call op fun r => (next r).bind k

instance : Monad (Program σ) where
  pure := done
  bind := bind

/-- The state of the host. -/
def state : Program σ σ := read done

/-- Changes the state of the host. -/
def update (f : σ → σ) : Program σ Unit := read fun s => write (f s) (done ())

/-- Makes a call. -/
def ask (op : HostOp) : Program σ Reply := call op done

/-- Adds a note to the trace. -/
def tell (n : Note) : Program σ Unit := note n (done ())

/-- Writes to the log. -/
def logs (r : LogRecord) : Program σ Unit := log r (done ())

/-- What there is, or a fault. -/
def ofExcept : Except Fault α → Program σ α
  | .ok a => done a
  | .error f => fail f

/-- Runs a program on a part of a larger state. -/
def within (get : τ → σ) (set : σ → τ → τ) : Program σ α → Program τ α
  | done a => done a
  | fail f => fail f
  | read next => read fun t => (next (get t)).within get set
  | write s next => read fun t => write (set s t) (next.within get set)
  | log r next => log r (next.within get set)
  | note n next => note n (next.within get set)
  | call op next => call op fun r => (next r).within get set

/-- Runs a program in a world where `perform` makes its calls. -/
def run (perform : HostOp → Act σ Reply) : Program σ α → Act σ α
  | done a => pure a
  | fail f => throw f
  | read next => do (next (← get).host).run perform
  | write s next => do
    modify fun w => { w with host := s }
    next.run perform
  | log r next => do
    Act.log r
    next.run perform
  | note n next => do
    Act.observe (.noted n)
    next.run perform
  | call op next => do
    let reply ← Act.exchange op (perform op)
    (next reply).run perform

end Program

/-- A host: what it does when a callback is started. -/
structure Host (σ : Type) where
  react : Callback → Notice → Program σ Unit

namespace Host

variable {σ : Type}

/-- Makes a call. -/
def perform (notify : Notify σ) : HostOp → Act σ Reply
  | .engine id op => Engine.perform notify id op
  | .slot op => Slot.perform op

/-- What starting a callback does, where callbacks nest to the given depth. -/
def notify (host : Host σ) : Nat → Notify σ
  | 0, _, _ => pure ()
  | depth + 1, callback, notice => (host.react callback notice).run (perform (host.notify depth))

/-- Runs a program of the host. -/
def run {α : Type} (host : Host σ) (depth : Nat) (p : Program σ α) : Act σ α :=
  p.run (perform (host.notify depth))

end Host

end EventCanvas
