import EventCanvas.Engine.World

/-!
# Tracing dispatches

A dispatch is traced as a span that is opened before it and finished after it,
however it ends.  What happens inside is noted on the span that the dispatch was
given; the silent tracer gives none.
-/

namespace EventCanvas.Tracer

variable {σ : Type}

/-- Opens a span for an event of a node, if the tracer is switched on. -/
def start (owner : Nat) (node event : Value) : Tracer → Act σ (Option Span)
  | .session name true => do
    let span : Span := ⟨← Act.freshSpan, "canvasflow." ++ event.message⟩
    Act.observe (.traced owner (.getTracer "canvasflow" "0.1.0"))
    Act.observe (.traced owner (.start span
      [("canvasflow.session", .text name), ("canvasflow.node_id", node),
        ("canvasflow.event_type", event)]))
    return some span
  | _ => return none

/-- Finishes a span, noting the fault that ended it if there was one. -/
def finish (owner : Nat) (fault : Option Fault) : Option Span → Act σ Unit
  | none => pure ()
  | some span => do
    match fault with
    | none => pure ()
    | some f =>
      Act.observe (.traced owner (.setStatus span f.text))
      Act.observe (.traced owner (.recordFault span f))
    Act.observe (.traced owner (.finish span))

/-- The span that a tracer adds to: the silent one adds to none. -/
def target : Tracer → Option Span → Option Span
  | .session .., span => span
  | .silent, _ => none

/-- Sends an event about a span to the tracer. -/
def send (owner : Nat) (t : Tracer) (span : Option Span) (event : Span → SpanEvent) :
    Act σ Unit :=
  match t.target span with
  | none => pure ()
  | some span => Act.observe (.traced owner (event span))

/-- Notes on the span how many events matched. -/
def matched (count : Value) (span : Span) : SpanEvent :=
  .setAttribute span "canvasflow.matched_events" count

/-- Notes on the span that something was skipped. -/
def skipped (kind message : String) (span : Span) : SpanEvent :=
  .addEvent span "canvasflow.skipped" [("kind", .text kind), ("message", .text message)]

end EventCanvas.Tracer
