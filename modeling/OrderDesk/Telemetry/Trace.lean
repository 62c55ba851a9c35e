import OrderDesk.Json.Value
import OrderDesk.Text.Quoted

/-!
# Spans

* `SpanContext`      which span of which trace is active;
* `Span`             a span that has ended;
* `Tracer`           numbers new traces and spans, and keeps the ended ones;
* `Tracer.start`     a new span, in the trace of its parent if there is one;
* `Tracer.finish`    an ended span, kept if its trace is sampled.
-/

namespace OrderDesk.Telemetry

open Json (Value)

/-- Which span of which trace is active, and whether the trace is sampled. -/
structure SpanContext where
  trace : String
  span : String
  sampled : Bool := true
  deriving DecidableEq, Repr, Inhabited

/-- Attributes of a span. -/
abbrev Attrs := List (String × Value)

/-- What is known of a span at its end: more attributes, the messages of exceptions, and the
description of an error. -/
structure Ending where
  attrs : Attrs := []
  exceptions : List String := []
  error : Option String := none

/-- A span that has ended. -/
structure Span where
  name : String
  server : Bool
  context : SpanContext
  parent : String
  attrs : Attrs
  exceptions : List String
  error : Option String

def Span.value (s : Span) : Value :=
  .obj [("name", .str s.name), ("kind", .str (if s.server then "server" else "internal")),
    ("trace", .str s.context.trace), ("span", .str s.context.span), ("parent", .str s.parent),
    ("attrs", .obj s.attrs),
    ("events", .arr (s.exceptions.map fun m =>
      .obj [("name", .str "exception"), ("message", .str m)])),
    ("status", .str (if s.error.isSome then "Error" else "Unset")),
    ("description", .str (s.error.getD ""))]

/-- Numbers new traces and spans, and keeps the ended spans. -/
structure Tracer where
  used : Nat := 0
  ended : List Span := []

/-- a number as hexadecimal digits of a width -/
def idText (width n : Nat) : String :=
  let ds := Nat.toDigits 16 n
  String.ofList (List.replicate (width - ds.length) '0' ++ ds)

namespace Tracer

/-- A new span: in the trace of its parent, or in a trace of its own. -/
def start (t : Tracer) (parent : Option SpanContext) : SpanContext × Tracer :=
  match parent with
  | some p => (⟨p.trace, idText 16 (t.used + 1), p.sampled⟩, { t with used := t.used + 1 })
  | none =>
    (⟨idText 32 (t.used + 1), idText 16 (t.used + 2), true⟩, { t with used := t.used + 2 })

/-- an ended span, kept if its trace is sampled -/
def finish (t : Tracer) (s : Span) : Tracer :=
  if s.context.sampled then { t with ended := t.ended ++ [s] } else t

end Tracer

end OrderDesk.Telemetry
