import OrderDesk.Number.Binary64
import OrderDesk.Telemetry.Baggage
import OrderDesk.Telemetry.Propagation

/-!
# Which traces are recorded

* `Provider`             the service, its environment, and the share of traces that is recorded;
* `Provider.samples`     is a span recorded: as its parent says, else by the share;
* `carriedFields`        the headers that are read and sent on.
-/

namespace OrderDesk.Telemetry

/-- The service, its environment, and the share of traces that is recorded. -/
structure Provider where
  service : String
  environment : String
  ratio : Binary64

/-- the headers that are read and sent on, in the order of their names -/
def carriedFields : List String := ["baggage", "traceparent", "tracestate"]

/-- Is a trace of its own recorded: the lower half of its identifier, without its last bit, lies
below the whole part of the share of all such halves. -/
def Provider.samplesRoot (p : Provider) (lowerHalf : Nat) : Bool :=
  if p.ratio.neg then false
  else
    let (n, d) := p.ratio.ratio
    decide (lowerHalf / 2 < n * Nat.pow 2 63 / d)

def Provider.samples (p : Provider) (parent : Option SpanContext) (lowerHalf : Nat) : Bool :=
  match parent with
  | some c => c.sampled
  | none => p.samplesRoot lowerHalf

/-- the baggage that is sent on; what cannot be read is not -/
def passedOn (header : String) : String := Baggage.text ((Baggage.parse? header).getD [])

end OrderDesk.Telemetry
