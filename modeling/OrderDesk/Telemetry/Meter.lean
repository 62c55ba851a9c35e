import OrderDesk.Number.Binary64

/-!
# Counters and gauges

* `Series`            a metric with its labels;
* `Meter.add`         one more of a series;
* `Meter.setTo`       the number a gauge shows, which is kept in 64 bits;
* `Meter.level`       the present value of a gauge.
-/

namespace OrderDesk.Telemetry

/-- A metric with its labels. -/
structure Series where
  name : String
  labels : List (String × String) := []
  deriving DecidableEq, Repr, Inhabited

/-- a series as it is shown, its labels in the order of their texts -/
def Series.text (s : Series) : String :=
  let labels := s.labels.map fun (k, v) => k ++ "=" ++ v
  s.name ++ "\x7b" ++ ",".intercalate (labels.mergeSort fun a b => !decide (b < a)) ++ "\x7d"

/-- What was counted, and the present values of the gauges. -/
structure Meter where
  counts : List (Series × Nat) := []
  gauges : List (Series × Int) := []
  deriving DecidableEq, Repr, Inhabited

namespace Meter

def bump (s : Series) : List (Series × Nat) → List (Series × Nat)
  | [] => [(s, 1)]
  | (t, n) :: rest => if t = s then (t, n + 1) :: rest else (t, n) :: bump s rest

def add (m : Meter) (s : Series) : Meter := { m with counts := bump s m.counts }

def count (m : Meter) (s : Series) : Nat := (m.counts.lookup s).getD 0

/-- a gauge without a value -/
def clear (m : Meter) (s : Series) : Meter := { m with gauges := m.gauges.filter (·.1 != s) }

/-- a gauge at the nearest binary number of a whole one -/
def setTo (m : Meter) (s : Series) (n : Int) : Meter :=
  { m with gauges := (m.clear s).gauges ++ [(s, Binary64.nearest n)] }

def level (m : Meter) (s : Series) : Option Int := m.gauges.lookup s

end Meter

end OrderDesk.Telemetry
