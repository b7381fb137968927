import AnalystQuery.Metrics.Basic
import AnalystQuery.Pipeline.Session

/-! What a journal adds up to. -/

namespace AnalystQuery.Pipeline

open Number (Double)

def addEvent (metrics : Metrics) : Event → Metrics
  | .entered _ => metrics
  | .counted counter => metrics.increase counter 1
  | .timed timing millis => metrics.observe timing (Number.Decimal.nearest false ⟨millis, -3⟩)

def metricsOf (journal : List Event) : Metrics := journal.foldl addEvent .empty

def countOf (journal : List Event) (counter : Counter) : Nat :=
  journal.countP (· == .counted counter)

def stagesOf (journal : List Event) : List Stage :=
  journal.filterMap fun
    | .entered stage => some stage
    | _ => none

end AnalystQuery.Pipeline
