import AnalystQuery.Json.Basic
import AnalystQuery.Metrics.Basic

/-! The texts in which metrics are reported: an exposition with one block for each metric, sorted
by name, and a JSON value. -/

namespace AnalystQuery.Metrics

open Number (Double)

/-- The upper bounds, in thousandths of a second, under which durations are counted. -/
def boundThousandths : List Nat :=
  [5, 10, 25, 50, 100, 250, 500, 1000, 2500, 5000, 10000, 20000, 30000, 60000]

def bounds : List Double :=
  boundThousandths.map fun count => Number.Decimal.nearest false ⟨count, -3⟩

def countWithin (bound : Double) (durations : List Double) : Nat :=
  (durations.filter (·.atMost bound)).length

private def numberText (number : Double) : String := String.ofList number.positional

private def naturalText (value : Nat) : String :=
  numberText (Number.Binary.ofNat value : Double)

structure Family where
  name : String
  lines : List String
  deriving DecidableEq, Repr

private def family (shortName description kind : String) (values : String → List String) :
    Family :=
  let name := "querysmith_" ++ shortName
  ⟨name, ("# HELP " ++ name ++ " " ++ description) :: ("# TYPE " ++ name ++ " " ++ kind) ::
    values name⟩

private def counterFamily (metrics : Metrics) (counter : Counter) : Family :=
  family counter.name counter.description "counter" fun name =>
    [name ++ " " ++ naturalText (metrics.count counter)]

private def bucketLine (name bound : String) (count : Nat) : String :=
  name ++ "_bucket\x7ble=\"" ++ bound ++ "\"\x7d " ++ naturalText count

private def timingFamily (metrics : Metrics) (timing : Timing) : Family :=
  let durations := metrics.durations timing
  family timing.name timing.description "histogram" fun name =>
    bounds.map (fun bound => bucketLine name (numberText bound) (countWithin bound durations)) ++
    [bucketLine name "+Inf" durations.length,
      name ++ "_sum " ++ numberText (total durations),
      name ++ "_count " ++ naturalText durations.length]

private def uptimeFamily (seconds : Nat) : Family :=
  family "uptime_seconds" "Process uptime in seconds" "gauge" fun name =>
    [name ++ " " ++ naturalText seconds]

def families (metrics : Metrics) (uptime : Nat) : List Family :=
  (Counter.all.map (counterFamily metrics) ++ Timing.all.map (timingFamily metrics) ++
    [uptimeFamily uptime]).mergeSort fun left right => decide (left.name ≤ right.name)

def exposition (metrics : Metrics) (uptime : Nat) : String :=
  String.join ((families metrics uptime).flatMap fun family =>
    family.lines.map (· ++ "\n"))

private def summaryOf (durations : List Double) : Json :=
  .object [("count", .natural durations.length), ("sum", .ofDouble (total durations)),
    ("mean", .ofOption .ofDouble (mean? durations))]

def encode (metrics : Metrics) : Json :=
  .object [
    ("counters", .object (Counter.all.map fun counter =>
      (counter.name, .natural (metrics.count counter)))),
    ("histograms", .object (Timing.all.map fun timing =>
      (timing.name, summaryOf (metrics.durations timing))))]

end AnalystQuery.Metrics
