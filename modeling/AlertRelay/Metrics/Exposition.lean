import AlertRelay.Metrics.Counters
import AlertRelay.Metrics.Traffic
import AlertRelay.Number.Text

/-!
# The text format of metrics

Families of series, each with its help and type line, sorted by name and by the values of their
labels. A family without a name cannot be written.
-/

namespace AlertRelay

/-- The value of a series. -/
inductive SeriesValue where
  | number (value : Float)
  | histogram (value : Histogram)
  deriving Inhabited

/-- A value under labels, which are sorted by name. -/
structure Series where
  labels : List (String × String)
  value : SeriesValue
  deriving Inhabited

/-- The series of one name. -/
structure Family where
  name : String
  help : String
  kind : String
  series : List Series
  deriving Inhabited

namespace Exposition

/-- A character of a label value. -/
def escape : Char → List Char
  | '\\' => ['\\', '\\']
  | '"' => ['\\', '"']
  | '\n' => ['\\', 'n']
  | c => [c]

/-- One label. -/
def labelText (label : String × String) : String :=
  label.1 ++ "=\"" ++ String.ofList (label.2.toList.flatMap escape) ++ "\""

/-- All labels of a sample. -/
def labelsText (labels : List (String × String)) : String :=
  if labels.isEmpty then "" else "\x7b" ++ ",".intercalate (labels.map labelText) ++ "\x7d"

/-- A number in plain notation. -/
def numberText (x : Float) : String := (Binary64.ofFloat x).plainText

/-- One line. -/
def sampleText (name : String) (labels : List (String × String)) (value : String) : String :=
  name ++ labelsText labels ++ " " ++ value ++ "\n"

/-- The lines of a histogram: its buckets, its sum and its count. -/
def histogramText (name : String) (labels : List (String × String)) (h : Histogram) : String :=
  String.join (h.cumulative.map fun (bound, n) =>
      sampleText (name ++ "_bucket") (labels ++ [("le", numberText bound)]) (toString n)) ++
    sampleText (name ++ "_bucket") (labels ++ [("le", "+Inf")]) (toString h.count) ++
    sampleText (name ++ "_sum") labels (numberText h.sum) ++
    sampleText (name ++ "_count") labels (toString h.count)

/-- The lines of a series. -/
def seriesText (name : String) (s : Series) : String :=
  match s.value with
  | .number x => sampleText name s.labels (numberText x)
  | .histogram h => histogramText name s.labels h

/-- Whether the label values of one series come before those of another. -/
def labelsPrecede : List (String × String) → List (String × String) → Bool
  | [], _ => true
  | _, [] => false
  | (_, a) :: as, (_, b) :: bs => if a = b then labelsPrecede as bs else decide (a < b)

/-- The series of a family in their order. -/
def sortSeries (series : List Series) : List Series :=
  series.mergeSort fun a b => labelsPrecede a.labels b.labels

/-- A family with its help and its type. -/
def familyText (f : Family) : String :=
  "# HELP " ++ f.name ++ " " ++ f.help ++ "\n# TYPE " ++ f.name ++ " " ++ f.kind ++ "\n" ++
    String.join ((sortSeries f.series).map (seriesText f.name))

/-- The families that have series. -/
def populated (families : List Family) : List Family :=
  families.filter fun f => !f.series.isEmpty

/-- The text of families; a family without a name makes it fail. -/
def encode? (families : List Family) : Option String :=
  if (populated families).any fun f => f.name.isEmpty then none
  else some (String.join ((populated families).map familyText))

end Exposition

/-- All that the relay counts and shows. -/
structure Metrics where
  counters : Counters
  traffic : Traffic
  deriving Inhabited

namespace Metrics

/-- Everything at zero. -/
def zero : Metrics := ⟨Counters.zero, Traffic.zero⟩

/-- A family of one series without labels. -/
def single (name help kind : String) (value : Float) : Family :=
  ⟨name, help, kind, [⟨[], .number value⟩]⟩

/-- The family of a timed step. -/
def latencyFamily (name help : String) (step : TimedStep) (c : Counters) : Family :=
  ⟨name, help, "histogram",
    (c.latencies.entries.filter fun entry => entry.1.1 = step).map fun entry =>
      ⟨[("outcome", if entry.1.2 then "success" else "failure")], .histogram entry.2⟩⟩

/-- The family of lags. -/
def lagFamily (t : Traffic) : Family :=
  ⟨"consumer_lag", "Records behind the high watermark", "gauge",
    t.lags.entries.map fun (tp, lag) =>
      ⟨[("partition", toString tp.partition), ("topic", tp.topic)],
        .number (nearestDoubleOfInt lag)⟩⟩

/-- The family of failures. -/
def failuresFamily (c : Counters) : Family :=
  ⟨"failures_total", "Failed units by stage", "counter",
    c.failures.entries.map fun (stage, n) =>
      ⟨[("stage", stage.label)], .number (nearestDouble n)⟩⟩

/-- All families, sorted by name. -/
def families (m : Metrics) : List Family :=
  let c := m.counters
  let t := m.traffic
  [lagFamily t,
    latencyFamily "db_latency_seconds" "Alert insert latency" .insert c,
    single "dead_lettered_total" "Records forwarded to the dead-letter topic" "counter"
      (nearestDouble c.deadLettered),
    single "dlq_failures_total" "Dead-letter deliveries that failed" "counter"
      (nearestDouble c.deadLetterFailures),
    single "events_processed_total" "Records pulled from the input topics" "counter"
      (nearestDouble t.pulled),
    failuresFamily c,
    single "in_flight_queue_size" "Records enqueued or being processed" "gauge"
      (nearestDoubleOfInt t.inFlight),
    latencyFamily "kafka_publish_seconds" "Alert publish and commit latency" .publish c,
    single "partitions_paused" "1 while backpressure holds the assignment paused" "gauge"
      (if t.paused then 1.0 else 0.0),
    single "processed_total" "Records whose transaction committed with a result" "counter"
      (nearestDouble c.processed)]

end Metrics

end AlertRelay
