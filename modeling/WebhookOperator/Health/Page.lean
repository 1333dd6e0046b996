import WebhookOperator.Health.Metrics

/-!
# The metrics page

The page has a block for each metric: two comment lines, and the samples in the order of their
texts. A counter has one sample for each label, a histogram one for each bound, one for all
observations, and the count and the sum. Label values stand on the page as they are.
-/

namespace WebhookOperator

structure MetricBlock where
  name : String
  help : String
  kind : String
  samples : List String

namespace MetricBlock

def nameStart : String := "common_service_webhook_"

def sample (name : String) (labels : List (String × String)) (value : String) : String :=
  let label (entry : String × String) : String := entry.1 ++ "=\"" ++ entry.2 ++ "\""
  nameStart ++ name ++ "\x7b" ++ ",".intercalate (labels.map label) ++ "\x7d " ++ value

/-- Numbers are positional between a millionth and ten to the twenty-first. -/
def numberLayout : Decimal.Layout := ⟨-6, 21⟩

def sorted (samples : List String) : List String := samples.mergeSort fun a b => decide (a ≤ b)

def counter (name help : String) (tally : Tally κ) (labels : κ → List (String × String)) :
    MetricBlock where
  name := name
  help := help
  kind := "counter"
  samples := sorted <| tally.counts.map fun (label, count) =>
    sample (name ++ "_total") (labels label) (toString count)

def histogramSamples (name : String) (labels : List (String × String)) (histogram : Histogram) :
    List String :=
  let bucket (bound : String) (count : Nat) : String :=
    sample (name ++ "_bucket") (("le", bound) :: labels) (toString count)
  sample (name ++ "_sum") labels (histogram.sum.text numberLayout) ::
    sample (name ++ "_count") labels (toString histogram.count) ::
    bucket "+Inf" histogram.count ::
    (Histogram.bounds.zip histogram.within).map fun (bound, count) =>
      bucket (bound.text numberLayout) count

def lines (block : MetricBlock) : List String :=
  ("# HELP " ++ nameStart ++ block.name ++ " " ++ block.help ++ ".") ::
    ("# TYPE " ++ nameStart ++ block.name ++ " " ++ block.kind) :: block.samples

end MetricBlock

namespace Metrics

def blocks (metrics : Metrics) : List MetricBlock :=
  let one (key : String) (value : String) : List (String × String) := [(key, value)]
  [.counter "admission_requests" "Total number of admission requests by outcome"
      metrics.admissions fun (webhook, outcome) => [("webhook", webhook), ("outcome", outcome)],
   { name := "admission_duration_seconds"
     help := "Duration of admission handling in seconds"
     kind := "histogram"
     samples := MetricBlock.sorted <| metrics.durations.flatMap fun (webhook, histogram) =>
       MetricBlock.histogramSamples "admission_duration_seconds" (one "webhook" webhook)
         histogram },
   .counter "podpreset_conflicts"
      "Total number of pods admitted without injection because presets conflict"
      metrics.conflicts (one "namespace"),
   .counter "webhook_config_reconciliations"
      "Total number of webhook configuration reconciliations"
      metrics.reconciliations (one "configuration"),
   .counter "webhook_config_reconciliation_errors"
      "Total number of failed webhook configuration reconciliations"
      metrics.reconciliationErrors (one "configuration")]

def lines (metrics : Metrics) : List String := metrics.blocks.flatMap MetricBlock.lines ++ ["# EOF"]

def page (metrics : Metrics) : String := String.join (metrics.lines.map (· ++ "\n"))

end Metrics

end WebhookOperator
