import WebhookOperator.Decimal

/-!
# Counting what happens

Tallies count by label; a histogram counts observations and adds them up. The metrics of the
operator are four tallies and one family of histograms.

* `Tally.count_increment`: an increment changes the count of its label by one, and no other
-/

namespace WebhookOperator

/-- Counts by label; a label without an entry counts as zero. -/
structure Tally (κ : Type) where
  counts : List (κ × Nat) := []
deriving DecidableEq, Inhabited

namespace Tally

def count [BEq κ] (tally : Tally κ) (label : κ) : Nat := (tally.counts.lookup label).getD 0

def incremented [BEq κ] (label : κ) : List (κ × Nat) → List (κ × Nat)
  | [] => [(label, 1)]
  | (other, count) :: rest =>
    if label == other then (other, count + 1) :: rest else (other, count) :: incremented label rest

def increment [BEq κ] (tally : Tally κ) (label : κ) : Tally κ := ⟨incremented label tally.counts⟩

theorem count_increment [BEq κ] [LawfulBEq κ] [DecidableEq κ] (tally : Tally κ) (label other : κ) :
    (tally.increment label).count other = tally.count other + if other = label then 1 else 0 := by
  obtain ⟨counts⟩ := tally
  simp only [increment, count]
  induction counts with
  | nil =>
    by_cases h : other = label
    · simp [incremented, h]
    · have h' : (other == label) = false := by simp [h]
      simp [incremented, List.lookup_cons, h, h']
  | cons head rest ih =>
    obtain ⟨key, n⟩ := head
    by_cases hk : label = key
    · subst hk
      by_cases h : other = label
      · simp [incremented, h]
      · have h' : (other == label) = false := by simp [h]
        simp [incremented, List.lookup_cons, h, h']
    · have hk' : (label == key) = false := by simp [hk]
      by_cases h : other = key
      · subst h
        simp [incremented, hk', Ne.symm hk]
      · have h' : (other == key) = false := by simp [h]
        simpa [incremented, hk', List.lookup_cons, h'] using ih

end Tally

/-- A count and a sum of observations, and how many of them stay within each bound. -/
structure Histogram where
  count : Nat
  sum : Decimal
  within : List Nat
deriving DecidableEq, Inhabited

namespace Histogram

/-- The bounds: half a millisecond, and each one twice the one before. -/
def bounds : List Decimal := (List.range 15).map fun step => ⟨5 * Nat.pow 2 step, 4⟩

def empty : Histogram := ⟨0, ⟨0, 0⟩, bounds.map fun _ => 0⟩

def observe (histogram : Histogram) (value : Decimal) : Histogram where
  count := histogram.count + 1
  sum := histogram.sum + value
  within := (bounds.zip histogram.within).map fun (bound, count) =>
    if value.le bound then count + 1 else count

end Histogram

structure Metrics where
  /-- Admission requests by webhook and outcome. -/
  admissions : Tally (String × String) := {}
  /-- How long the handling of requests took, by webhook. -/
  durations : List (String × Histogram) := []
  /-- Pods that were left alone because presets conflict, by namespace. -/
  conflicts : Tally String := {}
  /-- Registration objects found or made right, by name. -/
  reconciliations : Tally String := {}
  /-- Registration objects that could not be made right, by name. -/
  reconciliationErrors : Tally String := {}
deriving DecidableEq, Inhabited

namespace Metrics

def observed (label : String) (value : Decimal) :
    List (String × Histogram) → List (String × Histogram)
  | [] => [(label, Histogram.empty.observe value)]
  | (other, histogram) :: rest =>
    if label = other then (other, histogram.observe value) :: rest
    else (other, histogram) :: observed label value rest

def recordAdmission (metrics : Metrics) (webhook outcome : String) (seconds : Decimal) : Metrics :=
  { metrics with
    admissions := metrics.admissions.increment (webhook, outcome)
    durations := observed webhook seconds metrics.durations }

def recordConflict (metrics : Metrics) (podNamespace : String) : Metrics :=
  { metrics with conflicts := metrics.conflicts.increment podNamespace }

def recordReconciliation (metrics : Metrics) (configuration : String) : Metrics :=
  { metrics with reconciliations := metrics.reconciliations.increment configuration }

def recordReconciliationError (metrics : Metrics) (configuration : String) : Metrics :=
  { metrics with reconciliationErrors := metrics.reconciliationErrors.increment configuration }

end Metrics

end WebhookOperator
