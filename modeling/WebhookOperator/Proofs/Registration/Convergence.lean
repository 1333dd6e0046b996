import WebhookOperator.Registration.Defaults
import WebhookOperator.Registration.Plan

/-!
# What adopting an object achieves

To adopt the desired object is to get its webhooks and its labels; everything else stays as it was.
So an object that has adopted the desired one is converged, as is the desired object itself, and
neither loses that under another version.

* `WebhookConfiguration.isConverged_iff`: what it means to be converged
* `WebhookConfiguration.isConverged_adopt`, `WebhookConfiguration.isConverged_self`: what is
-/

namespace WebhookOperator

namespace Dict

variable {α : Type}

theorem entries_override (dict other : Dict α) :
    (dict.override other).entries = Entries.ofList (dict.entries ++ other.entries) := by
  have general : ∀ (entries : List (String × α)) (made : Dict α),
      (entries.foldl (fun made entry => made.insert entry.1 entry.2) made).entries =
        entries.foldl (fun made entry => Entries.insert entry.1 entry.2 made) made.entries := by
    intro entries
    induction entries with
    | nil => exact fun _ => rfl
    | cons entry entries ih => exact fun made => ih (made.insert entry.1 entry.2)
  rw [override, general, Entries.ofList, List.foldl_append, ← Entries.ofList,
    Entries.ofList_of_sorted dict.sorted]

theorem get?_override (dict other : Dict α) (key : String) :
    (dict.override other).get? key = (other.get? key).or (dict.get? key) := by
  rw [get?, entries_override, Entries.lookup_ofList_append, Entries.ofList_of_sorted dict.sorted,
    Entries.ofList_of_sorted other.sorted, get?, get?]

theorem get?_of_mem {dict : Dict α} {entry : String × α} (h : entry ∈ dict.entries) :
    dict.get? entry.1 = some entry.2 :=
  dict.sorted.lookup_of_mem h

end Dict

namespace WebhookConfiguration

variable {kind : WebhookKind} {live desired : WebhookConfiguration kind}

theorem isConverged_iff :
    live.isConverged desired = true ↔
      live.webhooks = desired.webhooks ∧
        ∀ entry ∈ desired.metadata.labelDict.entries,
          live.metadata.labelDict.get? entry.1 = some entry.2 := by
  simp [isConverged]

theorem labelDict_adopt (live desired : WebhookConfiguration kind) :
    (live.adopt desired).metadata.labelDict =
      live.metadata.labelDict.override desired.metadata.labelDict := rfl

/-- Adopting sets the labels of the desired object and keeps every other. -/
theorem label_adopt (live desired : WebhookConfiguration kind) (key : String) :
    (live.adopt desired).metadata.labelDict.get? key =
      (desired.metadata.labelDict.get? key).or (live.metadata.labelDict.get? key) := by
  rw [labelDict_adopt, Dict.get?_override]

theorem isConverged_adopt (live desired : WebhookConfiguration kind) :
    (live.adopt desired).isConverged desired = true := by
  refine isConverged_iff.2 ⟨rfl, fun entry hmem => ?_⟩
  rw [label_adopt, Dict.get?_of_mem hmem, Option.some_or]

theorem isConverged_self (desired : WebhookConfiguration kind) :
    desired.isConverged desired = true :=
  isConverged_iff.2 ⟨rfl, fun _ hmem => Dict.get?_of_mem hmem⟩

@[simp] theorem isConverged_versioned (version : String) :
    (live.versioned version).isConverged desired = live.isConverged desired := rfl

end WebhookConfiguration

namespace Plan

variable {kind : WebhookKind} {live desired : WebhookConfiguration kind}

theorem toward_of_isConverged (h : live.isConverged desired = true) :
    toward desired (some live) = unchanged := if_pos h

theorem toward_of_not_isConverged (h : live.isConverged desired = false) :
    toward desired (some live) = replace (live.adopt desired) :=
  if_neg (Bool.eq_false_iff.1 h)

end Plan

end WebhookOperator
