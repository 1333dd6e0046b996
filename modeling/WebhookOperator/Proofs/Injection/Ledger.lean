import WebhookOperator.Preset.Injection

/-!
# What a pod remembers

A pod remembers in its annotations which versions of presets it has taken.  These annotations are
all that one admission leaves to the next, so this file says exactly which of them an injection
writes.

* `annotation?_remember`: the last preset of a key decides what stands under it
* `remember_eq_self`: presets that are remembered already leave no trace
* `exclusion_remember`: no preset makes a pod ask to be left alone
-/

namespace WebhookOperator

/-! ### Keys -/

namespace PodPreset

theorem appliedKey_inj {preset other : PodPreset} :
    preset.appliedKey = other.appliedKey ↔ preset.name = other.name :=
  String.append_right_inj appliedKeyStart

theorem appliedKey_ne_mirrorAnnotation (preset : PodPreset) :
    preset.appliedKey ≠ mirrorAnnotation := by
  intro h
  have := congrArg String.toList h
  simp [appliedKey, appliedKeyStart, mirrorAnnotation] at this

theorem appliedKey_ne_optOutAnnotation (preset : PodPreset) :
    preset.appliedKey ≠ optOutAnnotation := by
  intro h
  have := congrArg String.toList h
  simp [appliedKey, appliedKeyStart, optOutAnnotation] at this

/-- The version under which a preset is remembered. -/
def recorded (preset : PodPreset) : String := preset.version?.getD ""

end PodPreset

/-! ### Annotations -/

theorem ObjectMeta.annotation?_eq_get? {metadata : ObjectMeta} {dict : Dict String}
    (h : metadata.annotations = some dict) (key : String) :
    metadata.annotation? key = dict.get? key := by
  rw [annotation?, h, Option.bind_some]

theorem ObjectMeta.annotation?_annotate (metadata : ObjectMeta) (key other value : String) :
    (metadata.annotate key value).annotation? other =
      if other = key then some value else metadata.annotation? other := by
  rw [annotation?, annotate, Option.bind_some, Dict.get?_insert, annotation?]
  cases metadata.annotations <;> rfl

theorem ObjectMeta.annotate_eq_self {metadata : ObjectMeta} {key value : String}
    (h : metadata.annotation? key = some value) : metadata.annotate key value = metadata := by
  obtain ⟨dict, hdict, hvalue⟩ := Option.bind_eq_some_iff.1 h
  rw [annotate, hdict, Option.getD_some, Dict.insert_eq_self hvalue, ← hdict]

theorem ObjectMeta.annotate_comm (metadata : ObjectMeta) {key other : String} (h : key ≠ other)
    (value value' : String) :
    (metadata.annotate key value).annotate other value' =
      (metadata.annotate other value').annotate key value := by
  unfold annotate
  simp only [Option.getD_some]
  rw [Dict.insert_comm _ h]

namespace Pod

theorem remember_append (metadata : ObjectMeta) (first second : List PodPreset) :
    remember metadata (first ++ second) = remember (remember metadata first) second :=
  List.foldl_append

theorem remember_append_singleton (metadata : ObjectMeta) (presets : List PodPreset)
    (preset : PodPreset) :
    remember metadata (presets ++ [preset]) =
      (remember metadata presets).annotate preset.appliedKey preset.recorded := by
  rw [remember, List.foldl_append]
  rfl

theorem remember_cons (metadata : ObjectMeta) (preset : PodPreset) (presets : List PodPreset) :
    remember metadata (preset :: presets) =
      remember (metadata.annotate preset.appliedKey preset.recorded) presets := rfl

theorem remember_eq (metadata : ObjectMeta) (presets : List PodPreset) :
    remember metadata presets =
      { metadata with annotations := (remember metadata presets).annotations } := by
  induction presets generalizing metadata with
  | nil => rfl
  | cons preset presets ih =>
    rw [remember_cons, ih]
    rfl

theorem annotations_remember_isSome {presets : List PodPreset} (h : presets ≠ [])
    (metadata : ObjectMeta) : (remember metadata presets).annotations.isSome := by
  rw [← List.dropLast_concat_getLast h, remember_append_singleton]
  rfl

/-- **What stands under a key afterwards**: what the last preset of that key says, else what stood
there before. -/
theorem annotation?_remember (metadata : ObjectMeta) (presets : List PodPreset) (key : String) :
    (remember metadata presets).annotation? key =
      ((presets.reverse.find? (·.appliedKey == key)).map PodPreset.recorded).or
        (metadata.annotation? key) := by
  induction presets generalizing metadata with
  | nil => rfl
  | cons preset presets ih =>
    rw [remember_cons, ih, ObjectMeta.annotation?_annotate, List.reverse_cons, List.find?_append]
    cases presets.reverse.find? (·.appliedKey == key) with
    | some last => rfl
    | none =>
      by_cases h : key = preset.appliedKey
      · simp [h]
      · simp [h, Ne.symm h]

theorem annotation?_remember_of_ne {metadata : ObjectMeta} {presets : List PodPreset} {key : String}
    (h : ∀ preset ∈ presets, preset.appliedKey ≠ key) :
    (remember metadata presets).annotation? key = metadata.annotation? key := by
  have hnone : presets.reverse.find? (·.appliedKey == key) = none := by
    simpa using h
  rw [annotation?_remember, hnone]
  rfl

/-- Presets of one name that say the same version are remembered at it. -/
theorem annotation?_remember_of_mem {metadata : ObjectMeta} {presets : List PodPreset}
    (hsame : ∀ preset ∈ presets, ∀ other ∈ presets, preset.name = other.name →
      preset.version? = other.version?)
    {preset : PodPreset} (h : preset ∈ presets) :
    (remember metadata presets).annotation? preset.appliedKey = some preset.recorded := by
  rw [annotation?_remember]
  cases hlast : presets.reverse.find? (·.appliedKey == preset.appliedKey) with
  | none =>
    have := List.find?_eq_none.1 hlast preset (List.mem_reverse.2 h)
    simp at this
  | some last =>
    have hmem : last ∈ presets := List.mem_reverse.1 (List.mem_of_find?_eq_some hlast)
    have hkey : last.appliedKey = preset.appliedKey := by simpa using List.find?_some hlast
    have hversion := hsame last hmem preset h (PodPreset.appliedKey_inj.1 hkey)
    simp [PodPreset.recorded, hversion]

theorem remember_eq_self {metadata : ObjectMeta} {presets : List PodPreset}
    (h : ∀ preset ∈ presets, metadata.annotation? preset.appliedKey = some preset.recorded) :
    remember metadata presets = metadata := by
  induction presets with
  | nil => rfl
  | cons preset presets ih =>
    rw [remember_cons, ObjectMeta.annotate_eq_self (h preset List.mem_cons_self)]
    exact ih fun other hmem => h other (List.mem_cons_of_mem _ hmem)

theorem remembers_iff {pod : Pod} {preset : PodPreset} :
    pod.remembers preset = true ↔
      ∃ version, preset.version? = some version ∧
        pod.metadata.annotation? preset.appliedKey = some version := by
  rw [remembers]
  cases pod.metadata.annotation? preset.appliedKey with
  | none => simp
  | some written =>
    cases preset.version? with
    | none => simp
    | some version => simp

theorem labelDict_remember (metadata : ObjectMeta) (presets : List PodPreset) :
    (remember metadata presets).labelDict = metadata.labelDict := by
  rw [remember_eq]
  rfl

theorem exclusion_remember {pod other : Pod} {presets : List PodPreset}
    (h : other.metadata = remember pod.metadata presets) : other.exclusion = pod.exclusion := by
  have hmirror : other.metadata.annotation? mirrorAnnotation =
      pod.metadata.annotation? mirrorAnnotation :=
    h ▸ annotation?_remember_of_ne fun preset _ => preset.appliedKey_ne_mirrorAnnotation
  have hoptOut : other.metadata.annotation? optOutAnnotation =
      pod.metadata.annotation? optOutAnnotation :=
    h ▸ annotation?_remember_of_ne fun preset _ => preset.appliedKey_ne_optOutAnnotation
  rw [exclusion, exclusion, hmirror, hoptOut]

end Pod

end WebhookOperator
