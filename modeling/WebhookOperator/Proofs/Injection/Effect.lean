import WebhookOperator.Proofs.Injection.Ledger
import WebhookOperator.Proofs.Injection.Outcome

/-!
# What an injection changes

A pod that has taken presets has grown in a few places and is otherwise what it was.  Its lists of
volumes, variables and mounts have taken what the pending presets offer, each item once; its lists
of sources have taken all of it; the resolver may have got one option; and one annotation for each
preset tells its version.

* `Grown`: a list that has taken items under a key
* `Container.Grown`, `PodSpec.Grown`, `Pod.Grown`: a container, a pod's content and a pod that have
* `Pod.grown_of_apply`: a pod that has taken presets has grown by them, and in nothing else
-/

namespace WebhookOperator

open Merge

/-! ### Lists -/

/-- A list that has taken items which are told apart by a key.  Behind the old items stand some of
those offered, in their order, and none is missing; no key occurs twice that did not before; and the
list is there when it was before or anything has been offered. -/
structure Grown {α : Type} (key : α → String) (offered : List α) (before after : Option (List α)) :
    Prop where
  appended : ∃ added, added.Sublist offered ∧ listed after = listed before ++ added
  complete : offered ⊆ listed after
  unique : ((listed before).map key).Nodup → ((listed after).map key).Nodup
  absent : after = none ↔ before = none ∧ offered = []

/-- What merging makes of a field whose items agree with those offered. -/
theorem grown_settle {α : Type} {key other : α → String} {field : Option (List α)} {items : List α}
    (h : Agree key (listed field) items)
    (hunique : ((listed field).map other).Nodup →
      ((extend key (listed field) items).map other).Nodup) :
    Grown other items field (settle field (extend key (listed field) items)) := by
  refine ⟨?_, ?_, ?_, ?_⟩
  · rw [listed_settle_extend]
    exact exists_extend_eq_append key (listed field) items
  · rw [listed_settle_extend]
    exact fun item hmem => h.mem_extend hmem
  · rw [listed_settle_extend]
    exact hunique
  · rw [settle_eq_none_iff, extend_eq_nil_iff]
    exact ⟨fun h => ⟨h.1, h.2.2⟩, fun h => ⟨h.1, by simp [h.1, listed], h.2⟩⟩

/-! ### Containers and pods -/

structure Container.Grown (presets : List PodPreset) (before after : Container) : Prop where
  env : WebhookOperator.Grown EnvVar.name (offered PresetSpec.env presets) before.env after.env
  mounts : WebhookOperator.Grown VolumeMount.mountPath (offered PresetSpec.volumeMounts presets)
    before.volumeMounts after.volumeMounts
  sources : listed after.envFrom = listed before.envFrom ++ offered PresetSpec.envFrom presets
  sources_absent : after.envFrom = none ↔
    before.envFrom = none ∧ offered PresetSpec.envFrom presets = []
  rest : after = { before with
    env := after.env, volumeMounts := after.volumeMounts, envFrom := after.envFrom }

theorem Container.grown_injected {container : Container} {presets : List PodPreset}
    (h : container.Accepts presets) : container.Grown presets (container.injected presets) where
  env := grown_settle h.env.first fun hnodup => nodup_keys_extend hnodup _
  mounts := grown_settle h.mounts.first fun hnodup =>
    (mountsAgree_iff.1 h.mounts).2.nodup_keys_extend hnodup
  sources := listed_settle_append _ _
  sources_absent := by
    rw [injected, settle_eq_none_iff, Merge.sources, List.append_eq_nil_iff]
    exact ⟨fun h => ⟨h.1, h.2.2⟩, fun h => ⟨h.1, by rw [h.1]; rfl, h.2⟩⟩
  rest := rfl

/-- The way a pod looks up names after an injection: with the policy `ClusterFirst` and without the
option there is one option more, and otherwise all is as before. -/
structure DnsGrown (policy : Option String) (before after : Option DnsConfig) : Prop where
  same : policy ≠ some "ClusterFirst" ∨
    DnsConfig.singleRequestReopen ∈ listed (before.getD {}).options → after = before
  grown : policy = some "ClusterFirst" →
    DnsConfig.singleRequestReopen ∉ listed (before.getD {}).options →
      after = some { before.getD {} with
        options := some (listed (before.getD {}).options ++ [DnsConfig.singleRequestReopen]) }

theorem PodSpec.dnsGrown_reopened (spec : PodSpec) :
    DnsGrown spec.dnsPolicy spec.dnsConfig spec.reopened := by
  refine ⟨fun h => ?_, fun hpolicy hmissing => ?_⟩
  · rw [reopened]
    split
    next hpolicy =>
      have hmem := h.resolve_left (not_not_intro hpolicy)
      rw [DnsConfig.reopen_of_mem hmem]
      cases hconfig : spec.dnsConfig with
      | none => simp [hconfig, listed] at hmem
      | some config => rfl
    · rfl
  · rw [reopened, if_pos hpolicy, DnsConfig.reopen, if_neg hmissing]

structure PodSpec.Grown (presets : List PodPreset) (before after : PodSpec) : Prop where
  volumes : WebhookOperator.Grown Volume.name (offered PresetSpec.volumes presets)
    before.volumes after.volumes
  containers : List.Forall₂ (Container.Grown presets) before.containers after.containers
  dns : DnsGrown before.dnsPolicy before.dnsConfig after.dnsConfig
  rest : after = { before with
    volumes := after.volumes, containers := after.containers, dnsConfig := after.dnsConfig }

theorem PodSpec.grown_injected {spec : PodSpec} {presets : List PodPreset}
    (h : spec.Accepts presets) : spec.Grown presets (spec.injected presets) where
  volumes := grown_settle h.volumes.first fun hnodup => nodup_keys_extend hnodup _
  containers := by
    rw [injected, List.forall₂_map_right_iff, List.forall₂_same]
    exact fun container hmem => Container.grown_injected (h.containers container hmem)
  dns := spec.dnsGrown_reopened
  rest := rfl

/-- Metadata that tells the versions of presets.  The annotation of a preset says its version,
unless a later preset of its name says another. -/
structure ObjectMeta.Tells (presets : List PodPreset) (before after : ObjectMeta) : Prop where
  told : ∀ earlier preset later, presets = earlier ++ preset :: later →
    (∀ other ∈ later, other.name ≠ preset.name) →
      after.annotation? preset.appliedKey = some (preset.version?.getD "")
  others : ∀ key, (∀ preset ∈ presets, preset.appliedKey ≠ key) →
    after.annotation? key = before.annotation? key
  rest : after = { before with annotations := after.annotations }

theorem Pod.tells_remember (metadata : ObjectMeta) (presets : List PodPreset) :
    metadata.Tells presets (remember metadata presets) where
  told := by
    rintro earlier preset later rfl hlater
    rw [annotation?_remember, List.reverse_append, List.reverse_cons, List.append_assoc,
      List.find?_append]
    have hnone : later.reverse.find? (·.appliedKey == preset.appliedKey) = none := by
      simpa [PodPreset.appliedKey_inj] using hlater
    simp [hnone, PodPreset.recorded]
  others key h := annotation?_remember_of_ne h
  rest := remember_eq metadata presets

structure Pod.Grown (presets : List PodPreset) (before after : Pod) : Prop where
  metadata : before.metadata.Tells presets after.metadata
  spec : Option.Rel (PodSpec.Grown (before.pending presets)) before.spec after.spec
  rest : after = { before with metadata := after.metadata, spec := after.spec }

/-- **What presets change about a pod.**  A pod that takes presets grows by those that it did not
remember, and tells the versions of all of them. -/
theorem Pod.grown_of_apply {pod injected : Pod} {presets : List PodPreset} (hnil : presets ≠ [])
    (h : pod.apply presets = .ok injected) : pod.Grown presets injected := by
  rw [apply_eq, if_neg hnil] at h
  by_cases hconflicts : pod.conflicts presets = []
  · rw [if_pos hconflicts] at h
    obtain rfl := Except.ok.inj h
    refine ⟨tells_remember pod.metadata presets, ?_, rfl⟩
    -- the check was about all presets, and the merges are about fewer
    have haccepts := conflicts_eq_nil_iff.1 hconflicts
    cases hspec : pod.spec with
    | none => simp [Pod.injected, hspec]
    | some spec =>
      have hgrown := PodSpec.grown_injected ((haccepts spec hspec).subset (pod.pending_subset presets))
      simpa [Pod.injected, hspec] using hgrown
  · rw [if_neg hconflicts] at h
    cases h

theorem Pod.grown_of_apply_sample :
    [PodPreset.sample] ≠ [] ∧ Pod.sample.apply [.sample] = .ok (Pod.sample.injected [.sample]) ∧
      Pod.sample.Grown [.sample] (Pod.sample.injected [.sample]) := by
  have h : Pod.sample.apply [.sample] = .ok (Pod.sample.injected [.sample]) := by decide
  exact ⟨by decide, h, Pod.grown_of_apply (by decide) h⟩

end WebhookOperator
