import WebhookOperator.Admission.Handler
import WebhookOperator.Proofs.Codec.Cluster
import WebhookOperator.Proofs.Injection.Ledger
import WebhookOperator.Proofs.Injection.Matching
import WebhookOperator.Proofs.Injection.Outcome

/-!
# Admitting a pod again

An injected pod that comes back is left as it is.  The presets that apply are the same, for no
annotation that an injection writes changes whether a pod is left alone, and labels are not touched.
They still agree with the pod, into which some of them have gone.  And every one of them is
remembered, so nothing is merged: what a second injection does to volumes, containers and the
resolver's options is what an injection of no presets does.

Presets that a cluster lists carry versions, and one name has one version in a namespace; without
that the pod could not remember them.

* `PodSpec.injected_injected_nil`: an injection of no presets leaves an injected pod as it is
* `Pod.pending_injected`: an injected pod remembers every preset
* `Pod.inject_injected`: admitted again, it is admitted without a patch
-/

namespace WebhookOperator

open Merge

/-! ### Injecting nothing -/

theorem DnsConfig.mem_options_reopen (config : DnsConfig) :
    singleRequestReopen ∈ listed config.reopen.options := by
  rw [reopen, listed, Option.getD_some]
  split
  next hmem => exact hmem
  · exact List.mem_append_right _ List.mem_cons_self

@[simp] theorem DnsConfig.reopen_reopen (config : DnsConfig) :
    config.reopen.reopen = config.reopen :=
  reopen_of_mem config.mem_options_reopen

@[simp] theorem Container.injected_nil (container : Container) : container.injected [] = container := by
  simp [injected, offered, sources]

namespace PodSpec

theorem reopened_injected (spec : PodSpec) (presets : List PodPreset) :
    (spec.injected presets).reopened = spec.reopened := by
  rw [reopened, injected, reopened]
  split <;> simp

theorem injected_nil (spec : PodSpec) : spec.injected [] = { spec with dnsConfig := spec.reopened } := by
  simp [injected, offered]

theorem injected_injected_nil (spec : PodSpec) (presets : List PodPreset) :
    (spec.injected presets).injected [] = spec.injected presets := by
  rw [injected_nil, reopened_injected]
  rfl

end PodSpec

/-! ### Remembered presets -/

namespace Pod

/-- Presets of one name have one version, and every preset has one. -/
structure Versioned (presets : List PodPreset) : Prop where
  some : ∀ preset ∈ presets, preset.version?.isSome
  same : ∀ preset ∈ presets, ∀ other ∈ presets, preset.name = other.name →
    preset.version? = other.version?

variable {pod : Pod} {presets : List PodPreset}

theorem annotation?_injected (hversioned : Versioned presets) {preset : PodPreset}
    (h : preset ∈ presets) :
    (pod.injected presets).metadata.annotation? preset.appliedKey = .some preset.recorded :=
  annotation?_remember_of_mem hversioned.same h

theorem pending_injected (hversioned : Versioned presets) :
    (pod.injected presets).pending presets = [] := by
  refine List.filter_eq_nil_iff.2 fun preset hmem => ?_
  obtain ⟨version, hversion⟩ := Option.isSome_iff_exists.1 (hversioned.some preset hmem)
  have hremembers : (pod.injected presets).remembers preset := by
    refine remembers_iff.2 ⟨version, hversion, ?_⟩
    rw [annotation?_injected hversioned hmem, PodPreset.recorded, hversion]
    rfl
  simp [hremembers]

/-- Taking presets again leaves a pod as it is. -/
theorem injected_injected (hversioned : Versioned presets) :
    (pod.injected presets).injected presets = pod.injected presets := by
  have hmetadata : remember (pod.injected presets).metadata presets = (pod.injected presets).metadata :=
    remember_eq_self fun _ hmem => annotation?_injected hversioned hmem
  have hspec : (pod.injected presets).spec.map (·.injected []) = (pod.injected presets).spec := by
    rw [injected, Option.map_map]
    congr 1
    funext spec
    exact spec.injected_injected_nil _
  conv => lhs; rw [injected, hmetadata, pending_injected hversioned, hspec]

theorem Accepts.injected (h : pod.Accepts presets) : (pod.injected presets).Accepts presets := by
  intro spec hspec
  obtain ⟨original, horiginal, rfl⟩ := Option.map_eq_some_iff.1 hspec
  exact (h original horiginal).injected (pod.pending_subset presets)

/-- **Admitting an injected pod again changes nothing.**  The presets are as a cluster lists them:
each has a version, and those of one name in the namespace have the same one.  The second injection
gives the same pod under the same names of presets, and no patch comes of it. -/
theorem inject_injected {injected : Pod} {podNamespace : String} {names : List String}
    (hsome : ∀ preset ∈ presets, preset.version?.isSome)
    (hsame : ∀ preset ∈ presets, ∀ other ∈ presets,
      preset.metadata.namespaceName = some podNamespace →
      other.metadata.namespaceName = some podNamespace →
      preset.name = other.name → preset.version? = other.version?)
    (h : pod.inject podNamespace presets = .ok (.injected names injected)) :
    injected.inject podNamespace presets = .ok (.injected names injected) ∧
      injected.decision podNamespace (.injected names injected) = { verdict := .allowed } := by
  obtain ⟨hexclusion, matched, hmatched, hnil, hconflicts, rfl, rfl⟩ := inject_eq_injected_iff.1 h
  have hversioned : Versioned matched := by
    refine ⟨fun preset hmem => hsome preset (PodPreset.mem_of_matching hmatched hmem).1, ?_⟩
    intro preset hmem other hother
    have ⟨hlisted, hnamespace⟩ := PodPreset.mem_of_matching hmatched hmem
    have ⟨hlistedOther, hnamespaceOther⟩ := PodPreset.mem_of_matching hmatched hother
    exact hsame preset hlisted other hlistedOther hnamespace hnamespaceOther
  have hmetadata : (pod.injected matched).metadata = remember pod.metadata matched := rfl
  refine ⟨inject_eq_injected_iff.2 ⟨?_, matched, ?_, hnil, ?_, rfl, ?_⟩, ?_⟩
  · rw [exclusion_remember hmetadata, hexclusion]
  · rw [← hmatched]
    exact congrArg _ (labelDict_remember pod.metadata matched)
  · exact conflicts_eq_nil_iff.2 (conflicts_eq_nil_iff.1 hconflicts).injected
  · exact (injected_injected hversioned).symm
  · have hpatch : (pod.injected matched).patch?
        (.injected (matched.map PodPreset.name) (pod.injected matched)) = none :=
      Json.Patch.between?_self (Pod.lawful.sorted_encode _)
    simp only [decision, hpatch, Verdict.ofPatch?]

theorem inject_injected_sample :
    sample.inject "web" [.sample] = .ok (.injected ["db"] (sample.injected [.sample])) ∧
      (sample.injected [.sample]).inject "web" [.sample] =
        .ok (.injected ["db"] (sample.injected [.sample])) ∧
      (sample.injected [.sample]).decision "web" (.injected ["db"] (sample.injected [.sample])) =
        { verdict := .allowed } := by
  have h : sample.inject "web" [.sample] = .ok (.injected ["db"] (sample.injected [.sample])) := by
    decide
  exact ⟨h, inject_injected (by decide) (by decide) h⟩

end Pod

end WebhookOperator
