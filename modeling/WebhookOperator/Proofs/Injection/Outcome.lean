import Mathlib.Tactic.SplitIfs
import WebhookOperator.Preset.Injection
import WebhookOperator.Proofs.Merge.Outcome

/-!
# What comes of an injection

`Pod.takePresets` checks all presets on the pod as it is and then merges those that are pending.
This file says what the two passes give.  A pod accepts presets when every list of it does, and
what it has taken then is `Pod.injected`, which no merge can fail to give.

* `PodSpec.conflicts_eq_nil_iff`: the check finds nothing exactly when the pod accepts the presets
* `PodSpec.inject_of_accepts`: a pod takes what it accepts
* `Accepts.subset`, `Accepts.injected`: it accepts fewer presets as well, and again those it took
* `Pod.run_takePresets`: what the pod is afterwards, and which conflicts are reported
* `Pod.inject_eq_injected_iff`: when the presets that apply are injected
-/

namespace WebhookOperator

open Merge

/-! ### Lists that are settled -/

@[simp] theorem settle_listed {α : Type} (field : Option (List α)) :
    settle field (listed field) = field := by
  cases field with
  | none => rfl
  | some items => cases items <;> rfl

@[simp] theorem listed_settle_append {α : Type} (field : Option (List α)) (added : List α) :
    listed (settle field (listed field ++ added)) = listed field ++ added := by
  rw [settle]
  split
  next h => simp_all
  · rfl

@[simp] theorem listed_settle_extend {α : Type} (key : α → String) (field : Option (List α))
    (items : List α) :
    listed (settle field (extend key (listed field) items)) = extend key (listed field) items :=
  listed_settle_append field _

theorem settle_eq_none_iff {α : Type} {field : Option (List α)} {merged : List α} :
    settle field merged = none ↔ field = none ∧ merged = [] := by
  rw [settle]
  split <;> simp_all

theorem conflictsOf_ite {β : Type} (found : List Conflict) (merged : β) :
    conflictsOf (if found.isEmpty then .ok merged else .error found) = found := by
  cases found <;> rfl

theorem mapM_eq_ok {ε β γ : Type} {f : β → Except ε γ} {g : β → γ} {items : List β}
    (h : ∀ item ∈ items, f item = .ok (g item)) : items.mapM f = .ok (items.map g) := by
  induction items with
  | nil => rfl
  | cons item items ih =>
    rw [List.mapM_cons, h item List.mem_cons_self, ih fun other hmem => h other (.tail _ hmem)]
    rfl

/-! ### Containers -/

namespace Container

/-- Nothing stands against the presets in the container. -/
structure Accepts (container : Container) (presets : List PodPreset) : Prop where
  env : NamesAgree (listed container.env) presets
  mounts : MountsAgree (listed container.volumeMounts) presets

def injected (container : Container) (presets : List PodPreset) : Container :=
  { container with
    env := settle container.env
      (extend Named.name (listed container.env) (offered Named.offered presets))
    volumeMounts := settle container.volumeMounts
      (extend VolumeMount.name (listed container.volumeMounts)
        (offered PresetSpec.volumeMounts presets))
    envFrom := settle container.envFrom (Merge.sources (listed container.envFrom) presets) }

theorem inject_of_accepts {container : Container} {presets : List PodPreset}
    (h : container.Accepts presets) : container.inject presets = .ok (container.injected presets) := by
  rw [inject, named_eq_resolve, resolve_of_agree h.env, mounts_eq_resolve, resolve_of_agree h.mounts]
  rfl

end Container

/-! ### Pods -/

theorem DnsConfig.reopen_of_mem {config : DnsConfig}
    (h : singleRequestReopen ∈ listed config.options) : config.reopen = config := by
  obtain ⟨nameservers, options, searches⟩ := config
  cases options with
  | none => simp [listed] at h
  | some options => rw [reopen, if_pos h, listed, Option.getD_some]

namespace PodSpec

/-- Nothing stands against the presets in the pod's volumes and containers. -/
structure Accepts (spec : PodSpec) (presets : List PodPreset) : Prop where
  volumes : NamesAgree (listed spec.volumes) presets
  containers : ∀ container ∈ spec.containers, container.Accepts presets

/-- How the pod's containers look up names after an injection. -/
def reopened (spec : PodSpec) : Option DnsConfig :=
  if spec.dnsPolicy = some "ClusterFirst" then some (spec.dnsConfig.getD {}).reopen
  else spec.dnsConfig

def injected (spec : PodSpec) (presets : List PodPreset) : PodSpec :=
  { spec with
    volumes := settle spec.volumes
      (extend Named.name (listed spec.volumes) (offered Named.offered presets))
    containers := spec.containers.map (·.injected presets)
    dnsConfig := spec.reopened }

theorem inject_of_accepts {spec : PodSpec} {presets : List PodPreset} (h : spec.Accepts presets) :
    spec.inject presets = .ok (spec.injected presets) := by
  have hcontainers : spec.containers.mapM (·.inject presets) =
      .ok (spec.containers.map (·.injected presets)) :=
    mapM_eq_ok fun container hmem => Container.inject_of_accepts (h.containers container hmem)
  rw [inject, named_eq_resolve, resolve_of_agree h.volumes, hcontainers]
  rfl

/-- The check lists the clashes of the volumes and then those of each container. -/
theorem conflicts_eq (spec : PodSpec) (presets : List PodPreset) :
    spec.conflicts presets =
      allFaults [byName] (listed spec.volumes) (offers Named.offered presets) ++
        spec.containers.flatMap fun container =>
          allFaults [byName] (listed container.env) (offers Named.offered presets) ++
            allFaults [byMountName, byMountPath] (listed container.volumeMounts)
              (offers PresetSpec.volumeMounts presets) := by
  simp only [conflicts, named_eq_resolve, mounts_eq_resolve, resolve, conflictsOf_ite]

theorem conflicts_eq_nil_iff {spec : PodSpec} {presets : List PodPreset} :
    spec.conflicts presets = [] ↔ spec.Accepts presets := by
  simp only [conflicts_eq, List.append_eq_nil_iff, List.flatMap_eq_nil_iff,
    allFaults_offers_eq_nil_iff]
  exact ⟨fun h => ⟨h.1, fun container hmem => ⟨(h.2 container hmem).1, (h.2 container hmem).2⟩⟩,
    fun h => ⟨h.volumes, fun container hmem =>
      ⟨(h.containers container hmem).env, (h.containers container hmem).mounts⟩⟩⟩

theorem Accepts.subset {spec : PodSpec} {fewer presets : List PodPreset}
    (h : spec.Accepts presets) (hsub : fewer ⊆ presets) : spec.Accepts fewer :=
  ⟨h.volumes.subset hsub, fun container hmem =>
    ⟨(h.containers container hmem).env.subset hsub, (h.containers container hmem).mounts.subset hsub⟩⟩

theorem Accepts.injected {spec : PodSpec} {fewer presets : List PodPreset}
    (h : spec.Accepts presets) (hsub : fewer ⊆ presets) : (spec.injected fewer).Accepts presets := by
  refine ⟨?_, fun container hmem => ?_⟩
  · rw [PodSpec.injected, listed_settle_extend]
    exact h.volumes.extend hsub _
  · obtain ⟨original, horiginal, rfl⟩ := List.mem_map.1 hmem
    refine ⟨?_, ?_⟩
    · rw [Container.injected, listed_settle_extend]
      exact (h.containers original horiginal).env.extend hsub _
    · rw [Container.injected, listed_settle_extend]
      exact (h.containers original horiginal).mounts.extend hsub _

end PodSpec

namespace Pod

/-- The presets that the pod does not remember at their current versions. -/
def pending (pod : Pod) (presets : List PodPreset) : List PodPreset :=
  presets.filter (!pod.remembers ·)

theorem pending_subset (pod : Pod) (presets : List PodPreset) : pod.pending presets ⊆ presets :=
  List.filter_sublist.subset

/-- Nothing stands against the presets in the pod. -/
def Accepts (pod : Pod) (presets : List PodPreset) : Prop :=
  ∀ spec, pod.spec = some spec → spec.Accepts presets

/-- The pod with every preset. -/
def injected (pod : Pod) (presets : List PodPreset) : Pod :=
  { pod with
    metadata := remember pod.metadata presets
    spec := pod.spec.map (·.injected (pod.pending presets)) }

theorem conflicts_eq_nil_iff {pod : Pod} {presets : List PodPreset} :
    pod.conflicts presets = [] ↔ pod.Accepts presets := by
  rw [conflicts]
  cases hspec : pod.spec with
  | none => simp [Accepts, hspec]
  | some spec => simp [Accepts, hspec, PodSpec.conflicts_eq_nil_iff]

@[simp] theorem conflicts_nil (pod : Pod) : pod.conflicts [] = [] := by
  refine conflicts_eq_nil_iff.2 fun spec _ => ⟨offersAgree_nil _ _ _, fun container _ => ?_⟩
  exact ⟨offersAgree_nil _ _ _, offersAgree_nil _ _ _⟩

/-- No merge of the pending presets fails once nothing stands against all of them. -/
theorem mapM_inject_of_accepts {pod : Pod} {presets : List PodPreset} (h : pod.Accepts presets) :
    pod.spec.mapM (·.inject (pod.pending presets)) =
      .ok (pod.spec.map (·.injected (pod.pending presets))) := by
  cases hspec : pod.spec with
  | none => rfl
  | some spec =>
    have haccepts := (h spec hspec).subset (pod.pending_subset presets)
    rw [Option.mapM_some, PodSpec.inject_of_accepts haccepts]
    rfl

theorem run_takePresets (pod : Pod) (presets : List PodPreset) :
    (takePresets presets).run pod =
      if presets = [] then .ok () pod
      else if pod.conflicts presets = [] then .ok () (pod.injected presets)
      else .error (pod.conflicts presets) pod := by
  by_cases hnil : presets = []
  · subst hnil
    rfl
  · rw [if_neg hnil]
    have hempty : presets.isEmpty = false := by simpa using hnil
    by_cases hconflicts : pod.conflicts presets = []
    · have hmerges := mapM_inject_of_accepts (conflicts_eq_nil_iff.1 hconflicts)
      rw [pending] at hmerges
      simp [takePresets, hempty, hconflicts, hmerges, injected]
      rfl
    · simp [takePresets, hempty, hconflicts]

theorem apply_eq (pod : Pod) (presets : List PodPreset) :
    pod.apply presets =
      if presets = [] then .ok pod
      else if pod.conflicts presets = [] then .ok (pod.injected presets)
      else .error (pod.conflicts presets) := by
  rw [apply, run_takePresets]
  split_ifs <;> rfl

theorem apply_nil (pod : Pod) : pod.apply [] = .ok pod := by
  rw [apply_eq, if_pos rfl]

theorem apply_eq_ok_iff {pod injected : Pod} {presets : List PodPreset} (h : presets ≠ []) :
    pod.apply presets = .ok injected ↔ pod.Accepts presets ∧ injected = pod.injected presets := by
  rw [apply_eq, if_neg h, ← conflicts_eq_nil_iff]
  by_cases hconflicts : pod.conflicts presets = []
  · simp [hconflicts, eq_comm]
  · simp [hconflicts]

/-- When presets are injected: some apply, and the pod accepts those that do. -/
theorem inject_eq_injected_iff {pod injected : Pod} {podNamespace : String} {presets : List PodPreset}
    {names : List String} :
    pod.inject podNamespace presets = .ok (.injected names injected) ↔
      pod.exclusion = none ∧ ∃ matched,
        PodPreset.matching presets podNamespace pod.metadata.labelDict = .ok matched ∧
          matched ≠ [] ∧ pod.conflicts matched = [] ∧
            names = matched.map PodPreset.name ∧ injected = pod.injected matched := by
  rw [inject]
  cases pod.exclusion with
  | some reason => simp
  | none =>
    cases PodPreset.matching presets podNamespace pod.metadata.labelDict with
    | error error => simp [bind, Except.bind]
    | ok matched =>
      simp only [bind, Except.bind, pure, Except.pure, true_and, Except.ok.injEq, exists_eq_left',
        List.isEmpty_iff, apply_eq]
      by_cases hnil : matched = []
      · simp [hnil]
      · by_cases hconflicts : pod.conflicts matched = []
        · simp only [if_neg hnil, if_pos hconflicts, Except.ok.injEq, Injection.injected.injEq]
          exact ⟨fun h => ⟨hnil, hconflicts, h.1.symm, h.2.symm⟩,
            fun h => ⟨h.2.2.1.symm, h.2.2.2.symm⟩⟩
        · simp [hnil, hconflicts]

/-- **A pod takes every preset or none.**  Taking presets in place ends with conflicts exactly when
the check of the pod finds some: with those conflicts, and with the pod as it was.  Once the check
has found nothing, every merge of the pending presets succeeds. -/
theorem takePresets_all_or_nothing (pod : Pod) (presets : List PodPreset) :
    (∀ conflicts rest, (takePresets presets).run pod = .error conflicts rest ↔
      pod.conflicts presets ≠ [] ∧ conflicts = pod.conflicts presets ∧ rest = pod) ∧
    (pod.conflicts presets = [] → (∃ injected, (takePresets presets).run pod = .ok () injected) ∧
      ∀ spec, pod.spec = some spec →
        (∃ volumes, Merge.named (listed spec.volumes) (pod.pending presets) = .ok volumes) ∧
        ∀ container ∈ spec.containers,
          (∃ env, Merge.named (listed container.env) (pod.pending presets) = .ok env) ∧
          ∃ mounts,
            Merge.mounts (listed container.volumeMounts) (pod.pending presets) = .ok mounts) := by
  refine ⟨fun conflicts rest => ?_, fun hconflicts => ⟨?_, fun spec hspec => ?_⟩⟩
  · rw [run_takePresets]
    by_cases hnil : presets = []
    · simp [hnil]
    · by_cases hconflicts : pod.conflicts presets = []
      · simp [hnil, hconflicts]
      · simp [hnil, hconflicts, eq_comm]
  · rw [run_takePresets, if_pos hconflicts]
    split_ifs
    · exact ⟨pod, rfl⟩
    · exact ⟨pod.injected presets, rfl⟩
  · -- fewer presets agree with the same lists, so each merge has its result
    have haccepts : spec.Accepts (pod.pending presets) :=
      (conflicts_eq_nil_iff.1 hconflicts spec hspec).subset (pod.pending_subset presets)
    rw [named_eq_resolve, named_eq_resolve, mounts_eq_resolve]
    refine ⟨⟨_, resolve_of_agree haccepts.volumes⟩, fun container hmem => ⟨?_, ?_⟩⟩
    · exact ⟨_, resolve_of_agree (haccepts.containers container hmem).env⟩
    · exact ⟨_, resolve_of_agree (haccepts.containers container hmem).mounts⟩

end Pod

/-! ### A pod and a preset for it -/

def PodPreset.sample : PodPreset where
  metadata := { name := some "db", namespaceName := some "web", resourceVersion := some "7" }
  spec :=
    { env := [⟨"DB", some "main", none⟩]
      envFrom := [⟨none, none, some ⟨"db", none⟩⟩]
      volumes := [{ name := "data", emptyDir := some ⟨none, none⟩ }]
      volumeMounts := [⟨"/data", none, "data", none, none, none, none⟩] }

def Container.sample : Container :=
  ⟨none, none, some [⟨"MODE", some "fast", none⟩], none, some "shop", none, "shop", none, none, none,
    none⟩

def Pod.sample : Pod where
  metadata := { name := some "shop", namespaceName := some "web" }
  spec := some ⟨[.sample], none, some "ClusterFirst", none, none, none, none, none, none, none, none⟩
  status := none

/-- A preset that shares a variable and a mount with the sample, and offers others. -/
def PodPreset.companion : PodPreset where
  metadata := { name := some "cache", namespaceName := some "web", resourceVersion := some "3" }
  spec :=
    { env := [⟨"DB", some "main", none⟩, ⟨"CACHE", some "on", none⟩]
      envFrom := [⟨none, none, some ⟨"cache", none⟩⟩]
      volumeMounts := [⟨"/data", none, "data", none, none, none, none⟩,
        ⟨"/var/log", none, "logs", none, none, none, none⟩] }

def Container.logging : Container :=
  { Container.sample with
    volumeMounts := some [⟨"/log", none, "logs", none, none, none, none⟩,
      ⟨"/var/log", none, "logs", none, none, none, none⟩] }

def Pod.logging : Pod where
  metadata := { name := some "shop", namespaceName := some "web" }
  spec := some ⟨[.logging], none, some "ClusterFirst", none, none, none, none, none, none, none, none⟩
  status := none

end WebhookOperator
