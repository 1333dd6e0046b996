import WebhookOperator.Proofs.Injection.Readmission
import WebhookOperator.Proofs.Merge.Composition

/-!
# One injection after another

A pod may take its presets at once, or some of them first and the others in a later admission.  The
later one starts over: it looks at the pod that it finds and at the annotations on it, and knows
nothing of the first.  Still it comes to the same pod.  Every list grows to what it would have grown
to, the option of the resolver is there already, and the annotations of the first presets say nothing
about presets of other names.

* `settle_settle`: a field that is settled twice
* `Container.injected_injected`, `PodSpec.injected_injected`: taking in two steps is taking at once
* `PodSpec.accepts_injected_iff`: what is left is accepted exactly when all of it was
* `Pod.apply_append`: the same for pods, whichever of the steps fails
-/

namespace WebhookOperator

open Merge

theorem settle_settle {α : Type} (field : Option (List α)) (merged added : List α) :
    settle (settle field merged) (merged ++ added) = settle field (merged ++ added) := by
  cases merged with
  | nil => rfl
  | cons item merged => rfl

theorem settle_extend {α : Type} (key : α → String) (field : Option (List α)) (first second : List α) :
    settle (settle field (extend key (listed field) first))
        (extend key (listed (settle field (extend key (listed field) first))) second) =
      settle field (extend key (listed field) (first ++ second)) := by
  rw [listed_settle_extend, ← extend_extend]
  exact settle_settle field (extend key (listed field) first) _

/-! ### Containers -/

namespace Container

theorem accepts_injected_iff {container : Container} {first second : List PodPreset}
    (h : container.Accepts first) :
    (container.injected first).Accepts second ↔ container.Accepts (first ++ second) := by
  have henv : listed (container.injected first).env =
      extend Named.name (listed container.env) (offered Named.offered first) :=
    listed_settle_extend _ _ _
  have hmounts : listed (container.injected first).volumeMounts =
      extend VolumeMount.name (listed container.volumeMounts)
        (offered PresetSpec.volumeMounts first) :=
    listed_settle_extend _ _ _
  constructor
  · rintro ⟨hsecondEnv, hsecondMounts⟩
    rw [henv] at hsecondEnv
    rw [hmounts] at hsecondMounts
    exact ⟨h.env.append_iff.1 hsecondEnv, h.mounts.append_iff.1 hsecondMounts⟩
  · rintro ⟨hallEnv, hallMounts⟩
    refine ⟨?_, ?_⟩
    · rw [henv]
      exact h.env.append_iff.2 hallEnv
    · rw [hmounts]
      exact h.mounts.append_iff.2 hallMounts

/-- **A container that takes presets in two steps** is what it is after taking them at once. -/
theorem injected_injected (container : Container) (first second : List PodPreset) :
    (container.injected first).injected second = container.injected (first ++ second) := by
  have hsources : settle (settle container.envFrom (sources (listed container.envFrom) first))
      (sources (listed (settle container.envFrom (sources (listed container.envFrom) first)))
        second) =
      settle container.envFrom (sources (listed container.envFrom) (first ++ second)) := by
    unfold sources
    rw [listed_settle_append, settle_settle, List.append_assoc, List.flatMap_append]
  simp only [injected, hsources, settle_extend, offered_append]

end Container

/-! ### Pods -/

namespace PodSpec

theorem Accepts.left {spec : PodSpec} {first second : List PodPreset}
    (h : spec.Accepts (first ++ second)) : spec.Accepts first :=
  h.subset (List.subset_append_left first second)

theorem accepts_injected_iff {spec : PodSpec} {first second : List PodPreset}
    (h : spec.Accepts first) :
    (spec.injected first).Accepts second ↔ spec.Accepts (first ++ second) := by
  have hvolumes : listed (spec.injected first).volumes =
      extend Named.name (listed spec.volumes) (offered Named.offered first) :=
    listed_settle_extend _ _ _
  constructor
  · intro hsecond
    refine ⟨h.volumes.append_iff.1 (hvolumes ▸ hsecond.volumes), ?_⟩
    intro container hmem
    have hcontainer := hsecond.containers _ (List.mem_map_of_mem hmem)
    exact (Container.accepts_injected_iff (h.containers container hmem)).1 hcontainer
  · intro hall
    refine ⟨?_, ?_⟩
    · rw [hvolumes]
      exact h.volumes.append_iff.2 hall.volumes
    · intro container hmem
      obtain ⟨original, horiginal, rfl⟩ := List.mem_map.1 hmem
      have hcontainer := hall.containers original horiginal
      exact (Container.accepts_injected_iff (h.containers original horiginal)).2 hcontainer

theorem injected_injected (spec : PodSpec) (first second : List PodPreset) :
    (spec.injected first).injected second = spec.injected (first ++ second) := by
  have hcontainers : (spec.containers.map (·.injected first)).map (·.injected second) =
      spec.containers.map (·.injected (first ++ second)) := by
    rw [List.map_map]
    exact List.map_congr_left fun container _ => container.injected_injected first second
  have hreopened := spec.reopened_injected first
  simp only [injected] at hreopened ⊢
  rw [hcontainers, hreopened, settle_extend, offered_append]

end PodSpec

namespace Pod

variable {pod : Pod} {first second : List PodPreset}

theorem pending_of_new (h : ∀ preset ∈ first, pod.remembers preset = false) :
    pod.pending first = first := by
  apply List.filter_eq_self.2
  intro preset hmem
  rw [h preset hmem]
  rfl

/-- Taking presets makes a pod neither remember nor forget presets of other names. -/
theorem remembers_injected_of_ne {preset : PodPreset}
    (h : ∀ other ∈ first, other.name ≠ preset.name) :
    (pod.injected first).remembers preset = pod.remembers preset := by
  have hannotation : (pod.injected first).metadata.annotation? preset.appliedKey =
      pod.metadata.annotation? preset.appliedKey := by
    apply annotation?_remember_of_ne
    intro other hmem heq
    exact h other hmem (PodPreset.appliedKey_inj.1 heq)
  rw [remembers, remembers, hannotation]

theorem pending_injected_of_ne (h : ∀ preset ∈ first, ∀ other ∈ second, preset.name ≠ other.name) :
    (pod.injected first).pending second = pod.pending second := by
  apply List.filter_congr
  intro other hother
  have hother' : ∀ preset ∈ first, preset.name ≠ other.name := by
    intro preset hmem
    exact h preset hmem other hother
  rw [remembers_injected_of_ne hother']

theorem injected_append (hnames : ∀ preset ∈ first, ∀ other ∈ second, preset.name ≠ other.name) :
    (pod.injected first).injected second = pod.injected (first ++ second) := by
  have hpending : pod.pending (first ++ second) = pod.pending first ++ pod.pending second :=
    List.filter_append ..
  have hspec : (pod.injected first).spec.map (·.injected (pod.pending second)) =
      pod.spec.map (·.injected (pod.pending (first ++ second))) := by
    rw [injected, Option.map_map, hpending]
    congr 1
    funext spec
    exact spec.injected_injected _ _
  rw [injected, pending_injected_of_ne hnames, hspec, injected, injected, remember_append]

/-- Of presets that are all pending, those that are left are accepted exactly when all were. -/
theorem accepts_append_iff (hnew : ∀ preset ∈ first, pod.remembers preset = false) :
    pod.Accepts (first ++ second) ↔ pod.Accepts first ∧ (pod.injected first).Accepts second := by
  have hinjected : (pod.injected first).spec = pod.spec.map (·.injected first) := by
    rw [injected, pending_of_new hnew]
  unfold Accepts
  rw [hinjected]
  cases hspec : pod.spec with
  | none => simp
  | some spec =>
    simp only [Option.map_some, Option.some.injEq, forall_eq']
    constructor
    · intro hall
      exact ⟨hall.left, (PodSpec.accepts_injected_iff hall.left).2 hall⟩
    · rintro ⟨hfirst, hsecond⟩
      exact (PodSpec.accepts_injected_iff hfirst).1 hsecond

/-- **Taking presets in two admissions is taking them at once.**  The pod remembers none of the first
presets, and none of the others has a name of theirs.  Then taking all of them succeeds exactly when
taking the first ones does and the pod that comes of it takes the others, and both ways end with the
same pod. -/
theorem apply_append (hnames : ∀ preset ∈ first, ∀ other ∈ second, preset.name ≠ other.name)
    (hnew : ∀ preset ∈ first, pod.remembers preset = false) (injected : Pod) :
    pod.apply (first ++ second) = .ok injected ↔
      ∃ between, pod.apply first = .ok between ∧ between.apply second = .ok injected := by
  -- a pod that is offered nothing is left as it is, which the equation for `apply` does not cover
  by_cases hfirst : first = []
  · subst hfirst
    simp [apply_nil]
  · by_cases hsecond : second = []
    · subst hsecond
      simp [apply_nil]
    · have hall : first ++ second ≠ [] := List.append_ne_nil_of_left_ne_nil hfirst second
      simp only [apply_eq_ok_iff hall, apply_eq_ok_iff hfirst, apply_eq_ok_iff hsecond]
      rw [accepts_append_iff hnew, ← injected_append hnames]
      constructor
      · rintro ⟨⟨haccepts, hthen⟩, rfl⟩
        exact ⟨_, ⟨haccepts, rfl⟩, hthen, rfl⟩
      · rintro ⟨_, ⟨haccepts, rfl⟩, hthen, rfl⟩
        exact ⟨⟨haccepts, hthen⟩, rfl⟩

theorem apply_append_logging :
    (∀ preset ∈ [PodPreset.sample], ∀ other ∈ [PodPreset.companion], preset.name ≠ other.name) ∧
      (∀ preset ∈ [PodPreset.sample], logging.remembers preset = false) ∧
      ∃ between, logging.apply [.sample] = .ok between ∧
        between.apply [.companion] = .ok (logging.injected [.sample, .companion]) := by
  have hnames : ∀ preset ∈ [PodPreset.sample], ∀ other ∈ [PodPreset.companion],
      preset.name ≠ other.name := by decide
  have hnew : ∀ preset ∈ [PodPreset.sample], logging.remembers preset = false := by decide
  have hall : logging.apply ([.sample] ++ [.companion]) =
      .ok (logging.injected [.sample, .companion]) := by decide
  exact ⟨hnames, hnew, (apply_append hnames hnew _).1 hall⟩

end Pod

end WebhookOperator
