import WebhookOperator.Proofs.Injection.Ledger
import WebhookOperator.Proofs.Injection.Outcome
import WebhookOperator.Proofs.Merge.Composition

/-!
# The order of the presets

Presets are merged one after the other, and the first one that offers an identity gets the place.
Which conflicts are reported therefore depends on the order in which the presets are listed, but not
whether there is one.  Without conflicts the order only shows in the order of what a list has taken:
two orders leave pods that differ in nothing else.

* `Rearranged`: a field that has taken the same items in two orders
* `Container.Rearranged`, `PodSpec.Rearranged`, `Pod.Rearranged`: containers and pods that have
* `Pod.remember_perm`: presets of different names are remembered alike in every order
* `Pod.order_decides_nothing`: two orders of presets
-/

namespace WebhookOperator

open Merge

/-! ### Fields -/

/-- What has become of a field in two ways: behind the old items stand the same new ones, each time in
an order of its own. -/
structure Rearranged {α : Type} (before left right : Option (List α)) : Prop where
  items : SameBeyond (listed before) (listed left) (listed right)
  absent : left = none ↔ right = none

theorem rearranged_settle {α : Type} (field : Option (List α)) {added moved : List α}
    (h : added.Perm moved) :
    Rearranged field (settle field (listed field ++ added)) (settle field (listed field ++ moved)) := by
  refine ⟨⟨added, moved, listed_settle_append _ _, listed_settle_append _ _, h⟩, ?_⟩
  rw [settle_eq_none_iff, settle_eq_none_iff, List.append_eq_nil_iff, List.append_eq_nil_iff]
  have hnil : added = [] ↔ moved = [] := by
    constructor
    · rintro rfl
      exact List.nil_perm.1 h
    · rintro rfl
      exact List.perm_nil.1 h
  rw [hnil]

theorem Rearranged.refl {α : Type} (field : Option (List α)) : Rearranged field field field :=
  ⟨⟨[], [], (List.append_nil _).symm, (List.append_nil _).symm, List.Perm.nil⟩, Iff.rfl⟩

/-! ### Containers -/

/-- What has become of a container in two ways: its lists are rearranged, and all else is the same. -/
structure Container.Rearranged (before left right : Container) : Prop where
  env : WebhookOperator.Rearranged before.env left.env right.env
  mounts : WebhookOperator.Rearranged before.volumeMounts left.volumeMounts right.volumeMounts
  sources : WebhookOperator.Rearranged before.envFrom left.envFrom right.envFrom
  rest : right = { left with
    env := right.env, volumeMounts := right.volumeMounts, envFrom := right.envFrom }

theorem Container.rearranged_injected {container : Container} {presets others : List PodPreset}
    (h : container.Accepts presets) (hperm : presets.Perm others) :
    container.Rearranged (container.injected presets) (container.injected others) where
  env := rearranged_settle _ (h.env.first.perm_fresh (offered_perm hperm _))
  mounts := rearranged_settle _ (h.mounts.first.perm_fresh (offered_perm hperm _))
  sources := rearranged_settle _ (hperm.flatMap_right _)
  rest := rfl

theorem Container.Rearranged.refl (container : Container) :
    container.Rearranged container container :=
  ⟨.refl _, .refl _, .refl _, rfl⟩

/-- Containers that are rearranged one by one. -/
inductive ContainersRearranged : List Container → List Container → List Container → Prop
  | nil : ContainersRearranged [] [] []
  | cons {before left right : Container} {befores lefts rights : List Container}
      (head : before.Rearranged left right) (tail : ContainersRearranged befores lefts rights) :
      ContainersRearranged (before :: befores) (left :: lefts) (right :: rights)

theorem containersRearranged_map {containers : List Container} {f g : Container → Container}
    (h : ∀ container ∈ containers, container.Rearranged (f container) (g container)) :
    ContainersRearranged containers (containers.map f) (containers.map g) := by
  induction containers with
  | nil => exact .nil
  | cons container containers ih =>
    obtain ⟨hhead, htail⟩ := List.forall_mem_cons.1 h
    exact .cons hhead (ih htail)

/-! ### Pods -/

structure PodSpec.Rearranged (before left right : PodSpec) : Prop where
  volumes : WebhookOperator.Rearranged before.volumes left.volumes right.volumes
  containers : ContainersRearranged before.containers left.containers right.containers
  rest : right = { left with volumes := right.volumes, containers := right.containers }

theorem PodSpec.rearranged_injected {spec : PodSpec} {presets others : List PodPreset}
    (h : spec.Accepts presets) (hperm : presets.Perm others) :
    spec.Rearranged (spec.injected presets) (spec.injected others) where
  volumes := rearranged_settle _ (h.volumes.first.perm_fresh (offered_perm hperm _))
  containers := containersRearranged_map fun container hmem =>
    Container.rearranged_injected (h.containers container hmem) hperm
  rest := rfl

theorem PodSpec.Rearranged.refl (spec : PodSpec) : spec.Rearranged spec spec := by
  refine ⟨.refl _, ?_, rfl⟩
  have hcontainers := containersRearranged_map (f := id) (g := id) fun container
    (_ : container ∈ spec.containers) => Container.Rearranged.refl container
  rw [List.map_id] at hcontainers
  exact hcontainers

namespace Pod

/-- What has become of a pod in two ways: its content is rearranged, where it has one, and all else
is the same. -/
structure Rearranged (before left right : Pod) : Prop where
  spec : (before.spec = none ∧ left.spec = none ∧ right.spec = none) ∨
    ∃ original first second, before.spec = some original ∧ left.spec = some first ∧
      right.spec = some second ∧ original.Rearranged first second
  rest : right = { left with spec := right.spec }

variable {pod : Pod} {presets others : List PodPreset}

theorem remember_perm (hperm : presets.Perm others) (hnames : (presets.map PodPreset.name).Nodup)
    (metadata : ObjectMeta) : remember metadata presets = remember metadata others := by
  apply hperm.foldl_eq'
  intro preset hpreset other hother done
  by_cases heq : preset.name = other.name
  -- two annotations of one key would not commute, but then the two presets are one
  · rw [List.inj_on_of_nodup_map hnames hpreset hother heq]
  · exact done.annotate_comm (fun hkey => heq (PodPreset.appliedKey_inj.1 hkey)) _ _

theorem Rearranged.refl (pod : Pod) : pod.Rearranged pod pod := by
  refine ⟨?_, rfl⟩
  cases hspec : pod.spec with
  | none => exact Or.inl ⟨rfl, rfl, rfl⟩
  | some spec => exact Or.inr ⟨spec, spec, spec, rfl, rfl, rfl, PodSpec.Rearranged.refl spec⟩

theorem rearranged_injected (h : pod.Accepts presets) (hperm : presets.Perm others)
    (hnames : (presets.map PodPreset.name).Nodup) :
    pod.Rearranged (pod.injected presets) (pod.injected others) := by
  have hpending : (pod.pending presets).Perm (pod.pending others) := hperm.filter _
  refine ⟨?_, ?_⟩
  · cases hspec : pod.spec with
    | none => exact Or.inl ⟨rfl, by simp [injected, hspec], by simp [injected, hspec]⟩
    | some spec =>
      have haccepts := (h spec hspec).subset (pod.pending_subset presets)
      refine Or.inr ⟨spec, _, _, rfl, ?_, ?_, PodSpec.rearranged_injected haccepts hpending⟩
      · simp [injected, hspec]
      · simp [injected, hspec]
  · simp [injected, remember_perm hperm hnames]

theorem exists_apply_perm (hperm : presets.Perm others)
    (hnames : (presets.map PodPreset.name).Nodup) {left : Pod} (h : pod.apply presets = .ok left) :
    ∃ right, pod.apply others = .ok right ∧ pod.Rearranged left right := by
  -- a pod that is offered nothing is left as it is, whatever its options say
  by_cases hnil : presets = []
  · subst hnil
    rw [apply_nil] at h
    cases h
    rw [List.nil_perm.1 hperm]
    exact ⟨pod, apply_nil pod, .refl pod⟩
  · have hnil' : others ≠ [] := by
      rintro rfl
      exact hnil (List.perm_nil.1 hperm)
    obtain ⟨haccepts, rfl⟩ := (apply_eq_ok_iff hnil).1 h
    have haccepts' : pod.Accepts others := by
      intro spec hspec
      exact (haccepts spec hspec).subset hperm.symm.subset
    exact ⟨_, (apply_eq_ok_iff hnil').2 ⟨haccepts', rfl⟩, rearranged_injected haccepts hperm hnames⟩

theorem alike_apply (hperm : presets.Perm others) (hnames : (presets.map PodPreset.name).Nodup)
    (pod : Pod) : Alike pod.Rearranged (pod.apply presets) (pod.apply others) := by
  apply alike_of
  · intro left hleft
    exact exists_apply_perm hperm hnames hleft
  · intro right hright
    have hnames' : (others.map PodPreset.name).Nodup := (hperm.map _).nodup_iff.1 hnames
    obtain ⟨left, hleft, -⟩ := exists_apply_perm hperm.symm hnames' hright
    exact ⟨left, hleft⟩

/-- **The order of the presets decides nothing.**  A pod takes presets of different names in one order
exactly when it takes them in another, and is the same pod then up to the order of what its lists have
taken.  Merges of one kind of item are alike as well, also with several presets of one name. -/
theorem order_decides_nothing (hperm : presets.Perm others) :
    ((presets.map PodPreset.name).Nodup →
      ∀ pod : Pod, Alike pod.Rearranged (pod.apply presets) (pod.apply others)) ∧
    (∀ (α : Type) [Named α] [DecidableEq α] (base : List α),
      Alike (SameBeyond base) (Merge.named base presets) (Merge.named base others)) ∧
    ∀ base : List VolumeMount,
      Alike (SameBeyond base) (Merge.mounts base presets) (Merge.mounts base others) := by
  refine ⟨?_, ?_, ?_⟩
  · intro hnames pod
    exact alike_apply hperm hnames pod
  · intro α _ _ base
    rw [named_eq_resolve]
    exact alike_resolve hperm base
  · intro base
    rw [mounts_eq_resolve]
    exact alike_resolve hperm base

/-- A pod takes the sample preset and its companion in both orders, and is not the same afterwards. -/
theorem order_decides_nothing_logging :
    [PodPreset.sample, .companion].Perm [.companion, .sample] ∧
      ([PodPreset.sample, .companion].map PodPreset.name).Nodup ∧
      logging.apply [.sample, .companion] = .ok (logging.injected [.sample, .companion]) ∧
      logging.apply [.companion, .sample] = .ok (logging.injected [.companion, .sample]) ∧
      logging.injected [.sample, .companion] ≠ logging.injected [.companion, .sample] ∧
      logging.Rearranged (logging.injected [.sample, .companion])
        (logging.injected [.companion, .sample]) := by
  have hperm : [PodPreset.sample, .companion].Perm [.companion, .sample] := List.Perm.swap _ _ _
  have hnames : ([PodPreset.sample, .companion].map PodPreset.name).Nodup := by decide
  have hleft : logging.apply [.sample, .companion] =
      .ok (logging.injected [.sample, .companion]) := by decide
  have hright : logging.apply [.companion, .sample] =
      .ok (logging.injected [.companion, .sample]) := by decide
  have halike := (order_decides_nothing hperm).1 hnames logging
  rw [hleft, hright] at halike
  refine ⟨hperm, hnames, hleft, hright, by decide +kernel, ?_⟩
  cases halike with
  | done h => exact h

end Pod

end WebhookOperator
