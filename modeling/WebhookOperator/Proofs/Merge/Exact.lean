import WebhookOperator.Proofs.Merge.Outcome

/-!
# Exactly what a merge gives

The offers of presets are told apart by their identities alone, and nothing of the walk over them is
left in what this file says.  For each identity one item stands: the last one of the base, or else
the first one offered.  Offers that differ from what stands for their identity are refused, each
with a conflict of its own, and if there is none the base grows by the first offer of each identity
that it lacks.

* `standing_eq_reference`, `firsts_eq_fresh`: the items that the walk comes to
* `named_exactly`: environment variables and volumes
* `mounts_exactly`: mounts, which have a name and a path
-/

namespace WebhookOperator.Merge

variable {α : Type} {key : α → String} {base items : List α}

/-- What stands for an identity: the last item of the base that has it, or else the first one that
is offered. -/
def standing (key : α → String) (base items : List α) (wanted : String) : Option α :=
  (base.filter (key · = wanted)).getLast?.or (items.filter (key · = wanted)).head?

theorem standing_eq_reference (key : α → String) (base items : List α) (wanted : String) :
    standing key base items wanted = reference key base items wanted := by
  rw [standing, reference_eq_or, getLast?_filter, List.head?_filter]
  rfl

/-- The first item of each identity that the base lacks: no earlier item has the identity either. -/
def firsts (key : α → String) (base items : List α) : List α :=
  (items.zipIdx.filter fun entry =>
    key entry.1 ∉ base.map key ∧ key entry.1 ∉ (items.take entry.2).map key).map (·.1)

theorem firsts_append_singleton (key : α → String) (base items : List α) (item : α) :
    firsts key base (items ++ [item]) =
      firsts key base items ++
        if key item ∈ base.map key ∨ key item ∈ items.map key then [] else [item] := by
  have hearlier : (items.zipIdx.filter fun entry => key entry.1 ∉ base.map key ∧
      key entry.1 ∉ ((items ++ [item]).take entry.2).map key) =
      items.zipIdx.filter fun entry => key entry.1 ∉ base.map key ∧
        key entry.1 ∉ (items.take entry.2).map key := by
    refine List.filter_congr fun entry hmem => ?_
    have hplace : entry.2 ≤ items.length := by
      have := (List.mem_zipIdx hmem).2.1
      omega
    rw [List.take_append_of_le_length hplace]
  have hall : (items ++ [item]).take items.length = items := by simp
  rw [firsts, List.zipIdx_append, List.filter_append, List.map_append, hearlier, ← firsts]
  simp only [Nat.zero_add, List.zipIdx_singleton, List.filter_singleton, hall]
  by_cases hknown : key item ∈ base.map key ∨ key item ∈ items.map key
  · have hnew : ¬(key item ∉ base.map key ∧ key item ∉ items.map key) := by tauto
    simp only [hknown, hnew, decide_false, if_true]
    rfl
  · have hnew : key item ∉ base.map key ∧ key item ∉ items.map key := by tauto
    simp only [hknown, decide_eq_true hnew, if_false]
    rfl

theorem firsts_eq_fresh (key : α → String) (base items : List α) :
    firsts key base items = fresh key (base.map key) items := by
  induction items using List.reverseRecOn with
  | nil => rfl
  | append_singleton items item ih =>
    rw [firsts_append_singleton, fresh_append_singleton, ih]

/-! ### Refused offers -/

theorem forall_mem_offered_iff {items : PresetSpec → List α} {presets : List PodPreset}
    {P : α → Prop} :
    (∀ item ∈ offered items presets, P item) ↔ ∀ offer ∈ offers items presets, P offer.2 := by
  rw [← map_offers, List.forall_mem_map]

theorem mem_offered {items : PresetSpec → List α} {presets : List PodPreset} {offer : String × α}
    (h : offer ∈ offers items presets) : offer.2 ∈ offered items presets :=
  forall_mem_offered_iff.1 (fun _ hmem => hmem) offer h

variable [DecidableEq α]

/-- The conflict of an offer that differs from what stands for its identity. -/
def refusal? (field : Field) (axis : Axis) (key : α → String) (outline : α → Outline)
    (base items : List α) (offer : String × α) : Option Conflict :=
  ((standing key base items (key offer.2)).filter (· ≠ offer.2)).map fun existing =>
    { field := field
      axis := axis
      preset := offer.1
      key := key offer.2
      incoming := (outline offer.2).text
      existing := (outline existing).text }

variable {field : Field} {axis : Axis} {outline : α → Outline}

theorem toList_refusal? {report : String → α → α → Conflict}
    (hreport : ∀ preset incoming existing, report preset incoming existing =
      ⟨field, axis, preset, key incoming, (outline incoming).text, (outline existing).text⟩)
    (offer : String × α) :
    (refusal? field axis key outline base items offer).toList =
      clash ⟨key, report⟩ base items offer := by
  rw [refusal?, standing_eq_reference, clash]
  cases reference key base items (key offer.2) with
  | none => rfl
  | some found =>
    by_cases heq : found = offer.2
    · simp [heq]
    · simp [heq, hreport]

theorem refusal?_eq_none_iff {offer : String × α} (h : offer.2 ∈ items) :
    refusal? field axis key outline base items offer = none ↔
      standing key base items (key offer.2) = some offer.2 := by
  rw [← Option.toList_eq_nil_iff, toList_refusal? (fun _ _ _ => rfl), clash_eq_nil_iff h,
    standing_eq_reference]

/-- **Exactly what a merge of named items gives.**  It succeeds if each offered item is what stands
for its name; then the first offered item of each name that the base lacks follows the base.
Otherwise each item that differs from what stands for its name is reported with it, in the order of
the offers. -/
theorem named_exactly [Named α] (base : List α) (presets : List PodPreset) :
    named base presets =
      if ∀ item ∈ (offered Named.offered presets : List α),
          standing Named.name base (offered Named.offered presets) (Named.name item) = some item then
        .ok (base ++ firsts Named.name base (offered Named.offered presets))
      else
        .error ((offers Named.offered presets).filterMap
          (refusal? (Named.field α) .name Named.name Named.outline base
            (offered Named.offered presets))) := by
  have hconflicts : allFaults [byName] base (offers Named.offered presets) =
      (offers Named.offered presets).filterMap (refusal? (Named.field α) .name Named.name
        Named.outline base (offered Named.offered presets)) := by
    rw [List.filterMap_eq_flatMap_toList, allFaults, map_offers]
    refine List.flatMap_congr fun offer _ => ?_
    rw [faults, List.flatMap_singleton, toList_refusal? (fun _ _ _ => rfl)]
    rfl
  rw [named_eq_resolve, resolve, extend, firsts_eq_fresh, hconflicts]
  refine if_congr ?_ rfl rfl
  rw [List.isEmpty_iff, List.filterMap_eq_nil_iff, forall_mem_offered_iff]
  exact forall₂_congr fun offer hoffer => refusal?_eq_none_iff (mem_offered hoffer)

/-- **Exactly what a merge of mounts gives.**  It succeeds if each offered mount is what stands for
its name and what stands for its path; then the first offered mount of each name that the base lacks
follows the base, and none of these brings a path that is there already.  Otherwise each mount that
differs from what stands for its name is reported with it, then or instead with what stands for its
path if it differs from that, in the order of the offers. -/
theorem mounts_exactly (base : List VolumeMount) (presets : List PodPreset) :
    (mounts base presets =
      if ∀ mount ∈ offered PresetSpec.volumeMounts presets,
          standing VolumeMount.name base (offered PresetSpec.volumeMounts presets) mount.name =
              some mount ∧
            standing VolumeMount.mountPath base (offered PresetSpec.volumeMounts presets)
              mount.mountPath = some mount then
        .ok (base ++ firsts VolumeMount.name base (offered PresetSpec.volumeMounts presets))
      else
        .error ((offers PresetSpec.volumeMounts presets).flatMap fun offer =>
          (refusal? .volumeMounts .name VolumeMount.name VolumeMount.outline base
            (offered PresetSpec.volumeMounts presets) offer).toList ++
          (refusal? .volumeMounts .mountPath VolumeMount.mountPath VolumeMount.outline base
            (offered PresetSpec.volumeMounts presets) offer).toList)) ∧
    ∀ merged, mounts base presets = .ok merged → ∃ added, merged = base ++ added ∧
      (added.map VolumeMount.mountPath).Nodup ∧
      ∀ mount ∈ added, mount.mountPath ∉ base.map VolumeMount.mountPath := by
  constructor
  · have hconflicts : allFaults [byMountName, byMountPath] base
          (offers PresetSpec.volumeMounts presets) =
        (offers PresetSpec.volumeMounts presets).flatMap fun offer =>
          (refusal? .volumeMounts .name VolumeMount.name VolumeMount.outline base
            (offered PresetSpec.volumeMounts presets) offer).toList ++
          (refusal? .volumeMounts .mountPath VolumeMount.mountPath VolumeMount.outline base
            (offered PresetSpec.volumeMounts presets) offer).toList := by
      rw [allFaults, map_offers]
      refine List.flatMap_congr fun offer _ => ?_
      rw [faults, List.flatMap_cons, List.flatMap_singleton, toList_refusal? (fun _ _ _ => rfl),
        toList_refusal? (fun _ _ _ => rfl)]
      rfl
    rw [mounts_eq_resolve, resolve, extend, firsts_eq_fresh, hconflicts]
    refine if_congr ?_ rfl rfl
    rw [List.isEmpty_iff, List.flatMap_eq_nil_iff, forall_mem_offered_iff]
    refine forall₂_congr fun offer hoffer => ?_
    rw [List.append_eq_nil_iff, Option.toList_eq_nil_iff, Option.toList_eq_nil_iff,
      refusal?_eq_none_iff (mem_offered hoffer), refusal?_eq_none_iff (mem_offered hoffer)]
  · intro merged hmerged
    rw [mounts_eq_resolve] at hmerged
    obtain ⟨hagree, rfl⟩ := resolve_eq_ok_iff.1 hmerged
    obtain ⟨-, hpaths⟩ := mountsAgree_iff.1 hagree
    exact ⟨_, rfl, hpaths.nodup_keys_fresh, fun mount hmount =>
      hpaths.key_not_mem_of_mem_fresh hmount⟩

end WebhookOperator.Merge
