import WebhookOperator.Proofs.Merge.Outcome

/-!
# Mounts that are there already

A preset may offer a mount that the container has.  Then nothing is missing, and no merge adds
anything.  Whether it goes through is another matter.  One volume may be mounted at several paths,
and of all mounts with one name only the last one counts, so an offered mount may differ from what
counts for its name although the container has it.

* `agree_iff_isLast`: items of the base agree with it where each is the last one of its identity
* `mounts_eq_self_iff`: **when offered mounts that are there already are accepted**
* `mounts_held_refused`: a mount that is there already and is refused
-/

namespace WebhookOperator.Merge

variable {α : Type} {key : α → String} {base items : List α} {item : α}

/-- The last item with the identity of an item is that item. -/
def IsLast (key : α → String) (base : List α) (item : α) : Prop :=
  (base.filter (key · = key item)).getLast? = some item

instance [DecidableEq α] (key : α → String) (base : List α) (item : α) :
    Decidable (IsLast key base item) :=
  inferInstanceAs (Decidable (_ = some item))

theorem isLast_iff : IsLast key base item ↔ base.reverse.find? (key · == key item) = some item := by
  rw [IsLast, getLast?_filter]

/-- Where no identity occurs twice, every item is the last one of its identity. -/
theorem isLast_of_nodup (h : (base.map key).Nodup) (hitem : item ∈ base) : IsLast key base item := by
  rw [isLast_iff]
  cases hfound : base.reverse.find? (key · == key item) with
  | none => exact absurd (List.mem_map_of_mem hitem) (find?_reverse_eq_none.1 hfound)
  | some found =>
    have hmem : found ∈ base := List.mem_reverse.1 (List.mem_of_find?_eq_some hfound)
    have hkey : key found = key item := by simpa using List.find?_some hfound
    rw [List.inj_on_of_nodup_map h hmem hitem hkey]

/-- Items of the base agree with it exactly where each is the last one of its identity. -/
theorem agree_iff_isLast (h : items ⊆ base) :
    Agree key base items ↔ ∀ item ∈ items, IsLast key base item := by
  constructor
  · intro hagree item hitem
    rw [isLast_iff]
    cases hfound : base.reverse.find? (key · == key item) with
    | none => exact absurd (List.mem_map_of_mem (h hitem)) (find?_reverse_eq_none.1 hfound)
    | some found => rw [hagree.base item hitem found hfound]
  · intro hlast
    refine ⟨fun item hitem held hheld => ?_, fun item hitem other hother heq => ?_⟩
    · exact Option.some.inj (hheld.symm.trans (isLast_iff.1 (hlast item hitem)))
    · have hfound := isLast_iff.1 (hlast item hitem)
      rw [heq] at hfound
      exact Option.some.inj (hfound.symm.trans (isLast_iff.1 (hlast other hother)))

theorem extend_eq_self (key : α → String) (h : items ⊆ base) : extend key base items = base := by
  have hnone : fresh key (base.map key) items = [] :=
    List.eq_nil_iff_forall_not_mem.2 fun item hitem =>
      key_not_mem_of_mem_fresh hitem (List.mem_map_of_mem (h (mem_of_mem_fresh hitem)))
  rw [extend, hnone, List.append_nil]

/-! ### Mounts -/

variable {mounted : List VolumeMount} {presets : List PodPreset}

theorem forall_mem_offered {P : VolumeMount → Prop} :
    (∀ mount ∈ offered PresetSpec.volumeMounts presets, P mount) ↔
      ∀ preset ∈ presets, ∀ mount ∈ preset.spec.volumeMounts, P mount :=
  List.forall_mem_flatMap

/-- The two identities of a mount are looked at independently. -/
theorem mountsAgree_iff_isLast (h : offered PresetSpec.volumeMounts presets ⊆ mounted) :
    MountsAgree mounted presets ↔ ∀ mount ∈ offered PresetSpec.volumeMounts presets,
      IsLast VolumeMount.name mounted mount ∧ IsLast VolumeMount.mountPath mounted mount := by
  rw [mountsAgree_iff, agree_iff_isLast h, agree_iff_isLast h]
  exact forall₂_and.symm

/-- **When offered mounts that are there already are accepted.**  They are accepted exactly if each
of them is the last mount of its name and the last one at its path; so they always are where no name
and no path occurs twice.  Whenever they are accepted the mounts stay as they were. -/
theorem mounts_eq_self_iff
    (h : ∀ preset ∈ presets, ∀ mount ∈ preset.spec.volumeMounts, mount ∈ mounted) :
    (mounts mounted presets = .ok mounted ↔
      ∀ preset ∈ presets, ∀ mount ∈ preset.spec.volumeMounts,
        IsLast VolumeMount.name mounted mount ∧ IsLast VolumeMount.mountPath mounted mount) ∧
    ((mounted.map VolumeMount.name).Nodup → (mounted.map VolumeMount.mountPath).Nodup →
      mounts mounted presets = .ok mounted) ∧
    ∀ merged, mounts mounted presets = .ok merged → merged = mounted := by
  have hsub : offered PresetSpec.volumeMounts presets ⊆ mounted := forall_mem_offered.2 h
  have hextend := extend_eq_self VolumeMount.name hsub
  have hiff : mounts mounted presets = .ok mounted ↔
      ∀ preset ∈ presets, ∀ mount ∈ preset.spec.volumeMounts,
        IsLast VolumeMount.name mounted mount ∧ IsLast VolumeMount.mountPath mounted mount := by
    rw [mounts_eq_resolve, resolve_eq_ok_iff, ← forall_mem_offered, ← mountsAgree_iff_isLast hsub]
    exact and_iff_left hextend.symm
  refine ⟨hiff, fun hnames hpaths => hiff.2 fun preset hpreset mount hmount => ?_,
    fun merged hmerged => ?_⟩
  · have hmem : mount ∈ mounted := h preset hpreset mount hmount
    exact ⟨isLast_of_nodup hnames hmem, isLast_of_nodup hpaths hmem⟩
  · rw [mounts_eq_resolve] at hmerged
    exact (resolve_eq_ok_iff.1 hmerged).2.trans hextend

/-- A container mounts its data at two paths, and a preset offers the second of these mounts and one
more that is there. -/
theorem mounts_eq_self_iff_data :
    let data (path : String) : VolumeMount := ⟨path, none, "data", none, none, none, none⟩
    let logs : VolumeMount := ⟨"/log", none, "logs", none, none, none, none⟩
    let base := [data "/backup", logs, data "/data"]
    let offering : PodPreset :=
      { metadata := { name := some "db" }, spec := { volumeMounts := [data "/data", logs] } }
    (∀ preset ∈ [offering], ∀ mount ∈ preset.spec.volumeMounts, mount ∈ base) ∧
      mounts base [offering] = .ok base := by
  intro data logs base offering
  have hheld : ∀ preset ∈ [offering], ∀ mount ∈ preset.spec.volumeMounts, mount ∈ base := by decide
  exact ⟨hheld, (mounts_eq_self_iff hheld).1.2 (by decide)⟩

/-- The same container, and a preset that offers the first of the two mounts: it differs from what
counts for its name, though not from what counts for its path, and is refused. -/
theorem mounts_held_refused :
    let data (path : String) : VolumeMount := ⟨path, none, "data", none, none, none, none⟩
    let base := [data "/backup", data "/data"]
    let offering : PodPreset :=
      { metadata := { name := some "db" }, spec := { volumeMounts := [data "/backup"] } }
    (∀ preset ∈ [offering], ∀ mount ∈ preset.spec.volumeMounts, mount ∈ base) ∧
      mounts base [offering] = .error [mountConflict .name "db" (data "/backup") (data "/data")] ∧
      mounts base [offering] ≠ .ok base := by
  intro data base offering
  have hrefused : mounts base [offering] =
      .error [mountConflict .name "db" (data "/backup") (data "/data")] := rfl
  refine ⟨by decide, hrefused, ?_⟩
  rw [hrefused]
  exact nofun

end WebhookOperator.Merge
