import WebhookOperator.Proofs.Merge.Stepwise
import WebhookOperator.Proofs.Form.Cluster

/-!
# Conflicts show a difference

A conflict names two items of one identity by their texts, so that whoever reads it can see what
does not match.  The items differ, since an item that equals the one that counts is no conflict, and
items that differ have different texts.

* `exists_of_mem_conflicts`: behind every conflict are two different items
* `named_shows`, `mounts_shows`: their texts differ where the items have legible outlines
* `conflicts_show_differences`: **so no conflict names two texts that are the same**
-/

namespace WebhookOperator

/-- What was refused looks different from what is there. -/
def Conflict.ShowsDifference (conflict : Conflict) : Prop :=
  conflict.incoming ≠ conflict.existing

namespace Merge

variable {α : Type} {main : Identity α} {others : List (Identity α)} {base : List α}
  {presets : List PodPreset} {conflicts : List Conflict} {conflict : Conflict}

/-- A way to merge each of whose conflicts shows a difference. -/
def ShowsDifferences (merge : List α → List PodPreset → Except (List Conflict) (List α)) : Prop :=
  ∀ base presets conflicts, merge base presets = .error conflicts →
    ∀ conflict ∈ conflicts, conflict.ShowsDifference

/-- The conflict of an offer is with an item that differs from it. -/
theorem exists_of_mem_clash [DecidableEq α] {items : List α} {offer : String × α}
    (h : conflict ∈ clash main base items offer) :
    ∃ existing, offer.2 ≠ existing ∧ conflict = main.report offer.1 offer.2 existing := by
  rw [clash] at h
  cases hfound : reference main.key base items (main.key offer.2) with
  | none => simp [hfound] at h
  | some existing =>
    rw [hfound] at h
    by_cases hsame : existing = offer.2
    · simp [hsame] at h
    · exact ⟨existing, Ne.symm hsame, by simpa [hsame] using h⟩

/-- **Behind every conflict are two different items**, and it is reported under one of the
identities. -/
theorem exists_of_mem_conflicts [DecidableEq α] {offering : PresetSpec → List α}
    (h : resolve main others offering base presets = .error conflicts)
    (hmem : conflict ∈ conflicts) :
    ∃ identity ∈ main :: others, ∃ preset incoming existing,
      incoming ≠ existing ∧ conflict = identity.report preset incoming existing := by
  obtain ⟨-, rfl⟩ := resolve_eq_error_iff.1 h
  obtain ⟨offer, -, hfault⟩ := List.mem_flatMap.1 hmem
  obtain ⟨identity, hidentity, hclash⟩ := List.mem_flatMap.1 hfault
  obtain ⟨existing, hne, heq⟩ := exists_of_mem_clash hclash
  exact ⟨identity, hidentity, offer.1, offer.2, existing, hne, heq⟩

theorem named_shows [Named α] [DecidableEq α]
    (hlegible : Outline.Legible (Named.outline (α := α))) :
    ShowsDifferences (named (α := α)) := by
  intro base presets conflicts h conflict hmem
  rw [named_eq_resolve] at h
  obtain ⟨identity, hidentity, preset, incoming, existing, hne, rfl⟩ :=
    exists_of_mem_conflicts h hmem
  obtain rfl := List.mem_singleton.1 hidentity
  exact fun hsame => hne (hlegible.text_injective hsame)

theorem mounts_shows : ShowsDifferences mounts := by
  intro base presets conflicts h conflict hmem
  rw [mounts_eq_resolve] at h
  obtain ⟨identity, hidentity, preset, incoming, existing, hne, rfl⟩ :=
    exists_of_mem_conflicts h hmem
  -- whichever identity it is, the conflict has the texts of the two mounts
  rcases List.mem_pair.1 hidentity with rfl | rfl
  · exact fun hsame => hne (VolumeMount.sound.legible.text_injective hsame)
  · exact fun hsame => hne (VolumeMount.sound.legible.text_injective hsame)

/-- **No conflict names two texts that are the same.**  This holds of every conflict that a merge of
environment variables, of volumes or of mounts reports, and of named items of any other kind with
legible outlines.  Different variables, different volumes and different mounts never have the same
text, whatever stands in them. -/
theorem conflicts_show_differences :
    ShowsDifferences (named (α := EnvVar)) ∧ ShowsDifferences (named (α := Volume)) ∧
      ShowsDifferences mounts ∧
    (∀ (α : Type) [Named α] [DecidableEq α],
      Outline.Legible (Named.outline (α := α)) → ShowsDifferences (named (α := α))) ∧
    (Function.Injective fun var : EnvVar => var.outline.text) ∧
    (Function.Injective fun volume : Volume => volume.outline.text) ∧
    Function.Injective fun mount : VolumeMount => mount.outline.text := by
  refine ⟨?_, ?_, ?_, ?_, ?_, ?_, ?_⟩
  · exact named_shows EnvVar.sound.legible
  · exact named_shows Volume.sound.legible
  · exact mounts_shows
  · exact fun α _ _ hlegible => named_shows hlegible
  · exact EnvVar.sound.legible.text_injective
  · exact Volume.sound.legible.text_injective
  · exact VolumeMount.sound.legible.text_injective

/-- A name that looks as if it ended and a value came after it. -/
example : (EnvVar.outline ⟨"A\", value: Some(\"1", none, none⟩).text =
    "EnvVar \x7b name: \"A\\\", value: Some(\\\"1\", value: None, value_from: None \x7d" := rfl

/-- A source with a dictionary. -/
example : (CsiSource.form.outline
      ⟨"files", none, none, some true, some (.ofList [("share", "a"), ("size", "1")])⟩).text =
    "CSIVolumeSource \x7b driver: \"files\", fs_type: None, node_publish_secret_ref: None, " ++
      "read_only: Some(true), " ++
      "volume_attributes: Some(\x7b\"share\": \"a\", \"size\": \"1\"\x7d) \x7d" := by
  decide +kernel

end Merge

end WebhookOperator
