import WebhookOperator.Proofs.Merge.Composition
import WebhookOperator.Proofs.Merge.Held

/-!
# Merging step by step

A merge keeps no record between its steps but the list that it gave, so a later step finds what
counts for an identity by looking through that list again.  Where the earlier steps went through it
finds what it would have found at once.

* `resolve_append`: after a first part that agrees the second part is merged into what it gave
* `exists_resolve_append_eq_error`: the conflicts of a first part come first
* `resolve_extend_of_subset`: what was merged adds nothing
* `merges_stepwise`: **both merges may be made step by step**
-/

namespace WebhookOperator.Merge

variable {α : Type} {main : Identity α} {others : List (Identity α)} {base : List α}
  {offering : PresetSpec → List α} {first : List PodPreset} {conflicts : List Conflict}

section Resolve

variable [DecidableEq α]

/-- An offer has the same conflicts with what agreeing items were merged into as with the base and
these items. -/
theorem faults_extend (h : OffersAgree (main :: others) offering base first) (more : List α)
    (offer : String × α) :
    faults (main :: others) (extend main.key base (offered offering first)) more offer =
      faults (main :: others) base (offered offering first ++ more) offer := by
  refine List.flatMap_congr fun identity hmem => ?_
  rw [clash, clash, h.first.reference_extend (h identity hmem)]

/-- **After a first part that agrees, the second part is merged into what the first part gave.** -/
theorem resolve_append (h : OffersAgree (main :: others) offering base first)
    (second : List PodPreset) :
    resolve main others offering base (first ++ second) =
      resolve main others offering (extend main.key base (offered offering first)) second := by
  have hnone : allFaults (main :: others) base (offers offering first) = [] :=
    allFaults_offers_eq_nil_iff.2 h
  have hfaults : allFaults (main :: others) base (offers offering (first ++ second)) =
      allFaults (main :: others) (extend main.key base (offered offering first))
        (offers offering second) := by
    rw [offers_append, allFaults_append, hnone, List.nil_append, map_offers, map_offers, allFaults,
      map_offers]
    exact List.flatMap_congr fun offer _ => (faults_extend h _ offer).symm
  rw [resolve, resolve, hfaults, offered_append, extend_extend]

/-- **The conflicts of a first part come first**, and all of them are reported. -/
theorem exists_resolve_append_eq_error
    (h : resolve main others offering base first = .error conflicts) (second : List PodPreset) :
    ∃ further, resolve main others offering base (first ++ second) =
      .error (conflicts ++ further) := by
  obtain ⟨hsome, rfl⟩ := resolve_eq_error_iff.1 h
  obtain ⟨further, hmore⟩ : ∃ further, allFaults (main :: others) base
      (offers offering (first ++ second)) =
        allFaults (main :: others) base (offers offering first) ++ further := by
    rw [offers_append]
    exact ⟨_, allFaults_append _ _⟩
  refine ⟨further, resolve_eq_error_iff.2 ⟨?_, hmore.symm⟩⟩
  exact List.append_ne_nil_of_left_ne_nil hsome further

/-- **What was merged adds nothing**, in whatever order it comes again. -/
theorem resolve_extend_of_subset (h : OffersAgree (main :: others) offering base first)
    {again : List PodPreset} (hsub : again ⊆ first) :
    resolve main others offering (extend main.key base (offered offering first)) again =
      .ok (extend main.key base (offered offering first)) := by
  have hagree : OffersAgree (main :: others) offering
      (extend main.key base (offered offering first)) again :=
    (h.extend (List.Subset.refl first) main.key).subset hsub
  have hheld : offered offering again ⊆ extend main.key base (offered offering first) :=
    fun item hitem => h.first.mem_extend (offered_subset hsub offering hitem)
  rw [resolve_of_agree hagree, extend_eq_self main.key hheld]

end Resolve

/-! ### Steps -/

/-- A way to merge what presets offer that may be used step by step. -/
structure Stepwise (merge : List α → List PodPreset → Except (List Conflict) (List α)) : Prop where
  /-- What the first presets gave is all that the next ones have to be merged into. -/
  resumes : ∀ base first merged, merge base first = .ok merged →
    ∀ second, merge base (first ++ second) = merge merged second
  /-- Conflicts are reported before those of later presets. -/
  keeps : ∀ base first conflicts, merge base first = .error conflicts →
    ∀ second, ∃ further, merge base (first ++ second) = .error (conflicts ++ further)
  /-- Presets that were merged may come again, in any order and any number of times. -/
  absorbs : ∀ base first merged, merge base first = .ok merged →
    ∀ again, again ⊆ first → merge merged again = .ok merged

theorem stepwise_resolve [DecidableEq α] (main : Identity α) (others : List (Identity α))
    (offering : PresetSpec → List α) : Stepwise (resolve main others offering) where
  resumes base first merged h second := by
    obtain ⟨hagree, rfl⟩ := resolve_eq_ok_iff.1 h
    exact resolve_append hagree second
  keeps base first conflicts h second := exists_resolve_append_eq_error h second
  absorbs base first merged h again hsub := by
    obtain ⟨hagree, rfl⟩ := resolve_eq_ok_iff.1 h
    exact resolve_extend_of_subset hagree hsub

/-- **Both merges may be made step by step**, that of named items of any kind and that of mounts. -/
theorem merges_stepwise :
    (∀ (α : Type) [Named α] [DecidableEq α], Stepwise (named (α := α))) ∧ Stepwise mounts := by
  constructor
  · intro α _ _
    rw [named_eq_resolve]
    exact stepwise_resolve _ _ _
  · rw [mounts_eq_resolve]
    exact stepwise_resolve _ _ _

end WebhookOperator.Merge
