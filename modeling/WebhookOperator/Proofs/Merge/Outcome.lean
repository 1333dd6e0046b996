import Mathlib.Data.List.Induction
import WebhookOperator.Proofs.Merge.Agreement

/-!
# What comes of a merge

Named items and mounts are merged by one rule.  Items have some identities, the first of which
decides what is added, and an offer is at fault under each identity for which another item counts.
`resolve` is this rule with any list of identities.  It says nothing of a walk: whatever the order of
the offers, an item is in conflict exactly when it differs from what counts for its identity among
all of them, and the items that are added are the fresh ones.

* `named_eq_resolve`, `mounts_eq_resolve`: **the two merges are cases of the one rule**
* `resolve_eq_ok_iff`, `resolve_eq_error_iff`: it gives a list exactly when the items agree, and else
  their conflicts
* `OffersAgree.subset`, `OffersAgree.extend`: items agree with fewer presets as well, and after some
  of the presets have been merged
-/

namespace WebhookOperator.Merge

variable {α : Type}

def offered (items : PresetSpec → List α) (presets : List PodPreset) : List α :=
  presets.flatMap fun preset => items preset.spec

theorem map_offers (items : PresetSpec → List α) (presets : List PodPreset) :
    (offers items presets).map (·.2) = offered items presets := by
  simp [offers, offered, List.map_flatMap, Function.comp_def]

theorem offered_subset {fewer presets : List PodPreset} (h : fewer ⊆ presets)
    (items : PresetSpec → List α) : offered items fewer ⊆ offered items presets := by
  intro item hitem
  obtain ⟨preset, hpreset, hmem⟩ := List.mem_flatMap.1 hitem
  exact List.mem_flatMap.2 ⟨preset, h hpreset, hmem⟩

/-! ### Identities -/

/-- By what items are told apart, and how a conflict under it is reported. -/
structure Identity (α : Type) where
  key : α → String
  report : String → α → α → Conflict

def byName [Named α] : Identity α := ⟨Named.name, nameConflict⟩

def byMountName : Identity VolumeMount := ⟨VolumeMount.name, mountConflict .name⟩

def byMountPath : Identity VolumeMount := ⟨VolumeMount.mountPath, mountConflict .mountPath⟩

variable {main identity : Identity α} {others identities : List (Identity α)} {base items : List α}
  {offering : PresetSpec → List α} {fewer presets : List PodPreset}

/-- Items agree with a base under each of some identities. -/
def AgreeAll (identities : List (Identity α)) (base items : List α) : Prop :=
  ∀ identity ∈ identities, Agree identity.key base items

/-- What presets offer agrees with a base. -/
abbrev OffersAgree (identities : List (Identity α)) (offering : PresetSpec → List α)
    (base : List α) (presets : List PodPreset) : Prop :=
  AgreeAll identities base (offered offering presets)

abbrev NamesAgree [Named α] (base : List α) (presets : List PodPreset) : Prop :=
  OffersAgree [byName] Named.offered base presets

abbrev MountsAgree (base : List VolumeMount) (presets : List PodPreset) : Prop :=
  OffersAgree [byMountName, byMountPath] PresetSpec.volumeMounts base presets

theorem OffersAgree.subset (h : OffersAgree identities offering base presets)
    (hsub : fewer ⊆ presets) : OffersAgree identities offering base fewer :=
  fun identity hmem => (h identity hmem).subset (offered_subset hsub offering)

theorem OffersAgree.extend (h : OffersAgree identities offering base presets)
    (hsub : fewer ⊆ presets) (key : α → String) :
    OffersAgree identities offering (Merge.extend key base (offered offering fewer)) presets := by
  intro identity hmem
  obtain ⟨added, hadded, heq⟩ := exists_extend_eq_append key base (offered offering fewer)
  rw [heq]
  exact (h identity hmem).append fun item hitem => offered_subset hsub offering (hadded.subset hitem)

theorem offersAgree_nil (identities : List (Identity α)) (offering : PresetSpec → List α)
    (base : List α) : OffersAgree identities offering base [] :=
  fun identity _ => agree_nil identity.key base

theorem OffersAgree.first (h : OffersAgree (main :: others) offering base presets) :
    Agree main.key base (offered offering presets) :=
  h main List.mem_cons_self

theorem mountsAgree_iff {base : List VolumeMount} :
    MountsAgree base presets ↔
      Agree VolumeMount.name base (offered PresetSpec.volumeMounts presets) ∧
        Agree VolumeMount.mountPath base (offered PresetSpec.volumeMounts presets) := by
  unfold MountsAgree OffersAgree AgreeAll
  rw [List.forall_mem_cons, List.forall_mem_singleton]
  rfl

/-! ### Conflicts -/

section Resolve

variable [DecidableEq α]

/-- The conflict of an offer with what counts for its identity among all items, if it has one. -/
def clash (identity : Identity α) (base items : List α) (offer : String × α) : List Conflict :=
  match reference identity.key base items (identity.key offer.2) with
  | none => []
  | some found => if found = offer.2 then [] else [identity.report offer.1 offer.2 found]

/-- The conflicts of an offer, one under each identity for which another item counts. -/
def faults (identities : List (Identity α)) (base items : List α) (offer : String × α) :
    List Conflict :=
  identities.flatMap fun identity => clash identity base items offer

def allFaults (identities : List (Identity α)) (base : List α) (offers : List (String × α)) :
    List Conflict :=
  offers.flatMap (faults identities base (offers.map (·.2)))

theorem faults_append_of_mem {offer : String × α} (h : offer.2 ∈ items) (more : List α) :
    faults identities base (items ++ more) offer = faults identities base items offer := by
  refine List.flatMap_congr fun identity _ => ?_
  rw [clash, clash, reference_append_of_mem h]

/-- An offer clashes with what counted before it came, or else not at all. -/
theorem faults_append_singleton (offer : String × α) :
    faults identities base (items ++ [offer.2]) offer = faults identities base items offer := by
  refine List.flatMap_congr fun identity _ => ?_
  rw [clash, clash, reference_append_singleton]
  cases reference identity.key base items (identity.key offer.2) <;> simp

/-- Later offers do not change the conflicts of earlier ones. -/
theorem allFaults_append (first second : List (String × α)) :
    allFaults identities base (first ++ second) =
      allFaults identities base first ++
        second.flatMap (faults identities base (first.map (·.2) ++ second.map (·.2))) := by
  have hfirst : first.flatMap (faults identities base (first.map (·.2) ++ second.map (·.2))) =
      allFaults identities base first :=
    List.flatMap_congr fun offer hoffer => faults_append_of_mem (List.mem_map_of_mem hoffer) _
  rw [allFaults, List.map_append, List.flatMap_append, hfirst]

theorem allFaults_append_singleton (offers : List (String × α)) (offer : String × α) :
    allFaults identities base (offers ++ [offer]) =
      allFaults identities base offers ++ faults identities base (offers.map (·.2)) offer := by
  rw [allFaults_append, List.flatMap_singleton, List.map_singleton, faults_append_singleton]

theorem clash_eq_nil_iff {offer : String × α} (h : offer.2 ∈ items) :
    clash identity base items offer = [] ↔
      reference identity.key base items (identity.key offer.2) = some offer.2 := by
  rw [clash]
  cases hfound : reference identity.key base items (identity.key offer.2) with
  | none => exact absurd (List.mem_map_of_mem h) (reference_eq_none.1 hfound).2
  | some found => simp

theorem allFaults_eq_nil_iff {offers : List (String × α)} :
    allFaults identities base offers = [] ↔ AgreeAll identities base (offers.map (·.2)) := by
  simp only [allFaults, faults, List.flatMap_eq_nil_iff]
  constructor
  · intro h identity hidentity
    refine agree_iff.2 fun item hitem => ?_
    obtain ⟨offer, hoffer, rfl⟩ := List.mem_map.1 hitem
    exact (clash_eq_nil_iff (List.mem_map_of_mem hoffer)).1 (h offer hoffer identity hidentity)
  · intro h offer hoffer identity hidentity
    have hmem : offer.2 ∈ offers.map (·.2) := List.mem_map_of_mem hoffer
    exact (clash_eq_nil_iff hmem).2 (agree_iff.1 (h identity hidentity) offer.2 hmem)

theorem allFaults_offers_eq_nil_iff :
    allFaults identities base (offers offering presets) = [] ↔
      OffersAgree identities offering base presets := by
  rw [allFaults_eq_nil_iff, map_offers]

/-! ### The rule of merging -/

/-- Merges items with some identities, the first of which decides what is added. -/
def resolve (main : Identity α) (others : List (Identity α)) (offering : PresetSpec → List α)
    (base : List α) (presets : List PodPreset) : Except (List Conflict) (List α) :=
  if (allFaults (main :: others) base (offers offering presets)).isEmpty then
    .ok (extend main.key base (offered offering presets))
  else .error (allFaults (main :: others) base (offers offering presets))

variable {merged : List α} {conflicts : List Conflict}

theorem resolve_of_agree (h : OffersAgree (main :: others) offering base presets) :
    resolve main others offering base presets =
      .ok (extend main.key base (offered offering presets)) := by
  rw [resolve, allFaults_offers_eq_nil_iff.2 h, List.isEmpty_nil, if_pos rfl]

theorem resolve_eq_ok_iff :
    resolve main others offering base presets = .ok merged ↔
      OffersAgree (main :: others) offering base presets ∧
        merged = extend main.key base (offered offering presets) := by
  by_cases h : OffersAgree (main :: others) offering base presets
  · rw [resolve_of_agree h]
    simp [h, eq_comm]
  · have hsome := mt allFaults_offers_eq_nil_iff.1 h
    rw [resolve, if_neg (by simpa using hsome)]
    simp [h]

theorem resolve_eq_error_iff :
    resolve main others offering base presets = .error conflicts ↔
      conflicts ≠ [] ∧ conflicts = allFaults (main :: others) base (offers offering presets) := by
  by_cases hnone : allFaults (main :: others) base (offers offering presets) = []
  · rw [resolve, hnone, List.isEmpty_nil, if_pos rfl]
    simp
  · rw [resolve, if_neg (by simpa using hnone)]
    constructor
    · intro h
      cases h
      exact ⟨hnone, rfl⟩
    · rintro ⟨-, rfl⟩
      rfl

end Resolve

/-! ### The two merges -/

/-- The walk adds the fresh items and collects the conflicts. -/
theorem foldl_offer [Named α] [DecidableEq α] (base : List α) (offers : List (String × α)) :
    offers.foldl (Progress.offer base) {} =
      { added := fresh Named.name (base.map Named.name) (offers.map (·.2))
        conflicts := allFaults [byName] base offers } := by
  -- on the last offer: what counts for it is what counted for the offers before it
  induction offers using List.reverseRecOn with
  | nil => rfl
  | append_singleton offers offer ih =>
    rw [List.foldl_append, ih, List.foldl_cons, List.foldl_nil, allFaults_append_singleton,
      List.map_append, List.map_singleton, fresh_append_of_reference, Progress.offer, faults,
      List.flatMap_singleton, clash]
    simp only [reference_fresh, byName]
    cases hfound : reference Named.name base (offers.map (·.2)) (Named.name offer.2) with
    | none => simp
    | some found => by_cases heq : found = offer.2 <;> simp [heq]

theorem named_eq_resolve [Named α] [DecidableEq α] :
    named (α := α) = resolve byName [] Named.offered := by
  funext base presets
  rw [named, foldl_offer, map_offers, resolve, extend]
  rfl

theorem foldl_mountOffer (base : List VolumeMount) (offers : List (String × VolumeMount)) :
    offers.foldl (MountProgress.offer base) {} =
      { added := fresh VolumeMount.name (base.map VolumeMount.name) (offers.map (·.2))
        atNewPaths :=
          fresh VolumeMount.mountPath (base.map VolumeMount.mountPath) (offers.map (·.2))
        conflicts := allFaults [byMountName, byMountPath] base offers } := by
  induction offers using List.reverseRecOn with
  | nil => rfl
  | append_singleton offers offer ih =>
    rw [List.foldl_append, ih, List.foldl_cons, List.foldl_nil, allFaults_append_singleton,
      List.map_append, List.map_singleton, fresh_append_of_reference, fresh_append_of_reference,
      MountProgress.offer, faults, List.flatMap_cons, List.flatMap_singleton, clash, clash]
    simp only [reference_fresh, byMountName, byMountPath]
    -- the two identities of a mount are looked at independently
    cases reference VolumeMount.name base (offers.map (·.2)) offer.2.name <;>
      cases reference VolumeMount.mountPath base (offers.map (·.2)) offer.2.mountPath <;> simp

theorem mounts_eq_resolve :
    mounts = resolve byMountName [byMountPath] PresetSpec.volumeMounts := by
  funext base presets
  rw [mounts, foldl_mountOffer, map_offers, resolve, extend]
  rfl

end WebhookOperator.Merge
