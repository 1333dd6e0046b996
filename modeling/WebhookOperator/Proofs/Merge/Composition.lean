import WebhookOperator.Proofs.Merge.Outcome

/-!
# Merging in parts, and in another order

A merge that is made in parts rebuilds what counts for an identity from the list that the first part
gave, while a merge at once goes on with what it has found so far.  Where the first part agrees with
its base the two come to the same, also for an identity by which nothing was added: a mount that is
there under its name is there under its path as well.

In another order the first item of an identity may be another one.  But items that agree are equal
when their identities are, so the fresh ones are the same items, in another order.

* `extend_extend`: extending in two parts is extending at once
* `Agree.reference_extend`: after the first part the same item counts for every identity
* `Agree.agree_extend_iff`: so the second part agrees with the extension exactly when all items agree
  with the base
* `Agree.perm_fresh`: another order of agreeing items has the same fresh items
* `alike_resolve`: so another order of the presets gives the same list, up to the order of what was
  added
-/

namespace WebhookOperator.Merge

variable {α : Type} {key other : α → String} {base items more : List α}

/-! ### One part after the other -/

/-- The fresh items have every identity that is not taken. -/
theorem mem_keys_fresh_iff {taken : List String} {wanted : String} :
    wanted ∈ taken ∨ wanted ∈ (fresh key taken items).map key ↔
      wanted ∈ taken ∨ wanted ∈ items.map key := by
  constructor
  · rintro (htaken | hfresh)
    · exact Or.inl htaken
    · exact Or.inr (((fresh_sublist key taken items).map key).subset hfresh)
  · rintro (htaken | hitems)
    · exact Or.inl htaken
    · by_cases htaken : wanted ∈ taken
      · exact Or.inl htaken
      · obtain ⟨item, hitem, rfl⟩ := List.mem_map.1 hitems
        obtain ⟨first, hfirst, heq⟩ := exists_mem_fresh hitem htaken
        exact Or.inr (heq ▸ List.mem_map_of_mem hfirst)

theorem fresh_append (key : α → String) (taken : List String) (items more : List α) :
    fresh key taken (items ++ more) =
      fresh key taken items ++ fresh key (taken ++ (fresh key taken items).map key) more := by
  -- on the last item of the second part: it is new to both sides alike
  induction more using List.reverseRecOn with
  | nil => simp
  | append_singleton more item ih =>
    have hknown : key item ∈ taken ∨ key item ∈ (items ++ more).map key ↔
        key item ∈ taken ++ (fresh key taken items).map key ∨ key item ∈ more.map key := by
      rw [List.map_append, List.mem_append, List.mem_append, ← or_assoc, ← mem_keys_fresh_iff]
    rw [← List.append_assoc, fresh_append_singleton, fresh_append_singleton, ih, List.append_assoc]
    simp only [hknown]

/-- **Extending in two parts is extending at once.** -/
theorem extend_extend (key : α → String) (base items more : List α) :
    extend key (extend key base items) more = extend key base (items ++ more) := by
  unfold extend
  rw [fresh_append, List.map_append, List.append_assoc]

/-- Nothing is added under an identity of the base. -/
theorem Agree.find?_added_of_mem (hother : Agree other base items) {wanted : String}
    (hheld : wanted ∈ base.map other) :
    (fresh key (base.map key) items).reverse.find? (other · == wanted) = none := by
  rw [find?_reverse_eq_none]
  intro hmem
  obtain ⟨added, hadded, rfl⟩ := List.mem_map.1 hmem
  exact hother.key_not_mem_of_mem_fresh hadded hheld

/-- Under every other identity the last item added is the first one that there is. -/
theorem Agree.find?_added_of_not_mem (h : Agree key base items) (hother : Agree other base items)
    {wanted : String} (hnew : wanted ∉ base.map other) :
    (fresh key (base.map key) items).reverse.find? (other · == wanted) =
      items.find? (other · == wanted) := by
  cases hitem : items.find? (other · == wanted) with
  | none =>
    rw [find?_reverse_eq_none]
    intro hmem
    obtain ⟨added, hadded, rfl⟩ := List.mem_map.1 hmem
    have hmiss := List.find?_eq_none.1 hitem added (mem_of_mem_fresh hadded)
    simp at hmiss
  | some item =>
    have hmem : item ∈ items := List.mem_of_find?_eq_some hitem
    have hkey : other item = wanted := by simpa using List.find?_some hitem
    -- the item is in the extension but not in the base
    have hadded : item ∈ fresh key (base.map key) items := by
      rcases List.mem_append.1 (h.mem_extend hmem) with hheld | hadded
      · exact absurd (hkey ▸ List.mem_map_of_mem hheld) hnew
      · exact hadded
    cases hlast : (fresh key (base.map key) items).reverse.find? (other · == wanted) with
    | none => exact absurd (hkey ▸ List.mem_map_of_mem hadded) (find?_reverse_eq_none.1 hlast)
    | some last =>
      have hlastMem : last ∈ items :=
        mem_of_mem_fresh (List.mem_reverse.1 (List.mem_of_find?_eq_some hlast))
      have hlastKey : other last = wanted := by simpa using List.find?_some hlast
      rw [hother.among last hlastMem item hmem (hlastKey.trans hkey.symm)]

/-- **After the first part the same item counts for every identity**, also for one by which the items
were not told apart. -/
theorem Agree.reference_extend (h : Agree key base items) (hother : Agree other base items)
    (more : List α) (wanted : String) :
    reference other (extend key base items) more wanted =
      reference other base (items ++ more) wanted := by
  rw [reference_eq_or, reference_eq_or, extend, List.reverse_append, List.find?_append,
    List.find?_append, ← Option.or_assoc]
  congr 1
  by_cases hheld : wanted ∈ base.map other
  · obtain ⟨held, hfound⟩ : ∃ held, base.reverse.find? (other · == wanted) = some held :=
      Option.ne_none_iff_exists'.1 fun hnone => find?_reverse_eq_none.1 hnone hheld
    rw [hother.find?_added_of_mem hheld, hfound, Option.none_or, Option.some_or]
  · rw [h.find?_added_of_not_mem hother hheld, find?_reverse_eq_none.2 hheld, Option.none_or,
      Option.or_none]

/-- All items agree with the base exactly when those of the second part agree with the extension. -/
theorem Agree.agree_extend_iff (h : Agree key base items) (hother : Agree other base items) :
    Agree other (extend key base items) more ↔ Agree other base (items ++ more) := by
  rw [agree_iff, agree_iff]
  constructor
  · intro hmore item hitem
    rcases List.mem_append.1 hitem with hitem | hitem
    · rw [reference_append_of_mem hitem]
      exact agree_iff.1 hother item hitem
    · rw [← h.reference_extend hother]
      exact hmore item hitem
  · intro hall item hitem
    rw [h.reference_extend hother]
    exact hall item (List.mem_append_right _ hitem)

theorem offered_append (items : PresetSpec → List α) (first second : List PodPreset) :
    offered items (first ++ second) = offered items first ++ offered items second :=
  List.flatMap_append

theorem offers_append (items : PresetSpec → List α) (first second : List PodPreset) :
    offers items (first ++ second) = offers items first ++ offers items second :=
  List.flatMap_append

variable {main : Identity α} {others : List (Identity α)} {offering : PresetSpec → List α}

theorem OffersAgree.append_iff {first second : List PodPreset}
    (h : OffersAgree (main :: others) offering base first) :
    OffersAgree (main :: others) offering (Merge.extend main.key base (offered offering first))
        second ↔
      OffersAgree (main :: others) offering base (first ++ second) := by
  refine forall₂_congr fun identity hmem => ?_
  rw [offered_append]
  exact h.first.agree_extend_iff (h identity hmem)

/-! ### Another order -/

theorem offered_perm {presets others : List PodPreset} (h : presets.Perm others)
    (items : PresetSpec → List α) : (offered items presets).Perm (offered items others) :=
  h.flatMap_right _

/-- An item that is fresh in one order of agreeing items is fresh in every order. -/
theorem Agree.mem_fresh_of_perm (h : Agree key base items) {others : List α}
    (hperm : items.Perm others) {item : α} (hitem : item ∈ fresh key (base.map key) items) :
    item ∈ fresh key (base.map key) others := by
  have hmem : item ∈ items := mem_of_mem_fresh hitem
  obtain ⟨first, hfirst, heq⟩ :=
    exists_mem_fresh (hperm.mem_iff.1 hmem) (Merge.key_not_mem_of_mem_fresh hitem)
  have hfirstMem : first ∈ items := hperm.mem_iff.2 (mem_of_mem_fresh hfirst)
  rw [← h.among first hfirstMem item hmem heq]
  exact hfirst

/-- **Another order of agreeing items has the same fresh items**, in another order. -/
theorem Agree.perm_fresh (h : Agree key base items) {others : List α} (hperm : items.Perm others) :
    (fresh key (base.map key) items).Perm (fresh key (base.map key) others) := by
  have hothers : Agree key base others := h.subset hperm.symm.subset
  apply (List.perm_ext_iff_of_nodup (Merge.nodup_keys_fresh key _ items).of_map
    (Merge.nodup_keys_fresh key _ others).of_map).2
  intro item
  exact ⟨h.mem_fresh_of_perm hperm, hothers.mem_fresh_of_perm hperm.symm⟩

/-- Two lists that have the same items behind a base, each in its own order. -/
def SameBeyond (base left right : List α) : Prop :=
  ∃ added moved, left = base ++ added ∧ right = base ++ moved ∧ added.Perm moved

/-- Two attempts of which both fail, or both succeed with results that are related. -/
inductive Alike {ε β : Type} (R : β → β → Prop) : Except ε β → Except ε β → Prop
  | failed (error other : ε) : Alike R (.error error) (.error other)
  | done {left right : β} (h : R left right) : Alike R (.ok left) (.ok right)

/-- It is enough that the one succeeds with a related result when the other does, and conversely. -/
theorem alike_of {ε β : Type} {R : β → β → Prop} {first second : Except ε β}
    (h : ∀ left, first = .ok left → ∃ right, second = .ok right ∧ R left right)
    (hback : ∀ right, second = .ok right → ∃ left, first = .ok left) : Alike R first second := by
  cases first with
  | ok left =>
    obtain ⟨right, rfl, hrelated⟩ := h left rfl
    exact .done hrelated
  | error error =>
    cases second with
    | ok right =>
      obtain ⟨left, hleft⟩ := hback right rfl
      cases hleft
    | error other => exact .failed error other

section Perm

variable [DecidableEq α] {presets moved : List PodPreset}

theorem exists_resolve_perm (hperm : presets.Perm moved) {left : List α}
    (h : resolve main others offering base presets = .ok left) :
    ∃ right, resolve main others offering base moved = .ok right ∧ SameBeyond base left right := by
  obtain ⟨hagree, rfl⟩ := resolve_eq_ok_iff.1 h
  have hmoved : OffersAgree (main :: others) offering base moved :=
    hagree.subset hperm.symm.subset
  exact ⟨_, resolve_of_agree hmoved, _, _, rfl, rfl,
    hagree.first.perm_fresh (offered_perm hperm offering)⟩

theorem alike_resolve (hperm : presets.Perm moved) (base : List α) :
    Alike (SameBeyond base) (resolve main others offering base presets)
      (resolve main others offering base moved) := by
  apply alike_of
  · intro left hleft
    exact exists_resolve_perm hperm hleft
  · intro right hright
    obtain ⟨left, hleft, -⟩ := exists_resolve_perm hperm.symm hright
    exact ⟨left, hleft⟩

end Perm

end WebhookOperator.Merge
