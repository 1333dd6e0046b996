import Mathlib.Data.List.Nodup
import Mathlib.Tactic.Tauto
import WebhookOperator.Preset.Merge

/-!
# Items that agree

Merging walks the offered items once and keeps a running record of what counts for an identity.
This file says the same without the walk.  `fresh` lists the first item of every identity that is
not taken, and `Agree` holds of items that equal what counts for their identity, whatever their
order.

* `reference_fresh`: what counts for an identity is found among the fresh items as among all items
* `agree_iff`: items agree exactly when each of them is what counts for its identity
* `Agree.subset`: fewer items agree as well
* `Agree.append`: items still agree after some of them have gone into the base
* `Agree.mem_extend`: with the fresh items the base has every item
-/

namespace WebhookOperator.Merge

variable {α : Type} {key : α → String} {base items : List α}

/-! ### Fresh items -/

/-- The first item of every identity that is not taken. -/
def fresh (key : α → String) (taken : List String) : List α → List α
  | [] => []
  | item :: items =>
    if key item ∈ taken then fresh key taken items
    else item :: fresh key (key item :: taken) items

@[simp] theorem fresh_nil (key : α → String) (taken : List String) : fresh key taken [] = [] := rfl

theorem fresh_sublist (key : α → String) (taken : List String) (items : List α) :
    (fresh key taken items).Sublist items := by
  induction items generalizing taken with
  | nil => exact List.Sublist.refl _
  | cons first items ih =>
    rw [fresh]
    split
    · exact (ih taken).cons first
    · exact (ih _).cons_cons first

theorem mem_of_mem_fresh {taken : List String} {item : α} (h : item ∈ fresh key taken items) :
    item ∈ items :=
  (fresh_sublist key taken items).subset h

theorem key_not_mem_of_mem_fresh {taken : List String} {item : α}
    (h : item ∈ fresh key taken items) : key item ∉ taken := by
  induction items generalizing taken with
  | nil => simp at h
  | cons first items ih =>
    rw [fresh] at h
    split at h
    · exact ih h
    next hnew =>
      rcases List.mem_cons.1 h with rfl | h
      · exact hnew
      · exact fun hmem => ih h (List.mem_cons_of_mem _ hmem)

theorem nodup_keys_fresh (key : α → String) (taken : List String) (items : List α) :
    ((fresh key taken items).map key).Nodup := by
  induction items generalizing taken with
  | nil => simp
  | cons first items ih =>
    rw [fresh]
    split
    · exact ih taken
    · refine List.nodup_cons.2 ⟨?_, ih _⟩
      intro hmem
      obtain ⟨item, hitem, heq⟩ := List.mem_map.1 hmem
      exact key_not_mem_of_mem_fresh hitem (heq ▸ List.mem_cons_self)

theorem exists_mem_fresh {taken : List String} {item : α} (h : item ∈ items)
    (hnew : key item ∉ taken) : ∃ first ∈ fresh key taken items, key first = key item := by
  induction items generalizing taken with
  | nil => simp at h
  | cons head items ih =>
    rw [fresh]
    by_cases heq : key head = key item
    · rw [if_neg (heq ▸ hnew)]
      exact ⟨head, List.mem_cons_self, heq⟩
    · have hmem : item ∈ items := by
        rcases List.mem_cons.1 h with rfl | h
        · exact absurd rfl heq
        · exact h
      split
      · exact ih hmem hnew
      · have hnew : key item ∉ key head :: taken := by simp [Ne.symm heq, hnew]
        obtain ⟨first, hfirst, hkey⟩ := ih hmem hnew
        exact ⟨first, List.mem_cons_of_mem _ hfirst, hkey⟩

theorem find?_fresh {taken : List String} {wanted : String} (h : wanted ∉ taken) :
    (fresh key taken items).find? (key · == wanted) = items.find? (key · == wanted) := by
  induction items generalizing taken with
  | nil => rfl
  | cons head items ih =>
    rw [fresh]
    by_cases heq : key head = wanted
    · rw [if_neg (heq ▸ h)]
      simp [heq]
    · rw [List.find?_cons_of_neg (by simpa using heq)]
      split
      · exact ih h
      · rw [List.find?_cons_of_neg (by simpa using heq)]
        exact ih (by simp [Ne.symm heq, h])

theorem fresh_append_singleton (key : α → String) (taken : List String) (items : List α)
    (item : α) :
    fresh key taken (items ++ [item]) =
      fresh key taken items ++
        if key item ∈ taken ∨ key item ∈ items.map key then [] else [item] := by
  induction items generalizing taken with
  | nil => by_cases h : key item ∈ taken <;> simp [fresh, h]
  | cons head items ih =>
    rw [List.cons_append, fresh, fresh]
    by_cases hhead : key head ∈ taken
    · rw [if_pos hhead, if_pos hhead, ih]
      by_cases heq : key item = key head
      · simp [heq, hhead]
      · simp [heq]
    · rw [if_neg hhead, if_neg hhead, ih, List.cons_append]
      by_cases heq : key item = key head <;> simp [heq]

def extend (key : α → String) (base items : List α) : List α :=
  base ++ fresh key (base.map key) items

@[simp] theorem extend_nil (key : α → String) (base : List α) : extend key base [] = base := by
  simp [extend]

/-- What an extension adds are some of the items, in their order. -/
theorem exists_extend_eq_append (key : α → String) (base items : List α) :
    ∃ added, added.Sublist items ∧ extend key base items = base ++ added :=
  ⟨_, fresh_sublist key (base.map key) items, rfl⟩

theorem extend_eq_nil_iff : extend key base items = [] ↔ base = [] ∧ items = [] := by
  constructor
  · intro h
    obtain ⟨rfl, hfresh⟩ := List.append_eq_nil_iff.1 h
    refine ⟨rfl, List.eq_nil_iff_forall_not_mem.2 fun item hmem => ?_⟩
    have hnew : key item ∉ ([] : List α).map key := by simp
    obtain ⟨first, hfirst, _⟩ := exists_mem_fresh hmem hnew
    exact List.not_mem_nil (hfresh ▸ hfirst)
  · rintro ⟨rfl, rfl⟩
    rfl

/-! ### What counts for an identity -/

theorem reference_eq_or (key : α → String) (base added : List α) (wanted : String) :
    reference key base added wanted =
      (base.reverse.find? (key · == wanted)).or (added.find? (key · == wanted)) := by
  rw [reference, List.find?_append]

theorem find?_reverse_eq_none {wanted : String} :
    base.reverse.find? (key · == wanted) = none ↔ wanted ∉ base.map key := by
  simp

theorem getLast?_filter (key : α → String) (base : List α) (wanted : String) :
    (base.filter (key · = wanted)).getLast? = base.reverse.find? (key · == wanted) := by
  rw [List.getLast?_eq_head?_reverse, ← List.filter_reverse, List.head?_filter]
  rfl

theorem reference_eq_none {added : List α} {wanted : String} :
    reference key base added wanted = none ↔ wanted ∉ base.map key ∧ wanted ∉ added.map key := by
  rw [reference_eq_or, Option.or_eq_none_iff, find?_reverse_eq_none]
  simp

theorem reference_fresh (key : α → String) (base items : List α) (wanted : String) :
    reference key base (fresh key (base.map key) items) wanted =
      reference key base items wanted := by
  rw [reference_eq_or, reference_eq_or]
  cases hbase : base.reverse.find? (key · == wanted) with
  | some held => rfl
  | none => rw [find?_fresh (find?_reverse_eq_none.1 hbase)]

/-- Later items do not matter for an identity that an item has already. -/
theorem reference_append_of_mem {item : α} (h : item ∈ items) (more : List α) :
    reference key base (items ++ more) (key item) = reference key base items (key item) := by
  have hfound : (items.find? (key · == key item)).isSome :=
    List.find?_isSome.2 ⟨item, h, by simp⟩
  obtain ⟨first, hfirst⟩ := Option.isSome_iff_exists.1 hfound
  simp [reference_eq_or, List.find?_append, hfirst]

theorem reference_append_singleton (key : α → String) (base items : List α) (item : α) :
    reference key base (items ++ [item]) (key item) =
      (reference key base items (key item)).or (some item) := by
  simp [reference_eq_or, List.find?_append]

/-- An item is fresh when nothing counts for its identity yet. -/
theorem fresh_append_of_reference (key : α → String) (base items : List α) (item : α) :
    fresh key (base.map key) (items ++ [item]) =
      fresh key (base.map key) items ++
        match reference key base items (key item) with
        | none => [item]
        | some _ => [] := by
  rw [fresh_append_singleton]
  cases hfound : reference key base items (key item) with
  | none =>
    have := reference_eq_none.1 hfound
    rw [if_neg (by tauto)]
  | some found =>
    have hne : reference key base items (key item) ≠ none := by simp [hfound]
    rw [Ne, reference_eq_none] at hne
    rw [if_pos (by tauto)]

/-! ### Agreement -/

/-- Every item equals the last item of its identity in the base, where there is one, and every
other item of its identity. -/
structure Agree (key : α → String) (base items : List α) : Prop where
  base : ∀ item ∈ items, ∀ held, base.reverse.find? (key · == key item) = some held → held = item
  among : ∀ item ∈ items, ∀ other ∈ items, key item = key other → item = other

/-- Items agree exactly when each of them is what counts for its identity. -/
theorem agree_iff :
    Agree key base items ↔ ∀ item ∈ items, reference key base items (key item) = some item := by
  constructor
  · intro h item hitem
    cases hfound : reference key base items (key item) with
    | none => exact absurd (List.mem_map_of_mem hitem) (reference_eq_none.1 hfound).2
    | some found =>
      rw [reference_eq_or] at hfound
      cases hbase : base.reverse.find? (key · == key item) with
      | some held =>
        rw [hbase] at hfound
        cases hfound
        rw [h.base item hitem _ hbase]
      | none =>
        rw [hbase, Option.none_or] at hfound
        have hkey : key found = key item := by simpa using List.find?_some hfound
        rw [h.among found (List.mem_of_find?_eq_some hfound) item hitem hkey]
  · intro h
    refine ⟨fun item hitem held hheld => ?_, fun item hitem other hother heq => ?_⟩
    · have hitem := h item hitem
      rw [reference_eq_or, hheld] at hitem
      exact Option.some.inj hitem
    · exact Option.some.inj ((h item hitem).symm.trans (heq ▸ h other hother))

@[simp] theorem agree_nil (key : α → String) (base : List α) : Agree key base [] :=
  ⟨by simp, by simp⟩

theorem Agree.subset (h : Agree key base items) {fewer : List α} (hsub : fewer ⊆ items) :
    Agree key base fewer :=
  ⟨fun item hitem => h.base item (hsub hitem),
    fun item hitem other hother => h.among item (hsub hitem) other (hsub hother)⟩

theorem Agree.append (h : Agree key base items) {extra : List α} (hsub : extra ⊆ items) :
    Agree key (base ++ extra) items := by
  refine ⟨fun item hitem held hheld => ?_, h.among⟩
  rw [List.reverse_append, List.find?_append] at hheld
  cases hextra : extra.reverse.find? (key · == key item) with
  | some found =>
    rw [hextra] at hheld
    cases hheld
    have hmem : held ∈ extra := by simpa using List.mem_of_find?_eq_some hextra
    exact h.among held (hsub hmem) item hitem (by simpa using List.find?_some hextra)
  | none =>
    rw [hextra, Option.none_or] at hheld
    exact h.base item hitem held hheld

/-- An item whose identity the base has stands in the base. -/
theorem Agree.mem_base (h : Agree key base items) {item : α} (hitem : item ∈ items)
    (hkey : key item ∈ base.map key) : item ∈ base := by
  cases hbase : base.reverse.find? (key · == key item) with
  | none => exact absurd hkey (find?_reverse_eq_none.1 hbase)
  | some held =>
    rw [← h.base item hitem held hbase]
    simpa using List.mem_of_find?_eq_some hbase

theorem Agree.mem_extend (h : Agree key base items) {item : α} (hitem : item ∈ items) :
    item ∈ extend key base items := by
  rw [extend, List.mem_append]
  by_cases hkey : key item ∈ base.map key
  · exact Or.inl (h.mem_base hitem hkey)
  · obtain ⟨first, hfirst, heq⟩ := exists_mem_fresh hitem hkey
    rw [← h.among first (mem_of_mem_fresh hfirst) item hitem heq]
    exact Or.inr hfirst

/-- An extension brings no identity twice. -/
theorem nodup_keys_extend (h : (base.map key).Nodup) (items : List α) :
    ((extend key base items).map key).Nodup := by
  rw [extend, List.map_append]
  refine List.nodup_append.2 ⟨h, nodup_keys_fresh key _ items, ?_⟩
  intro held hheld added hadded heq
  obtain ⟨item, hitem, rfl⟩ := List.mem_map.1 hadded
  exact key_not_mem_of_mem_fresh hitem (heq ▸ hheld)

/-- Nor does it bring another identity twice under which the items agree as well. -/
theorem Agree.nodup_keys_fresh {other : α → String} (hagree : Agree other base items) :
    ((fresh key (base.map key) items).map other).Nodup := by
  refine List.Nodup.map_on ?_ (List.Nodup.of_map key (Merge.nodup_keys_fresh key _ items))
  intro item hitem second hsecond heq
  exact hagree.among item (mem_of_mem_fresh hitem) second (mem_of_mem_fresh hsecond) heq

/-- And it brings no such identity that the base has. -/
theorem Agree.key_not_mem_of_mem_fresh {other : α → String} (hagree : Agree other base items)
    {item : α} (hitem : item ∈ fresh key (base.map key) items) : other item ∉ base.map other := by
  intro hheld
  have hbase : item ∈ base := hagree.mem_base (mem_of_mem_fresh hitem) hheld
  exact Merge.key_not_mem_of_mem_fresh hitem (List.mem_map_of_mem hbase)

theorem Agree.nodup_keys_extend {other : α → String} (hagree : Agree other base items)
    (h : (base.map other).Nodup) : ((extend key base items).map other).Nodup := by
  rw [extend, List.map_append]
  refine List.nodup_append.2 ⟨h, hagree.nodup_keys_fresh, ?_⟩
  intro held hheld added hadded heq
  obtain ⟨item, hitem, rfl⟩ := List.mem_map.1 hadded
  exact hagree.key_not_mem_of_mem_fresh hitem (heq ▸ hheld)

end WebhookOperator.Merge
