import WebhookOperator.Proofs.Json.Difference
import WebhookOperator.Proofs.Json.Place

/-!
# What a patch does

The difference of two documents is made of the differences of their parts, each moved below the step
that leads to the part.  So a patch can be followed part by part, whatever else stands around.

* `Operation.perform?_within`: an operation below a step changes the child that the step leads to
* `Patch.perform?_within_member`, `Patch.perform?_within_item`: so does a patch
* `Patch.differences_within`: the same difference further down
* `Patch.follow?_perform?`: a patch that stays in some sites leaves every other place alone
-/

namespace WebhookOperator.Json

/-! ### Operations below a step -/

namespace Operation

/-- The operation, on places below some steps. -/
def within (steps : List String) : Operation → Operation
  | add path value => add ⟨steps ++ path.steps⟩ value
  | remove path => remove ⟨steps ++ path.steps⟩
  | replace path value => replace ⟨steps ++ path.steps⟩ value
  | move source path => move ⟨steps ++ source.steps⟩ ⟨steps ++ path.steps⟩
  | copy source path => copy ⟨steps ++ source.steps⟩ ⟨steps ++ path.steps⟩
  | test path value => test ⟨steps ++ path.steps⟩ value

/-- The operation is one that a difference may hold: it adds to a document or takes from it, or it
puts a value in the place of another. -/
def Inner : Operation → Prop
  | add path _ => path.steps ≠ []
  | remove path => path.steps ≠ []
  | replace _ _ => True
  | _ => False

theorem swapChild_eq_changeChild (value : Json) (step : String) (document : Json) :
    swapChild value step document = changeChild (fun _ => some value) step document := by
  cases document with
  | obj members => cases hlookup : members.lookup step <;> simp [swapChild, changeChild, hlookup]
  | arr items =>
    cases hposition : Pointer.position? step with
    | none => simp [swapChild, changeChild, hposition]
    | some position =>
      by_cases hlt : position < items.length <;> simp [swapChild, changeChild, hposition, hlt]
  | _ => rfl

/-- Below a step the operation does to the child what it does to a document. -/
theorem perform?_within {operation : Operation} (h : operation.Inner) (step : String)
    (document : Json) :
    (operation.within [step]).perform? document =
      changeChild (fun child => operation.perform? child) step document := by
  cases operation with
  | add path value => exact changePlace_cons h _ _ step document
  | remove path => exact changePlace_cons h _ _ step document
  | replace path value =>
    by_cases hroot : path.steps = []
    · obtain rfl : path = ⟨[]⟩ := congrArg Pointer.mk hroot
      exact swapChild_eq_changeChild value step document
    · exact changePlace_cons hroot _ _ step document
  | _ => cases h

end Operation

namespace Patch

theorem perform?_cons (operation : Operation) (patch : Patch) (document : Json) :
    perform? (operation :: patch) document = (operation.perform? document).bind (perform? patch) :=
  List.foldlM_cons

theorem perform?_append (patch more : Patch) (document : Json) :
    perform? (patch ++ more) document = (perform? patch document).bind (perform? more) := by
  rw [perform?, List.foldlM_append]
  rfl

theorem perform?_within_member {patch : Patch} (hinner : ∀ operation ∈ patch, operation.Inner)
    {members : Entries Json} (hsorted : members.Sorted) {key : String} {value value' : Json}
    (hlookup : members.lookup key = some value) (h : perform? patch value = some value') :
    perform? (patch.map (.within [key])) (obj members) =
      some (obj (Entries.insert key value' members)) := by
  induction patch generalizing members value with
  | nil =>
    cases h
    rw [Entries.insert_eq_self hsorted hlookup]
    rfl
  | cons operation patch ih =>
    rw [perform?_cons] at h
    obtain ⟨changed, hchanged, h⟩ := Option.bind_eq_some_iff.1 h
    have hhead := Operation.perform?_within (hinner operation List.mem_cons_self) key (obj members)
    simp only [changeChild, hlookup, Option.bind_eq_bind, Option.bind_some, hchanged] at hhead
    rw [List.map_cons, perform?_cons, hhead]
    have hrest := ih (fun other hmem => hinner other (List.mem_cons_of_mem _ hmem))
      (Entries.sorted_insert hsorted key changed)
      (by rw [Entries.lookup_insert, if_pos rfl]) h
    rw [Entries.insert_insert hsorted] at hrest
    exact hrest

theorem perform?_within_item {patch : Patch} (hinner : ∀ operation ∈ patch, operation.Inner)
    {before after : List Json} {value value' : Json} (h : perform? patch value = some value') :
    perform? (patch.map (.within [Nat.repr before.length])) (arr (before ++ value :: after)) =
      some (arr (before ++ value' :: after)) := by
  induction patch generalizing value with
  | nil =>
    cases h
    rfl
  | cons operation patch ih =>
    rw [perform?_cons] at h
    obtain ⟨changed, hchanged, h⟩ := Option.bind_eq_some_iff.1 h
    have hposition : Pointer.position? (Nat.repr before.length) = some before.length :=
      Pointer.position?_eq_some_iff.2 rfl
    have hhead := Operation.perform?_within (hinner operation List.mem_cons_self)
      (Nat.repr before.length) (arr (before ++ value :: after))
    simp only [changeChild, hposition, Option.bind_eq_bind, Option.bind_some, hchanged,
      List.getElem?_append_right (Nat.le_refl _), Nat.sub_self, List.getElem?_cons_zero,
      List.set_append_right _ _ (Nat.le_refl _), List.set_cons_zero] at hhead
    rw [List.map_cons, perform?_cons, hhead]
    exact ih (fun other hmem => hinner other (List.mem_cons_of_mem _ hmem)) h

/-! ### Sites of a patch -/

/-- The operation leaves every place alone that is apart from the site. -/
def StaysIn (site : List String) (operation : Operation) : Prop :=
  ∀ document changed place, operation.perform? document = some changed → Apart site place →
    changed.follow? place = document.follow? place

/-- Nothing is shifted where a value is added as a member. -/
theorem staysIn_add {site : List String}
    (hsite : ∀ last, site.getLast? = some last → Pointer.position? last = none ∧ last ≠ "-")
    (rest : List String) (value : Json) : StaysIn site (.add ⟨site ++ rest⟩ value) :=
  fun _ _ _ h hapart => follow?_changePlace (fun _ last hlast =>
    keepsOthers_putChild (hsite last hlast).1 (hsite last hlast).2 value) h hapart

theorem staysIn_replace (site rest : List String) (value : Json) :
    StaysIn site (.replace ⟨site ++ rest⟩ value) :=
  fun _ _ _ h hapart => follow?_changePlace (fun _ last _ => keepsOthers_swapChild last value) h hapart

/-- Nothing is shifted either where a member is taken out. -/
theorem staysIn_remove {site : List String}
    (hsite : ∀ last, site.getLast? = some last → Pointer.position? last = none) :
    StaysIn site (.remove ⟨site⟩) := by
  intro document changed place h hapart
  rw [← List.append_nil site] at h
  exact follow?_changePlace (fun _ last hlast => keepsOthers_dropChild (hsite last hlast)) h hapart

/-- What is apart from all sites of a patch stays as it is. -/
theorem follow?_perform? {patch : Patch} {sites : List (List String)}
    (hstays : ∀ operation ∈ patch, ∃ site ∈ sites, StaysIn site operation)
    {document changed : Json} (h : perform? patch document = some changed) {place : List String}
    (hapart : ∀ site ∈ sites, Apart site place) : changed.follow? place = document.follow? place := by
  induction patch generalizing document with
  | nil =>
    cases h
    rfl
  | cons operation patch ih =>
    rw [perform?_cons] at h
    obtain ⟨between, hbetween, h⟩ := Option.bind_eq_some_iff.1 h
    obtain ⟨site, hsite, hoperation⟩ := hstays operation List.mem_cons_self
    rw [ih (fun other hmem => hstays other (List.mem_cons_of_mem _ hmem)) h]
    exact hoperation document between place hbetween (hapart site hsite)

/-! ### Differences below a step -/

theorem removals_within (steps : List String) (path : Pointer) (before after : Entries Json) :
    removals ⟨steps ++ path.steps⟩ before after =
      (removals path before after).map (.within steps) := by
  rw [removals, removals, List.map_filterMap]
  congr 1
  funext member
  by_cases h : (after.lookup member.1).isSome <;>
    simp [h, Operation.within, Pointer.key]

theorem item_within (steps : List String) (path : Pointer) (position : Nat) :
    Pointer.item ⟨steps ++ path.steps⟩ position = ⟨steps ++ (path.item position).steps⟩ := by
  simp [Pointer.item, Pointer.key]

theorem key_within (steps : List String) (path : Pointer) (key : String) :
    Pointer.key ⟨steps ++ path.steps⟩ key = ⟨steps ++ (path.key key).steps⟩ := by
  simp [Pointer.key]

mutual

/-- The same difference further down. -/
theorem differences_within (steps : List String) (path : Pointer) (before : Json) :
    ∀ after : Json, differences ⟨steps ++ path.steps⟩ before after =
      (differences path before after).map (.within steps)
  | .null => by by_cases h : before = .null <;> simp [differences, h, Operation.within]
  | .bool value => by by_cases h : before = .bool value <;> simp [differences, h, Operation.within]
  | .num value => by by_cases h : before = .num value <;> simp [differences, h, Operation.within]
  | .str value => by by_cases h : before = .str value <;> simp [differences, h, Operation.within]
  | .arr items => by
    cases before with
    | arr old =>
      rw [differences, differences, itemDifferences_within steps path 0 old items, item_within]
      simp [Operation.within]
    | _ => simp [differences, Operation.within]
  | .obj members => by
    cases before with
    | obj old =>
      rw [differences, differences, memberDifferences_within steps path old members,
        removals_within, List.map_append]
    | _ => simp [differences, Operation.within]

theorem itemDifferences_within (steps : List String) (path : Pointer) (position : Nat)
    (before : List Json) :
    ∀ after : List Json, itemDifferences ⟨steps ++ path.steps⟩ position before after =
      (itemDifferences path position before after).map (.within steps)
  | [] => by simp [itemDifferences]
  | new :: after => by
    cases before with
    | nil =>
      rw [itemDifferences, itemDifferences, item_within,
        itemDifferences_within steps path (position + 1) [] after]
      rfl
    | cons old before =>
      rw [itemDifferences, itemDifferences, item_within, differences_within steps _ old new,
        itemDifferences_within steps path (position + 1) before after, List.map_append]

theorem memberDifferences_within (steps : List String) (path : Pointer) (before : Entries Json) :
    ∀ after : List (String × Json), memberDifferences ⟨steps ++ path.steps⟩ before after =
      (memberDifferences path before after).map (.within steps)
  | [] => by simp [memberDifferences]
  | (key, new) :: after => by
    rw [memberDifferences, memberDifferences, memberDifferences_within steps path before after,
      List.map_append, key_within]
    cases before.lookup key with
    | none => rfl
    | some old => simp only [differences_within steps _ old new]

end

theorem eq_remove_of_mem_removals {operation : Operation} {path : Pointer}
    {before after : Entries Json} (h : operation ∈ removals path before after) :
    ∃ key, operation = .remove (path.key key) := by
  obtain ⟨⟨key, value⟩, _, hmember⟩ := List.mem_filterMap.1 h
  simp only at hmember
  split at hmember
  · cases hmember
  · exact ⟨key, (Option.some.inj hmember).symm⟩

mutual

/-- A difference never adds or takes out the whole document. -/
theorem inner_of_mem_differences {operation : Operation} (path : Pointer) (before : Json) :
    ∀ after : Json, operation ∈ differences path before after → operation.Inner
  | .null, h => by
    by_cases heq : before = .null <;> simp_all [differences, Operation.Inner]
  | .bool value, h => by
    by_cases heq : before = .bool value <;> simp_all [differences, Operation.Inner]
  | .num value, h => by
    by_cases heq : before = .num value <;> simp_all [differences, Operation.Inner]
  | .str value, h => by
    by_cases heq : before = .str value <;> simp_all [differences, Operation.Inner]
  | .arr items, h => by
    cases before with
    | arr old =>
      rw [differences] at h
      rcases List.mem_append.1 h with h | h
      · exact inner_of_mem_itemDifferences path 0 old items h
      · obtain rfl := List.eq_of_mem_replicate h
        simp [Operation.Inner, Pointer.item, Pointer.key]
    | _ => simp_all [differences, Operation.Inner]
  | .obj members, h => by
    cases before with
    | obj old =>
      rw [differences] at h
      rcases List.mem_append.1 h with h | h
      · exact inner_of_mem_memberDifferences path old members h
      · obtain ⟨key, rfl⟩ := eq_remove_of_mem_removals h
        simp [Operation.Inner, Pointer.key]
    | _ => simp_all [differences, Operation.Inner]

theorem inner_of_mem_itemDifferences {operation : Operation} (path : Pointer) (position : Nat)
    (before : List Json) :
    ∀ after : List Json, operation ∈ itemDifferences path position before after → operation.Inner
  | [], h => by simp [itemDifferences] at h
  | new :: after, h => by
    cases before with
    | nil =>
      rw [itemDifferences] at h
      rcases List.mem_cons.1 h with rfl | h
      · simp [Operation.Inner, Pointer.item, Pointer.key]
      · exact inner_of_mem_itemDifferences path (position + 1) [] after h
    | cons old before =>
      rw [itemDifferences] at h
      rcases List.mem_append.1 h with h | h
      · exact inner_of_mem_differences _ old new h
      · exact inner_of_mem_itemDifferences path (position + 1) before after h

theorem inner_of_mem_memberDifferences {operation : Operation} (path : Pointer)
    (before : Entries Json) :
    ∀ after : List (String × Json), operation ∈ memberDifferences path before after →
      operation.Inner
  | [], h => by simp [memberDifferences] at h
  | (key, new) :: after, h => by
    rw [memberDifferences] at h
    rcases List.mem_append.1 h with h | h
    · cases hold : before.lookup key with
      | none =>
        rw [hold] at h
        obtain rfl := List.mem_singleton.1 h
        simp [Operation.Inner, Pointer.key]
      | some old =>
        rw [hold] at h
        exact inner_of_mem_differences _ old new h
    · exact inner_of_mem_memberDifferences path before after h

end

end Patch

end WebhookOperator.Json
