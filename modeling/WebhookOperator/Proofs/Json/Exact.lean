import WebhookOperator.Proofs.Json.Leading

/-!
# Differences told exactly

Where two objects say the same under every key but one, their difference is what has to be done under
that key, and it is told operation by operation once the difference there is.  The difference of two
arrays of the same length is put together from those of their items, in order.  So a change that goes
deep into a document can be followed down, one step of the way after the other.

* `DifferAt.between_eq`: objects that differ under one key
* `DifferAt.leads_member`, `DifferAt.leads_dropped`: what their difference does to a held object
* `between_arr_map`: arrays whose items differ
-/

namespace WebhookOperator.Json

open Patch

/-! ### Changes of a part -/

def onMember (key : String) (change : Json → Json) : Json → Json
  | .obj members =>
    match members.lookup key with
    | some value => .obj (Entries.insert key (change value) members)
    | none => .obj members
  | document => document

def onItems (change : Json → Json) : Json → Json
  | .arr items => .arr (items.map change)
  | document => document

theorem onMember_of_lookup {members : Entries Json} {key : String} {value : Json}
    (h : members.lookup key = some value) (change : Json → Json) :
    onMember key change (.obj members) = .obj (Entries.insert key (change value) members) := by
  rw [onMember, h]

/-! ### Objects that differ under one key -/

/-- A list of parts of which only one is not empty. -/
theorem flatMap_eq_ite {α β : Type} [DecidableEq α] {items : List α} (hnodup : items.Nodup)
    {part : α → List β} {item : α} (h : ∀ other ∈ items, other ≠ item → part other = []) :
    items.flatMap part = if item ∈ items then part item else [] := by
  induction items with
  | nil => rfl
  | cons first rest ih =>
    obtain ⟨hfirst, hnodup⟩ := List.nodup_cons.1 hnodup
    have hrest := ih hnodup fun other hmem => h other (List.mem_cons_of_mem _ hmem)
    rw [List.flatMap_cons, hrest]
    by_cases heq : first = item
    · subst heq
      rw [if_neg hfirst, if_pos List.mem_cons_self, List.append_nil]
    · have hempty : part first = [] := h first List.mem_cons_self heq
      have hmem : item ∈ first :: rest ↔ item ∈ rest := by
        rw [List.mem_cons]
        exact or_iff_right (Ne.symm heq)
      rw [hempty, List.nil_append]
      by_cases hitem : item ∈ rest
      · rw [if_pos hitem, if_pos (hmem.2 hitem)]
      · rw [if_neg hitem, if_neg fun h => hitem (hmem.1 h)]

/-- Two sorted objects that say the same under every key but one, with what they say there. -/
structure DifferAt (key : String) (old new : Option Json) (before after : Json) : Prop where
  before_object : ∃ members, before = obj members
  after_object : ∃ members, after = obj members
  before_sorted : before.Sorted
  after_sorted : after.Sorted
  before_member : before.member? key = old
  after_member : after.member? key = new
  other_member : ∀ other, other ≠ key → after.member? other = before.member? other

namespace DifferAt

variable {key : String} {old new : Option Json} {before after : Json}

/-- Their difference is what has to be done under the key. -/
theorem between_eq (h : DifferAt key old new before after) :
    between before after = memberChange key old new := by
  obtain ⟨⟨before, rfl⟩, ⟨after, rfl⟩, hbefore, hafter, hold, hnew, hother⟩ := h
  have hsorted := (sorted_obj.1 hbefore).1
  have hsorted' := (sorted_obj.1 hafter).1
  have hothers : ∀ other ∈ changedKeys before after, other ≠ key →
      memberChange other (before.lookup other) (after.lookup other) = [] := by
    intro other _ hne
    have hsame : after.lookup other = before.lookup other := hother other hne
    rw [hsame]
    exact memberChange_self (fun _ hdocument => sorted_of_lookup hbefore hdocument) other
  have hold : before.lookup key = old := hold
  have hnew : after.lookup key = new := hnew
  rw [between_obj hsorted hsorted', flatMap_eq_ite (nodup_changedKeys hsorted hsorted') hothers,
    hold, hnew]
  split
  · rfl
  next hkey =>
    -- neither object has the key, and then there is nothing to do under it
    rw [mem_changedKeys, not_or, Option.not_isSome_iff_eq_none, Option.not_isSome_iff_eq_none,
      hold, hnew] at hkey
    rw [hkey.1, hkey.2]
    rfl

variable {held : Entries Json} {value value' : Json}

theorem leads_member {old new : Json} (h : DifferAt key (some old) (some new) before after)
    (hheld : held.Sorted) (hvalue : held.lookup key = some value) (hleads : Leads old new value value') :
    Leads before after (obj held) (obj (Entries.insert key value' held)) := by
  rw [Leads, h.between_eq, memberChange]
  exact perform?_within_member (fun _ => inner_of_mem_differences _ _ _) hheld hvalue hleads

/-- It loses its member where the new object has none. -/
theorem leads_dropped {old : Json} (h : DifferAt key (some old) none before after)
    (hvalue : held.lookup key = some value) :
    Leads before after (obj held) (obj (Entries.erase key held)) := by
  rw [Leads, h.between_eq, memberChange]
  simp [perform?, Operation.perform?, dropChild, hvalue]

end DifferAt

/-! ### Arrays whose items differ -/

theorem itemDifferences_map {α : Type} (old new : α → Json) (items : List α) (position : Nat) :
    itemDifferences .root position (items.map old) (items.map new) =
      (items.zipIdx position).flatMap fun entry =>
        (between (old entry.1) (new entry.1)).map (.within [Nat.repr entry.2]) := by
  induction items generalizing position with
  | nil => simp [itemDifferences]
  | cons item items ih =>
    rw [List.map_cons, List.map_cons, itemDifferences, differences_item, ih, List.zipIdx_cons,
      List.flatMap_cons]

/-- The difference of two arrays with one item for each item of a list. -/
theorem between_arr_map {α : Type} (old new : α → Json) (items : List α) :
    between (arr (items.map old)) (arr (items.map new)) =
      items.zipIdx.flatMap fun entry =>
        (between (old entry.1) (new entry.1)).map (.within [Nat.repr entry.2]) := by
  have hlength : (items.map old).length - (items.map new).length = 0 := by
    rw [List.length_map, List.length_map, Nat.sub_self]
  rw [between, differences, hlength, List.replicate_zero, List.append_nil, itemDifferences_map]

end WebhookOperator.Json
