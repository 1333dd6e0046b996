import Mathlib.Data.List.Basic
import WebhookOperator.Proofs.Json.Performing

/-!
# Where a difference leads

`Leads before after held held'` says that the difference of `before` and `after`, performed on
`held`, gives `held'`.  The held document is the one that a cluster stores; the written one comes of
reading it as a value and writing the value again, so it lacks what the value does not know and has
defaults that nobody wrote.  It is enough that both lie alike where the difference changes something,
and this file says part by part what that means.

* `MemberLeads`: what may stand under a key, for the difference to do its work there
* `exists_leads_obj`: objects whose members lead lead themselves
* `ItemsLead.leads`: arrays whose items lead lead themselves
* `leads_self`: the difference of two documents leads from the one to the other
-/

namespace WebhookOperator.Json

open Patch

/-- The difference of two documents, performed on a third one, gives a fourth. -/
def Leads (before after held held' : Json) : Prop :=
  perform? (between before after) held = some held'

theorem Leads.same {document : Json} (h : document.Sorted) (held : Json) :
    Leads document document held held := by
  rw [Leads, between, differences_self _ document h]
  rfl

/-! ### Members -/

/-- What the difference of two objects does under a key, given what they say there. -/
def memberChange (key : String) : Option Json → Option Json → Patch
  | none, none => []
  | none, some after => [.add ⟨[key]⟩ after]
  | some before, some after => (between before after).map (.within [key])
  | some _, none => [.remove ⟨[key]⟩]

theorem memberChange_self {written : Option Json} (h : ∀ document ∈ written, document.Sorted)
    (key : String) : memberChange key written written = [] := by
  cases written with
  | none => rfl
  | some document =>
    rw [memberChange, between, differences_self _ document (h document rfl), List.map_nil]

/-- The keys of two objects: those of the new one, and then those that it lacks. -/
def changedKeys (before after : Entries Json) : List String :=
  after.map (·.1) ++ (before.map (·.1)).filter fun key => (after.lookup key).isNone

theorem differences_key (key : String) (before after : Json) :
    differences (Pointer.root.key key) before after =
      (between before after).map (.within [key]) :=
  differences_within [key] .root before after

theorem memberDifferences_root (before : Entries Json) (members : List (String × Json)) :
    memberDifferences .root before members =
      members.flatMap fun member =>
        memberChange member.1 (before.lookup member.1) (some member.2) := by
  induction members with
  | nil => simp [memberDifferences]
  | cons member members ih =>
    obtain ⟨key, new⟩ := member
    rw [memberDifferences, ih, List.flatMap_cons]
    cases before.lookup key with
    | none => rfl
    | some old => simp only [differences_key, memberChange]

theorem removals_root (before after members : Entries Json)
    (h : ∀ member ∈ members, before.lookup member.1 = some member.2) :
    removals .root members after =
      ((members.map (·.1)).filter fun key => (after.lookup key).isNone).flatMap fun key =>
        memberChange key (before.lookup key) (after.lookup key) := by
  induction members with
  | nil => rfl
  | cons member members ih =>
    obtain ⟨key, old⟩ := member
    have hold : before.lookup key = some old := h (key, old) List.mem_cons_self
    have ih := ih fun other hmem => h other (List.mem_cons_of_mem _ hmem)
    rw [removals] at ih ⊢
    rw [List.filterMap_cons, ih]
    cases hnew : after.lookup key with
    | none => simp [hnew, hold, memberChange, Pointer.key, Pointer.root]
    | some new => simp [hnew]

/-- The difference of two objects, key by key. -/
theorem between_obj {before after : Entries Json} (hbefore : before.Sorted) (hafter : after.Sorted) :
    between (obj before) (obj after) =
      (changedKeys before after).flatMap fun key =>
        memberChange key (before.lookup key) (after.lookup key) := by
  rw [between, differences, changedKeys, List.flatMap_append, memberDifferences_root,
    removals_root before after before fun member hmem => hbefore.lookup_of_mem hmem]
  congr 1
  rw [List.flatMap_map]
  refine List.flatMap_congr fun member hmem => ?_
  rw [hafter.lookup_of_mem hmem]

theorem exists_mem_memberChange {before after : Entries Json} (hbefore : before.Sorted)
    (hafter : after.Sorted) {operation : Operation}
    (h : operation ∈ between (obj before) (obj after)) :
    ∃ key, operation ∈ memberChange key (before.lookup key) (after.lookup key) := by
  rw [between_obj hbefore hafter] at h
  obtain ⟨key, _, hkey⟩ := List.mem_flatMap.1 h
  exact ⟨key, hkey⟩

theorem mem_changedKeys {before after : Entries Json} {key : String} :
    key ∈ changedKeys before after ↔
      (after.lookup key).isSome ∨ (before.lookup key).isSome := by
  rw [changedKeys, List.mem_append, List.mem_filter, Entries.mem_keys_iff, Entries.mem_keys_iff]
  cases after.lookup key <;> simp

theorem nodup_changedKeys {before after : Entries Json} (hbefore : before.Sorted)
    (hafter : after.Sorted) : (changedKeys before after).Nodup := by
  refine List.nodup_append.2 ⟨hafter.nodup_keys, hbefore.nodup_keys.filter _, ?_⟩
  intro key hkey other hother heq
  have hmissing := (List.mem_filter.1 hother).2
  have hfound := Entries.mem_keys_iff.1 hkey
  rw [heq] at hfound
  simp [Option.isNone_iff_eq_none.1 hmissing] at hfound

/-- What may stand under a key of a held object, for a change of the written one to be done to it:
anything where the written objects say the same or the old one says nothing, and else a member that
goes along with the old one. -/
inductive MemberLeads : Option Json → Option Json → Option Json → Option Json → Prop
  | same {written : Option Json} (h : ∀ document ∈ written, document.Sorted) (held : Option Json) :
      MemberLeads written written held held
  | put (after : Json) (held : Option Json) : MemberLeads none (some after) held (some after)
  | inside {before after held held' : Json} (h : Leads before after held held') :
      MemberLeads (some before) (some after) (some held) (some held')
  | drop (before held : Json) : MemberLeads (some before) none (some held) none

theorem MemberLeads.eq_of_none {held held' : Option Json} (h : MemberLeads none none held held') :
    held = held' := by
  cases h
  rfl

theorem perform?_memberChange {members : Entries Json} (hsorted : members.Sorted) {key : String}
    {before after held' : Option Json} (h : MemberLeads before after (members.lookup key) held') :
    ∃ members', perform? (memberChange key before after) (obj members) = some (obj members') ∧
      Entries.Sorted members' ∧
      ∀ other, members'.lookup other = if other = key then held' else members.lookup other := by
  generalize hheld : members.lookup key = held at h
  cases h with
  | same h =>
    rw [memberChange_self h]
    refine ⟨members, rfl, hsorted, fun other => ?_⟩
    split
    next heq => rw [heq, hheld]
    · rfl
  | put after =>
    exact ⟨_, rfl, Entries.sorted_insert hsorted key after, fun other =>
      Entries.lookup_insert key other after⟩
  | @inside before after held held' h =>
    refine ⟨_, perform?_within_member (fun operation => inner_of_mem_differences _ _ _) hsorted hheld h,
      Entries.sorted_insert hsorted key held', fun other => Entries.lookup_insert key other held'⟩
  | drop before held =>
    refine ⟨Entries.erase key members, ?_, Entries.sorted_erase hsorted key, fun other =>
      Entries.lookup_erase members key other⟩
    simp [memberChange, perform?, Operation.perform?, dropChild, hheld]

/-- Changes under different keys do not disturb each other. -/
theorem perform?_memberChanges {keys : List String} (hkeys : keys.Nodup)
    {before after held' : String → Option Json} {members : Entries Json} (hsorted : members.Sorted)
    (h : ∀ key ∈ keys, MemberLeads (before key) (after key) (members.lookup key) (held' key)) :
    ∃ members', perform? (keys.flatMap fun key => memberChange key (before key) (after key))
        (obj members) = some (obj members') ∧
      Entries.Sorted members' ∧
      ∀ other, members'.lookup other = if other ∈ keys then held' other else members.lookup other := by
  induction keys generalizing members with
  | nil => exact ⟨members, rfl, hsorted, fun other => by simp⟩
  | cons key keys ih =>
    obtain ⟨hkey, hkeys⟩ := List.nodup_cons.1 hkeys
    obtain ⟨changed, hperform, hchanged, hlookup⟩ :=
      perform?_memberChange hsorted (h key List.mem_cons_self)
    have hrest : ∀ other ∈ keys,
        MemberLeads (before other) (after other) (changed.lookup other) (held' other) := by
      intro other hmem
      have hne : other ≠ key := fun heq => hkey (heq ▸ hmem)
      rw [hlookup, if_neg hne]
      exact h other (List.mem_cons_of_mem _ hmem)
    obtain ⟨members', hperform', hsorted', hlookup'⟩ := ih hkeys hchanged hrest
    refine ⟨members', ?_, hsorted', fun other => ?_⟩
    · rw [List.flatMap_cons, perform?_append, hperform, Option.bind_some, hperform']
    · rw [hlookup', hlookup]
      by_cases heq : other = key
      · subst heq
        simp [hkey]
      · simp [heq]

/-- **Objects whose members lead lead themselves.** -/
theorem exists_leads_obj {before after held : Entries Json} (hbefore : before.Sorted)
    (hafter : after.Sorted) (hheld : held.Sorted) {held' : String → Option Json}
    (h : ∀ key, MemberLeads (before.lookup key) (after.lookup key) (held.lookup key) (held' key)) :
    ∃ members, Leads (obj before) (obj after) (obj held) (obj members) ∧ Entries.Sorted members ∧
      ∀ key, members.lookup key = held' key := by
  obtain ⟨members, hperform, hsorted, hlookup⟩ :=
    perform?_memberChanges (nodup_changedKeys hbefore hafter) hheld fun key _ => h key
  refine ⟨members, ?_, hsorted, fun key => ?_⟩
  · rw [Leads, between_obj hbefore hafter, hperform]
  · rw [hlookup]
    split
    · rfl
    next hkey =>
      -- neither object says anything under the key, so nothing is done there
      rw [mem_changedKeys, not_or, Option.not_isSome_iff_eq_none, Option.not_isSome_iff_eq_none] at hkey
      have h := h key
      rw [hkey.1, hkey.2] at h
      exact h.eq_of_none

/-! ### Items -/

/-- How the items of an array go along with those of another: as far as both written arrays reach,
item by item, and then there are only items that are new, or only items that are taken out. -/
inductive ItemsLead : List Json → List Json → List Json → List Json → Prop
  | added (items : List Json) : ItemsLead [] items [] items
  | dropped (before held : List Json) (h : before.length = held.length) : ItemsLead before [] held []
  | item {before after held held' : Json} {olds news items items' : List Json}
      (h : Leads before after held held') (rest : ItemsLead olds news items items') :
      ItemsLead (before :: olds) (after :: news) (held :: items) (held' :: items')

/-- The changes of items that follow those of `start`. -/
theorem perform?_added (start items : List Json) :
    perform? (itemDifferences .root start.length [] items) (arr start) =
      some (arr (start ++ items)) := by
  induction items generalizing start with
  | nil => simp [itemDifferences, perform?]
  | cons item items ih =>
    have hend : Nat.repr start.length ≠ "-" := fun heq => by
      have hposition := Pointer.position?_eq_some_iff.2 heq.symm
      simp [Pointer.position?] at hposition
    have hposition : Pointer.position? (Nat.repr start.length) = some start.length :=
      Pointer.position?_eq_some_iff.2 rfl
    have hput : (Operation.add (Pointer.root.item start.length) item).perform? (arr start) =
        some (arr (start ++ [item])) := by
      simp [Operation.perform?, changePlace, changeAt, Pointer.item, Pointer.key, Pointer.root,
        putChild, hend, hposition]
    have hrest := ih (start ++ [item])
    rw [List.length_append, List.length_singleton, List.append_assoc] at hrest
    rw [itemDifferences, perform?_cons, hput, Option.bind_some, hrest]
    rfl

theorem perform?_dropped (kept dropped : List Json) :
    perform? (List.replicate dropped.length (.remove (Pointer.root.item kept.length)))
      (arr (kept ++ dropped)) = some (arr kept) := by
  induction dropped with
  | nil => simp [perform?]
  | cons item dropped ih =>
    have hposition : Pointer.position? (Nat.repr kept.length) = some kept.length :=
      Pointer.position?_eq_some_iff.2 rfl
    have hdrop : (Operation.remove (Pointer.root.item kept.length)).perform?
        (arr (kept ++ item :: dropped)) = some (arr (kept ++ dropped)) := by
      simp [Operation.perform?, changePlace, changeAt, Pointer.item, Pointer.key, Pointer.root,
        dropChild, hposition, List.eraseIdx_append_of_length_le]
    rw [List.length_cons, List.replicate_succ, perform?_cons, hdrop, Option.bind_some, ih]

theorem differences_item (position : Nat) (before after : Json) :
    differences (Pointer.root.item position) before after =
      (between before after).map (.within [Nat.repr position]) :=
  differences_within [Nat.repr position] .root before after

theorem exists_mem_itemChange {operation : Operation} {before after : List Json} {position : Nat}
    (h : operation ∈ itemDifferences .root position before after) :
    (∃ (index : Nat) (old new : Json), before[index]? = some old ∧ after[index]? = some new ∧
      ∃ inner ∈ between old new, operation = inner.within [Nat.repr (position + index)]) ∨
    ∃ (index : Nat) (new : Json), before.length ≤ index ∧ index < after.length ∧
      operation = .add ⟨[Nat.repr (position + index)]⟩ new := by
  induction after generalizing before position with
  | nil => simp [itemDifferences] at h
  | cons new after ih =>
    have hstep (index : Nat) : position + 1 + index = position + (index + 1) := by omega
    cases before with
    | nil =>
      rw [itemDifferences] at h
      rcases List.mem_cons.1 h with rfl | h
      · exact Or.inr ⟨0, new, Nat.zero_le _, Nat.succ_pos _, rfl⟩
      · obtain ⟨_, _, _, hold, _⟩ | ⟨index, added, _, hlt, rfl⟩ := ih h
        · simp at hold
        · exact Or.inr ⟨index + 1, added, Nat.zero_le _, Nat.succ_lt_succ hlt, by rw [hstep]⟩
    | cons old before =>
      rw [itemDifferences, differences_item] at h
      rcases List.mem_append.1 h with h | h
      · obtain ⟨inner, hinner, rfl⟩ := List.mem_map.1 h
        exact Or.inl ⟨0, old, new, rfl, rfl, inner, hinner, rfl⟩
      · obtain ⟨index, found, added, hfound, hadded, inner, hinner, rfl⟩ |
          ⟨index, added, hle, hlt, rfl⟩ := ih h
        · exact Or.inl ⟨index + 1, found, added, hfound, hadded, inner, hinner, by rw [hstep]⟩
        · exact Or.inr ⟨index + 1, added, Nat.succ_le_succ hle, Nat.succ_lt_succ hlt, by rw [hstep]⟩

/-- Every change of an array that does not become shorter is one of an item, or a new item. -/
theorem exists_mem_between_arr {operation : Operation} {before after : List Json}
    (hlength : before.length ≤ after.length) (h : operation ∈ between (arr before) (arr after)) :
    (∃ (index : Nat) (old new : Json), before[index]? = some old ∧ after[index]? = some new ∧
      ∃ inner ∈ between old new, operation = inner.within [Nat.repr index]) ∨
    ∃ (index : Nat) (new : Json), before.length ≤ index ∧ index < after.length ∧
      operation = .add ⟨[Nat.repr index]⟩ new := by
  rw [between, differences, Nat.sub_eq_zero_of_le hlength, List.replicate_zero, List.append_nil] at h
  have hchange := exists_mem_itemChange h
  simpa only [Nat.zero_add] using hchange

/-- **Arrays whose items lead lead themselves.** -/
theorem ItemsLead.leads {before after held held' : List Json}
    (h : ItemsLead before after held held') : Leads (arr before) (arr after) (arr held) (arr held') := by
  have general : ∀ start : List Json,
      perform? (itemDifferences .root start.length before after ++
        List.replicate (before.length - after.length)
          (.remove (Pointer.root.item (start.length + after.length)))) (arr (start ++ held)) =
        some (arr (start ++ held')) := by
    induction h with
    | added items =>
      intro start
      simpa using perform?_added start items
    | dropped before held hlength =>
      intro start
      rw [hlength]
      simpa [itemDifferences] using perform?_dropped start held
    | @item before after held held' olds news items items' h rest ih =>
      intro start
      have hinner : ∀ operation ∈ between before after, operation.Inner :=
        fun operation => inner_of_mem_differences _ _ _
      have hhead : perform? ((between before after).map (.within [Nat.repr start.length]))
          (arr (start ++ held :: items)) = some (arr (start ++ held' :: items)) :=
        perform?_within_item hinner h
      have hrest := ih (start ++ [held'])
      rw [List.length_append, List.length_singleton, List.append_assoc, List.append_assoc,
        List.singleton_append, List.singleton_append] at hrest
      rw [itemDifferences, differences_item, List.append_assoc, perform?_append, hhead,
        Option.bind_some, List.length_cons, List.length_cons, Nat.add_sub_add_right,
        Nat.add_comm news.length, ← Nat.add_assoc, hrest]
  have hpatch := general []
  simp only [List.length_nil, Nat.zero_add, List.nil_append] at hpatch
  rw [Leads, between, differences, hpatch]

/-! ### A document and itself -/

theorem leads_replace {before after : Json} (h : between before after = [.replace .root after]) :
    Leads before after before after := by
  rw [Leads, h]
  rfl

theorem leads_ite {before after : Json}
    (h : between before after = if before = after then [] else [.replace .root after]) :
    Leads before after before after := by
  by_cases heq : before = after
  · rw [if_pos heq] at h
    rw [Leads, h, heq]
    rfl
  · rw [if_neg heq] at h
    exact leads_replace h

mutual

/-- **The difference of two documents leads from the one to the other.** -/
theorem leads_self : ∀ {before after : Json}, before.Sorted → after.Sorted →
    Leads before after before after
  | before, .null, _, _ => leads_ite (by rw [between, differences])
  | before, .bool _, _, _ => leads_ite (by rw [between, differences])
  | before, .num _, _, _ => leads_ite (by rw [between, differences])
  | before, .str _, _, _ => leads_ite (by rw [between, differences])
  | before, .arr items, hbefore, hafter => by
    cases before with
    | arr old =>
      rw [Sorted] at hbefore hafter
      exact (itemsLead_self hbefore hafter).leads
    | _ => exact leads_replace (by rw [between, differences]; simp)
  | before, .obj members, hbefore, hafter => by
    cases before with
    | obj old =>
      rw [Sorted] at hbefore hafter
      obtain ⟨found, hleads, hsorted, hlookup⟩ := exists_leads_obj hbefore.1 hafter.1 hbefore.1
        fun key => membersLead_self hbefore.2 hafter.2 key
      obtain rfl : found = members := Entries.ext_lookup hsorted hafter.1 hlookup
      exact hleads
    | _ => exact leads_replace (by rw [between, differences]; simp)

theorem itemsLead_self : ∀ {before after : List Json}, SortedItems before → SortedItems after →
    ItemsLead before after before after
  | [], after, _, _ => .added after
  | old :: before, [], _, _ => .dropped _ _ rfl
  | old :: before, new :: after, hbefore, hafter => by
    rw [SortedItems] at hbefore hafter
    exact .item (leads_self hbefore.1 hafter.1) (itemsLead_self hbefore.2 hafter.2)

theorem membersLead_self {before : Entries Json} (hbefore : SortedMembers before) :
    ∀ {after : List (String × Json)}, SortedMembers after → ∀ key,
      MemberLeads (before.lookup key) (after.lookup key) (before.lookup key) (after.lookup key)
  | [], _, key => by
    rw [List.lookup_nil]
    cases before.lookup key with
    | none => exact .same (by simp) none
    | some old => exact .drop old old
  | (name, new) :: after, hafter, key => by
    rw [SortedMembers] at hafter
    rw [Entries.lookup_cons_eq]
    split
    · cases hold : before.lookup key with
      | none => exact .put new none
      | some old =>
        have hsorted : old.Sorted := sortedMembers_iff.1 hbefore _ (Entries.mem_of_lookup hold)
        exact .inside (leads_self hsorted hafter.1)
    · exact membersLead_self hbefore hafter.2 key

end

end WebhookOperator.Json
