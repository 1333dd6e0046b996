import WebhookOperator.Proofs.Codec.Lawful
import WebhookOperator.Proofs.Json.Leading

/-!
# Changes of values carried over to documents

A patch is computed on what a codec writes for two values, and performed on a document that reads as
the first of them.  The document may have members that the codec passes over, and it may lack members
that the codec writes as a default.  `Carries` says of a change of a value that its patch works
nevertheless, and in which scope its operations lie.

A change of a whole is carried when the change of each part is.  A field that stays as it was is
always carried, whether the document has its member or not.  A field that gets a value is, and so is
one whose value changes inside.

* `Codec.Carries.list`: a list that keeps its items, changed or not, and gets new ones
* `Codec.Carries.strings`: a dictionary of texts that loses no key
* `Record.Carries.field`, `Record.Carries.same`: records, field by field
* `Codec.Carries.object`: objects with the members of a record
-/

namespace WebhookOperator

open Json

/-- The patch for a change of a value lies in a scope, and it leads every document that reads as the
old value to one that reads as the new one. -/
structure Codec.Carries {α : Type} (codec : Codec α) (scope : Operation → Prop) (a b : α) : Prop where
  scope : ∀ operation ∈ Patch.between (codec.encode a) (codec.encode b), scope operation
  leads : ∀ held : Json, held.Sorted → codec.decode held = some a →
    ∃ held', Leads (codec.encode a) (codec.encode b) held held' ∧ codec.decode held' = some b

/-- The same for the member under a key, of which it is known what the document has there. -/
structure Slot.Carries {α : Type} (slot : Slot α) (scope : Operation → Prop) (key : String)
    (held : Option Json) (a b : α) : Prop where
  scope : ∀ operation ∈ memberChange key (slot.write a) (slot.write b), scope operation
  leads : ∃ held', MemberLeads (slot.write a) (slot.write b) held held' ∧ slot.read held' = some b

/-- The same for all members of a record. -/
structure Record.Carries {σ α : Type} (record : Record σ α) (part : σ → α) (scope : Operation → Prop)
    (look : String → Option Json) (v w : σ) : Prop where
  lawful : record.Lawful part
  scope : ∀ key, ∀ operation ∈ memberChange key (record.look v key) (record.look w key),
    scope operation
  leads : ∃ look' : String → Option Json,
    (∀ key, MemberLeads (record.look v key) (record.look w key) (look key) (look' key)) ∧
    (∀ key ∉ record.keys, look' key = look key) ∧ record.read look' = some (part w)

/-! ### Values -/

namespace Codec.Carries

variable {α : Type} {codec : Codec α} {scope : Operation → Prop}

theorem same (h : codec.Lawful) (value : α) : codec.Carries scope value value := by
  refine ⟨fun operation hmem => ?_, fun held _ hdecode => ⟨held, .same (h.sorted_encode value) held,
    hdecode⟩⟩
  rw [Patch.between, Patch.differences_self _ _ (h.sorted_encode value)] at hmem
  cases hmem

theorem exists_itemsLead (h : codec.Lawful) {as bs : List α} {items : List Json}
    (hlength : as.length ≤ bs.length) (hsorted : ∀ item ∈ items, item.Sorted)
    (hdecode : items.mapM codec.decode = some as)
    (hcarries : ∀ (position : Nat) (a b : α), as[position]? = some a → bs[position]? = some b →
      ∃ scope, codec.Carries scope a b) :
    ∃ items', ItemsLead (as.map codec.encode) (bs.map codec.encode) items items' ∧
      items'.mapM codec.decode = some bs := by
  induction as generalizing bs items with
  | nil =>
    cases items with
    | nil =>
      have hread := h.list.decode_encode bs
      exact ⟨bs.map codec.encode, .added _, hread⟩
    | cons item items => simp [List.mapM_cons, Option.bind_eq_some_iff] at hdecode
  | cons a as ih =>
    cases bs with
    | nil => simp at hlength
    | cons b bs =>
      cases items with
      | nil => simp at hdecode
      | cons item items =>
        rw [List.mapM_cons] at hdecode
        obtain ⟨found, hitem, hdecode⟩ := Option.bind_eq_some_iff.1 hdecode
        obtain ⟨rest, hrest, hdecode⟩ := Option.bind_eq_some_iff.1 hdecode
        obtain ⟨rfl, rfl⟩ : found = a ∧ rest = as := by simpa using hdecode
        obtain ⟨scope, hhead⟩ := hcarries 0 found b rfl rfl
        obtain ⟨item', hleads, hitem'⟩ := hhead.leads item (hsorted item List.mem_cons_self) hitem
        obtain ⟨items', hitems, hread⟩ := ih (by simpa using hlength)
          (fun other hmem => hsorted other (List.mem_cons_of_mem _ hmem)) hrest
          fun position a b ha hb => hcarries (position + 1) a b ha hb
        refine ⟨item' :: items', .item hleads hitems, ?_⟩
        rw [List.mapM_cons, hitem', hread]
        rfl

theorem list (h : codec.Lawful) {as bs : List α} (hlength : as.length ≤ bs.length)
    (hcarries : ∀ (position : Nat) (a b : α), as[position]? = some a → bs[position]? = some b →
      codec.Carries (fun operation => scope (operation.within [Nat.repr position])) a b)
    (hadd : ∀ (position : Nat) (value : Json), as.length ≤ position → position < bs.length →
      scope (.add ⟨[Nat.repr position]⟩ value)) :
    codec.list.Carries scope as bs := by
  refine ⟨fun operation hmem => ?_, fun held hsorted hdecode => ?_⟩
  · have hwritten : (as.map codec.encode).length ≤ (bs.map codec.encode).length := by
      simpa using hlength
    obtain ⟨position, old, new, hold, hnew, inner, hinner, rfl⟩ | ⟨position, value, hle, hlt, rfl⟩ :=
      exists_mem_between_arr hwritten hmem
    · rw [List.getElem?_map, Option.map_eq_some_iff] at hold hnew
      obtain ⟨a, ha, rfl⟩ := hold
      obtain ⟨b, hb, rfl⟩ := hnew
      exact (hcarries position a b ha hb).scope inner hinner
    · rw [List.length_map] at hle hlt
      exact hadd position value hle hlt
  · cases held with
    | arr items =>
      obtain ⟨items', hitems, hread⟩ := exists_itemsLead h hlength (sorted_arr.1 hsorted) hdecode
        fun position a b ha hb => ⟨_, hcarries position a b ha hb⟩
      exact ⟨.arr items', hitems.leads, hread⟩
    | _ => cases hdecode

theorem append (h : codec.Lawful) (items added : List α)
    (hadd : ∀ (position : Nat) (value : Json), scope (.add ⟨[Nat.repr position]⟩ value)) :
    codec.list.Carries scope items (items ++ added) := by
  refine list h (by simp) (fun position a b ha hb => ?_) fun position value _ _ => hadd position value
  have hlt : position < items.length := (List.getElem?_eq_some_iff.1 ha).1
  rw [List.getElem?_append_left hlt, ha] at hb
  obtain rfl := Option.some.inj hb
  exact same h a

theorem map (h : codec.Lawful) (items : List α) (change : α → α)
    (hcarries : ∀ (position : Nat) (item : α), items[position]? = some item →
      codec.Carries (fun operation => scope (operation.within [Nat.repr position])) item
        (change item)) :
    codec.list.Carries scope items (items.map change) := by
  refine list h (by simp) (fun position a b ha hb => ?_) fun position value hle hlt => ?_
  · rw [List.getElem?_map, ha, Option.map_some] at hb
    obtain rfl := Option.some.inj hb
    exact hcarries position a ha
  · rw [List.length_map] at hlt
    omega

/-! ### Dictionaries of texts -/

/-- A document is all that its dictionary of texts says. -/
theorem eq_encode_of_decode {held : Json} {dict : Dict String} (hsorted : held.Sorted)
    (h : (Codec.dict .string).decode held = some dict) : held = (Codec.dict .string).encode dict := by
  have general : ∀ (members : Entries Json) (entries : Entries String),
      members.mapM (fun member => (Codec.string.decode member.2).map (member.1, ·)) = some entries →
        members = entries.map fun entry => (entry.1, Codec.string.encode entry.2) := by
    intro members
    induction members with
    | nil => simp
    | cons member members ih =>
      intro entries h
      rw [List.mapM_cons] at h
      obtain ⟨entry, hentry, h⟩ := Option.bind_eq_some_iff.1 h
      obtain ⟨rest, hrest, h⟩ := Option.bind_eq_some_iff.1 h
      obtain rfl : entry :: rest = entries := by simpa using h
      obtain ⟨key, value⟩ := member
      obtain ⟨text, htext, rfl⟩ := Option.map_eq_some_iff.1 hentry
      cases value <;> simp_all [Codec.string, Json.string?]
  cases held with
  | obj members =>
    obtain ⟨entries, hentries, h⟩ := Option.bind_eq_some_iff.1 h
    obtain rfl := Option.some.inj h
    have hmembers := general members entries hentries
    have hentries : Entries.Sorted entries := by
      have hsorted := (sorted_obj.1 hsorted).1
      rw [hmembers, Entries.Sorted, List.pairwise_map] at hsorted
      exact hsorted
    rw [Codec.dict, Dict.ofList]
    simp only [Entries.ofList_of_sorted hentries]
    rw [hmembers]
  | _ => cases h

/-- What is done about a text: it is added, or replaced by another one, or taken out. -/
theorem mem_memberChange_string {key : String} {before after : Option String} {operation : Operation}
    (h : operation ∈ memberChange key (before.map Codec.string.encode)
      (after.map Codec.string.encode)) :
    (∃ value, operation = .add ⟨[key]⟩ value) ∨
      (before ≠ after ∧ ∃ value, operation = .replace ⟨[key]⟩ value) ∨
      (before.isSome ∧ after = none) := by
  cases before with
  | none =>
    cases after with
    | none => simp [memberChange] at h
    | some new => exact Or.inl ⟨_, List.mem_singleton.1 h⟩
  | some old =>
    cases after with
    | none => exact Or.inr (Or.inr ⟨rfl, rfl⟩)
    | some new =>
      simp only [Option.map_some, memberChange, Codec.string, Patch.between, Patch.differences,
        Json.str.injEq] at h
      by_cases heq : old = new
      · simp [heq] at h
      · rw [if_neg heq] at h
        exact Or.inr (Or.inl ⟨by simpa using heq, _, List.mem_singleton.1 h⟩)

/-- A dictionary of texts that loses no key. -/
theorem strings {scope : Operation → Prop} {before after : Dict String}
    (hkeep : ∀ key, (before.get? key).isSome → (after.get? key).isSome)
    (hadd : ∀ key value, scope (.add ⟨[key]⟩ value))
    (hreplace : ∀ key, before.get? key ≠ after.get? key → ∀ value,
      scope (.replace ⟨[key]⟩ value)) :
    (Codec.dict .string).Carries scope before after := by
  have hlawful := Codec.Lawful.dict .string
  refine ⟨fun operation hmem => ?_, fun held hsorted hdecode => ?_⟩
  · obtain ⟨key, hchange⟩ := exists_mem_memberChange (sorted_obj.1 (hlawful.sorted_encode before)).1
      (sorted_obj.1 (hlawful.sorted_encode after)).1 hmem
    rw [Entries.lookup_map, Entries.lookup_map] at hchange
    rcases mem_memberChange_string hchange with ⟨value, rfl⟩ | ⟨hne, value, rfl⟩ | ⟨hsome, hnone⟩
    · exact hadd key value
    · exact hreplace key hne value
    · have hkept := hkeep key hsome
      rw [Dict.get?, hnone] at hkept
      cases hkept
  · obtain rfl := eq_encode_of_decode hsorted hdecode
    exact ⟨_, leads_self (hlawful.sorted_encode before) (hlawful.sorted_encode after),
      hlawful.decode_encode after⟩

end Codec.Carries

/-! ### Members -/

namespace Slot

variable {α : Type} {codec : Codec α} {held : Option Json} {document : Json} {value default : α}

theorem read_optional (hnull : codec.decode .null = none) (h : codec.decode document = some value) :
    (optional codec).read (some document) = some (some value) := by
  cases document <;> simp_all [optional]

theorem exists_of_read_optional (h : (optional codec).read held = some (some value)) :
    ∃ document, held = some document ∧ codec.decode document = some value := by
  cases held with
  | none => simp [optional] at h
  | some document =>
    refine ⟨document, rfl, ?_⟩
    cases document <;> simp_all [optional]

theorem read_expected (hnull : codec.decode .null = none) (h : codec.decode document = some value) :
    (expected codec default).read (some document) = some value := by
  cases document <;> simp_all [expected]

theorem exists_of_read_expected (h : (expected codec default).read held = some value) :
    value = default ∨ ∃ document, held = some document ∧ codec.decode document = some value := by
  cases held with
  | none => exact Or.inl (by simpa [expected] using h.symm)
  | some document => cases document <;> simp_all [expected]

namespace Carries

variable {scope : Operation → Prop} {key : String} {a b : α}

theorem same {slot : Slot α} (h : slot.Lawful) (hread : slot.read held = some value) :
    slot.Carries scope key held value value := by
  refine ⟨fun operation hmem => ?_, held, .same (h.sorted_write value) held, hread⟩
  rw [memberChange_self (h.sorted_write value)] at hmem
  cases hmem

theorem put (h : codec.Lawful) (held : Option Json) (value : α)
    (hadd : scope (.add ⟨[key]⟩ (codec.encode value))) :
    (optional codec).Carries scope key held none (some value) := by
  refine ⟨fun operation hmem => ?_, some (codec.encode value), .put _ held,
    (Slot.Lawful.optional h).read_write (some value)⟩
  obtain rfl := List.mem_singleton.1 hmem
  exact hadd

theorem optional (hnull : codec.decode .null = none) (hheld : ∀ document ∈ held, document.Sorted)
    (hread : (Slot.optional codec).read held = some (some a))
    (h : codec.Carries (fun operation => scope (operation.within [key])) a b) :
    (Slot.optional codec).Carries scope key held (some a) (some b) := by
  obtain ⟨document, rfl, hdecode⟩ := exists_of_read_optional hread
  obtain ⟨document', hleads, hdecode'⟩ := h.leads document (hheld document rfl) hdecode
  refine ⟨fun operation hmem => ?_, some document', .inside hleads, read_optional hnull hdecode'⟩
  obtain ⟨inner, hinner, rfl⟩ := List.mem_map.1 hmem
  exact h.scope inner hinner

/-- The value of a field that is always written changes inside its member. -/
theorem expected_some {document : Json} (hnull : codec.decode .null = none)
    (hdocument : document.Sorted) (hdecode : codec.decode document = some a)
    (h : codec.Carries (fun operation => scope (operation.within [key])) a b) :
    (Slot.expected codec default).Carries scope key (some document) a b := by
  obtain ⟨document', hleads, hdecode'⟩ := h.leads document hdocument hdecode
  refine ⟨fun operation hmem => ?_, some document', .inside hleads, read_expected hnull hdecode'⟩
  obtain ⟨inner, hinner, rfl⟩ := List.mem_map.1 hmem
  exact h.scope inner hinner

/-- A default may stand for a missing member, so it must not change. -/
theorem expected (hcodec : codec.Lawful) (hnull : codec.decode .null = none)
    (hdefault : a = default → b = default) (hheld : ∀ document ∈ held, document.Sorted)
    (hread : (Slot.expected codec default).read held = some a)
    (h : codec.Carries (fun operation => scope (operation.within [key])) a b) :
    (Slot.expected codec default).Carries scope key held a b := by
  rcases exists_of_read_expected hread with heq | ⟨document, rfl, hdecode⟩
  · obtain rfl : b = a := by rw [hdefault heq, heq]
    exact same (.expected hcodec default) hread
  · exact expected_some hnull (hheld document rfl) hdecode h

end Carries

end Slot

/-! ### Records -/

namespace Record.Carries

variable {σ α β : Type} {scope : Operation → Prop} {look : String → Option Json} {v w : σ}

theorem of (scope : Operation → Prop) (look : String → Option Json) (v w : σ) (make : α) :
    (Record.of make).Carries (fun _ => make) scope look v w :=
  ⟨.of make, fun _ _ hmem => (List.not_mem_nil hmem).elim, look, fun key => .same (by simp) (look key),
    fun _ _ => rfl, rfl⟩

/-- **One field more**, whose change is carried. -/
theorem field {record : Record σ (β → α)} {part : σ → β → α} (h : record.Carries part scope look v w)
    {slot : Slot β} {key : String} {get : σ → β} (hslot : slot.Lawful)
    (hcarries : slot.Carries scope key (look key) (get v) (get w))
    (hkey : key ∉ record.keys := by decide) :
    (record.field key slot get).Carries (fun whole => part whole (get whole)) scope look v w := by
  have hlook : ∀ whole, (record.field key slot get).look whole key = slot.write (get whole) := by
    intro whole
    rw [look_field, if_pos rfl, h.lawful.look_eq_none hkey, Option.or_none]
  have hrest : ∀ whole other, other ≠ key →
      (record.field key slot get).look whole other = record.look whole other := by
    intro whole other hne
    rw [look_field, if_neg hne]
  obtain ⟨look', hleads, hframe, hread⟩ := h.leads
  obtain ⟨held', hheld', hread'⟩ := hcarries.leads
  obtain ⟨joined, hself, hothers⟩ : ∃ joined : String → Option Json,
      joined key = held' ∧ ∀ other, other ≠ key → joined other = look' other :=
    ⟨fun other => if other = key then held' else look' other, if_pos rfl, fun _ hne => if_neg hne⟩
  refine ⟨h.lawful.field hslot hkey get, fun other operation hmem => ?_, joined, fun other => ?_,
    fun other hother => ?_, ?_⟩
  · by_cases heq : other = key
    · subst heq
      rw [hlook, hlook] at hmem
      exact hcarries.scope operation hmem
    · rw [hrest v other heq, hrest w other heq] at hmem
      exact h.scope other operation hmem
  · by_cases heq : other = key
    · subst heq
      rw [hlook, hlook, hself]
      exact hheld'
    · rw [hrest v other heq, hrest w other heq, hothers other heq]
      exact hleads other
  · have hmem : other ∉ record.keys ∧ other ≠ key := by
      simpa [Record.field] using hother
    rw [hothers other hmem.2, hframe other hmem.1]
  · have hbefore : record.read joined = some (part w) := by
      rw [← hread]
      refine h.lawful.read_congr _ _ fun other hother => hothers other ?_
      exact fun heq => hkey (heq ▸ hother)
    rw [read_field, hbefore, Option.bind_some, hself, hread', Option.map_some]

/-- One field more, which stays as it was. -/
theorem same {record : Record σ (β → α)} {part : σ → β → α} (h : record.Carries part scope look v w)
    {slot : Slot β} {key : String} {get : σ → β} (hslot : slot.Lawful)
    (hread : slot.read (look key) = some (get v)) (hkey : key ∉ record.keys := by decide)
    (heq : get w = get v := by rfl) :
    (record.field key slot get).Carries (fun whole => part whole (get whole)) scope look v w := by
  refine h.field hslot ?_ hkey
  rw [heq]
  exact .same hslot hread

/-! ### Objects -/

/-- The members of a record beside others that are always the same. -/
theorem members {record : Record σ σ} {extra : List (String × Json)}
    (hextra : ∀ member ∈ extra, member.2.Sorted ∧ member.1 ∉ record.keys) {held : Entries Json}
    (hsorted : held.Sorted) (h : record.Carries id scope (held.lookup ·) v w) :
    (∀ operation ∈ Patch.between (.ofMembers (extra ++ record.write v))
      (.ofMembers (extra ++ record.write w)), scope operation) ∧
    ∃ held' : Entries Json, Leads (.ofMembers (extra ++ record.write v))
        (.ofMembers (extra ++ record.write w)) (.obj held) (.obj held') ∧
      (∀ key ∉ record.keys, held'.lookup key = held.lookup key) ∧
      record.read (held'.lookup ·) = some w := by
  have hrecord : ∀ key ∈ record.keys, ∀ whole,
      (Entries.ofList (extra ++ record.write whole)).lookup key = record.look whole key := by
    intro key hkey
    refine record.lookup_beside (Entries.lookup_eq_none_of_forall_ne fun member hmem heq => ?_)
    exact (hextra member (Entries.mem_ofList hmem)).2 (heq ▸ hkey)
  have hbeside : ∀ key ∉ record.keys, ∀ whole,
      (Entries.ofList (extra ++ record.write whole)).lookup key =
        (Entries.ofList extra).lookup key :=
    fun key hkey => h.lawful.lookup_beside_of_not_mem hkey extra
  have hfixed : ∀ key, ∀ document ∈ (Entries.ofList extra).lookup key, document.Sorted :=
    fun key document hdocument => (hextra _ (Entries.mem_ofList (Entries.mem_of_lookup hdocument))).1
  obtain ⟨look', hleads, hframe, hread⟩ := h.leads
  -- a key is one of the record's, or else the written objects say the same under it
  have hmembers : ∀ key, MemberLeads ((Entries.ofList (extra ++ record.write v)).lookup key)
      ((Entries.ofList (extra ++ record.write w)).lookup key) (held.lookup key) (look' key) := by
    intro key
    by_cases hkey : key ∈ record.keys
    · rw [hrecord key hkey, hrecord key hkey]
      exact hleads key
    · rw [hbeside key hkey, hbeside key hkey, hframe key hkey]
      exact .same (hfixed key) _
  refine ⟨fun operation hmem => ?_, ?_⟩
  · obtain ⟨key, hchange⟩ := exists_mem_memberChange (Entries.sorted_ofList _)
      (Entries.sorted_ofList _) hmem
    by_cases hkey : key ∈ record.keys
    · rw [hrecord key hkey, hrecord key hkey] at hchange
      exact h.scope key operation hchange
    · rw [hbeside key hkey, hbeside key hkey, memberChange_self (hfixed key)] at hchange
      cases hchange
  · obtain ⟨held', hheld', _, hlookup'⟩ := exists_leads_obj (Entries.sorted_ofList _)
      (Entries.sorted_ofList _) hsorted hmembers
    have hlook' : (held'.lookup ·) = look' := funext hlookup'
    refine ⟨held', hheld', fun key hkey => ?_, ?_⟩
    · rw [hlookup', hframe key hkey]
    · rw [hlook', hread]
      rfl

end Record.Carries

/-- An object, when the members of its record are carried whatever stands beside them. -/
theorem Codec.Carries.object {σ : Type} {record : Record σ σ} {scope : Operation → Prop} {v w : σ}
    (hlawful : (Codec.object record).Lawful)
    (h : ∀ held : Entries Json, (Json.obj held).Sorted → record.read (held.lookup ·) = some v →
      record.Carries id scope (held.lookup ·) v w) : (Codec.object record).Carries scope v w := by
  have hextra : ∀ member ∈ ([] : List (String × Json)),
      member.2.Sorted ∧ member.1 ∉ record.keys := by simp
  refine ⟨?_, fun held hsorted hdecode => ?_⟩
  · have hself := h (Entries.ofList (record.write v)) (hlawful.sorted_encode v)
      (hlawful.decode_encode v)
    exact (hself.members hextra (Entries.sorted_ofList _)).1
  · cases held with
    | obj held =>
      obtain ⟨held', hleads, _, hread⟩ :=
        ((h held hsorted hdecode).members hextra (sorted_obj.1 hsorted).1).2
      exact ⟨.obj held', hleads, hread⟩
    | _ => cases hdecode

end WebhookOperator
