import WebhookOperator.Codec
import WebhookOperator.Proofs.Json.Difference

/-!
# Codecs that lose nothing

A value that a lawful codec writes reads back as it was, is never null, and has its keys in order.
The laws go through every way to make a codec out of others, so each kind of object gets them from
its fields.

A record is seen through `Record.look`, which tells what an object with its members says under a
key.  A record reads only the keys that it lists, and from what it wrote there it finds its fields
again.

* `Slot.Lawful`, `Record.Lawful`: the same laws for members and for records
* `Record.Lawful.field`: they hold of a record with one field more
* `Codec.Lawful.object`, `Codec.Lawful.resource`, `Codec.Lawful.customResource`: they hold of an
  object with the members of a record
-/

namespace WebhookOperator

/-- What a codec writes reads back, is not null, and has its keys in order. -/
structure Codec.Lawful {α : Type} (codec : Codec α) : Prop where
  decode_encode : ∀ value, codec.decode (codec.encode value) = some value
  encode_ne_null : ∀ value, codec.encode value ≠ .null
  sorted_encode : ∀ value, (codec.encode value).Sorted

/-- What a slot writes reads back and has its keys in order. -/
structure Slot.Lawful {α : Type} (slot : Slot α) : Prop where
  read_write : ∀ value, slot.read (slot.write value) = some value
  sorted_write : ∀ value, ∀ document ∈ slot.write value, document.Sorted

/-! ### Plain values -/

namespace Codec.Lawful

theorem string : Codec.string.Lawful :=
  ⟨fun _ => rfl, fun _ => by simp [Codec.string], fun _ => by simp [Codec.string, Json.Sorted]⟩

theorem bool : Codec.bool.Lawful :=
  ⟨fun _ => rfl, fun _ => by simp [Codec.bool], fun _ => by simp [Codec.bool, Json.Sorted]⟩

theorem int32 : Codec.int32.Lawful := by
  refine ⟨fun value => ?_, fun _ => by simp [Codec.int32], fun _ => by
    simp [Codec.int32, Json.Sorted]⟩
  have hrange := And.intro value.minValue_le_toInt value.toInt_le
  simp only [Codec.int32, Json.int?, Option.bind_eq_bind, Option.bind_some, if_pos hrange,
    Int32.ofInt_toInt]

theorem int64 : Codec.int64.Lawful := by
  refine ⟨fun value => ?_, fun _ => by simp [Codec.int64], fun _ => by
    simp [Codec.int64, Json.Sorted]⟩
  have hrange := And.intro value.minValue_le_toInt value.toInt_le
  simp only [Codec.int64, Json.int?, Option.bind_eq_bind, Option.bind_some, if_pos hrange,
    Int64.ofInt_toInt]

/-! ### Lists and dictionaries -/

variable {α : Type} {codec : Codec α}

theorem list (h : codec.Lawful) : codec.list.Lawful := by
  refine ⟨fun values => ?_, fun _ => by simp [Codec.list], fun values => ?_⟩
  · have hread : codec.decode ∘ codec.encode = fun value => pure (id value) :=
      funext h.decode_encode
    simp only [Codec.list, Json.items?, Option.bind_eq_bind, Option.bind_some, List.mapM_map, hread,
      List.mapM_pure, List.map_id]
    rfl
  · refine Json.sorted_arr.2 fun document hmem => ?_
    obtain ⟨value, _, rfl⟩ := List.mem_map.1 hmem
    exact h.sorted_encode value

theorem dict (h : codec.Lawful) : codec.dict.Lawful := by
  refine ⟨fun values => ?_, fun _ => by simp [Codec.dict], fun values => ?_⟩
  · have hread : ((fun member : String × Json => (codec.decode member.2).map (member.1, ·)) ∘
        fun entry => (entry.1, codec.encode entry.2)) = fun entry => pure (id entry) :=
      funext fun entry => by simp [h.decode_encode]
    simp only [Codec.dict, Json.members?, Option.bind_eq_bind, Option.bind_some, List.mapM_map, hread,
      List.mapM_pure, List.map_id]
    simp [Dict.ofList, Entries.ofList_of_sorted values.sorted]
  · refine Json.sorted_obj.2 ⟨List.pairwise_map.2 values.sorted, fun member hmem => ?_⟩
    obtain ⟨entry, _, rfl⟩ := List.mem_map.1 hmem
    exact h.sorted_encode entry.2

end Codec.Lawful

/-! ### Members -/

namespace Slot.Lawful

variable {α : Type} {codec : Codec α}

theorem expected (h : codec.Lawful) (default : α) : (Slot.expected codec default).Lawful := by
  refine ⟨fun value => ?_, fun value document hmem => ?_⟩
  · have hread := h.decode_encode value
    have hne := h.encode_ne_null value
    cases hdocument : codec.encode value <;> simp_all [Slot.expected]
  · obtain rfl : codec.encode value = document := by simpa [Slot.expected] using hmem
    exact h.sorted_encode value

theorem optional (h : codec.Lawful) : (Slot.optional codec).Lawful := by
  refine ⟨fun value => ?_, fun value document hmem => ?_⟩
  · cases value with
    | none => rfl
    | some value =>
      have hread := h.decode_encode value
      have hne := h.encode_ne_null value
      cases hdocument : codec.encode value <;> simp_all [Slot.optional]
  · obtain ⟨held, rfl, rfl⟩ : ∃ held, value = some held ∧ codec.encode held = document := by
      simpa [Slot.optional] using hmem
    exact h.sorted_encode held

theorem text : Slot.text.Lawful := expected .string ""

end Slot.Lawful

/-! ### Records -/

namespace Record

variable {σ α β : Type}

/-- What an object with the members of a record says under a key. -/
def look (record : Record σ α) (whole : σ) (key : String) : Option Json :=
  (Entries.ofList (record.write whole)).lookup key

@[simp] theorem look_of (make : α) (whole : σ) (key : String) : (of make).look whole key = none :=
  rfl

theorem look_field (record : Record σ (β → α)) (key : String) (slot : Slot β) (get : σ → β)
    (whole : σ) (other : String) :
    (record.field key slot get).look whole other =
      if other = key then (slot.write (get whole)).or (record.look whole other)
      else record.look whole other := by
  cases hwrite : slot.write (get whole) with
  | none => simp [look, field, hwrite]
  | some document =>
    simp [look, field, hwrite, Entries.ofList_append_singleton, Entries.lookup_insert]

theorem read_field (record : Record σ (β → α)) (key : String) (slot : Slot β) (get : σ → β)
    (look : String → Option Json) :
    (record.field key slot get).read look =
      (record.read look).bind fun make => (slot.read (look key)).map make := by
  simp only [field, Option.bind_eq_bind, Option.pure_def, Option.map_eq_bind]
  rfl

/-- A record finds a part of a structure in what it wrote, reads only the keys that it lists, and
writes only sorted documents under them. -/
structure Lawful (record : Record σ α) (part : σ → α) : Prop where
  read_look : ∀ whole, record.read (record.look whole) = some (part whole)
  read_congr : ∀ look other : String → Option Json, (∀ key ∈ record.keys, look key = other key) →
    record.read look = record.read other
  keys : ∀ whole, ∀ member ∈ record.write whole, member.1 ∈ record.keys
  sorted : ∀ whole, ∀ member ∈ record.write whole, member.2.Sorted

theorem Lawful.look_eq_none {record : Record σ α} {part : σ → α} (h : record.Lawful part)
    {key : String} (hkey : key ∉ record.keys) (whole : σ) : record.look whole key = none :=
  Entries.lookup_eq_none_of_forall_ne fun member hmem heq =>
    hkey (heq ▸ h.keys whole member (Entries.mem_ofList hmem))

theorem lookup_beside (record : Record σ α) {extra : List (String × Json)} {key : String}
    (hextra : (Entries.ofList extra).lookup key = none) (whole : σ) :
    (Entries.ofList (extra ++ record.write whole)).lookup key = record.look whole key := by
  rw [Entries.lookup_ofList_append, hextra, Option.or_none]
  rfl

theorem Lawful.lookup_beside_of_not_mem {record : Record σ α} {part : σ → α}
    (h : record.Lawful part) {key : String} (hkey : key ∉ record.keys)
    (extra : List (String × Json)) (whole : σ) :
    (Entries.ofList (extra ++ record.write whole)).lookup key =
      (Entries.ofList extra).lookup key := by
  have hnone : (Entries.ofList (record.write whole)).lookup key = none := h.look_eq_none hkey whole
  rw [Entries.lookup_ofList_append, hnone, Option.none_or]

/-- A record reads back what it wrote beside other members. -/
theorem Lawful.read_beside {record : Record σ σ} (h : record.Lawful id)
    {extra : List (String × Json)} (hextra : ∀ member ∈ extra, member.1 ∉ record.keys) (whole : σ) :
    record.read ((Entries.ofList (extra ++ record.write whole)).lookup ·) = some whole := by
  refine (h.read_congr _ _ fun key hkey => ?_).trans (h.read_look whole)
  refine record.lookup_beside (Entries.lookup_eq_none_of_forall_ne fun member hmem heq => ?_) whole
  exact hextra member (Entries.mem_ofList hmem) (heq ▸ hkey)

theorem Lawful.of (make : α) : (Record.of make : Record σ α).Lawful fun _ => make :=
  ⟨fun _ => rfl, fun _ _ _ => rfl, fun _ _ hmem => by simp [Record.of] at hmem,
    fun _ _ hmem => by simp [Record.of] at hmem⟩

/-- **One field more.**  Its key must be new. -/
theorem Lawful.field {record : Record σ (β → α)} {part : σ → β → α} (h : record.Lawful part)
    {slot : Slot β} (hslot : slot.Lawful) {key : String} (hkey : key ∉ record.keys) (get : σ → β) :
    (record.field key slot get).Lawful fun whole => part whole (get whole) := by
  have hmem : ∀ whole member, member ∈ (record.field key slot get).write whole →
      member ∈ record.write whole ∨ member.1 = key ∧ slot.write (get whole) = some member.2 := by
    intro whole member hmem
    rcases List.mem_append.1 hmem with hmem | hmem
    · exact Or.inl hmem
    · obtain ⟨document, hwrite, rfl⟩ : ∃ document, slot.write (get whole) = some document ∧
          (key, document) = member := by simpa using hmem
      exact Or.inr ⟨rfl, hwrite⟩
  refine ⟨fun whole => ?_, fun look other heq => ?_, fun whole member hwritten => ?_,
    fun whole member hwritten => ?_⟩
  · have hbefore : record.read ((record.field key slot get).look whole) = some (part whole) := by
      rw [← h.read_look whole]
      refine h.read_congr _ _ fun other hother => ?_
      have hne : other ≠ key := fun heq => hkey (heq ▸ hother)
      rw [look_field, if_neg hne]
    have hlook : (record.field key slot get).look whole key = slot.write (get whole) := by
      rw [look_field, if_pos rfl, h.look_eq_none hkey, Option.or_none]
    rw [read_field, hbefore, hlook, Option.bind_some, hslot.read_write, Option.map_some]
  · have hrest : ∀ key ∈ record.keys, look key = other key :=
      fun key hmem => heq key (List.mem_append_left _ hmem)
    rw [read_field, read_field, h.read_congr look other hrest,
      heq key (List.mem_append_right _ List.mem_cons_self)]
  · rcases hmem whole member hwritten with hwritten | ⟨rfl, _⟩
    · exact List.mem_append_left _ (h.keys whole member hwritten)
    · exact List.mem_append_right _ List.mem_cons_self
  · rcases hmem whole member hwritten with hwritten | ⟨_, hwrite⟩
    · exact h.sorted whole member hwritten
    · exact hslot.sorted_write _ _ hwrite

end Record

/-! ### Objects -/

namespace Codec.Lawful

variable {α : Type} {record : Record α α}

theorem lookup_kindMembers (apiVersion kind key : String) :
    (Entries.ofList (kindMembers apiVersion kind)).lookup key =
      if key = "apiVersion" then some (.str apiVersion)
      else if key = "kind" then some (.str kind) else none := by
  have hlt : "apiVersion" < "kind" := by decide
  have hsorted : Entries.Sorted (kindMembers apiVersion kind) := List.pairwise_pair.2 hlt
  rw [Entries.ofList_of_sorted hsorted, kindMembers, Entries.lookup_cons_eq, Entries.lookup_cons_eq,
    List.lookup_nil]

theorem object (h : record.Lawful id) : (Codec.object record).Lawful :=
  ⟨h.read_look, fun _ => by simp [Codec.object, Json.ofMembers],
    fun value => Json.sorted_ofMembers (h.sorted value)⟩

theorem sorted_kindMembers_append (h : record.Lawful id) (apiVersion kind : String) (value : α) :
    (Json.ofMembers (kindMembers apiVersion kind ++ record.write value)).Sorted := by
  refine Json.sorted_ofMembers fun member hmem => ?_
  rcases List.mem_append.1 hmem with hmem | hmem
  · simp [kindMembers] at hmem
    rcases hmem with rfl | rfl <;> simp [Json.Sorted]
  · exact h.sorted value member hmem

theorem not_mem_keys_of_mem_kindMembers (apiVersion kind : String)
    (hapiVersion : "apiVersion" ∉ record.keys) (hkind : "kind" ∉ record.keys) :
    ∀ member ∈ kindMembers apiVersion kind, member.1 ∉ record.keys := by
  intro member hmem
  simp only [kindMembers, List.mem_cons, List.not_mem_nil, or_false] at hmem
  rcases hmem with rfl | rfl
  · exact hapiVersion
  · exact hkind

/-- The members of a kind stand beside those of the record. -/
theorem resource (h : record.Lawful id) (apiVersion kind : String)
    (hapiVersion : "apiVersion" ∉ record.keys) (hkind : "kind" ∉ record.keys) :
    (Codec.resource apiVersion kind record).Lawful := by
  refine ⟨fun value => ?_, fun _ => by simp [Codec.resource, Json.ofMembers],
    sorted_kindMembers_append h apiVersion kind⟩
  have hkindMembers : ∀ member ∈ kindMembers apiVersion kind,
      (Entries.ofList (kindMembers apiVersion kind ++ record.write value)).lookup member.1 =
        some member.2 := by
    intro member hmem
    simp only [kindMembers, List.mem_cons, List.not_mem_nil, or_false] at hmem
    rcases hmem with rfl | rfl
    · rw [h.lookup_beside_of_not_mem hapiVersion, lookup_kindMembers, if_pos rfl]
    · rw [h.lookup_beside_of_not_mem hkind, lookup_kindMembers, if_neg (by decide), if_pos rfl]
  have hfits : (kindMembers apiVersion kind).all (fun member =>
      ((Entries.ofList (kindMembers apiVersion kind ++ record.write value)).lookup member.1).all
        (· = member.2)) := by
    refine List.all_eq_true.2 fun member hmem => ?_
    rw [hkindMembers member hmem]
    simp
  have hread := h.read_beside
    (not_mem_keys_of_mem_kindMembers apiVersion kind hapiVersion hkind) value
  simp only [Codec.resource, Json.ofMembers]
  rw [if_pos hfits, hread]

/-- The same for an object whose kind is not looked at. -/
theorem customResource (h : record.Lawful id) (apiVersion kind : String)
    (hapiVersion : "apiVersion" ∉ record.keys) (hkind : "kind" ∉ record.keys) :
    (Codec.customResource apiVersion kind record).Lawful :=
  ⟨h.read_beside (not_mem_keys_of_mem_kindMembers apiVersion kind hapiVersion hkind),
    fun _ => by simp [Codec.customResource, Json.ofMembers],
    sorted_kindMembers_append h apiVersion kind⟩

end Codec.Lawful

end WebhookOperator
