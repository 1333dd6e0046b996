import Mathlib.Data.List.Forall2
import WebhookOperator.Proofs.Codec.Lawful
import WebhookOperator.Tenancy.Table

/-!
# The spellings of a mapping table

A mapping table may be written in several ways.  The target of a mapping stands under one of two keys,
its namespaces are a list, a single text or nothing, and what is empty may be left out.  All these
spellings are chosen anew in every mapping, and members under other keys may stand beside.

The spellings are described by relations between a value and the members that say it, with one case for
each way to write it.  Whatever is chosen, the same table is read.  What is no spelling is not read at
all: no target is picked out of two, and no namespace is passed over.

* `TenantMapping.read_record_iff`: a mapping is read from its spellings and from nothing else
* `MappingTable.decode_of_writes`: a table is read from its spellings
* `MappingTable.decode_eq_none_of_unclear`: a table with a mapping that is no spelling is not read
* `MappingTable.spellings_read_alike`: both together
-/

namespace WebhookOperator

/-! ### Members -/

theorem mapM_eq_some_iff_forall₂ {α β : Type} {read : α → Option β} {items : List α}
    {values : List β} :
    items.mapM read = some values ↔
      List.Forall₂ (fun item value => read item = some value) items values := by
  induction items generalizing values with
  | nil => cases values <;> simp
  | cons item items ih =>
    cases values with
    | nil => simp [Option.bind_eq_some_iff]
    | cons value values => simp [Option.bind_eq_some_iff, ih]

theorem mapM_eq_none_of_mem {α β : Type} {read : α → Option β} {items : List α} {item : α}
    (hmem : item ∈ items) (h : read item = none) : items.mapM read = none := by
  induction hmem with
  | head items => simp [h]
  | tail other _ ih => simp [ih]

theorem Json.string?_eq_some_iff {document : Json} {text : String} :
    document.string? = some text ↔ document = .str text := by
  cases document <;> simp [string?]

/-- What a document says under a key: the member of an object, or what an array that has the members in
the order of some keys has in its place. -/
def Json.said? (keys : List String) (document : Json) (key : String) : Option Json :=
  match document with
  | .obj members => members.lookup key
  | .arr items => (keys.zip items).lookup key
  | _ => none

theorem Codec.readEither_eq_none {σ α : Type} {record : Record σ α} {document : Json}
    (h : record.read (document.said? record.keys) = none) :
    Codec.readEither record document = none := by
  cases document with
  | obj members => exact h
  | arr items =>
    rw [readEither]
    split
    · exact h
    · rfl
  | _ => rfl

/-! ### Mappings -/

namespace TenantMapping

/-- How the namespaces of a mapping are written. -/
inductive WritesRequests : List String → Option Json → Prop
  | list (names : List String) : WritesRequests names (some (.arr (names.map .str)))
  | single (name : String) : WritesRequests [name] (some (.str name))
  | null : WritesRequests [] (some .null)
  | missing : WritesRequests [] none

/-- How the target of a mapping is written: under the key that is written now, under the older one, or
not at all. -/
inductive WritesTarget : String → Option Json → Option Json → Prop
  | key (name : String) : WritesTarget name (some (.str name)) none
  | olderKey (name : String) : WritesTarget name none (some (.str name))
  | missing : WritesTarget "" none none

/-- Members write a mapping.  What they say under other keys does not matter. -/
structure Writes (mapping : TenantMapping) (look : String → Option Json) : Prop where
  requests : WritesRequests mapping.requests (look requestsKey)
  target : WritesTarget mapping.target (look targetKey) (look olderTargetKey)

theorem mapM_string_iff {items : List Json} {names : List String} :
    items.mapM Json.string? = some names ↔ items = names.map .str := by
  simp only [mapM_eq_some_iff_forall₂, Json.string?_eq_some_iff]
  rw [← List.forall₂_map_right_iff, List.forall₂_eq_eq_eq]

/-- **The spellings of the namespaces.** -/
theorem read_requestsSlot_iff {member : Option Json} {names : List String} :
    requestsSlot.read member = some names ↔ WritesRequests names member := by
  constructor
  · intro h
    match member with
    | none | some .null =>
      obtain rfl : [] = names := Option.some.inj h
      constructor
    | some (.str name) =>
      obtain rfl : [name] = names := Option.some.inj h
      exact .single name
    | some (.arr items) =>
      obtain rfl := mapM_string_iff.1 h
      exact .list names
    | some (.bool _) | some (.num _) | some (.obj _) => cases h
  · intro h
    cases h with
    | list => exact mapM_string_iff.2 rfl
    | single | null | missing => rfl

/-- The target that is read from the members under both keys; there must not be two of them. -/
def target? : Option Json → Option Json → Option String
  | some _, some _ => none
  | some document, none | none, some document => document.string?
  | none, none => some ""

/-- **The spellings of the target.** -/
theorem target?_eq_some_iff {key older : Option Json} {name : String} :
    target? key older = some name ↔ WritesTarget name key older := by
  constructor
  · intro h
    cases key with
    | none =>
      cases older with
      | none =>
        obtain rfl : "" = name := Option.some.inj h
        exact .missing
      | some document =>
        obtain rfl := Json.string?_eq_some_iff.1 h
        exact .olderKey name
    | some document =>
      cases older with
      | none =>
        obtain rfl := Json.string?_eq_some_iff.1 h
        exact .key name
      | some _ => cases h
  · intro h
    cases h <;> rfl

def record : Record TenantMapping TenantMapping :=
  (Record.of TenantMapping.mk)
    |>.field requestsKey requestsSlot (·.requests)
    |>.fieldOr targetKey olderTargetKey (.defaulted .string "" fun _ => false) (·.target)

theorem read_record_eq (look : String → Option Json) :
    record.read look =
      (requestsSlot.read (look requestsKey)).bind fun requests =>
        (target? (look targetKey) (look olderTargetKey)).map fun target => ⟨requests, target⟩ := by
  simp only [record, Record.fieldOr, Record.read_field, Record.of, Option.map_eq_bind]
  cases requestsSlot.read (look requestsKey) with
  | none => rfl
  | some requests =>
    cases look targetKey <;> cases look olderTargetKey <;> rfl

/-- **A mapping is read from its spellings**, and from nothing else. -/
theorem read_record_iff {look : String → Option Json} {mapping : TenantMapping} :
    record.read look = some mapping ↔ mapping.Writes look := by
  rw [read_record_eq, Option.bind_eq_some_iff]
  constructor
  · rintro ⟨requests, hrequests, h⟩
    obtain ⟨target, htarget, rfl⟩ := Option.map_eq_some_iff.1 h
    exact ⟨read_requestsSlot_iff.1 hrequests, target?_eq_some_iff.1 htarget⟩
  · intro h
    have htarget := target?_eq_some_iff.2 h.target
    exact ⟨_, read_requestsSlot_iff.2 h.requests, by rw [htarget]; rfl⟩

/-- Members that are no spelling of a mapping: they say two targets, or namespaces that are neither a
list of texts nor a text nor null. -/
inductive Unclear (look : String → Option Json) : Prop
  | twoTargets (key : (look targetKey).isSome) (older : (look olderTargetKey).isSome) : Unclear look
  | otherRequests {said : Json} (requests : look requestsKey = some said)
      (not_null : said ≠ .null) (not_text : ∀ name, said ≠ .str name)
      (not_texts : ∀ names : List String, said ≠ .arr (names.map .str)) : Unclear look

theorem Unclear.not_writes {look : String → Option Json} (h : Unclear look) (mapping : TenantMapping) :
    ¬mapping.Writes look := by
  obtain ⟨names, target⟩ := mapping
  rintro ⟨hrequests, htarget⟩
  dsimp only at hrequests htarget
  cases h with
  | twoTargets key older =>
    generalize look targetKey = first at key htarget
    generalize look olderTargetKey = second at older htarget
    cases htarget with
    | key | missing => cases older
    | olderKey => cases key
  | otherRequests requests not_null not_text not_texts =>
    rw [requests] at hrequests
    cases hrequests with
    | list names => exact not_texts names rfl
    | single name => exact not_text name rfl
    | null => exact not_null rfl

theorem decode_eq_none_of_unclear {item : Json} (h : Unclear (item.said? record.keys)) :
    codec.decode item = none := by
  have hread : record.read (item.said? record.keys) = none := by
    rw [Option.eq_none_iff_forall_ne_some]
    intro mapping hread
    exact h.not_writes mapping (read_record_iff.1 hread)
  exact Codec.readEither_eq_none hread

end TenantMapping

/-! ### Tables -/

namespace MappingTable

/-- How the control namespace is written; the empty one may be left out. -/
inductive WritesControl : String → Option Json → Prop
  | written (name : String) : WritesControl name (some (.str name))
  | missing : WritesControl "" none

/-- How the default namespace is written; null stands for none. -/
inductive WritesDefault : Option String → Option Json → Prop
  | written (name : String) : WritesDefault (some name) (some (.str name))
  | null : WritesDefault none (some .null)
  | missing : WritesDefault none none

/-- How the mappings are written: as objects in their order, each in its own way. -/
inductive WritesMappings : List TenantMapping → Option Json → Prop
  | written {mappings : List TenantMapping} {items : List (Entries Json)}
      (each : List.Forall₂ (fun members mapping => mapping.Writes fun key => members.lookup key)
        items mappings) :
      WritesMappings mappings (some (.arr (items.map .obj)))
  | missing : WritesMappings [] none

/-- Members write a table.  What they say under other keys does not matter. -/
structure Writes (table : MappingTable) (members : Entries Json) : Prop where
  control : WritesControl table.control (members.lookup controlKey)
  default? : WritesDefault table.default? (members.lookup defaultKey)
  mappings : WritesMappings table.mappings (members.lookup mappingsKey)

def record : Record MappingTable MappingTable :=
  (Record.of MappingTable.mk)
    |>.field controlKey (.defaulted .string "" fun _ => false) (·.control)
    |>.field defaultKey (.optional .string) (·.default?)
    |>.field mappingsKey (.defaulted TenantMapping.codec.list [] fun _ => false) (·.mappings)

theorem read_record_iff {look : String → Option Json} {table : MappingTable} :
    record.read look = some table ↔
      (Slot.defaulted .string "" fun _ => false).read (look controlKey) = some table.control ∧
      (Slot.optional .string).read (look defaultKey) = some table.default? ∧
      (Slot.defaulted TenantMapping.codec.list [] fun _ => false).read (look mappingsKey) =
        some table.mappings := by
  simp only [record, Record.read_field, Record.of, Option.bind_eq_some_iff, Option.map_eq_some_iff]
  constructor
  · rintro ⟨_, ⟨_, ⟨_, hmake, control, hcontrol, rfl⟩, default?, hdefault, rfl⟩, mappings, hmappings,
      rfl⟩
    cases hmake
    exact ⟨hcontrol, hdefault, hmappings⟩
  · rintro ⟨hcontrol, hdefault, hmappings⟩
    exact ⟨_, ⟨_, ⟨_, rfl, _, hcontrol, rfl⟩, _, hdefault, rfl⟩, _, hmappings, rfl⟩

theorem decode_list_of_writes {items : List (Entries Json)} {mappings : List TenantMapping}
    (h : List.Forall₂ (fun members mapping => mapping.Writes fun key => members.lookup key) items
      mappings) :
    TenantMapping.codec.list.decode (.arr (items.map .obj)) = some mappings := by
  have heach : List.Forall₂ (fun item mapping => TenantMapping.codec.decode item = some mapping)
      (items.map .obj) mappings := by
    rw [List.forall₂_map_left_iff]
    exact h.imp fun members mapping hwrites => TenantMapping.read_record_iff.2 hwrites
  exact mapM_eq_some_iff_forall₂.2 heach

theorem WritesControl.read {name : String} {member : Option Json} (h : WritesControl name member) :
    (Slot.defaulted .string "" fun _ => false).read member = some name := by
  cases h <;> rfl

theorem WritesDefault.read {name? : Option String} {member : Option Json}
    (h : WritesDefault name? member) : (Slot.optional .string).read member = some name? := by
  cases h <;> rfl

theorem WritesMappings.read {mappings : List TenantMapping} {member : Option Json}
    (h : WritesMappings mappings member) :
    (Slot.defaulted TenantMapping.codec.list [] fun _ => false).read member = some mappings := by
  cases h with
  | written each => exact decode_list_of_writes each
  | missing => rfl

/-- **A table is read from its spellings.** -/
theorem decode_of_writes {table : MappingTable} {members : Entries Json} (h : table.Writes members) :
    codec.decode (.obj members) = some table :=
  read_record_iff.2 ⟨h.control.read, h.default?.read, h.mappings.read⟩

/-- **A table with a mapping that is no spelling is not read.** -/
theorem decode_eq_none_of_unclear {document : Json} {items : List Json} {item : Json}
    (hitems : document.said? record.keys mappingsKey = some (.arr items)) (hmem : item ∈ items)
    (h : TenantMapping.Unclear (item.said? TenantMapping.record.keys)) :
    codec.decode document = none := by
  have hread : record.read (document.said? record.keys) = none := by
    rw [Option.eq_none_iff_forall_ne_some]
    intro table hread
    obtain ⟨_, _, hmappings⟩ := read_record_iff.1 hread
    rw [hitems] at hmappings
    have hnone : TenantMapping.codec.list.decode (.arr items) = none :=
      mapM_eq_none_of_mem hmem (TenantMapping.decode_eq_none_of_unclear h)
    cases hnone.symm.trans hmappings
  exact Codec.readEither_eq_none hread

/-- **All spellings of a table read alike.**  However a table is written, it is read as it is: with its
mappings in their order, and the namespaces of each in theirs.  If one of the mappings that a document
lists says two targets, or namespaces that are neither null nor a text nor texts, then no table is read
from the document, whatever else it says. -/
theorem spellings_read_alike :
    (∀ (table : MappingTable) (members : Entries Json), table.Writes members →
      codec.decode (.obj members) = some table) ∧
    ∀ (document : Json) (items : List Json) (item : Json),
      document.said? record.keys mappingsKey = some (.arr items) → item ∈ items →
      TenantMapping.Unclear (item.said? TenantMapping.record.keys) →
        codec.decode document = none := by
  constructor
  · intro table members hwrites
    exact decode_of_writes hwrites
  · intro document items item hitems hmem hunclear
    exact decode_eq_none_of_unclear hitems hmem hunclear

/-- A table in several spellings: a single name and the older key, no namespaces and no target, a list
and the key of today.  Two of the members are unknown. -/
def mixedMembers : Entries Json :=
  [(defaultKey, .null), ("comment", .bool true),
    (mappingsKey, .arr <| List.map Json.obj
      [[(TenantMapping.requestsKey, .str "web"), (TenantMapping.olderTargetKey, .str "web-cs")],
        [("owner", .str "nobody"), (TenantMapping.requestsKey, .null)],
        [(TenantMapping.targetKey, .str "lab-cs"),
          (TenantMapping.requestsKey, .arr (["lab", "dev"].map .str))]])]

/-- A mapping that says both targets. -/
def twoTargets : Json :=
  .obj [(TenantMapping.targetKey, .str "a"), (TenantMapping.olderTargetKey, .str "b")]

theorem spellings_read_alike_sample :
    codec.decode (.obj mixedMembers) =
        some ⟨"", none, [⟨["web"], "web-cs"⟩, ⟨[], ""⟩, ⟨["lab", "dev"], "lab-cs"⟩]⟩ ∧
      codec.decode (.obj [(mappingsKey, .arr [.obj [], twoTargets])]) = none := by
  obtain ⟨hread, hnone⟩ := spellings_read_alike
  refine ⟨hread _ mixedMembers ⟨.missing, .null, .written ?_⟩,
    hnone _ [.obj [], twoTargets] twoTargets rfl (by simp) (.twoTargets rfl rfl)⟩
  refine .cons ⟨.single "web", .olderKey "web-cs"⟩ (.cons ⟨.null, .missing⟩ (.cons ?_ .nil))
  exact ⟨.list ["lab", "dev"], .key "lab-cs"⟩

end MappingTable

end WebhookOperator
