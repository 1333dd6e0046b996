import WebhookOperator.Preset.Basic
import WebhookOperator.Proofs.Codec.Tenancy

/-!
# The formats of presets, operand requests and mapping tables

What the operator writes in its own formats reads back as it was, although members are left out
under one rule and missing members are filled in under another.  Then a document has a normal form:
whatever spellings it chose, reading and writing it once gives the document that reading and writing
leave alone.

A mapping has a target under one of two keys.  It is written under the first, so the second is never
there when what was written is read.

* `PodPreset.lawful`, `MappingTable.lawful`: nothing is lost on the way
* `Codec.Lawful.roundTrips`: so documents have normal forms, and values that are written alike are
  equal
* `own_formats_roundTrip`: presets, operand requests and mapping tables
-/

namespace WebhookOperator

/-! ### Presets -/

theorem PresetSpec.lawful : PresetSpec.codec.Lawful := .either <|
  (Record.Lawful.of _)
    |>.field (.defaulted LabelSelector.lawful {}) (by decide) _
    |>.field (.items EnvVar.lawful) (by decide) _
    |>.field (.items EnvFromSource.lawful) (by decide) _
    |>.field (.items Volume.lawful) (by decide) _
    |>.field (.items VolumeMount.lawful) (by decide) _

theorem PodPreset.lawful : PodPreset.codec.Lawful := .customResource
  ((Record.Lawful.of _)
    |>.field (.strict ObjectMeta.lawful) (by decide) _
    |>.field (.strict PresetSpec.lawful) (by decide) _)
  apiVersion "PodPreset" (by decide) (by decide)

/-! ### Mapping tables -/

theorem Record.read_fieldOr {σ α β : Type} (record : Record σ (β → α)) (key second : String)
    (slot : Slot β) (get : σ → β) {look : String → Option Json} (h : look second = none) :
    (record.fieldOr key second slot get).read look = (record.field key slot get).read look := by
  simp only [fieldOr, field, h]
  cases look key with
  | none => rfl
  | some document => rfl

namespace TenantMapping

theorem requestsSlot_lawful : requestsSlot.Lawful := by
  have hlist : Codec.string.list.Lawful := .list .string
  refine ⟨fun names => hlist.decode_encode names, fun names document hmem => ?_⟩
  obtain rfl : Codec.string.list.encode names = document := Option.some.inj hmem
  exact hlist.sorted_encode names

theorem members_lawful : ((Record.of TenantMapping.mk)
    |>.field requestsKey requestsSlot (·.requests)
    |>.field targetKey (.defaulted .string "" fun _ => false) (·.target)).Lawful id :=
  (Record.Lawful.of _)
    |>.field requestsSlot_lawful (by decide) _
    |>.field (.defaulted .string "") (by decide) _

theorem lawful : codec.Lawful := by
  refine ⟨fun mapping => ?_, (Codec.Lawful.object members_lawful).encode_ne_null,
    (Codec.Lawful.object members_lawful).sorted_encode⟩
  have holder : Record.look _ mapping olderTargetKey = none :=
    members_lawful.look_eq_none (by decide) mapping
  exact (Record.read_fieldOr _ targetKey olderTargetKey _ _ holder).trans
    (members_lawful.read_look mapping)

end TenantMapping

theorem MappingTable.lawful : MappingTable.codec.Lawful := .either <|
  (Record.Lawful.of _)
    |>.field (.defaulted .string "") (by decide) _
    |>.field (.optional .string) (by decide) _
    |>.field (.defaulted TenantMapping.lawful.list []) (by decide) _

/-! ### Normal forms -/

namespace Codec

variable {α : Type}

/-- A document as the codec writes what it reads from it. -/
def normalForm? (codec : Codec α) (document : Json) : Option Json :=
  (codec.decode document).map codec.encode

/-- Values are read back as they were written, documents have normal forms, and values that are
written alike are equal. -/
structure RoundTrips (codec : Codec α) : Prop where
  decode_encode : ∀ value, codec.decode (codec.encode value) = some value
  exists_normal : ∀ document value, codec.decode document = some value →
    ∃ normal, codec.normalForm? document = some normal ∧ codec.decode normal = some value ∧
      codec.normalForm? normal = some normal
  encode_injective : Function.Injective codec.encode

theorem Lawful.roundTrips {codec : Codec α} (h : codec.Lawful) : codec.RoundTrips := by
  refine ⟨h.decode_encode, fun document value hread => ?_, fun value other heq => ?_⟩
  · have hagain := h.decode_encode value
    refine ⟨codec.encode value, ?_, hagain, ?_⟩
    · rw [normalForm?, hread, Option.map_some]
    · rw [normalForm?, hagain, Option.map_some]
  · refine Option.some.inj ?_
    rw [← h.decode_encode value, heq, h.decode_encode]

/-- The older spelling of a mapping gives way to the one that is written. -/
example : TenantMapping.codec.normalForm? (.obj [("map-common-service-namespace", .str "own"),
      ("requested-from-namespace", .str "web")]) =
    some (.obj [("map-to-common-service-namespace", .str "own"),
      ("requested-from-namespace", .arr [.str "web"])]) := by decide

end Codec

/-- **The operator's own formats lose nothing.**  Presets, operand requests and mapping tables are
read back as they were written, their documents have normal forms, and none of them are written alike
unless they are equal. -/
theorem own_formats_roundTrip :
    PodPreset.codec.RoundTrips ∧ OperandRequest.codec.RoundTrips ∧ MappingTable.codec.RoundTrips :=
  ⟨PodPreset.lawful.roundTrips, OperandRequest.lawful.roundTrips, MappingTable.lawful.roundTrips⟩

end WebhookOperator
