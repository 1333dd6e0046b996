import WebhookOperator.Proofs.Codec.Registration
import WebhookOperator.Tenancy.OperandRequest

/-!
# The documents of an operand request

An operand request is the same after it has been written and read again.  A member is left out where
it would be empty, so a registry namespace is written exactly when it is not the empty one.

* `OperandRequest.lawful`: nothing is lost on the way
* `RegistryRequest.member?_registryNamespace`, `RegistryRequest.member?_with`: where a registry
  namespace is written, and that nothing else hangs on it
* `RegistryRequest.decode_obj_iff`, `OperandRequestSpec.decode_obj_iff`: what is read, member by member
-/

namespace WebhookOperator

namespace Slot.Lawful

variable {α : Type} {codec : Codec α}

/-- A slot that leaves out nothing but its default. -/
theorem omitting (h : codec.Lawful) {default : α} {omitted : α → Bool}
    (homitted : ∀ value, omitted value = true → value = default) :
    (Slot.defaulted codec default omitted).Lawful := by
  refine ⟨fun value => ?_, fun value document hmem => ?_⟩
  · cases hvalue : omitted value with
    | true =>
      have heq : value = default := homitted value hvalue
      have hwrite : (Slot.defaulted codec default omitted).write value = none := if_pos hvalue
      rw [hwrite, heq]
      rfl
    | false =>
      have hread := h.decode_encode value
      simpa [Slot.defaulted, hvalue] using hread
  · have hwritten : document = codec.encode value := by
      cases hvalue : omitted value <;> simp_all [Slot.defaulted]
    rw [hwritten]
    exact h.sorted_encode value

theorem items (h : codec.Lawful) : (Slot.items codec).Lawful :=
  omitting h.list fun _ hvalue => List.isEmpty_iff.1 hvalue

end Slot.Lawful

/-! ### Kinds of objects -/

theorem Operand.lawful : Operand.codec.Lawful := .either <|
  (Record.Lawful.of _)
    |>.field (.strict .string) (by decide) _

theorem RegistryRequest.lawful : RegistryRequest.codec.Lawful := .either <|
  (Record.Lawful.of _)
    |>.field (.strict .string) (by decide) _
    |>.field (.omitting .string fun _ hvalue => String.isEmpty_iff.1 hvalue) (by decide) _
    |>.field (.items Operand.lawful) (by decide) _
    |>.field (.optional .string) (by decide) _

theorem OperandRequestSpec.lawful : OperandRequestSpec.codec.Lawful := .either <|
  (Record.Lawful.of _)
    |>.field (.defaulted RegistryRequest.lawful.list []) (by decide) _

theorem OperandRequest.lawful : OperandRequest.codec.Lawful := .customResource
  ((Record.Lawful.of _)
    |>.field (.strict ObjectMeta.lawful) (by decide) _
    |>.field (.strict OperandRequestSpec.lawful) (by decide) _)
  apiVersion "OperandRequest" (by decide) (by decide)

/-! ### What is written -/

namespace RegistryRequest

/-- How a registry namespace is written: the empty one is left out. -/
def written (name : String) : Option Json := if name = "" then none else some (.str name)

theorem member?_registryNamespace (request : RegistryRequest) :
    (codec.encode request).member? "registryNamespace" = written request.registryNamespace := by
  change Record.look _ request "registryNamespace" = _
  simp [Record.look_field, Slot.defaulted, Codec.string, written]

/-- No other member hangs on the registry namespace. -/
theorem member?_with (request : RegistryRequest) (name : String) {key : String}
    (hne : key ≠ "registryNamespace") :
    (codec.encode { request with registryNamespace := name }).member? key =
      (codec.encode request).member? key := by
  change Record.look _ { request with registryNamespace := name } key = Record.look _ request key
  simp [Record.look_field, hne]

end RegistryRequest

theorem OperandRequestSpec.encode_eq (spec : OperandRequestSpec) :
    codec.encode spec = .obj [("requests", RegistryRequest.codec.list.encode spec.requests)] := rfl

theorem OperandRequest.encode_eq (object : OperandRequest) :
    codec.encode object = .obj [("apiVersion", .str apiVersion), ("kind", .str "OperandRequest"),
      ("metadata", ObjectMeta.codec.encode object.metadata),
      ("spec", OperandRequestSpec.codec.encode object.spec)] := by
  have hkeys : ["apiVersion", "kind", "metadata", "spec"].Pairwise (· < ·) := by decide
  have hsorted : Entries.Sorted [("apiVersion", Json.str apiVersion), ("kind", .str "OperandRequest"),
      ("metadata", ObjectMeta.codec.encode object.metadata),
      ("spec", OperandRequestSpec.codec.encode object.spec)] := List.pairwise_map.1 hkeys
  exact congrArg Json.obj (Entries.ofList_of_sorted hsorted)

/-! ### What is read -/

theorem RegistryRequest.decode_obj_iff {members : Entries Json} {request : RegistryRequest} :
    codec.decode (.obj members) = some request ↔
      (Slot.strict .string).read (members.lookup "registry") = some request.registry ∧
      (Slot.defaulted .string "" String.isEmpty).read (members.lookup "registryNamespace") =
        some request.registryNamespace ∧
      (Slot.items Operand.codec).read (members.lookup "operands") = some request.operands ∧
      (Slot.optional .string).read (members.lookup "description") = some request.description := by
  simp only [codec, Codec.either, Codec.readEither, Record.read_field, Record.of,
    Option.bind_eq_some_iff, Option.map_eq_some_iff]
  constructor
  · rintro ⟨_, ⟨_, ⟨_, ⟨_, hmake, registry, hregistry, rfl⟩, name, hname, rfl⟩, operands, hoperands,
      rfl⟩, description, hdescription, rfl⟩
    cases hmake
    exact ⟨hregistry, hname, hoperands, hdescription⟩
  · rintro ⟨hregistry, hname, hoperands, hdescription⟩
    exact ⟨_, ⟨_, ⟨_, ⟨_, rfl, _, hregistry, rfl⟩, _, hname, rfl⟩, _, hoperands, rfl⟩, _,
      hdescription, rfl⟩

theorem OperandRequestSpec.decode_obj_iff {members : Entries Json} {spec : OperandRequestSpec} :
    codec.decode (.obj members) = some spec ↔
      (Slot.defaulted RegistryRequest.codec.list [] fun _ => false).read
        (members.lookup "requests") = some spec.requests := by
  simp only [codec, Codec.either, Codec.readEither, Record.read_field, Record.of,
    Option.bind_some, Option.map_eq_some_iff]
  constructor
  · rintro ⟨requests, hrequests, rfl⟩
    exact hrequests
  · intro h
    exact ⟨_, h, rfl⟩

theorem OperandRequest.decode_obj_iff {members : Entries Json} {object : OperandRequest} :
    codec.decode (.obj members) = some object ↔
      (Slot.strict ObjectMeta.codec).read (members.lookup "metadata") = some object.metadata ∧
      (Slot.strict OperandRequestSpec.codec).read (members.lookup "spec") = some object.spec := by
  simp only [codec, Codec.customResource, Codec.readEither, Record.read_field, Record.of,
    Option.bind_eq_some_iff, Option.map_eq_some_iff]
  constructor
  · rintro ⟨_, ⟨_, hmake, metadata, hmetadata, rfl⟩, spec, hspec, rfl⟩
    cases hmake
    exact ⟨hmetadata, hspec⟩
  · rintro ⟨hmetadata, hspec⟩
    exact ⟨_, ⟨_, rfl, _, hmetadata, rfl⟩, _, hspec, rfl⟩

end WebhookOperator
