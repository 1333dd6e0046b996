import WebhookOperator.Api.Client
import WebhookOperator.Cluster.Webhook
import WebhookOperator.Proofs.Codec.Cluster

/-!
# The documents of a registration object

A registration object is the same after it has been written and read again, and so is the status
with which a cluster refuses a request.  So a client that reads the answer to its request has the
very object that the cluster keeps.

* `WebhookConfiguration.lawful`, `StatusError.lawful`: nothing is lost on the way
* `Api.result_answered`: what a client makes of an answer that carries a value
* `Api.result_refused`: what it makes of a refusal
-/

namespace WebhookOperator

/-! ### Further kinds of values -/

namespace Codec.Lawful

theorem bytes : Codec.bytes.Lawful := by
  refine ⟨fun value => ?_, fun _ => Json.noConfusion, fun _ => trivial⟩
  simp only [Codec.bytes, String.toList_ofList, Text.Base64.decode_encode]

theorem uint16 : Codec.uint16.Lawful := by
  refine ⟨fun value => ?_, fun _ => Json.noConfusion, fun _ => trivial⟩
  have hdecode : ∀ document, Codec.uint16.decode document = document.int?.bind fun number =>
      if 0 ≤ number ∧ number < UInt16.size then some (UInt16.ofNat number.toNat) else none :=
    fun _ => rfl
  have hencode : (Codec.uint16.encode value).int? = some (value.toNat : Int) := rfl
  have hrange : 0 ≤ (value.toNat : Int) ∧ (value.toNat : Int) < UInt16.size :=
    ⟨Int.natCast_nonneg _, Int.ofNat_lt.2 value.toNat_lt_size⟩
  rw [hdecode, hencode, Option.bind_some, if_pos hrange, Int.toNat_natCast, UInt16.ofNat_toNat]

/-- Reading arrays as well does not disturb what is written as an object. -/
theorem either {α : Type} {record : Record α α} (h : record.Lawful id) :
    (Codec.either record).Lawful :=
  ⟨h.read_look, (object h).encode_ne_null, (object h).sorted_encode⟩

end Codec.Lawful

namespace Slot.Lawful

variable {α : Type} {codec : Codec α}

theorem strict (h : codec.Lawful) : (Slot.strict codec).Lawful := by
  refine ⟨fun value => h.decode_encode value, fun value document hmem => ?_⟩
  obtain rfl : codec.encode value = document := by simpa [Slot.strict] using hmem
  exact h.sorted_encode value

/-- A slot that writes every value. -/
theorem defaulted (h : codec.Lawful) (default : α) :
    (Slot.defaulted codec default fun _ => false).Lawful := by
  refine ⟨fun value => h.decode_encode value, fun value document hmem => ?_⟩
  obtain rfl : codec.encode value = document := by simpa [Slot.defaulted] using hmem
  exact h.sorted_encode value

/-- The policy about being asked again has a member only where it says something. -/
theorem reinvocation (kind : WebhookKind) : kind.reinvocationSlot.Lawful := by
  cases kind with
  | mutating => exact optional .string
  | validating => exact ⟨fun _ => rfl, fun _ _ hmem => by cases hmem⟩

end Slot.Lawful

/-! ### Registration objects -/

theorem LabelSelector.lawful : LabelSelector.codec.Lawful := LabelSelector.sound.lawful

theorem ServiceReference.lawful : ServiceReference.codec.Lawful := .object <|
  (Record.Lawful.of _)
    |>.field .text (by decide) _
    |>.field .text (by decide) _
    |>.field (.optional .string) (by decide) _
    |>.field (.optional .int32) (by decide) _

theorem ClientConfig.lawful : ClientConfig.codec.Lawful := .object <|
  (Record.Lawful.of _)
    |>.field (.optional .bytes) (by decide) _
    |>.field (.optional ServiceReference.lawful) (by decide) _
    |>.field (.optional .string) (by decide) _

theorem MatchCondition.lawful : MatchCondition.codec.Lawful := .object <|
  (Record.Lawful.of _)
    |>.field .text (by decide) _
    |>.field .text (by decide) _

theorem RuleWithOperations.lawful : RuleWithOperations.codec.Lawful := .object <|
  (Record.Lawful.of _)
    |>.field (.optional (.list .string)) (by decide) _
    |>.field (.optional (.list .string)) (by decide) _
    |>.field (.optional (.list .string)) (by decide) _
    |>.field (.optional (.list .string)) (by decide) _
    |>.field (.optional .string) (by decide) _

theorem Webhook.lawful (kind : WebhookKind) : (Webhook.codec kind).Lawful := .object <|
  (Record.Lawful.of _)
    |>.field (.expected (.list .string) []) (by simp [Record.of]) _
    |>.field (.expected ClientConfig.lawful {}) (by simp [Record.of, Record.field]) _
    |>.field (.optional .string) (by simp [Record.of, Record.field]) _
    |>.field (.optional (.list MatchCondition.lawful)) (by simp [Record.of, Record.field]) _
    |>.field (.optional .string) (by simp [Record.of, Record.field]) _
    |>.field .text (by simp [Record.of, Record.field]) _
    |>.field (.optional LabelSelector.lawful) (by simp [Record.of, Record.field]) _
    |>.field (.optional LabelSelector.lawful) (by simp [Record.of, Record.field]) _
    |>.field (.reinvocation kind) (by simp [Record.of, Record.field]) _
    |>.field (.optional (.list RuleWithOperations.lawful)) (by simp [Record.of, Record.field]) _
    |>.field .text (by simp [Record.of, Record.field]) _
    |>.field (.optional .int32) (by simp [Record.of, Record.field]) _

theorem WebhookConfiguration.lawful (kind : WebhookKind) : (codec kind).Lawful :=
  .resource
    ((Record.Lawful.of _)
      |>.field (.expected ObjectMeta.lawful {}) (by simp [Record.of]) _
      |>.field (.optional (.list (Webhook.lawful kind))) (by simp [Record.of, Record.field]) _)
    registrationApiVersion kind.objectKind (by simp [Record.of, Record.field])
    (by simp [Record.of, Record.field])

/-! ### Answers -/

theorem StatusError.lawful : StatusError.codec.Lawful := .either <|
  (Record.Lawful.of _)
    |>.field (.strict .string) (by decide) _
    |>.field (.defaulted .string "") (by decide) _
    |>.field (.defaulted .string "") (by decide) _
    |>.field (.strict .uint16) (by decide) _

namespace Api

/-- A client has the value that an answer carries. -/
theorem result_answered {α : Type} {codec : Codec α} (h : codec.Lawful) {status : Nat}
    (hstatus : isFailure status = false) (value : α) :
    result codec (.answered status (.ofJson (codec.encode value))) = .ok value := by
  simp [result, hstatus, Payload.ofJson, h.decode_encode]

/-- A client has the status that a refusal carries. -/
theorem result_refused {α : Type} (codec : Codec α) {status : Nat}
    (hstatus : isFailure status = true) (error : StatusError) :
    result codec (.answered status (.ofJson (StatusError.codec.encode error))) =
      .error (.status error) := by
  rw [result, if_pos hstatus, refusal, Payload.ofJson, Option.bind_some,
    StatusError.lawful.decode_encode, Option.getD_some]

end Api

end WebhookOperator
