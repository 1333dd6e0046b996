import WebhookOperator.Admission.Handler
import WebhookOperator.Proofs.Codec.Cluster

/-!
# Objects of any kind

A handler gets the object of a request by way of an object of any kind: the metadata is read and
written again, a part of a kind that is not whole is dropped, and the other members stay as they are.

* `AnyObject.decode_obj_iff`: what is read
* `AnyObject.encode_of_decode`: the document that a handler is given
* `AnyObject.lookup_passed`: it has the members of the document that was read
* `ReviewRequest.objectAs_eq_ok_iff`, `ReviewRequest.exists_objectAs_eq_error_iff`: the value that a
  handler is given
-/

namespace WebhookOperator

open Json

namespace AnyObject

theorem lookup_dropPartialKind (members : Entries Json) {key : String} (hapiVersion : key ≠ "apiVersion")
    (hkind : key ≠ "kind") :
    (dropPartialKind members).lookup key = members.lookup key := by
  unfold dropPartialKind
  split <;> simp [Entries.lookup_erase, hapiVersion, hkind]

theorem lookup_dropPartialKind_congr {members others : Entries Json}
    (hapiVersion : members.lookup "apiVersion" = others.lookup "apiVersion")
    (hkind : members.lookup "kind" = others.lookup "kind") {key : String}
    (hkey : key = "apiVersion" ∨ key = "kind") :
    (dropPartialKind members).lookup key = (dropPartialKind others).lookup key := by
  unfold dropPartialKind
  rw [hapiVersion, hkind]
  rcases hkey with rfl | rfl <;> split <;> simp [Entries.lookup_erase, hapiVersion, hkind]

/-- The members of a document that has gone through an object of any kind. -/
def passed (members : Entries Json) (metadata : ObjectMeta) : Entries Json :=
  Entries.insert "metadata" (ObjectMeta.codec.encode metadata)
    (Entries.erase "metadata" (dropPartialKind members))

theorem lookup_passed_metadata (members : Entries Json) (metadata : ObjectMeta) :
    (passed members metadata).lookup "metadata" = some (ObjectMeta.codec.encode metadata) := by
  rw [passed, Entries.lookup_insert, if_pos rfl]

theorem lookup_passed_of_ne (members : Entries Json) (metadata : ObjectMeta) {key : String}
    (h : key ≠ "metadata") :
    (passed members metadata).lookup key = (dropPartialKind members).lookup key := by
  rw [passed, Entries.lookup_insert, if_neg h, Entries.lookup_erase, if_neg h]

theorem lookup_passed (members : Entries Json) (metadata : ObjectMeta) {key : String}
    (hmetadata : key ≠ "metadata") (hapiVersion : key ≠ "apiVersion") (hkind : key ≠ "kind") :
    (passed members metadata).lookup key = members.lookup key := by
  rw [lookup_passed_of_ne members metadata hmetadata, lookup_dropPartialKind members hapiVersion hkind]

theorem decode_obj_iff {members : Entries Json} {held : AnyObject} :
    codec.decode (.obj members) = some held ↔
      (Slot.defaulted ObjectMeta.codec {} fun _ => false).read (members.lookup "metadata") =
        some held.metadata ∧
      held.members = Entries.erase "metadata" (dropPartialKind members) := by
  have hdecode : codec.decode (.obj members) =
      ((Slot.defaulted ObjectMeta.codec {} fun _ => false).read (members.lookup "metadata")).map
        fun metadata => ⟨metadata, Entries.erase "metadata" (dropPartialKind members)⟩ := by
    simp only [codec]
    cases members.lookup "metadata" with
    | none => rfl
    | some document =>
      simp only [Slot.defaulted]
      cases ObjectMeta.codec.decode document <;> rfl
  rw [hdecode, Option.map_eq_some_iff]
  constructor
  · rintro ⟨metadata, hmetadata, rfl⟩
    exact ⟨hmetadata, rfl⟩
  · rintro ⟨hmetadata, hmembers⟩
    exact ⟨held.metadata, hmetadata, by rw [← hmembers]⟩

/-- The document that a handler is given for the one that was read. -/
theorem encode_of_decode {members : Entries Json} {held : AnyObject}
    (h : codec.decode (.obj members) = some held) :
    codec.encode held = .obj (passed members held.metadata) := by
  obtain ⟨_, hmembers⟩ := decode_obj_iff.1 h
  simp only [codec, hmembers]
  rfl

end AnyObject

namespace ReviewRequest

variable {α : Type} {request : ReviewRequest} {kind : String} {codec : Codec α}

/-- An object of a request is of a kind when the document of its object is. -/
theorem objectAs_eq_ok_iff {held : AnyObject} (hobject : request.object = some held) {value : α} :
    request.objectAs kind codec = .ok value ↔
      codec.decode (AnyObject.codec.encode held) = some value := by
  rw [objectAs, hobject]
  dsimp only
  cases codec.decode (AnyObject.codec.encode held) with
  | none => simp
  | some found => simp

/-- It is of none when there is no object or when the document does not decode. -/
theorem exists_objectAs_eq_error_iff :
    (∃ error, request.objectAs kind codec = .error error) ↔
      request.object = none ∨ ∃ object, request.object = some object ∧
        codec.decode (AnyObject.codec.encode object) = none := by
  rw [objectAs]
  cases request.object with
  | none => simp
  | some object =>
    dsimp only
    cases hdecode : codec.decode (AnyObject.codec.encode object) with
    | none => simp [hdecode]
    | some value => simp [hdecode]

end ReviewRequest

end WebhookOperator
