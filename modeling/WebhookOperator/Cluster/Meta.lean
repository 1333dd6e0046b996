import WebhookOperator.Cluster.FieldSet
import WebhookOperator.Cluster.Time

/-!
# Metadata of cluster objects

What every object of a cluster carries beside its own content: names, labels, annotations, the
version under which it is stored, its owners, and who has written which of its fields.
-/

namespace WebhookOperator

/-- The object that an object belongs to. -/
structure OwnerReference where
  apiVersion : String
  blockOwnerDeletion : Option Bool
  controller : Option Bool
  kind : String
  name : String
  uid : String
deriving DecidableEq, Inhabited

/-- The fields that a writer is responsible for. -/
structure ManagedFields where
  apiVersion : Option String
  fieldsType : Option String
  fieldsV1 : Option FieldSet
  manager : Option String
  operation : Option String
  subresource : Option String
  time : Option Timestamp
deriving DecidableEq, Inhabited

/-- Metadata of an object. -/
structure ObjectMeta where
  annotations : Option (Dict String) := none
  creationTimestamp : Option Timestamp := none
  deletionGracePeriodSeconds : Option Int64 := none
  deletionTimestamp : Option Timestamp := none
  finalizers : Option (List String) := none
  generateName : Option String := none
  generation : Option Int64 := none
  labels : Option (Dict String) := none
  managedFields : Option (List ManagedFields) := none
  name : Option String := none
  namespaceName : Option String := none
  ownerReferences : Option (List OwnerReference) := none
  resourceVersion : Option String := none
  selfLink : Option String := none
  uid : Option String := none
deriving DecidableEq, Inhabited

def OwnerReference.form : Form OwnerReference := .record "OwnerReference" <|
  (Fields.of OwnerReference.mk)
    |>.field "apiVersion" "api_version" .text (·.apiVersion)
    |>.field "blockOwnerDeletion" "block_owner_deletion" (.optional .bool) (·.blockOwnerDeletion)
    |>.field "controller" "controller" (.optional .bool) (·.controller)
    |>.field "kind" "kind" .text (·.kind)
    |>.field "name" "name" .text (·.name)
    |>.field "uid" "uid" .text (·.uid)

def ManagedFields.form : Form ManagedFields := .record "ManagedFieldsEntry" <|
  (Fields.of ManagedFields.mk)
    |>.field "apiVersion" "api_version" (.optional .string) (·.apiVersion)
    |>.field "fieldsType" "fields_type" (.optional .string) (·.fieldsType)
    |>.field "fieldsV1" "fields_v1" (.optional FieldSet.form) (·.fieldsV1)
    |>.field "manager" "manager" (.optional .string) (·.manager)
    |>.field "operation" "operation" (.optional .string) (·.operation)
    |>.field "subresource" "subresource" (.optional .string) (·.subresource)
    |>.field "time" "time" (.optional Timestamp.form) (·.time)

namespace ObjectMeta

def form : Form ObjectMeta := .record "ObjectMeta" <|
  (Fields.of ObjectMeta.mk)
    |>.field "annotations" "annotations" (.optional (.dict .string)) (·.annotations)
    |>.field "creationTimestamp" "creation_timestamp" (.optional Timestamp.form)
      (·.creationTimestamp)
    |>.field "deletionGracePeriodSeconds" "deletion_grace_period_seconds" (.optional .int64)
      (·.deletionGracePeriodSeconds)
    |>.field "deletionTimestamp" "deletion_timestamp" (.optional Timestamp.form)
      (·.deletionTimestamp)
    |>.field "finalizers" "finalizers" (.optional (.list .string)) (·.finalizers)
    |>.field "generateName" "generate_name" (.optional .string) (·.generateName)
    |>.field "generation" "generation" (.optional .int64) (·.generation)
    |>.field "labels" "labels" (.optional (.dict .string)) (·.labels)
    |>.field "managedFields" "managed_fields" (.optional (.list ManagedFields.form))
      (·.managedFields)
    |>.field "name" "name" (.optional .string) (·.name)
    |>.field "namespace" "namespace" (.optional .string) (·.namespaceName)
    |>.field "ownerReferences" "owner_references" (.optional (.list OwnerReference.form))
      (·.ownerReferences)
    |>.field "resourceVersion" "resource_version" (.optional .string) (·.resourceVersion)
    |>.field "selfLink" "self_link" (.optional .string) (·.selfLink)
    |>.field "uid" "uid" (.optional .string) (·.uid)

def codec : Codec ObjectMeta := form.codec

/-- What an object is called: its name, else the name that one is generated from, else nothing. -/
def displayName (metadata : ObjectMeta) : String :=
  (metadata.name.or metadata.generateName).getD ""

def annotation? (metadata : ObjectMeta) (key : String) : Option String :=
  metadata.annotations.bind (·.get? key)

/-- The labels; an object without any has the empty dictionary. -/
def labelDict (metadata : ObjectMeta) : Dict String := metadata.labels.getD .empty

def annotate (metadata : ObjectMeta) (key value : String) : ObjectMeta :=
  { metadata with annotations := some ((metadata.annotations.getD .empty).insert key value) }

end ObjectMeta

end WebhookOperator
