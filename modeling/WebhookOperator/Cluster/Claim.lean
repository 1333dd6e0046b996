import WebhookOperator.Cluster.Meta
import WebhookOperator.Cluster.Selector

/-!
# Claims for storage

A pod gets storage through a claim, which is there already or is made from a template for as long as
the pod lives.
-/

namespace WebhookOperator

structure TypedLocalReference where
  apiGroup : Option String
  kind : String
  name : String
deriving DecidableEq, Inhabited

structure TypedReference where
  apiGroup : Option String
  kind : String
  name : String
  namespaceName : Option String
deriving DecidableEq, Inhabited

structure StorageRequirements where
  limits : Option (Dict String)
  requests : Option (Dict String)
deriving DecidableEq, Inhabited

structure ClaimSpec where
  accessModes : Option (List String) := none
  dataSource : Option TypedLocalReference := none
  dataSourceRef : Option TypedReference := none
  resources : Option StorageRequirements := none
  selector : Option LabelSelector := none
  storageClassName : Option String := none
  volumeAttributesClassName : Option String := none
  volumeMode : Option String := none
  volumeName : Option String := none
deriving DecidableEq, Inhabited

/-- A claim that is made for a pod. -/
structure ClaimTemplate where
  metadata : Option ObjectMeta
  spec : ClaimSpec
deriving DecidableEq, Inhabited

structure EphemeralSource where
  volumeClaimTemplate : Option ClaimTemplate
deriving DecidableEq, Inhabited

/-- A claim that is there already. -/
structure ClaimSource where
  claimName : String
  readOnly : Option Bool
deriving DecidableEq, Inhabited

/-! ### Forms -/

def TypedLocalReference.form : Form TypedLocalReference := .record "TypedLocalObjectReference" <|
  (Fields.of TypedLocalReference.mk)
    |>.field "apiGroup" "api_group" (.optional .string) (·.apiGroup)
    |>.field "kind" "kind" .text (·.kind)
    |>.field "name" "name" .text (·.name)

def TypedReference.form : Form TypedReference := .record "TypedObjectReference" <|
  (Fields.of TypedReference.mk)
    |>.field "apiGroup" "api_group" (.optional .string) (·.apiGroup)
    |>.field "kind" "kind" .text (·.kind)
    |>.field "name" "name" .text (·.name)
    |>.field "namespace" "namespace" (.optional .string) (·.namespaceName)

def StorageRequirements.form : Form StorageRequirements := .record "VolumeResourceRequirements" <|
  (Fields.of StorageRequirements.mk)
    |>.field "limits" "limits" (.optional (.dict .quantity)) (·.limits)
    |>.field "requests" "requests" (.optional (.dict .quantity)) (·.requests)

def ClaimSpec.form : Form ClaimSpec := .record "PersistentVolumeClaimSpec" <|
  (Fields.of ClaimSpec.mk)
    |>.field "accessModes" "access_modes" (.optional (.list .string)) (·.accessModes)
    |>.field "dataSource" "data_source" (.optional TypedLocalReference.form) (·.dataSource)
    |>.field "dataSourceRef" "data_source_ref" (.optional TypedReference.form) (·.dataSourceRef)
    |>.field "resources" "resources" (.optional StorageRequirements.form) (·.resources)
    |>.field "selector" "selector" (.optional LabelSelector.form) (·.selector)
    |>.field "storageClassName" "storage_class_name" (.optional .string) (·.storageClassName)
    |>.field "volumeAttributesClassName" "volume_attributes_class_name" (.optional .string)
      (·.volumeAttributesClassName)
    |>.field "volumeMode" "volume_mode" (.optional .string) (·.volumeMode)
    |>.field "volumeName" "volume_name" (.optional .string) (·.volumeName)

def ClaimTemplate.form : Form ClaimTemplate := .record "PersistentVolumeClaimTemplate" <|
  (Fields.of ClaimTemplate.mk)
    |>.field "metadata" "metadata" (.optional ObjectMeta.form) (·.metadata)
    |>.field "spec" "spec" (.expected ClaimSpec.form {}) (·.spec)

def EphemeralSource.form : Form EphemeralSource := .record "EphemeralVolumeSource" <|
  (Fields.of EphemeralSource.mk)
    |>.field "volumeClaimTemplate" "volume_claim_template" (.optional ClaimTemplate.form)
      (·.volumeClaimTemplate)

def ClaimSource.form : Form ClaimSource := .record "PersistentVolumeClaimVolumeSource" <|
  (Fields.of ClaimSource.mk)
    |>.field "claimName" "claim_name" .text (·.claimName)
    |>.field "readOnly" "read_only" (.optional .bool) (·.readOnly)

end WebhookOperator
