import WebhookOperator.Admission.Review
import WebhookOperator.Api.Client
import WebhookOperator.Preset.Injection
import WebhookOperator.Registration.Registry
import WebhookOperator.Tenancy.OperandRequest

/-!
# The admission handlers

A handler decides about one request. It reads the object as the kind that it knows and asks the
cluster at most once: for the presets of a namespace, or for the mapping table. A pod is never
refused because presets conflict; it is admitted as it is, and the decision tells where that was.
-/

namespace WebhookOperator

open Api

/-- What is decided about a request. -/
structure Decision where
  verdict : Verdict
  /-- The namespace of a pod that was left alone because presets conflict. -/
  conflictIn : Option String := none
deriving DecidableEq, Inhabited

def PodPreset.resource (inNamespace : String) : Resource PodPreset where
  codec := PodPreset.codec
  path := "/apis/" ++ PodPreset.apiVersion ++ "/namespaces/" ++ inNamespace ++ "/podpresets"

def ConfigMap.resource (inNamespace : String) : Resource ConfigMap where
  codec := ConfigMap.codec
  path := "/api/v1/namespaces/" ++ inNamespace ++ "/configmaps"

def MappingTable.load (configMap : ConfigMap) : Except AdmissionError MappingTable :=
  match MappingTable.ofConfigMap? configMap with
  | some table => .ok table
  | none => .error (.mappingConfig "the text is no mapping table")

namespace ReviewRequest

def objectAs (request : ReviewRequest) (kind : String) (codec : Codec α) :
    Except AdmissionError α :=
  match request.object with
  | none => .error .missingObject
  | some object =>
    match codec.decode (AnyObject.codec.encode object) with
    | some value => .ok value
    | none => .error (.decode kind "the object has another form")

def isAboutMappingTable (request : ReviewRequest) : Bool :=
  request.namespaceName == some MappingTable.configMapNamespace &&
    request.name == MappingTable.configMapName

end ReviewRequest

/-! ### Presets -/

namespace Pod

def decision (pod : Pod) (podNamespace : String) (injection : Injection) : Decision where
  verdict := .ofPatch? (pod.patch? injection)
  conflictIn := match injection with
    | .conflicted .. => some podNamespace
    | _ => none

end Pod

/-- Injects presets into the pod of a request. The presets are those of the request's namespace, or
else of the pod's. -/
def handlePod (request : ReviewRequest) : Session (Except AdmissionError Decision) :=
  match request.objectAs "Pod" Pod.codec with
  | .error error => .done (.error error)
  | .ok pod =>
    let podNamespace := (request.namespaceName.or pod.metadata.namespaceName).getD ""
    if pod.exclusion.isSome then .done (.ok { verdict := .allowed })
    else do
      match ← (PodPreset.resource podNamespace).list with
      | .error error => return .error (.api error)
      | .ok presets =>
        return match pod.inject podNamespace presets.items with
          | .error error => .error (.selector error)
          | .ok injection => .ok (pod.decision podNamespace injection)

/-! ### Operand requests -/

namespace OperandRequest

def verdict (object : OperandRequest) (mapping : Option ConfigMap) :
    Except AdmissionError Verdict :=
  match mapping with
  | none => .ok .allowed
  | some configMap => (MappingTable.load configMap).map fun table => .ofPatch? (object.patch? table)

/-- A request for operands that belongs to a namespace, unless it says to which one it belongs. -/
def within (object : OperandRequest) (inNamespace : Option String) : OperandRequest :=
  { object with metadata :=
    { object.metadata with namespaceName := object.metadata.namespaceName.or inNamespace } }

end OperandRequest

def handleOperandRequest (request : ReviewRequest) : Session (Except AdmissionError Decision) :=
  match request.objectAs "OperandRequest" OperandRequest.codec with
  | .error error => .done (.error error)
  | .ok object => do
    let mapping ← (ConfigMap.resource MappingTable.configMapNamespace).find?
      MappingTable.configMapName
    return match mapping with
      | .error error => .error (.api error)
      | .ok mapping =>
        ((object.within request.namespaceName).verdict mapping).map fun verdict =>
          { verdict := verdict }

/-! ### The mapping table -/

def ConfigMap.tableVerdict (configMap : ConfigMap) : Except AdmissionError Verdict :=
  (MappingTable.load configMap).map fun table =>
    match table.violation? with
    | none => .allowed
    | some violation => .denied violation.message

/-- Checks the mapping table of a request; every other config map is admitted unread. -/
def tableVerdict (request : ReviewRequest) : Except AdmissionError Verdict :=
  if request.isAboutMappingTable then
    (request.objectAs "ConfigMap" ConfigMap.codec).bind ConfigMap.tableVerdict
  else .ok .allowed

/-! ### Dispatch -/

def HandlerKind.handle (handler : HandlerKind) (request : ReviewRequest) : Session Decision := do
  let result ← match handler with
    | podPreset => handlePod request
    | operandRequest => handleOperandRequest request
    | namespaceMapping =>
      Session.done ((tableVerdict request).map fun verdict => { verdict := verdict })
  return match result with
    | .ok decision => decision
    | .error error => { verdict := .ofError error }

end WebhookOperator
