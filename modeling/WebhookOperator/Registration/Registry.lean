import WebhookOperator.Registration.Rule
import WebhookOperator.Tenancy.Source

/-!
# The registry of webhooks

A descriptor says all about one webhook: the path under which it is asked, the rule, and the
registration object that makes it known. The registry holds descriptors in the order in which they
were added. Names and paths are unique in it, since a name becomes the name of an object and a path
leads to one handler.
-/

namespace WebhookOperator

/-- Which handler answers a webhook's requests. -/
inductive HandlerKind where
  /-- Presets are injected into pods. -/
  | podPreset
  /-- Operand requests are sent to the registries of their tenant. -/
  | operandRequest
  /-- The mapping table is checked. -/
  | namespaceMapping
deriving DecidableEq, Inhabited

structure Descriptor where
  /-- The name of the registration object. -/
  name : String
  /-- The name of the webhook in it. -/
  webhookName : String
  /-- The path under which the webhook is asked. -/
  path : String
  kind : WebhookKind
  rule : Rule
  namespaceSelector : Option LabelSelector
  handler : HandlerKind
deriving DecidableEq, Inhabited

structure Registry where
  descriptors : List Descriptor := []
deriving DecidableEq, Inhabited

inductive RegistryError where
  | duplicateName (name : String)
  | duplicatePath (path : String)
deriving DecidableEq, Inhabited

/-- A webhook that changes objects is passed over when it cannot be reached, so that it never holds
up work; one that judges objects is not. -/
def WebhookKind.failurePolicy : WebhookKind → String
  | mutating => "Ignore"
  | validating => "Fail"

def HandlerKind.text : HandlerKind → String
  | podPreset => "podpreset"
  | operandRequest => "operandrequest"
  | namespaceMapping => "nsmapping"

def RegistryError.message : RegistryError → String
  | duplicateName name => "webhook configuration " ++ name ++ " is registered twice"
  | duplicatePath path => "webhook path " ++ path ++ " is registered twice"

namespace Registry

def add (registry : Registry) (descriptor : Descriptor) : Except RegistryError Registry :=
  if registry.descriptors.any (·.name == descriptor.name) then
    .error (.duplicateName descriptor.name)
  else if registry.descriptors.any (·.path == descriptor.path) then
    .error (.duplicatePath descriptor.path)
  else .ok ⟨registry.descriptors ++ [descriptor]⟩

def register (descriptor : Descriptor) : EStateM RegistryError Registry Unit := do
  let registry ← get
  let added ← MonadExcept.ofExcept (registry.add descriptor)
  set added

def ofList (descriptors : List Descriptor) : Except RegistryError Registry :=
  descriptors.foldlM add {}

def byPath? (registry : Registry) (path : String) : Option Descriptor :=
  registry.descriptors.find? (·.path == path)

end Registry

/-! ### The webhooks that are served -/

namespace Descriptor

/-- Presets are injected in the namespaces that carry a label for it. -/
def podPreset : Descriptor where
  name := "ibm-common-service-webhook-configuration"
  webhookName := "cs-podpreset.operator.ibm.com"
  path := "/mutate-ibm-cs-pod"
  kind := .mutating
  rule := (({} : Rule).oneResource "" "v1" "pods").forUpdate.forCreate.namespacedScope
  namespaceSelector := some
    { matchLabels := some (.ofList [("managed-by-common-service-webhook", "true")]) }
  handler := .podPreset

/-- Operand requests are redirected in every namespace. -/
def operandRequest : Descriptor where
  name := "ibm-operandrequest-webhook-configuration"
  webhookName := "ibm-cloudpak-operandrequest.operator.ibm.com"
  path := "/mutate-ibm-cp-operandrequest"
  kind := .mutating
  rule := (({} : Rule).oneResource "operator.ibm.com" "v1alpha1"
    "operandrequests").forCreate.forUpdate.namespacedScope
  namespaceSelector := none
  handler := .operandRequest

/-- The mapping table is checked in the namespace where it stands. -/
def namespaceMapping : Descriptor where
  name := "ibm-cs-ns-mapping-webhook-configuration"
  webhookName := "cs-ns-mapping-configmap.operator.ibm.com"
  path := "/validate-ibm-cs-ns-map"
  kind := .validating
  rule := (({} : Rule).oneResource "" "v1" "configmaps").forCreate.forUpdate.namespacedScope
  namespaceSelector := some {
    matchExpressions := some [{
      key := "kubernetes.io/metadata.name"
      operator := "In"
      values := some [MappingTable.configMapNamespace] }] }
  handler := .namespaceMapping

end Descriptor

/-- The registry of the operator. The webhook for operand requests is served only where the cluster
knows their kind. -/
def Registry.standard (withOperandRequests : Bool) : Except RegistryError Registry :=
  Registry.ofList <| Descriptor.podPreset ::
    (if withOperandRequests then [Descriptor.operandRequest] else []) ++
      [Descriptor.namespaceMapping]

end WebhookOperator
