import WebhookOperator.Cluster.Meta
import WebhookOperator.Cluster.Selector

/-!
# Registration objects

A cluster learns of a webhook from a registration object: which requests the webhook is asked about
and where it is reached. Webhooks that change objects and webhooks that only judge them are
registered in objects of two kinds, which are alike but for the policy about being asked again.
-/

namespace WebhookOperator

/-- Whether a webhook changes objects or only judges them. -/
inductive WebhookKind where
  | mutating
  | validating
deriving DecidableEq, Inhabited

structure ServiceReference where
  name : String
  namespaceName : String
  path : Option String
  port : Option Int32
deriving DecidableEq, Inhabited

structure ClientConfig where
  caBundle : Option (List UInt8) := none
  service : Option ServiceReference := none
  url : Option String := none
deriving DecidableEq, Inhabited

structure MatchCondition where
  expression : String
  name : String
deriving DecidableEq, Inhabited

/-- Which operations on which resources a webhook is asked about. -/
structure RuleWithOperations where
  apiGroups : Option (List String)
  apiVersions : Option (List String)
  operations : Option (List String)
  resources : Option (List String)
  scope : Option String
deriving DecidableEq, Inhabited

namespace WebhookKind

def objectKind : WebhookKind → String
  | mutating => "MutatingWebhookConfiguration"
  | validating => "ValidatingWebhookConfiguration"

def collection : WebhookKind → String
  | mutating => "mutatingwebhookconfigurations"
  | validating => "validatingwebhookconfigurations"

/-- What a registration says about being asked again after other changes. Only a webhook that
changes objects says so. -/
abbrev Reinvocation : WebhookKind → Type
  | mutating => Option String
  | validating => Unit

instance : (kind : WebhookKind) → DecidableEq kind.Reinvocation
  | mutating => inferInstanceAs (DecidableEq (Option String))
  | validating => inferInstanceAs (DecidableEq Unit)

def reinvocationSlot : (kind : WebhookKind) → Slot kind.Reinvocation
  | mutating => .optional .string
  | validating => ⟨fun _ => some (), fun _ => none⟩

end WebhookKind

structure Webhook (kind : WebhookKind) where
  admissionReviewVersions : List String
  clientConfig : ClientConfig
  failurePolicy : Option String
  matchConditions : Option (List MatchCondition)
  matchPolicy : Option String
  name : String
  namespaceSelector : Option LabelSelector
  objectSelector : Option LabelSelector
  reinvocationPolicy : kind.Reinvocation
  rules : Option (List RuleWithOperations)
  sideEffects : String
  timeoutSeconds : Option Int32
deriving DecidableEq

structure WebhookConfiguration (kind : WebhookKind) where
  metadata : ObjectMeta
  webhooks : Option (List (Webhook kind))
deriving DecidableEq

/-! ### Documents -/

def ServiceReference.codec : Codec ServiceReference := .object <|
  (Record.of ServiceReference.mk)
    |>.field "name" .text (·.name)
    |>.field "namespace" .text (·.namespaceName)
    |>.field "path" (.optional .string) (·.path)
    |>.field "port" (.optional .int32) (·.port)

def ClientConfig.codec : Codec ClientConfig := .object <|
  (Record.of ClientConfig.mk)
    |>.field "caBundle" (.optional .bytes) (·.caBundle)
    |>.field "service" (.optional ServiceReference.codec) (·.service)
    |>.field "url" (.optional .string) (·.url)

def MatchCondition.codec : Codec MatchCondition := .object <|
  (Record.of MatchCondition.mk)
    |>.field "expression" .text (·.expression)
    |>.field "name" .text (·.name)

def RuleWithOperations.codec : Codec RuleWithOperations := .object <|
  (Record.of RuleWithOperations.mk)
    |>.field "apiGroups" (.optional (.list .string)) (·.apiGroups)
    |>.field "apiVersions" (.optional (.list .string)) (·.apiVersions)
    |>.field "operations" (.optional (.list .string)) (·.operations)
    |>.field "resources" (.optional (.list .string)) (·.resources)
    |>.field "scope" (.optional .string) (·.scope)

def Webhook.codec (kind : WebhookKind) : Codec (Webhook kind) := .object <|
  (Record.of Webhook.mk)
    |>.field "admissionReviewVersions" (.expected (.list .string) []) (·.admissionReviewVersions)
    |>.field "clientConfig" (.expected ClientConfig.codec {}) (·.clientConfig)
    |>.field "failurePolicy" (.optional .string) (·.failurePolicy)
    |>.field "matchConditions" (.optional (.list MatchCondition.codec)) (·.matchConditions)
    |>.field "matchPolicy" (.optional .string) (·.matchPolicy)
    |>.field "name" .text (·.name)
    |>.field "namespaceSelector" (.optional LabelSelector.codec) (·.namespaceSelector)
    |>.field "objectSelector" (.optional LabelSelector.codec) (·.objectSelector)
    |>.field "reinvocationPolicy" kind.reinvocationSlot (·.reinvocationPolicy)
    |>.field "rules" (.optional (.list RuleWithOperations.codec)) (·.rules)
    |>.field "sideEffects" .text (·.sideEffects)
    |>.field "timeoutSeconds" (.optional .int32) (·.timeoutSeconds)

/-- The group and version of registration objects. -/
def registrationApiVersion : String := "admissionregistration.k8s.io/v1"

def WebhookConfiguration.codec (kind : WebhookKind) : Codec (WebhookConfiguration kind) :=
  .resource registrationApiVersion kind.objectKind <|
    (Record.of WebhookConfiguration.mk)
      |>.field "metadata" (.expected ObjectMeta.codec {}) (·.metadata)
      |>.field "webhooks" (.optional (.list (Webhook.codec kind))) (·.webhooks)

end WebhookOperator
