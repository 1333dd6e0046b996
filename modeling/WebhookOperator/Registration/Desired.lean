import WebhookOperator.Registration.Registry

/-!
# Desired registration objects

What the registration object of a webhook has to say, given where the webhooks are reached and
which certificates are trusted. Everything that the cluster would fill in is written out, and the
object carries a label that tells whose it is.

A live object is converged when it has the desired webhooks and, among its labels, the desired
labels. To adopt the desired object means to take these from it and to keep everything else.
-/

namespace WebhookOperator

structure ServiceTarget where
  namespaceName : String
  name : String
  port : Int32
deriving DecidableEq, Inhabited

/-- The name under which the operator marks its objects and reports what it does. -/
def operatorName : String := "ibm-common-service-webhook"

def managedByLabel : String := "app.kubernetes.io/managed-by"

/-- What a registration says so that its webhook is not asked again about one request. -/
def WebhookKind.neverAgain : (kind : WebhookKind) → kind.Reinvocation
  | mutating => some "Never"
  | validating => ()

namespace Descriptor

def clientConfig (descriptor : Descriptor) (service : ServiceTarget) (caBundle : List UInt8) :
    ClientConfig where
  caBundle := some caBundle
  service := some {
    name := service.name
    namespaceName := service.namespaceName
    path := some descriptor.path
    port := some service.port }

def webhook (kind : WebhookKind) (descriptor : Descriptor) (service : ServiceTarget)
    (caBundle : List UInt8) : Webhook kind where
  admissionReviewVersions := ["v1"]
  clientConfig := descriptor.clientConfig service caBundle
  failurePolicy := some descriptor.kind.failurePolicy
  matchConditions := none
  matchPolicy := some "Exact"
  name := descriptor.webhookName
  namespaceSelector := some (descriptor.namespaceSelector.getD {})
  objectSelector := some {}
  reinvocationPolicy := kind.neverAgain
  rules := some [descriptor.rule.registered]
  sideEffects := "None"
  timeoutSeconds := some 10

def desired (kind : WebhookKind) (descriptor : Descriptor) (service : ServiceTarget)
    (caBundle : List UInt8) : WebhookConfiguration kind where
  metadata := {
    name := some descriptor.name
    labels := some (.ofList [(managedByLabel, operatorName)]) }
  webhooks := some [descriptor.webhook kind service caBundle]

end Descriptor

namespace WebhookConfiguration

/-- Whether a live object has all that the desired object asks for. -/
def isConverged {kind : WebhookKind} (live desired : WebhookConfiguration kind) : Bool :=
  live.webhooks == desired.webhooks &&
    desired.metadata.labelDict.entries.all fun (key, value) =>
      live.metadata.labelDict.get? key == some value

/-- A live object with the webhooks and the labels of the desired object. -/
def adopt {kind : WebhookKind} (live desired : WebhookConfiguration kind) :
    WebhookConfiguration kind where
  metadata := { live.metadata with
    labels := some (live.metadata.labelDict.override desired.metadata.labelDict) }
  webhooks := desired.webhooks

end WebhookConfiguration

end WebhookOperator
