import WebhookOperator.Cluster.Webhook

/-!
# What the cluster fills in

A registration object may leave out what has a usual value. The cluster writes that value into the
object when it stores it, so what is read back says more than what was sent. A field that is there
stays as it is.
-/

namespace WebhookOperator

namespace WebhookKind

/-- A webhook that changes objects is not asked again, unless it says so. -/
def filledReinvocation : (kind : WebhookKind) → kind.Reinvocation → kind.Reinvocation
  | mutating, policy => policy.or (some "Never")
  | validating, () => ()

end WebhookKind

/-- A service is reached on the usual port. -/
def ServiceReference.filled (service : ServiceReference) : ServiceReference :=
  { service with port := service.port.or (some 443) }

def ClientConfig.filled (config : ClientConfig) : ClientConfig :=
  { config with service := config.service.map (·.filled) }

/-- A rule is about objects in every scope. -/
def RuleWithOperations.filled (rule : RuleWithOperations) : RuleWithOperations :=
  { rule with scope := rule.scope.or (some "*") }

/-- A webhook that cannot be reached refuses, is asked about equivalent requests in every namespace
and about every object, and has ten seconds to answer. -/
def Webhook.filled {kind : WebhookKind} (webhook : Webhook kind) : Webhook kind :=
  { webhook with
    clientConfig := webhook.clientConfig.filled
    failurePolicy := webhook.failurePolicy.or (some "Fail")
    matchPolicy := webhook.matchPolicy.or (some "Equivalent")
    namespaceSelector := webhook.namespaceSelector.or (some {})
    objectSelector := webhook.objectSelector.or (some {})
    reinvocationPolicy := kind.filledReinvocation webhook.reinvocationPolicy
    rules := webhook.rules.map (·.map (·.filled))
    timeoutSeconds := webhook.timeoutSeconds.or (some 10) }

namespace WebhookConfiguration

def filled {kind : WebhookKind} (configuration : WebhookConfiguration kind) :
    WebhookConfiguration kind :=
  { configuration with webhooks := configuration.webhooks.map (·.map (·.filled)) }

def versioned {kind : WebhookKind} (configuration : WebhookConfiguration kind)
    (version : String) : WebhookConfiguration kind :=
  { configuration with
    metadata := { configuration.metadata with resourceVersion := some version } }

end WebhookConfiguration

end WebhookOperator
