import WebhookOperator.Cluster.Data
import WebhookOperator.Cluster.Event
import WebhookOperator.Health.Probe
import WebhookOperator.Registration.Upsert

/-!
# Making all registration objects right

The secret of the webhook server holds the certificates that the cluster has to trust. Whenever it
changes, and from time to time, the registration object of every webhook is brought to what its
descriptor asks for with these certificates. The first failure ends a round; what is left is done in
the next one.
-/

namespace WebhookOperator

open Api

namespace Secret

/-- The certificates that a secret says to trust: its bundle, or else the certificate of the server
itself. Empty values do not count. -/
def caBundle (secret : Secret) : Except RegistrationError (List UInt8) :=
  let values := ["ca.crt", "tls.crt"].filterMap fun key => secret.data.bind (·.get? key)
  match values.find? (!·.isEmpty) with
  | some bundle => .ok bundle
  | none => .error (.missingCaBundle secret.metadata.displayName)

def reference (secret : Secret) : ObjectReference where
  apiVersion := some "v1"
  kind := some "Secret"
  name := secret.metadata.name
  namespaceName := secret.metadata.namespaceName
  uid := secret.metadata.uid

/-- Tells the users of a cluster what was done about a secret. -/
def report (secret : Secret) (reporter : Reporter) (type : EventType) (reason note : String) :
    Session Unit :=
  (ClusterEvent.report reporter type "ReconcileWebhookConfigurations" reason note
    secret.reference).publish

end Secret

def Descriptor.reconcile (descriptor : Descriptor) (service : ServiceTarget)
    (caBundle : List UInt8) : Session (Except RegistrationError Applied) :=
  (descriptor.desired descriptor.kind service caBundle).upsert

/-- Makes the registration objects of descriptors right, in order, up to the first failure. Tells
how many objects were written, and counts. -/
def reconcileEach (service : ServiceTarget) (caBundle : List UInt8) (written : Nat)
    (metrics : Metrics) : List Descriptor → Session (Except RegistrationError Nat × Metrics)
  | [] => return (.ok written, metrics)
  | descriptor :: rest => do
    match ← descriptor.reconcile service caBundle with
    | .error error => return (.error error, metrics.recordReconciliationError descriptor.name)
    | .ok applied =>
      let written := if applied = .unchanged then written else written + 1
      reconcileEach service caBundle written (metrics.recordReconciliation descriptor.name) rest

namespace Registry

def reconcileAll (registry : Registry) (service : ServiceTarget) (caBundle : List UInt8)
    (metrics : Metrics) : Session (Except RegistrationError Nat × Metrics) :=
  reconcileEach service caBundle 0 metrics registry.descriptors

end Registry

/-- The operator: which webhooks it serves, how they are reached, and how it reports. -/
structure Operator where
  registry : Registry
  service : ServiceTarget
  reporter : Reporter
deriving DecidableEq, Inhabited

namespace Operator

/-- Makes the registration objects trust the certificates of a secret, and reports where that
changed something or could not be tried. -/
def reconcile (operator : Operator) (now : Nat) (health : HealthState) (secret : Secret) :
    Session (Except RegistrationError Unit × HealthState) := do
  match secret.caBundle with
  | .error error =>
    secret.report operator.reporter .warning "MissingCaBundle" error.message
    return (.error error, health)
  | .ok caBundle =>
    let (result, metrics) ←
      operator.registry.reconcileAll operator.service caBundle health.metrics
    let health := { health with metrics := metrics }
    match result with
    | .error error => return (.error error, health)
    | .ok written =>
      if 0 < written then
        secret.report operator.reporter .normal "WebhookConfigurationsUpdated"
          (toString written ++ " webhook configuration(s) now trust the current CA bundle")
      return (.ok (), health.touch now)

end Operator

/-- After how many seconds all objects are looked at again, although nothing went wrong. -/
def resyncInterval : Nat := 300

/-- After how many seconds a round with a result is followed by the next one. -/
def nextRound : Except RegistrationError Unit → Nat
  | .ok () => resyncInterval
  | .error error => error.retryDelay

end WebhookOperator
