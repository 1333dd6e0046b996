import WebhookOperator.Api.Client
import WebhookOperator.Registration.Error
import WebhookOperator.Registration.Plan

/-!
# Making one registration object right

An attempt reads the object and writes it if the plan says so. The cluster refuses a write that is
based on an older version of the object, and then the attempt is made again from the start, a few
times at most.
-/

namespace WebhookOperator

open Api

inductive Applied where
  | created
  | updated
  | unchanged
deriving DecidableEq, Inhabited

namespace WebhookConfiguration

def resource (kind : WebhookKind) : Resource (WebhookConfiguration kind) where
  codec := codec kind
  path := "/apis/" ++ registrationApiVersion ++ "/" ++ kind.collection

def attempt {kind : WebhookKind} (desired : WebhookConfiguration kind) :
    Session (Except ApiError Applied) := do
  let name := desired.metadata.displayName
  match ← (resource kind).find? name with
  | .error error => return .error error
  | .ok live =>
    match Plan.toward desired live with
    | .unchanged => return .ok .unchanged
    | .create object => return (← (resource kind).create object).map fun _ => .created
    | .replace object => return (← (resource kind).replace name object).map fun _ => .updated

def maxAttempts : Nat := 5

/-- Makes attempts until one does not end in a conflict, but no more than a number of them. -/
def upsertWithin {kind : WebhookKind} (desired : WebhookConfiguration kind) :
    Nat → Session (Except RegistrationError Applied)
  | 0 =>
    return .error
      (.conflictRetriesExhausted kind.objectKind desired.metadata.displayName maxAttempts)
  | attempts + 1 => do
    match ← attempt desired with
    | .ok applied => return .ok applied
    | .error error =>
      if error.isConflict then upsertWithin desired attempts else return .error (.api error)

def upsert {kind : WebhookKind} (desired : WebhookConfiguration kind) :
    Session (Except RegistrationError Applied) :=
  upsertWithin desired maxAttempts

end WebhookConfiguration

end WebhookOperator
