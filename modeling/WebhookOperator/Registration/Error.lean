import WebhookOperator.Api.Error

/-!
# Errors of the registration

The registration objects cannot be made right because the cluster does not go along, because others
keep changing an object first, or because there is no certificate to trust. The first two may pass
by themselves, so the next try comes soon; the last one only passes when the secret changes, which
is noticed anyway.
-/

namespace WebhookOperator

inductive RegistrationError where
  | api (error : ApiError)
  /-- The secret of a name holds no certificates to trust. -/
  | missingCaBundle (secret : String)
  /-- Every attempt at an object was overtaken by another writer. -/
  | conflictRetriesExhausted (kind name : String) (attempts : Nat)
deriving DecidableEq, Inhabited

namespace ApiError

def isNotFound (error : ApiError) : Bool := error.code? == some 404

def isConflict (error : ApiError) : Bool := error.code? == some 409

/-- Whether the same request may succeed later. -/
def isTransient : ApiError → Bool
  | status answer => answer.code ≥ 500 || answer.code == 429 || answer.code == 409
  | transport _ => true
  | _ => false

end ApiError

namespace RegistrationError

def message : RegistrationError → String
  | api error => error.message
  | missingCaBundle secret => "Secret " ++ secret ++ " carries no CA bundle"
  | conflictRetriesExhausted kind name attempts =>
    kind ++ " " ++ name ++ " still conflicting after " ++ toString attempts ++ " attempts"

def isNotFound : RegistrationError → Bool
  | api error => error.isNotFound
  | _ => false

def isConflict : RegistrationError → Bool
  | api error => error.isConflict
  | _ => false

/-- Whether the next try is likely to succeed without a change of the secret. -/
def isTransient : RegistrationError → Bool
  | api error => error.isTransient
  | missingCaBundle _ => false
  | conflictRetriesExhausted .. => true

/-- After how many seconds the next try comes. -/
def retryDelay (error : RegistrationError) : Nat := if error.isTransient then 30 else 3600

end RegistrationError

end WebhookOperator
