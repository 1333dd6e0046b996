import WebhookOperator.Api.Error
import WebhookOperator.Preset.Matching

/-!
# Errors of admission

A handler that cannot decide says why. What the sender did wrong is answered with code 400, and
what went wrong here with code 500.
-/

namespace WebhookOperator

inductive AdmissionError where
  /-- The object of the review is not of the kind that the handler expects. -/
  | decode (kind detail : String)
  | missingObject
  /-- The mapping table does not read. -/
  | mappingConfig (detail : String)
  | selector (error : SelectorError)
  | api (error : ApiError)
  | patch (detail : String)
deriving DecidableEq, Inhabited

/-- Why the server of the webhooks does not run. -/
inductive ServerError where
  /-- The certificate or the key is of no use. -/
  | tls (detail : String)
  | server (detail : String)
deriving DecidableEq, Inhabited

namespace AdmissionError

def code : AdmissionError → UInt16
  | decode .. | missingObject | mappingConfig _ => 400
  | selector _ | api _ | patch _ => 500

def message : AdmissionError → String
  | decode kind detail => "failed to decode " ++ kind ++ ": " ++ detail
  | missingObject => "admission request carries no object"
  | mappingConfig detail => "malformed namespace mapping config: " ++ detail
  | selector error => error.message
  | api error => error.message
  | patch detail => "failed to build JSON patch: " ++ detail

end AdmissionError

def ServerError.message : ServerError → String
  | tls detail => "TLS configuration error: " ++ detail
  | server detail => "Webhook server error: " ++ detail

end WebhookOperator
