import WebhookOperator.Codec
import WebhookOperator.Text.Quoted

/-!
# Errors of the cluster's interface

A request to the cluster fails because the cluster answers with a status that says so, because there
is no answer, because the answer does not decode or breaks off, or because the request is not one
that could be sent.
-/

namespace WebhookOperator

structure StatusError where
  status : String
  message : String
  reason : String
  code : UInt16
deriving DecidableEq, Inhabited

inductive ApiError where
  /-- The cluster refused. -/
  | status (answer : StatusError)
  /-- There was no answer. -/
  | transport (message : String)
  /-- The answer has another form than the result. -/
  | unreadable (detail : String)
  /-- The stream of answers broke off inside a line. -/
  | brokenLine
  /-- A request for an object without a name. -/
  | namelessRequest
  /-- The names in a request do not make a target. -/
  | badTarget
deriving DecidableEq, Inhabited

namespace StatusError

def codec : Codec StatusError := .either <|
  (Record.of StatusError.mk)
    |>.field "status" (.strict .string) (·.status)
    |>.field "message" (.defaulted .string "" fun _ => false) (·.message)
    |>.field "reason" (.defaulted .string "" fun _ => false) (·.reason)
    |>.field "code" (.strict .uint16) (·.code)

/-- All that the answer says, on one line. -/
def text (error : StatusError) : String :=
  "ErrorResponse \x7b status: " ++ Text.quote error.status ++ ", message: " ++
    Text.quote error.message ++ ", reason: " ++ Text.quote error.reason ++ ", code: " ++
    toString error.code.toNat ++ " \x7d"

end StatusError

namespace ApiError

/-- The wording that follows the words for an error of the interface. -/
def detail : ApiError → String
  | status answer =>
    "ApiError: " ++ answer.message ++ ": " ++ answer.reason ++ " (" ++ answer.text ++ ")"
  | transport message => "ServiceError: " ++ message
  | unreadable detail => "Error deserializing response: " ++ detail
  | brokenLine => "Error finding newline character"
  | namelessRequest =>
    "Failed to build request: failed to validate request: A non-empty name is required"
  | badTarget => "Failed to build request: failed to build request: invalid uri character"

def message (error : ApiError) : String := "Kubernetes API error: " ++ error.detail

def code? : ApiError → Option UInt16
  | status answer => some answer.code
  | _ => none

end ApiError

end WebhookOperator
