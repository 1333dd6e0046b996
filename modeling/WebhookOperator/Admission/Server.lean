import WebhookOperator.Admission.Handler
import WebhookOperator.Admission.MediaType
import WebhookOperator.Health.Probe

/-!
# The admission server

Each webhook of the registry has a path to which the cluster posts its reviews. A request is refused
before it is read when its path, its method or the type of its body is wrong or its body is too large,
and then when its body is no JSON or no review. A review without a question is answered, but not
counted.
-/

namespace WebhookOperator

open Api

structure HttpRequest where
  method : String := "POST"
  target : String
  contentType : Option String
  body : String
deriving DecidableEq, Inhabited

def HttpRequest.maxBodySize : Nat := 2097152

def HttpRequest.isTooLarge (request : HttpRequest) : Bool :=
  maxBodySize < request.body.utf8ByteSize

inductive ServerReply where
  | review (review : Review)
  /-- A refusal with its words. -/
  | refused (status : Nat) (message : String)
deriving DecidableEq, Inhabited

namespace ServerReply

def status : ServerReply → Nat
  | review _ => 200
  | refused status _ => status

def tooLarge : ServerReply :=
  refused 413 "Failed to buffer the request body: length limit exceeded"

def unreadable : ServerReply :=
  refused 422 "Failed to deserialize the JSON body into the target type: the body is no review"

def malformed : ServerReply :=
  refused 400 "Failed to parse the request body as JSON: the body is no document"

end ServerReply

namespace Review

/-- The review that a body holds, or the refusal of the body. A body that starts as an array is
refused as one even where it is no document. -/
def ofBody (body : String) : Except ServerReply Review :=
  match Json.read body with
  | .document value => (codec.decode value).elim (.error .unreadable) .ok
  | .leading value =>
    .error (if (codec.decode value).isSome then .malformed else .unreadable)
  | .brokenArray => .error .unreadable
  | .malformed => .error .malformed

end Review

/-- Answers the review of a webhook, which took some time, and counts it. -/
def Descriptor.answer (descriptor : Descriptor) (metrics : Metrics) (seconds : Decimal)
    (review : Review) : Session (Review × Metrics) :=
  match review.request with
  | none => .done (Review.invalid, metrics)
  | some request => do
    let decision ← descriptor.handler.handle request
    let metrics := match decision.conflictIn with
      | some podNamespace => metrics.recordConflict podNamespace
      | none => metrics
    return (review.answer request decision.verdict,
      metrics.recordAdmission descriptor.handler.text decision.verdict.outcome seconds)

def Registry.serve (registry : Registry) (metrics : Metrics) (seconds : Decimal)
    (request : HttpRequest) : Session (ServerReply × Metrics) :=
  match registry.byPath? (requestPath request.target) with
  | none => .done (.refused 404 "", metrics)
  | some descriptor =>
    if request.method ≠ "POST" then .done (.refused 405 "", metrics)
    else if !request.contentType.any MediaType.isJson then
      .done (.refused 415 "Expected request with `Content-Type: application/json`", metrics)
    else if request.isTooLarge then .done (.tooLarge, metrics)
    else match Review.ofBody request.body with
      | .error reply => .done (reply, metrics)
      | .ok review => do
        let (answer, metrics) ← descriptor.answer metrics seconds review
        return (.review answer, metrics)

end WebhookOperator
