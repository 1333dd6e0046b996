import WebhookOperator.Api.Error
import WebhookOperator.Api.Session
import WebhookOperator.Api.Status
import WebhookOperator.Api.Target

/-!
# Typed requests

Reading, listing, creating and replacing objects of a kind, over sessions. An answer whose code says
that the request failed is an error, with the status that the cluster sent or one that stands for an
unreadable text; every other answer has to decode.
-/

namespace WebhookOperator.Api

/-- The status that the payload of a refusal spells. -/
def refusal (status : Nat) (payload : Payload) : StatusError :=
  (payload.document.bind StatusError.codec.decode).getD
    { status := statusLine status
      message := Text.quote payload.text
      reason := "Failed to parse error data"
      code := UInt16.ofNat status }

def result (codec : Codec α) : Reply → Except ApiError α
  | .failed message => .error (.transport message)
  | .answered status payload =>
    if isFailure status then .error (.status (refusal status payload))
    else match payload.document.bind codec.decode with
      | some value => .ok value
      | none => .error (.unreadable "the answer has another form")

/-- Asks the cluster and reads the answer. Nothing is asked where the names in the request do not
make a target. -/
def send (codec : Codec α) (request : Request) : Session (Except ApiError α) :=
  match target? request.uri with
  | none => return .error .badTarget
  | some uri => do return result codec (← Session.ask { request with uri := uri })

structure ListMeta where
  continueToken : Option String := none
  remainingItemCount : Option Int64 := none
  resourceVersion : Option String := none
  selfLink : Option String := none
deriving DecidableEq, Inhabited

structure ObjectList (α : Type) where
  metadata : ListMeta
  items : List α

def ListMeta.codec : Codec ListMeta := .object <|
  (Record.of ListMeta.mk)
    |>.field "continue" (.optional .string) (·.continueToken)
    |>.field "remainingItemCount" (.optional .int64) (·.remainingItemCount)
    |>.field "resourceVersion" (.optional .string) (·.resourceVersion)
    |>.field "selfLink" (.optional .string) (·.selfLink)

def ObjectList.codec (item : Codec α) : Codec (ObjectList α) := .object <|
  (Record.of ObjectList.mk)
    |>.field "metadata" (.defaulted ListMeta.codec {} fun _ => false) (·.metadata)
    |>.field "items" (.nullable item.list []) (·.items)

structure Resource (α : Type) where
  codec : Codec α
  /-- The path of the collection. -/
  path : String

namespace Resource

def list (resource : Resource α) : Session (Except ApiError (ObjectList α)) :=
  send (ObjectList.codec resource.codec) { method := .get, uri := resource.path }

/-- Reads the object with a name. Where the cluster gives as the reason that there is none, there is
none. -/
def find? (resource : Resource α) (name : String) : Session (Except ApiError (Option α)) :=
  if name.isEmpty then return .error .namelessRequest
  else do
    match ← send resource.codec { method := .get, uri := resource.path ++ "/" ++ name } with
    | .ok value => return .ok (some value)
    | .error (.status refusal) =>
      return if refusal.reason = "NotFound" then .ok none else .error (.status refusal)
    | .error error => return .error error

def create (resource : Resource α) (value : α) : Session (Except ApiError α) :=
  send resource.codec
    { method := .post, uri := resource.path, body := some (resource.codec.encode value) }

def replace (resource : Resource α) (name : String) (value : α) : Session (Except ApiError α) :=
  if name.isEmpty then return .error .namelessRequest
  else send resource.codec
    { method := .put
      uri := resource.path ++ "/" ++ name
      body := some (resource.codec.encode value) }

end Resource

end WebhookOperator.Api
