import WebhookOperator.Admission.Verdict
import WebhookOperator.Cluster.Meta

/-!
# Admission reviews

The cluster asks about an object in a review, and the answer is a review again. The object comes as
a document of any kind: of its members only the metadata is read here, and the rest is kept for the
handler that knows the kind.
-/

namespace WebhookOperator

/-- An object of any kind. -/
structure AnyObject where
  metadata : ObjectMeta
  /-- All members but the metadata. -/
  members : Entries Json
deriving DecidableEq, Inhabited

structure GroupKind where
  group : String
  version : String
  kind : String
deriving DecidableEq, Inhabited

structure GroupResource where
  group : String
  version : String
  resource : String
deriving DecidableEq, Inhabited

/-- What is asked to be done with the object. -/
inductive AdmissionOperation where
  | create
  | update
  | delete
  | connect
deriving DecidableEq, Inhabited

structure UserInfo where
  extra : Option (Dict (List String))
  groups : Option (List String)
  uid : Option String
  username : Option String
deriving DecidableEq, Inhabited

/-- A question about an object. -/
structure ReviewRequest where
  uid : String
  kind : GroupKind
  resource : GroupResource
  subResource : Option String
  requestKind : Option GroupKind
  requestResource : Option GroupResource
  requestSubResource : Option String
  name : String
  namespaceName : Option String
  operation : AdmissionOperation
  user : UserInfo
  object : Option AnyObject
  oldObject : Option AnyObject
  dryRun : Bool
  options : Option Json
deriving DecidableEq, Inhabited

structure ReviewStatus where
  status : Option String := none
  code : UInt16 := 0
  message : String := ""
  reason : String := ""
deriving DecidableEq, Inhabited

/-- The answer to a question. -/
structure ReviewResponse where
  uid : String
  allowed : Bool
  status : ReviewStatus := {}
  patch : Option Json.Patch := none
deriving DecidableEq, Inhabited

structure Review where
  apiVersion : String
  kind : String
  request : Option ReviewRequest := none
  response : Option ReviewResponse := none
deriving DecidableEq, Inhabited

/-! ### Documents -/

namespace AnyObject

/-- Drops what says of which kind an object is, unless both parts are there. An unusable version
alone goes without the kind. -/
def dropPartialKind (members : Entries Json) : Entries Json :=
  match members.lookup "apiVersion", members.lookup "kind" with
  | some (.str _), some (.str _) => members
  | some (.str _), _ => Entries.erase "kind" (Entries.erase "apiVersion" members)
  | some _, _ => Entries.erase "apiVersion" members
  | none, _ => Entries.erase "kind" members

def codec : Codec AnyObject where
  decode
    | .obj members => do
      let metadata ← match members.lookup "metadata" with
        | none => some {}
        | some document => ObjectMeta.codec.decode document
      return ⟨metadata, Entries.erase "metadata" (dropPartialKind members)⟩
    | _ => none
  encode object :=
    .obj (Entries.insert "metadata" (ObjectMeta.codec.encode object.metadata) object.members)

end AnyObject

def GroupKind.codec : Codec GroupKind := .either <|
  (Record.of GroupKind.mk)
    |>.field "group" (.strict .string) (·.group)
    |>.field "version" (.strict .string) (·.version)
    |>.field "kind" (.strict .string) (·.kind)

def GroupResource.codec : Codec GroupResource := .either <|
  (Record.of GroupResource.mk)
    |>.field "group" (.strict .string) (·.group)
    |>.field "version" (.strict .string) (·.version)
    |>.field "resource" (.strict .string) (·.resource)

def UserInfo.codec : Codec UserInfo := .object <|
  (Record.of UserInfo.mk)
    |>.field "extra" (.optional (.dict (.list .string))) (·.extra)
    |>.field "groups" (.optional (.list .string)) (·.groups)
    |>.field "uid" (.optional .string) (·.uid)
    |>.field "username" (.optional .string) (·.username)

namespace AdmissionOperation

def text : AdmissionOperation → String
  | create => "CREATE"
  | update => "UPDATE"
  | delete => "DELETE"
  | connect => "CONNECT"

def codec : Codec AdmissionOperation where
  decode document := do
    let word ← document.string?
    [create, update, delete, connect].find? (·.text == word)
  encode operation := .str operation.text

end AdmissionOperation

def ReviewRequest.codec : Codec ReviewRequest := .either <|
  (Record.of ReviewRequest.mk)
    |>.field "uid" (.strict .string) (·.uid)
    |>.field "kind" (.strict GroupKind.codec) (·.kind)
    |>.field "resource" (.strict GroupResource.codec) (·.resource)
    |>.field "subResource" (.optional .string) (·.subResource)
    |>.field "requestKind" (.optional GroupKind.codec) (·.requestKind)
    |>.field "requestResource" (.optional GroupResource.codec) (·.requestResource)
    |>.field "requestSubResource" (.optional .string) (·.requestSubResource)
    |>.field "name" (.defaulted .string "" fun _ => false) (·.name)
    |>.field "namespace" (.optional .string) (·.namespaceName)
    |>.field "operation" (.strict AdmissionOperation.codec) (·.operation)
    |>.field "userInfo" (.strict UserInfo.codec) (·.user)
    |>.field "object" (.optional AnyObject.codec) (·.object)
    |>.field "oldObject" (.optional AnyObject.codec) (·.oldObject)
    |>.field "dryRun" (.defaulted .bool false fun _ => false) (·.dryRun)
    |>.field "options" (.optional .any) (·.options)

def ReviewStatus.codec : Codec ReviewStatus := .either <|
  (Record.of ReviewStatus.mk)
    |>.field "status" (.optional .string) (·.status)
    |>.field "code" (.defaulted .uint16 0 (· == 0)) (·.code)
    |>.field "message" (.defaulted .string "" String.isEmpty) (·.message)
    |>.field "reason" (.defaulted .string "" String.isEmpty) (·.reason)

namespace ReviewResponse

/-- The changes stand in the answer with their format. -/
def codec : Codec ReviewResponse := .either <|
  (Record.of fun uid allowed status patch _ => ⟨uid, allowed, status, patch⟩)
    |>.field "uid" (.strict .string) (·.uid)
    |>.field "allowed" (.strict .bool) (·.allowed)
    |>.field "status" (.strict ReviewStatus.codec) (·.status)
    |>.field "patch" (.optional ⟨Json.Patch.ofJson?, Json.Patch.toJson⟩) (·.patch)
    |>.field "patchType" (.optional .string) fun response =>
      response.patch.map fun _ => "JSONPatch"

end ReviewResponse

namespace Review

def codec : Codec Review := .object <|
  (Record.of Review.mk)
    |>.field "apiVersion" (.strict .string) (·.apiVersion)
    |>.field "kind" (.strict .string) (·.kind)
    |>.field "request" (.optional ReviewRequest.codec) (·.request)
    |>.field "response" (.optional ReviewResponse.codec) (·.response)

/-- Why a review is no question. -/
def noRequest : String := "failed to convert AdmissionReview into AdmissionRequest"

def invalid : Review where
  apiVersion := "admission.k8s.io/v1beta1"
  kind := "AdmissionReview"
  response := some {
    uid := ""
    allowed := false
    status := {
      status := some "Failure"
      message := "Invalid AdmissionReview: " ++ noRequest
      reason := "InvalidRequest" } }

def answer (review : Review) (request : ReviewRequest) (verdict : Verdict) : Review :=
  { review with
    request := none
    response := some (match verdict with
      | .allowed => { uid := request.uid, allowed := true }
      | .patched patch => { uid := request.uid, allowed := true, patch := some patch }
      | .denied reason =>
        { uid := request.uid, allowed := false, status := { code := 403, message := reason } }
      | .errored code message =>
        { uid := request.uid, allowed := false, status := { code := code, message := message } }) }

end Review

end WebhookOperator
