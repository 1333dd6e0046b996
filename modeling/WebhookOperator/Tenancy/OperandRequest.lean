import WebhookOperator.Json.Patch
import WebhookOperator.Tenancy.Table

/-!
# Operand requests

An operand request asks for operands from registries. Requests of a tenant that name the default
registry namespace are sent to the namespace that the mapping table gives for the tenant.
-/

namespace WebhookOperator

structure Operand where
  name : String
deriving DecidableEq, Inhabited

/-- What is asked of one registry. An empty namespace stands for the one of the request itself. -/
structure RegistryRequest where
  registry : String
  registryNamespace : String := ""
  operands : List Operand := []
  description : Option String := none
deriving DecidableEq, Inhabited

structure OperandRequestSpec where
  requests : List RegistryRequest
deriving DecidableEq, Inhabited

structure OperandRequest where
  metadata : ObjectMeta
  spec : OperandRequestSpec
deriving DecidableEq, Inhabited

def Operand.codec : Codec Operand := .either <|
  (Record.of Operand.mk)
    |>.field "name" (.strict .string) (·.name)

def RegistryRequest.codec : Codec RegistryRequest := .either <|
  (Record.of RegistryRequest.mk)
    |>.field "registry" (.strict .string) (·.registry)
    |>.field "registryNamespace" (.defaulted .string "" String.isEmpty) (·.registryNamespace)
    |>.field "operands" (.items Operand.codec) (·.operands)
    |>.field "description" (.optional .string) (·.description)

def OperandRequestSpec.codec : Codec OperandRequestSpec := .either <|
  (Record.of OperandRequestSpec.mk)
    |>.field "requests" (.defaulted RegistryRequest.codec.list [] fun _ => false) (·.requests)

namespace RegistryRequest

/-- A request sent to another namespace when it names the given one. -/
def redirect (source target : String) (request : RegistryRequest) : RegistryRequest :=
  if request.registryNamespace = source then { request with registryNamespace := target }
  else request

end RegistryRequest

namespace OperandRequest

def apiVersion : String := "operator.ibm.com/v1alpha1"

def codec : Codec OperandRequest := .customResource apiVersion "OperandRequest" <|
  (Record.of OperandRequest.mk)
    |>.field "metadata" (.strict ObjectMeta.codec) (·.metadata)
    |>.field "spec" (.strict OperandRequestSpec.codec) (·.spec)

/-- The namespace that the request belongs to. -/
def requester (object : OperandRequest) : String := object.metadata.namespaceName.getD ""

/-- The request with all that names the default registry namespace sent to the target that a table
gives for a namespace. -/
def redirect (object : OperandRequest) (name : String) (table : MappingTable) : OperandRequest :=
  match table.target? name with
  | none => object
  | some target =>
    { object with spec :=
      { requests := object.spec.requests.map (·.redirect table.defaultNamespace target) } }

/-- How many requests a table sends elsewhere for a namespace. -/
def redirected (object : OperandRequest) (name : String) (table : MappingTable) : Nat :=
  match table.target? name with
  | none => 0
  | some _ => object.spec.requests.countP (·.registryNamespace = table.defaultNamespace)

def patch? (object : OperandRequest) (table : MappingTable) : Option Json.Patch :=
  Json.Patch.between? (codec.encode object)
    (codec.encode (object.redirect object.requester table))

end OperandRequest

end WebhookOperator
