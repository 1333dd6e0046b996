import WebhookOperator.Cluster.Data

/-!
# The namespace mapping table

Tenants of a cluster keep their operand registries in namespaces of their own. The mapping table
says which namespaces belong to a tenant and which namespace holds the tenant's registries.

A table is well formed when no two tenants share a target, no namespace belongs to two tenants or
twice to one, and the control namespace is neither a target nor the namespace of a tenant. The first
breach in the order of the table is reported.
-/

namespace WebhookOperator

structure TenantMapping where
  requests : List String := []
  target : String := ""
deriving DecidableEq, Inhabited

structure MappingTable where
  control : String := ""
  default? : Option String := none
  mappings : List TenantMapping := []
deriving DecidableEq, Inhabited

inductive Violation where
  | controlIsTarget (name : String)
  | duplicateTarget (name : String)
  | controlIsRequest (name : String)
  | duplicateRequest (name : String)
deriving DecidableEq, Inhabited

namespace Violation

def message : Violation → String
  | controlIsTarget name =>
    "controlNamespace: " ++ name ++
      " cannot be the same as one of the map-to-common-service-namespace"
  | duplicateTarget name =>
    "map-to-common-service-namespace: " ++ name ++ " exists in other namespace mappings"
  | controlIsRequest name =>
    "controlNamespace: " ++ name ++ " cannot be the same as one of the requested-from-namespace"
  | duplicateRequest name =>
    "requested-from-namespace: " ++ name ++ " appears more than once in the namespace mappings"

end Violation

namespace TenantMapping

def targetKey : String := "map-to-common-service-namespace"

/-- The key of the target in older tables. -/
def olderTargetKey : String := "map-common-service-namespace"

def requestsKey : String := "requested-from-namespace"

/-- Namespaces are a list, a single name, or nothing; they are written as a list. -/
def requestsSlot : Slot (List String) where
  read
    | none | some .null => some []
    | some (.str name) => some [name]
    | some document => Codec.string.list.decode document
  write names := some (Codec.string.list.encode names)

def codec : Codec TenantMapping := .either <|
  (Record.of TenantMapping.mk)
    |>.field requestsKey requestsSlot (·.requests)
    |>.fieldOr targetKey olderTargetKey (.defaulted .string "" fun _ => false) (·.target)

end TenantMapping

namespace MappingTable

def controlKey : String := "controlNamespace"

def defaultKey : String := "defaultCsNs"

def mappingsKey : String := "namespaceMapping"

def codec : Codec MappingTable := .either <|
  (Record.of MappingTable.mk)
    |>.field controlKey (.defaulted .string "" fun _ => false) (·.control)
    |>.field defaultKey (.optional .string) (·.default?)
    |>.field mappingsKey (.defaulted TenantMapping.codec.list [] fun _ => false) (·.mappings)

/-- The registry namespace of a table that names none. -/
def fallbackNamespace : String := "ibm-common-services"

/-- The registry namespace that requests name as long as they are not sent elsewhere. -/
def defaultNamespace (table : MappingTable) : String :=
  match table.default? with
  | some name => if name.isEmpty then fallbackNamespace else name
  | none => fallbackNamespace

/-- The target of the first mapping with a namespace. -/
def target? (table : MappingTable) (name : String) : Option String :=
  (table.mappings.find? (·.requests.contains name)).map (·.target)

/-! ### The rules of a table -/

/-- A name that a table claims, and for what. -/
inductive Claim where
  | target (name : String)
  | request (name : String)
deriving DecidableEq, Inhabited

/-- What a claim breaches, given the control namespace and the claims before it. -/
def Claim.violation? (control : String) (before : List Claim) : Claim → Option Violation
  | target name =>
    if control = name then some (.controlIsTarget control)
    else if target name ∈ before then some (.duplicateTarget name)
    else none
  | request name =>
    if control = name then some (.controlIsRequest control)
    else if request name ∈ before then some (.duplicateRequest name)
    else none

/-- The claims of a table in its order: of each mapping the target first. -/
def claims (table : MappingTable) : List Claim :=
  table.mappings.flatMap fun mapping => .target mapping.target :: mapping.requests.map .request

/-- The first breach among claims that come after others. -/
def firstViolation? (control : String) (before : List Claim) : List Claim → Option Violation
  | [] => none
  | claim :: rest =>
    (claim.violation? control before).or (firstViolation? control (claim :: before) rest)

def violation? (table : MappingTable) : Option Violation :=
  firstViolation? table.control [] table.claims

end MappingTable

end WebhookOperator
