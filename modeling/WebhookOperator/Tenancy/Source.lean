import WebhookOperator.Tenancy.Table
import WebhookOperator.Text.Blank
import WebhookOperator.Yaml.Scalar

/-!
# Reading the mapping table from its config map

The table stands as YAML text under a key of a config map. The text is a mapping whose keys are the
ones of the table; other keys are passed over, and a known key that occurs twice is refused. Names
are read as they are written, whatever kind of scalar they would be, except for the namespaces of a
tenant: those have to be texts, since a single one may stand in the place of their list.
-/

namespace WebhookOperator

namespace Yaml.Document

def text? (document : Document) (tree : Tree) : Option String :=
  match document.meaning? tree with
  | some (.scalar _ _ text) => some text
  | _ => none

/-- The text of a scalar that may stand for nothing. -/
def optionalText? (document : Document) (tree : Tree) : Option (Option String) :=
  match document.meaning? tree with
  | some (.scalar tag plain text) =>
    (isAbsent? tag plain text).map fun absent => if absent then none else some text
  | _ => none

def properText? (document : Document) (tree : Tree) : Option String :=
  match document.meaning? tree with
  | some (.scalar tag plain text) => if isText tag plain text then some text else none
  | _ => none

/-- A text, a list of texts, or nothing. -/
def texts? (document : Document) (tree : Tree) : Option (List String) :=
  match document.meaning? tree with
  | some (.scalar tag plain text) => do
    if ← isAbsent? tag plain text then return []
    else if isText tag plain text then return [text]
    else none
  | some (.sequence tag items) =>
    if isLocal tag then none else items.mapM document.properText?
  | _ => none

/-- The items of a sequence; an empty plain scalar has none. -/
def items? (document : Document) (tree : Tree) : Option (List Tree) :=
  match document.meaning? tree with
  | some (.sequence _ items) => some items
  | some (.scalar _ true "") => some []
  | _ => none

/-- The entries of a mapping with texts as keys; an empty plain scalar has none. -/
def entries? (document : Document) (tree : Tree) : Option (List (String × Tree)) :=
  match document.meaning? tree with
  | some (.mapping entries) =>
    entries.mapM fun (key, value) => (document.text? key).map (·, value)
  | some (.scalar _ true "") => some []
  | _ => none

end Yaml.Document

/-- The value of the only entry under one of the keys, read by `read`, or a default. -/
def soleEntry (entries : List (String × α)) (keys : List String) (read : α → Option β)
    (default : β) : Option β :=
  match entries.filter (keys.contains ·.1) with
  | [] => some default
  | [(_, value)] => read value
  | _ => none

namespace TenantMapping

def ofYaml? (document : Yaml.Document) (tree : Yaml.Tree) : Option TenantMapping := do
  let entries ← document.entries? tree
  return {
    requests := ← soleEntry entries [requestsKey] document.texts? []
    target := ← soleEntry entries [targetKey, olderTargetKey] document.text? "" }

end TenantMapping

namespace MappingTable

def ofTree? (document : Yaml.Document) (tree : Yaml.Tree) : Option MappingTable := do
  let entries ← document.entries? tree
  return {
    control := ← soleEntry entries [controlKey] document.text? ""
    default? := ← soleEntry entries [defaultKey] document.optionalText? none
    mappings := ← soleEntry entries [mappingsKey]
      (fun tree => do (← document.items? tree).mapM (TenantMapping.ofYaml? document)) [] }

/-- Reads a table. A text without content is the empty table. -/
def ofText? (content : String) : Option MappingTable :=
  if Text.isBlankText content then some {}
  else do
    let some root ← Yaml.Node.ofText? content | return {}
    let document ← Yaml.Document.ofNode? root
    ofTree? document document.root

def dataKey : String := "common-service-maps.yaml"

def configMapNamespace : String := "kube-public"

def configMapName : String := "common-service-maps"

/-- Reads the table that a config map holds; one without the key holds the empty table. -/
def ofConfigMap? (configMap : ConfigMap) : Option MappingTable :=
  ofText? ((configMap.data.bind (·.get? dataKey)).getD "")

end MappingTable

end WebhookOperator
