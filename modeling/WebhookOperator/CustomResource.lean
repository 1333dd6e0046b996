import WebhookOperator.Preset.Basic
import WebhookOperator.Tenancy.OperandRequest

/-!
# Custom resources

The kinds of object that the operator brings along, as the cluster is told about them: under which
words they are asked for, and which columns are shown of them.
-/

namespace WebhookOperator

structure PrinterColumn where
  name : String
  type : String
  jsonPath : String
deriving DecidableEq, Inhabited

structure ResourceVersion where
  name : String
  served : Bool := true
  storage : Bool := true
  columns : List PrinterColumn := []
deriving DecidableEq, Inhabited

structure CustomResource where
  group : String
  kind : String
  plural : String
  singular : String
  shortNames : List String := []
  categories : List String := []
  scope : String := "Namespaced"
  versions : List ResourceVersion
deriving DecidableEq, Inhabited

def CustomResource.name (resource : CustomResource) : String :=
  resource.plural ++ "." ++ resource.group

def operatorGroup : String := "operator.ibm.com"

def PodPreset.customResource : CustomResource where
  group := operatorGroup
  kind := "PodPreset"
  plural := "podpresets"
  singular := "podpreset"
  versions := [{
    name := "v1alpha1"
    columns := [{ name := "Age", type := "date", jsonPath := ".metadata.creationTimestamp" }] }]

def OperandRequest.customResource : CustomResource where
  group := operatorGroup
  kind := "OperandRequest"
  plural := "operandrequests"
  singular := "operandrequest"
  shortNames := ["opreq"]
  versions := [{ name := "v1alpha1" }]

end WebhookOperator
