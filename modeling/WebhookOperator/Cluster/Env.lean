import WebhookOperator.Form

/-!
# Environment of a container

Environment variables, whose value stands in the container or comes from another object, and
sources that each bring many variables at once.
-/

namespace WebhookOperator

structure ConfigMapKeyRef where
  key : String
  name : String
  optional : Option Bool
deriving DecidableEq, Inhabited

structure ObjectFieldRef where
  apiVersion : Option String
  fieldPath : String
deriving DecidableEq, Inhabited

structure ResourceFieldRef where
  containerName : Option String
  divisor : Option String
  resource : String
deriving DecidableEq, Inhabited

structure SecretKeyRef where
  key : String
  name : String
  optional : Option Bool
deriving DecidableEq, Inhabited

structure EnvVarSource where
  configMapKeyRef : Option ConfigMapKeyRef
  fieldRef : Option ObjectFieldRef
  resourceFieldRef : Option ResourceFieldRef
  secretKeyRef : Option SecretKeyRef
deriving DecidableEq, Inhabited

structure EnvVar where
  name : String
  value : Option String
  valueFrom : Option EnvVarSource
deriving DecidableEq, Inhabited

/-- An object all of whose keys become variables. -/
structure EnvSourceRef where
  name : String
  optional : Option Bool
deriving DecidableEq, Inhabited

/-- A source of environment variables. -/
structure EnvFromSource where
  configMapRef : Option EnvSourceRef
  keyPrefix : Option String
  secretRef : Option EnvSourceRef
deriving DecidableEq, Inhabited

def ConfigMapKeyRef.form : Form ConfigMapKeyRef := .record "ConfigMapKeySelector" <|
  (Fields.of ConfigMapKeyRef.mk)
    |>.field "key" "key" .text (·.key)
    |>.field "name" "name" .text (·.name)
    |>.field "optional" "optional" (.optional .bool) (·.optional)

def ObjectFieldRef.form : Form ObjectFieldRef := .record "ObjectFieldSelector" <|
  (Fields.of ObjectFieldRef.mk)
    |>.field "apiVersion" "api_version" (.optional .string) (·.apiVersion)
    |>.field "fieldPath" "field_path" .text (·.fieldPath)

def ResourceFieldRef.form : Form ResourceFieldRef := .record "ResourceFieldSelector" <|
  (Fields.of ResourceFieldRef.mk)
    |>.field "containerName" "container_name" (.optional .string) (·.containerName)
    |>.field "divisor" "divisor" (.optional .quantity) (·.divisor)
    |>.field "resource" "resource" .text (·.resource)

def SecretKeyRef.form : Form SecretKeyRef := .record "SecretKeySelector" <|
  (Fields.of SecretKeyRef.mk)
    |>.field "key" "key" .text (·.key)
    |>.field "name" "name" .text (·.name)
    |>.field "optional" "optional" (.optional .bool) (·.optional)

def EnvVarSource.form : Form EnvVarSource := .record "EnvVarSource" <|
  (Fields.of EnvVarSource.mk)
    |>.field "configMapKeyRef" "config_map_key_ref" (.optional ConfigMapKeyRef.form)
      (·.configMapKeyRef)
    |>.field "fieldRef" "field_ref" (.optional ObjectFieldRef.form) (·.fieldRef)
    |>.field "resourceFieldRef" "resource_field_ref" (.optional ResourceFieldRef.form)
      (·.resourceFieldRef)
    |>.field "secretKeyRef" "secret_key_ref" (.optional SecretKeyRef.form) (·.secretKeyRef)

def EnvVar.form : Form EnvVar := .record "EnvVar" <|
  (Fields.of EnvVar.mk)
    |>.field "name" "name" .text (·.name)
    |>.field "value" "value" (.optional .string) (·.value)
    |>.field "valueFrom" "value_from" (.optional EnvVarSource.form) (·.valueFrom)

def EnvVar.codec : Codec EnvVar := form.codec

def EnvVar.outline : EnvVar → Outline := form.outline

def EnvSourceRef.codec : Codec EnvSourceRef := .object <|
  (Record.of EnvSourceRef.mk)
    |>.field "name" .text (·.name)
    |>.field "optional" (.optional .bool) (·.optional)

def EnvFromSource.codec : Codec EnvFromSource := .object <|
  (Record.of EnvFromSource.mk)
    |>.field "configMapRef" (.optional EnvSourceRef.codec) (·.configMapRef)
    |>.field "prefix" (.optional .string) (·.keyPrefix)
    |>.field "secretRef" (.optional EnvSourceRef.codec) (·.secretRef)

end WebhookOperator
