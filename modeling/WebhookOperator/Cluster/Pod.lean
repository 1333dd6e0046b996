import WebhookOperator.Cluster.Meta
import WebhookOperator.Cluster.Volume

/-!
# Pods

A pod is a group of containers with the volumes that they share and the way they look up names.
-/

namespace WebhookOperator

structure ContainerPort where
  containerPort : Int32
  name : Option String
  protocol : Option String
deriving DecidableEq, Inhabited

/-- What a container may use and what it asks for. -/
structure ResourceRequirements where
  limits : Option (Dict String)
  requests : Option (Dict String)
deriving DecidableEq, Inhabited

structure Container where
  args : Option (List String)
  command : Option (List String)
  env : Option (List EnvVar)
  envFrom : Option (List EnvFromSource)
  image : Option String
  imagePullPolicy : Option String
  name : String
  ports : Option (List ContainerPort)
  resources : Option ResourceRequirements
  volumeMounts : Option (List VolumeMount)
  workingDir : Option String
deriving DecidableEq, Inhabited

structure DnsOption where
  name : Option String
  value : Option String
deriving DecidableEq, Inhabited

/-- How the containers of a pod look up names, beside what their policy says. -/
structure DnsConfig where
  nameservers : Option (List String) := none
  options : Option (List DnsOption) := none
  searches : Option (List String) := none
deriving DecidableEq, Inhabited

/-- A taint of a node that a pod puts up with. -/
structure Toleration where
  effect : Option String
  key : Option String
  operator : Option String
  tolerationSeconds : Option Int64
  value : Option String
deriving DecidableEq, Inhabited

structure PodSpec where
  containers : List Container
  dnsConfig : Option DnsConfig
  dnsPolicy : Option String
  hostNetwork : Option Bool
  initContainers : Option (List Container)
  nodeSelector : Option (Dict String)
  restartPolicy : Option String
  serviceAccountName : Option String
  terminationGracePeriodSeconds : Option Int64
  tolerations : Option (List Toleration)
  volumes : Option (List Volume)
deriving DecidableEq, Inhabited

structure PodStatus where
  phase : Option String
deriving DecidableEq, Inhabited

structure Pod where
  metadata : ObjectMeta
  spec : Option PodSpec
  status : Option PodStatus
deriving DecidableEq, Inhabited

/-! ### Documents -/

def ContainerPort.codec : Codec ContainerPort := .object <|
  (Record.of ContainerPort.mk)
    |>.field "containerPort" (.expected .int32 0) (·.containerPort)
    |>.field "name" (.optional .string) (·.name)
    |>.field "protocol" (.optional .string) (·.protocol)

def ResourceRequirements.codec : Codec ResourceRequirements := .object <|
  (Record.of ResourceRequirements.mk)
    |>.field "limits" (.optional (.dict .string)) (·.limits)
    |>.field "requests" (.optional (.dict .string)) (·.requests)

def Container.codec : Codec Container := .object <|
  (Record.of Container.mk)
    |>.field "args" (.optional (.list .string)) (·.args)
    |>.field "command" (.optional (.list .string)) (·.command)
    |>.field "env" (.optional (.list EnvVar.codec)) (·.env)
    |>.field "envFrom" (.optional (.list EnvFromSource.codec)) (·.envFrom)
    |>.field "image" (.optional .string) (·.image)
    |>.field "imagePullPolicy" (.optional .string) (·.imagePullPolicy)
    |>.field "name" .text (·.name)
    |>.field "ports" (.optional (.list ContainerPort.codec)) (·.ports)
    |>.field "resources" (.optional ResourceRequirements.codec) (·.resources)
    |>.field "volumeMounts" (.optional (.list VolumeMount.codec)) (·.volumeMounts)
    |>.field "workingDir" (.optional .string) (·.workingDir)

def DnsOption.codec : Codec DnsOption := .object <|
  (Record.of DnsOption.mk)
    |>.field "name" (.optional .string) (·.name)
    |>.field "value" (.optional .string) (·.value)

def DnsConfig.codec : Codec DnsConfig := .object <|
  (Record.of DnsConfig.mk)
    |>.field "nameservers" (.optional (.list .string)) (·.nameservers)
    |>.field "options" (.optional (.list DnsOption.codec)) (·.options)
    |>.field "searches" (.optional (.list .string)) (·.searches)

def Toleration.codec : Codec Toleration := .object <|
  (Record.of Toleration.mk)
    |>.field "effect" (.optional .string) (·.effect)
    |>.field "key" (.optional .string) (·.key)
    |>.field "operator" (.optional .string) (·.operator)
    |>.field "tolerationSeconds" (.optional .int64) (·.tolerationSeconds)
    |>.field "value" (.optional .string) (·.value)

def PodSpec.codec : Codec PodSpec := .object <|
  (Record.of PodSpec.mk)
    |>.field "containers" (.expected (.list Container.codec) []) (·.containers)
    |>.field "dnsConfig" (.optional DnsConfig.codec) (·.dnsConfig)
    |>.field "dnsPolicy" (.optional .string) (·.dnsPolicy)
    |>.field "hostNetwork" (.optional .bool) (·.hostNetwork)
    |>.field "initContainers" (.optional (.list Container.codec)) (·.initContainers)
    |>.field "nodeSelector" (.optional (.dict .string)) (·.nodeSelector)
    |>.field "restartPolicy" (.optional .string) (·.restartPolicy)
    |>.field "serviceAccountName" (.optional .string) (·.serviceAccountName)
    |>.field "terminationGracePeriodSeconds" (.optional .int64) (·.terminationGracePeriodSeconds)
    |>.field "tolerations" (.optional (.list Toleration.codec)) (·.tolerations)
    |>.field "volumes" (.optional (.list Volume.codec)) (·.volumes)

def PodStatus.codec : Codec PodStatus := .object <|
  (Record.of PodStatus.mk)
    |>.field "phase" (.optional .string) (·.phase)

def Pod.record : Record Pod Pod :=
  (Record.of Pod.mk)
    |>.field "metadata" (.expected ObjectMeta.codec {}) (·.metadata)
    |>.field "spec" (.optional PodSpec.codec) (·.spec)
    |>.field "status" (.optional PodStatus.codec) (·.status)

def Pod.codec : Codec Pod := .resource "v1" "Pod" Pod.record

end WebhookOperator
