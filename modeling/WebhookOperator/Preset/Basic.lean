import WebhookOperator.Cluster.Pod
import WebhookOperator.Cluster.Selector

/-!
# Pod presets

A preset offers environment variables, sources of variables, volumes and mounts to every pod of its
namespace that its selector picks.
-/

namespace WebhookOperator

structure PresetSpec where
  selector : LabelSelector := {}
  env : List EnvVar := []
  envFrom : List EnvFromSource := []
  volumes : List Volume := []
  volumeMounts : List VolumeMount := []
deriving DecidableEq, Inhabited

structure PodPreset where
  metadata : ObjectMeta
  spec : PresetSpec
deriving DecidableEq, Inhabited

/-- The selector is always written and each list only when it has items. -/
def PresetSpec.codec : Codec PresetSpec := .either <|
  (Record.of PresetSpec.mk)
    |>.field "selector" (.defaulted LabelSelector.codec {} fun _ => false) (·.selector)
    |>.field "env" (.items EnvVar.codec) (·.env)
    |>.field "envFrom" (.items EnvFromSource.codec) (·.envFrom)
    |>.field "volumes" (.items Volume.codec) (·.volumes)
    |>.field "volumeMounts" (.items VolumeMount.codec) (·.volumeMounts)

namespace PodPreset

def apiVersion : String := "operator.ibm.com/v1alpha1"

def codec : Codec PodPreset := .customResource apiVersion "PodPreset" <|
  (Record.of PodPreset.mk)
    |>.field "metadata" (.strict ObjectMeta.codec) (·.metadata)
    |>.field "spec" (.strict PresetSpec.codec) (·.spec)

def name (preset : PodPreset) : String := preset.metadata.displayName

def version? (preset : PodPreset) : Option String := preset.metadata.resourceVersion

end PodPreset

end WebhookOperator
