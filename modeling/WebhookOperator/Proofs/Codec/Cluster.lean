import WebhookOperator.Cluster.Pod
import WebhookOperator.Proofs.Form.Cluster

/-!
# The documents of a pod

Every kind of object that a pod is made of has a lawful codec: its fields stand under keys that
differ, and the codec of each field is lawful.  So a pod is the same after it has been written and
read again, and two pods that are written alike are equal.
-/

namespace WebhookOperator

/-! ### Metadata and environments -/

theorem ObjectMeta.lawful : ObjectMeta.codec.Lawful := ObjectMeta.sound.lawful

theorem EnvVar.lawful : EnvVar.codec.Lawful := EnvVar.sound.lawful

theorem EnvSourceRef.lawful : EnvSourceRef.codec.Lawful := .object <|
  (Record.Lawful.of _)
    |>.field .text (by decide) _
    |>.field (.optional .bool) (by decide) _

theorem EnvFromSource.lawful : EnvFromSource.codec.Lawful := .object <|
  (Record.Lawful.of _)
    |>.field (.optional EnvSourceRef.lawful) (by decide) _
    |>.field (.optional .string) (by decide) _
    |>.field (.optional EnvSourceRef.lawful) (by decide) _

/-! ### Volumes -/

theorem Volume.lawful : Volume.codec.Lawful := Volume.sound.lawful

theorem VolumeMount.lawful : VolumeMount.codec.Lawful := VolumeMount.sound.lawful

/-! ### Pods -/

theorem ContainerPort.lawful : ContainerPort.codec.Lawful := .object <|
  (Record.Lawful.of _)
    |>.field (.expected .int32 0) (by decide) _
    |>.field (.optional .string) (by decide) _
    |>.field (.optional .string) (by decide) _

theorem ResourceRequirements.lawful : ResourceRequirements.codec.Lawful := .object <|
  (Record.Lawful.of _)
    |>.field (.optional (.dict .string)) (by decide) _
    |>.field (.optional (.dict .string)) (by decide) _

theorem Container.lawful : Container.codec.Lawful := .object <|
  (Record.Lawful.of _)
    |>.field (.optional (.list .string)) (by decide) _
    |>.field (.optional (.list .string)) (by decide) _
    |>.field (.optional (.list EnvVar.lawful)) (by decide) _
    |>.field (.optional (.list EnvFromSource.lawful)) (by decide) _
    |>.field (.optional .string) (by decide) _
    |>.field (.optional .string) (by decide) _
    |>.field .text (by decide) _
    |>.field (.optional (.list ContainerPort.lawful)) (by decide) _
    |>.field (.optional ResourceRequirements.lawful) (by decide) _
    |>.field (.optional (.list VolumeMount.lawful)) (by decide) _
    |>.field (.optional .string) (by decide) _

theorem DnsOption.lawful : DnsOption.codec.Lawful := .object <|
  (Record.Lawful.of _)
    |>.field (.optional .string) (by decide) _
    |>.field (.optional .string) (by decide) _

theorem DnsConfig.lawful : DnsConfig.codec.Lawful := .object <|
  (Record.Lawful.of _)
    |>.field (.optional (.list .string)) (by decide) _
    |>.field (.optional (.list DnsOption.lawful)) (by decide) _
    |>.field (.optional (.list .string)) (by decide) _

theorem Toleration.lawful : Toleration.codec.Lawful := .object <|
  (Record.Lawful.of _)
    |>.field (.optional .string) (by decide) _
    |>.field (.optional .string) (by decide) _
    |>.field (.optional .string) (by decide) _
    |>.field (.optional .int64) (by decide) _
    |>.field (.optional .string) (by decide) _

theorem PodSpec.lawful : PodSpec.codec.Lawful := .object <|
  (Record.Lawful.of _)
    |>.field (.expected (.list Container.lawful) []) (by decide) _
    |>.field (.optional DnsConfig.lawful) (by decide) _
    |>.field (.optional .string) (by decide) _
    |>.field (.optional .bool) (by decide) _
    |>.field (.optional (.list Container.lawful)) (by decide) _
    |>.field (.optional (.dict .string)) (by decide) _
    |>.field (.optional .string) (by decide) _
    |>.field (.optional .string) (by decide) _
    |>.field (.optional .int64) (by decide) _
    |>.field (.optional (.list Toleration.lawful)) (by decide) _
    |>.field (.optional (.list Volume.lawful)) (by decide) _

theorem PodStatus.lawful : PodStatus.codec.Lawful := .object <|
  (Record.Lawful.of _)
    |>.field (.optional .string) (by decide) _

theorem Pod.lawful : Pod.codec.Lawful := .resource
  ((Record.Lawful.of _)
    |>.field (.expected ObjectMeta.lawful {}) (by decide) _
    |>.field (.optional PodSpec.lawful) (by decide) _
    |>.field (.optional PodStatus.lawful) (by decide) _)
  "v1" "Pod" (by decide) (by decide)

end WebhookOperator
