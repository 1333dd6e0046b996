import WebhookOperator.Cluster.Volume
import WebhookOperator.Proofs.Form.FieldSet
import WebhookOperator.Proofs.Form.Time

/-!
# The forms of cluster values

Metadata, selectors, environment variables, volumes and mounts have sound forms, and so has every
structure that they are made of.  So their values read back from the documents that they are written
as, and can be told by their texts.
-/

namespace WebhookOperator

/-! ### Metadata -/

instance OwnerReference.sound : OwnerReference.form.Sound :=
  .record (fun _ => rfl) (by decide +kernel)
instance ManagedFields.sound : ManagedFields.form.Sound :=
  .record (fun _ => rfl) (by decide +kernel)
instance ObjectMeta.sound : ObjectMeta.form.Sound := .record (fun _ => rfl) (by decide +kernel)

/-! ### Selectors -/

instance LabelRequirement.sound : LabelRequirement.form.Sound :=
  .record (fun _ => rfl) (by decide +kernel)
instance LabelSelector.sound : LabelSelector.form.Sound :=
  .record (fun _ => rfl) (by decide +kernel)

/-! ### Environments -/

instance ConfigMapKeyRef.sound : ConfigMapKeyRef.form.Sound :=
  .record (fun _ => rfl) (by decide +kernel)
instance ObjectFieldRef.sound : ObjectFieldRef.form.Sound :=
  .record (fun _ => rfl) (by decide +kernel)
instance ResourceFieldRef.sound : ResourceFieldRef.form.Sound :=
  .record (fun _ => rfl) (by decide +kernel)
instance SecretKeyRef.sound : SecretKeyRef.form.Sound := .record (fun _ => rfl) (by decide +kernel)
instance EnvVarSource.sound : EnvVarSource.form.Sound := .record (fun _ => rfl) (by decide +kernel)
instance EnvVar.sound : EnvVar.form.Sound := .record (fun _ => rfl) (by decide +kernel)

/-! ### Disks and shares -/

instance LocalReference.sound : LocalReference.form.Sound :=
  .record (fun _ => rfl) (by decide +kernel)
instance BlockStoreSource.sound : BlockStoreSource.form.Sound :=
  .record (fun _ => rfl) (by decide +kernel)
instance AzureDiskSource.sound : AzureDiskSource.form.Sound :=
  .record (fun _ => rfl) (by decide +kernel)
instance AzureFileSource.sound : AzureFileSource.form.Sound :=
  .record (fun _ => rfl) (by decide +kernel)
instance CephFsSource.sound : CephFsSource.form.Sound := .record (fun _ => rfl) (by decide +kernel)
instance CinderSource.sound : CinderSource.form.Sound := .record (fun _ => rfl) (by decide +kernel)
instance CsiSource.sound : CsiSource.form.Sound := .record (fun _ => rfl) (by decide +kernel)
instance FibreChannelSource.sound : FibreChannelSource.form.Sound :=
  .record (fun _ => rfl) (by decide +kernel)
instance FlexSource.sound : FlexSource.form.Sound := .record (fun _ => rfl) (by decide +kernel)
instance FlockerSource.sound : FlockerSource.form.Sound :=
  .record (fun _ => rfl) (by decide +kernel)
instance GceDiskSource.sound : GceDiskSource.form.Sound :=
  .record (fun _ => rfl) (by decide +kernel)
instance GlusterSource.sound : GlusterSource.form.Sound :=
  .record (fun _ => rfl) (by decide +kernel)
instance IscsiSource.sound : IscsiSource.form.Sound := .record (fun _ => rfl) (by decide +kernel)
instance NfsSource.sound : NfsSource.form.Sound := .record (fun _ => rfl) (by decide +kernel)
instance PhotonDiskSource.sound : PhotonDiskSource.form.Sound :=
  .record (fun _ => rfl) (by decide +kernel)
instance PortworxSource.sound : PortworxSource.form.Sound :=
  .record (fun _ => rfl) (by decide +kernel)
instance QuobyteSource.sound : QuobyteSource.form.Sound :=
  .record (fun _ => rfl) (by decide +kernel)
instance RadosSource.sound : RadosSource.form.Sound := .record (fun _ => rfl) (by decide +kernel)
instance ScaleIoSource.sound : ScaleIoSource.form.Sound :=
  .record (fun _ => rfl) (by decide +kernel)
instance StorageOsSource.sound : StorageOsSource.form.Sound :=
  .record (fun _ => rfl) (by decide +kernel)
instance VsphereSource.sound : VsphereSource.form.Sound :=
  .record (fun _ => rfl) (by decide +kernel)

/-! ### Claims -/

instance TypedLocalReference.sound : TypedLocalReference.form.Sound :=
  .record (fun _ => rfl) (by decide +kernel)
instance TypedReference.sound : TypedReference.form.Sound :=
  .record (fun _ => rfl) (by decide +kernel)
instance StorageRequirements.sound : StorageRequirements.form.Sound :=
  .record (fun _ => rfl) (by decide +kernel)
instance ClaimSpec.sound : ClaimSpec.form.Sound := .record (fun _ => rfl) (by decide +kernel)
instance ClaimTemplate.sound : ClaimTemplate.form.Sound :=
  .record (fun _ => rfl) (by decide +kernel)
instance EphemeralSource.sound : EphemeralSource.form.Sound :=
  .record (fun _ => rfl) (by decide +kernel)
instance ClaimSource.sound : ClaimSource.form.Sound := .record (fun _ => rfl) (by decide +kernel)

/-! ### Volumes and mounts -/

instance KeyToPath.sound : KeyToPath.form.Sound := .record (fun _ => rfl) (by decide +kernel)
instance ConfigMapVolumeSource.sound : ConfigMapVolumeSource.form.Sound :=
  .record (fun _ => rfl) (by decide +kernel)
instance SecretVolumeSource.sound : SecretVolumeSource.form.Sound :=
  .record (fun _ => rfl) (by decide +kernel)
instance DownwardFile.sound : DownwardFile.form.Sound := .record (fun _ => rfl) (by decide +kernel)
instance DownwardSource.sound : DownwardSource.form.Sound :=
  .record (fun _ => rfl) (by decide +kernel)
instance ConfigMapProjection.sound : ConfigMapProjection.form.Sound :=
  .record (fun _ => rfl) (by decide +kernel)
instance SecretProjection.sound : SecretProjection.form.Sound :=
  .record (fun _ => rfl) (by decide +kernel)
instance DownwardProjection.sound : DownwardProjection.form.Sound :=
  .record (fun _ => rfl) (by decide +kernel)
instance TrustProjection.sound : TrustProjection.form.Sound :=
  .record (fun _ => rfl) (by decide +kernel)
instance TokenProjection.sound : TokenProjection.form.Sound :=
  .record (fun _ => rfl) (by decide +kernel)
instance Projection.sound : Projection.form.Sound := .record (fun _ => rfl) (by decide +kernel)
instance ProjectedSource.sound : ProjectedSource.form.Sound :=
  .record (fun _ => rfl) (by decide +kernel)
instance EmptyDirSource.sound : EmptyDirSource.form.Sound :=
  .record (fun _ => rfl) (by decide +kernel)
instance HostPathSource.sound : HostPathSource.form.Sound :=
  .record (fun _ => rfl) (by decide +kernel)
instance ImageSource.sound : ImageSource.form.Sound := .record (fun _ => rfl) (by decide +kernel)
instance GitRepoSource.sound : GitRepoSource.form.Sound :=
  .record (fun _ => rfl) (by decide +kernel)
instance Volume.sound : Volume.form.Sound := .record (fun _ => rfl) (by decide +kernel)
instance VolumeMount.sound : VolumeMount.form.Sound := .record (fun _ => rfl) (by decide +kernel)

end WebhookOperator
