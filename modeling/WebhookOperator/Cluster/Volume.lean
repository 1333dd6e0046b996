import WebhookOperator.Cluster.Claim
import WebhookOperator.Cluster.Disk
import WebhookOperator.Cluster.Env

/-!
# Volumes and mounts

A volume of a pod names where its files come from; a mount makes a volume visible in a container
at a path.
-/

namespace WebhookOperator

structure KeyToPath where
  key : String
  mode : Option Int32
  path : String
deriving DecidableEq, Inhabited

structure ConfigMapVolumeSource where
  defaultMode : Option Int32
  items : Option (List KeyToPath)
  name : String
  optional : Option Bool
deriving DecidableEq, Inhabited

structure SecretVolumeSource where
  defaultMode : Option Int32
  items : Option (List KeyToPath)
  optional : Option Bool
  secretName : Option String
deriving DecidableEq, Inhabited

structure DownwardFile where
  fieldRef : Option ObjectFieldRef
  mode : Option Int32
  path : String
  resourceFieldRef : Option ResourceFieldRef
deriving DecidableEq, Inhabited

structure DownwardSource where
  defaultMode : Option Int32
  items : Option (List DownwardFile)
deriving DecidableEq, Inhabited

structure ConfigMapProjection where
  items : Option (List KeyToPath)
  name : String
  optional : Option Bool
deriving DecidableEq, Inhabited

structure SecretProjection where
  items : Option (List KeyToPath)
  name : String
  optional : Option Bool
deriving DecidableEq, Inhabited

structure DownwardProjection where
  items : Option (List DownwardFile)
deriving DecidableEq, Inhabited

structure TrustProjection where
  labelSelector : Option LabelSelector
  name : Option String
  optional : Option Bool
  path : String
  signerName : Option String
deriving DecidableEq, Inhabited

structure TokenProjection where
  audience : Option String
  expirationSeconds : Option Int64
  path : String
deriving DecidableEq, Inhabited

/-- One of the sources that share a directory. -/
structure Projection where
  clusterTrustBundle : Option TrustProjection
  configMap : Option ConfigMapProjection
  downwardAPI : Option DownwardProjection
  secret : Option SecretProjection
  serviceAccountToken : Option TokenProjection
deriving DecidableEq, Inhabited

structure ProjectedSource where
  defaultMode : Option Int32
  sources : Option (List Projection)
deriving DecidableEq, Inhabited

/-- A directory that lives as long as the pod. -/
structure EmptyDirSource where
  medium : Option String
  sizeLimit : Option String
deriving DecidableEq, Inhabited

/-- A directory of the node. -/
structure HostPathSource where
  path : String
  kind : Option String
deriving DecidableEq, Inhabited

structure ImageSource where
  pullPolicy : Option String
  reference : Option String
deriving DecidableEq, Inhabited

structure GitRepoSource where
  directory : Option String
  repository : String
  revision : Option String
deriving DecidableEq, Inhabited

structure Volume where
  awsElasticBlockStore : Option BlockStoreSource := none
  azureDisk : Option AzureDiskSource := none
  azureFile : Option AzureFileSource := none
  cephfs : Option CephFsSource := none
  cinder : Option CinderSource := none
  configMap : Option ConfigMapVolumeSource := none
  csi : Option CsiSource := none
  downwardAPI : Option DownwardSource := none
  emptyDir : Option EmptyDirSource := none
  ephemeral : Option EphemeralSource := none
  fc : Option FibreChannelSource := none
  flexVolume : Option FlexSource := none
  flocker : Option FlockerSource := none
  gcePersistentDisk : Option GceDiskSource := none
  gitRepo : Option GitRepoSource := none
  glusterfs : Option GlusterSource := none
  hostPath : Option HostPathSource := none
  image : Option ImageSource := none
  iscsi : Option IscsiSource := none
  name : String
  nfs : Option NfsSource := none
  persistentVolumeClaim : Option ClaimSource := none
  photonPersistentDisk : Option PhotonDiskSource := none
  portworxVolume : Option PortworxSource := none
  projected : Option ProjectedSource := none
  quobyte : Option QuobyteSource := none
  rbd : Option RadosSource := none
  scaleIO : Option ScaleIoSource := none
  secret : Option SecretVolumeSource := none
  storageos : Option StorageOsSource := none
  vsphereVolume : Option VsphereSource := none
deriving DecidableEq, Inhabited

structure VolumeMount where
  mountPath : String
  mountPropagation : Option String
  name : String
  readOnly : Option Bool
  recursiveReadOnly : Option String
  subPath : Option String
  subPathExpr : Option String
deriving DecidableEq, Inhabited

/-! ### Forms -/

def KeyToPath.form : Form KeyToPath := .record "KeyToPath" <|
  (Fields.of KeyToPath.mk)
    |>.field "key" "key" .text (·.key)
    |>.field "mode" "mode" (.optional .int32) (·.mode)
    |>.field "path" "path" .text (·.path)

def ConfigMapVolumeSource.form : Form ConfigMapVolumeSource := .record "ConfigMapVolumeSource" <|
  (Fields.of ConfigMapVolumeSource.mk)
    |>.field "defaultMode" "default_mode" (.optional .int32) (·.defaultMode)
    |>.field "items" "items" (.optional (.list KeyToPath.form)) (·.items)
    |>.field "name" "name" .text (·.name)
    |>.field "optional" "optional" (.optional .bool) (·.optional)

def SecretVolumeSource.form : Form SecretVolumeSource := .record "SecretVolumeSource" <|
  (Fields.of SecretVolumeSource.mk)
    |>.field "defaultMode" "default_mode" (.optional .int32) (·.defaultMode)
    |>.field "items" "items" (.optional (.list KeyToPath.form)) (·.items)
    |>.field "optional" "optional" (.optional .bool) (·.optional)
    |>.field "secretName" "secret_name" (.optional .string) (·.secretName)

def DownwardFile.form : Form DownwardFile := .record "DownwardAPIVolumeFile" <|
  (Fields.of DownwardFile.mk)
    |>.field "fieldRef" "field_ref" (.optional ObjectFieldRef.form) (·.fieldRef)
    |>.field "mode" "mode" (.optional .int32) (·.mode)
    |>.field "path" "path" .text (·.path)
    |>.field "resourceFieldRef" "resource_field_ref" (.optional ResourceFieldRef.form)
      (·.resourceFieldRef)

def DownwardSource.form : Form DownwardSource := .record "DownwardAPIVolumeSource" <|
  (Fields.of DownwardSource.mk)
    |>.field "defaultMode" "default_mode" (.optional .int32) (·.defaultMode)
    |>.field "items" "items" (.optional (.list DownwardFile.form)) (·.items)

def ConfigMapProjection.form : Form ConfigMapProjection := .record "ConfigMapProjection" <|
  (Fields.of ConfigMapProjection.mk)
    |>.field "items" "items" (.optional (.list KeyToPath.form)) (·.items)
    |>.field "name" "name" .text (·.name)
    |>.field "optional" "optional" (.optional .bool) (·.optional)

def SecretProjection.form : Form SecretProjection := .record "SecretProjection" <|
  (Fields.of SecretProjection.mk)
    |>.field "items" "items" (.optional (.list KeyToPath.form)) (·.items)
    |>.field "name" "name" .text (·.name)
    |>.field "optional" "optional" (.optional .bool) (·.optional)

def DownwardProjection.form : Form DownwardProjection := .record "DownwardAPIProjection" <|
  (Fields.of DownwardProjection.mk)
    |>.field "items" "items" (.optional (.list DownwardFile.form)) (·.items)

def TrustProjection.form : Form TrustProjection := .record "ClusterTrustBundleProjection" <|
  (Fields.of TrustProjection.mk)
    |>.field "labelSelector" "label_selector" (.optional LabelSelector.form) (·.labelSelector)
    |>.field "name" "name" (.optional .string) (·.name)
    |>.field "optional" "optional" (.optional .bool) (·.optional)
    |>.field "path" "path" .text (·.path)
    |>.field "signerName" "signer_name" (.optional .string) (·.signerName)

def TokenProjection.form : Form TokenProjection := .record "ServiceAccountTokenProjection" <|
  (Fields.of TokenProjection.mk)
    |>.field "audience" "audience" (.optional .string) (·.audience)
    |>.field "expirationSeconds" "expiration_seconds" (.optional .int64) (·.expirationSeconds)
    |>.field "path" "path" .text (·.path)

def Projection.form : Form Projection := .record "VolumeProjection" <|
  (Fields.of Projection.mk)
    |>.field "clusterTrustBundle" "cluster_trust_bundle" (.optional TrustProjection.form)
      (·.clusterTrustBundle)
    |>.field "configMap" "config_map" (.optional ConfigMapProjection.form) (·.configMap)
    |>.field "downwardAPI" "downward_api" (.optional DownwardProjection.form) (·.downwardAPI)
    |>.field "secret" "secret" (.optional SecretProjection.form) (·.secret)
    |>.field "serviceAccountToken" "service_account_token" (.optional TokenProjection.form)
      (·.serviceAccountToken)

def ProjectedSource.form : Form ProjectedSource := .record "ProjectedVolumeSource" <|
  (Fields.of ProjectedSource.mk)
    |>.field "defaultMode" "default_mode" (.optional .int32) (·.defaultMode)
    |>.field "sources" "sources" (.optional (.list Projection.form)) (·.sources)

def EmptyDirSource.form : Form EmptyDirSource := .record "EmptyDirVolumeSource" <|
  (Fields.of EmptyDirSource.mk)
    |>.field "medium" "medium" (.optional .string) (·.medium)
    |>.field "sizeLimit" "size_limit" (.optional .quantity) (·.sizeLimit)

def HostPathSource.form : Form HostPathSource := .record "HostPathVolumeSource" <|
  (Fields.of HostPathSource.mk)
    |>.field "path" "path" .text (·.path)
    |>.field "type" "type_" (.optional .string) (·.kind)

def ImageSource.form : Form ImageSource := .record "ImageVolumeSource" <|
  (Fields.of ImageSource.mk)
    |>.field "pullPolicy" "pull_policy" (.optional .string) (·.pullPolicy)
    |>.field "reference" "reference" (.optional .string) (·.reference)

def GitRepoSource.form : Form GitRepoSource := .record "GitRepoVolumeSource" <|
  (Fields.of GitRepoSource.mk)
    |>.field "directory" "directory" (.optional .string) (·.directory)
    |>.field "repository" "repository" .text (·.repository)
    |>.field "revision" "revision" (.optional .string) (·.revision)

def Volume.form : Form Volume := .record "Volume" <|
  (Fields.of Volume.mk)
    |>.field "awsElasticBlockStore" "aws_elastic_block_store" (.optional BlockStoreSource.form)
      (·.awsElasticBlockStore)
    |>.field "azureDisk" "azure_disk" (.optional AzureDiskSource.form) (·.azureDisk)
    |>.field "azureFile" "azure_file" (.optional AzureFileSource.form) (·.azureFile)
    |>.field "cephfs" "cephfs" (.optional CephFsSource.form) (·.cephfs)
    |>.field "cinder" "cinder" (.optional CinderSource.form) (·.cinder)
    |>.field "configMap" "config_map" (.optional ConfigMapVolumeSource.form) (·.configMap)
    |>.field "csi" "csi" (.optional CsiSource.form) (·.csi)
    |>.field "downwardAPI" "downward_api" (.optional DownwardSource.form) (·.downwardAPI)
    |>.field "emptyDir" "empty_dir" (.optional EmptyDirSource.form) (·.emptyDir)
    |>.field "ephemeral" "ephemeral" (.optional EphemeralSource.form) (·.ephemeral)
    |>.field "fc" "fc" (.optional FibreChannelSource.form) (·.fc)
    |>.field "flexVolume" "flex_volume" (.optional FlexSource.form) (·.flexVolume)
    |>.field "flocker" "flocker" (.optional FlockerSource.form) (·.flocker)
    |>.field "gcePersistentDisk" "gce_persistent_disk" (.optional GceDiskSource.form)
      (·.gcePersistentDisk)
    |>.field "gitRepo" "git_repo" (.optional GitRepoSource.form) (·.gitRepo)
    |>.field "glusterfs" "glusterfs" (.optional GlusterSource.form) (·.glusterfs)
    |>.field "hostPath" "host_path" (.optional HostPathSource.form) (·.hostPath)
    |>.field "image" "image" (.optional ImageSource.form) (·.image)
    |>.field "iscsi" "iscsi" (.optional IscsiSource.form) (·.iscsi)
    |>.field "name" "name" .text (·.name)
    |>.field "nfs" "nfs" (.optional NfsSource.form) (·.nfs)
    |>.field "persistentVolumeClaim" "persistent_volume_claim" (.optional ClaimSource.form)
      (·.persistentVolumeClaim)
    |>.field "photonPersistentDisk" "photon_persistent_disk" (.optional PhotonDiskSource.form)
      (·.photonPersistentDisk)
    |>.field "portworxVolume" "portworx_volume" (.optional PortworxSource.form) (·.portworxVolume)
    |>.field "projected" "projected" (.optional ProjectedSource.form) (·.projected)
    |>.field "quobyte" "quobyte" (.optional QuobyteSource.form) (·.quobyte)
    |>.field "rbd" "rbd" (.optional RadosSource.form) (·.rbd)
    |>.field "scaleIO" "scale_io" (.optional ScaleIoSource.form) (·.scaleIO)
    |>.field "secret" "secret" (.optional SecretVolumeSource.form) (·.secret)
    |>.field "storageos" "storageos" (.optional StorageOsSource.form) (·.storageos)
    |>.field "vsphereVolume" "vsphere_volume" (.optional VsphereSource.form) (·.vsphereVolume)

def VolumeMount.form : Form VolumeMount := .record "VolumeMount" <|
  (Fields.of VolumeMount.mk)
    |>.field "mountPath" "mount_path" .text (·.mountPath)
    |>.field "mountPropagation" "mount_propagation" (.optional .string) (·.mountPropagation)
    |>.field "name" "name" .text (·.name)
    |>.field "readOnly" "read_only" (.optional .bool) (·.readOnly)
    |>.field "recursiveReadOnly" "recursive_read_only" (.optional .string) (·.recursiveReadOnly)
    |>.field "subPath" "sub_path" (.optional .string) (·.subPath)
    |>.field "subPathExpr" "sub_path_expr" (.optional .string) (·.subPathExpr)

def Volume.codec : Codec Volume := form.codec

def Volume.outline : Volume → Outline := form.outline

def VolumeMount.codec : Codec VolumeMount := form.codec

def VolumeMount.outline : VolumeMount → Outline := form.outline

end WebhookOperator
