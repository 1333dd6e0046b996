import WebhookOperator.Form

/-!
# Disks and shares

Where the files of a volume come from when they are not of the cluster itself: disks of a cloud,
shares on a network, and whatever a storage driver knows.
-/

namespace WebhookOperator

structure LocalReference where
  name : String := ""
deriving DecidableEq, Inhabited

structure BlockStoreSource where
  fsType : Option String
  partition : Option Int32
  readOnly : Option Bool
  volumeID : String
deriving DecidableEq, Inhabited

structure AzureDiskSource where
  cachingMode : Option String
  diskName : String
  diskURI : String
  fsType : Option String
  kind : Option String
  readOnly : Option Bool
deriving DecidableEq, Inhabited

structure AzureFileSource where
  readOnly : Option Bool
  secretName : String
  shareName : String
deriving DecidableEq, Inhabited

structure CephFsSource where
  monitors : List String
  path : Option String
  readOnly : Option Bool
  secretFile : Option String
  secretRef : Option LocalReference
  user : Option String
deriving DecidableEq, Inhabited

structure CinderSource where
  fsType : Option String
  readOnly : Option Bool
  secretRef : Option LocalReference
  volumeID : String
deriving DecidableEq, Inhabited

/-- A volume of a storage driver, with what the driver is told. -/
structure CsiSource where
  driver : String
  fsType : Option String
  nodePublishSecretRef : Option LocalReference
  readOnly : Option Bool
  volumeAttributes : Option (Dict String)
deriving DecidableEq, Inhabited

structure FibreChannelSource where
  fsType : Option String
  lun : Option Int32
  readOnly : Option Bool
  targetWWNs : Option (List String)
  wwids : Option (List String)
deriving DecidableEq, Inhabited

structure FlexSource where
  driver : String
  fsType : Option String
  options : Option (Dict String)
  readOnly : Option Bool
  secretRef : Option LocalReference
deriving DecidableEq, Inhabited

structure FlockerSource where
  datasetName : Option String
  datasetUUID : Option String
deriving DecidableEq, Inhabited

structure GceDiskSource where
  fsType : Option String
  partition : Option Int32
  pdName : String
  readOnly : Option Bool
deriving DecidableEq, Inhabited

structure GlusterSource where
  endpoints : String
  path : String
  readOnly : Option Bool
deriving DecidableEq, Inhabited

structure IscsiSource where
  chapAuthDiscovery : Option Bool
  chapAuthSession : Option Bool
  fsType : Option String
  initiatorName : Option String
  iqn : String
  iscsiInterface : Option String
  lun : Int32
  portals : Option (List String)
  readOnly : Option Bool
  secretRef : Option LocalReference
  targetPortal : String
deriving DecidableEq, Inhabited

structure NfsSource where
  path : String
  readOnly : Option Bool
  server : String
deriving DecidableEq, Inhabited

structure PhotonDiskSource where
  fsType : Option String
  pdID : String
deriving DecidableEq, Inhabited

structure PortworxSource where
  fsType : Option String
  readOnly : Option Bool
  volumeID : String
deriving DecidableEq, Inhabited

structure QuobyteSource where
  group : Option String
  readOnly : Option Bool
  registry : String
  tenant : Option String
  user : Option String
  volume : String
deriving DecidableEq, Inhabited

structure RadosSource where
  fsType : Option String
  image : String
  keyring : Option String
  monitors : List String
  pool : Option String
  readOnly : Option Bool
  secretRef : Option LocalReference
  user : Option String
deriving DecidableEq, Inhabited

structure ScaleIoSource where
  fsType : Option String
  gateway : String
  protectionDomain : Option String
  readOnly : Option Bool
  secretRef : LocalReference
  sslEnabled : Option Bool
  storageMode : Option String
  storagePool : Option String
  system : String
  volumeName : Option String
deriving DecidableEq, Inhabited

structure StorageOsSource where
  fsType : Option String
  readOnly : Option Bool
  secretRef : Option LocalReference
  volumeName : Option String
  volumeNamespace : Option String
deriving DecidableEq, Inhabited

structure VsphereSource where
  fsType : Option String
  storagePolicyID : Option String
  storagePolicyName : Option String
  volumePath : String
deriving DecidableEq, Inhabited

/-! ### Forms -/

def LocalReference.form : Form LocalReference := .record "LocalObjectReference" <|
  (Fields.of LocalReference.mk)
    |>.field "name" "name" .text (·.name)

def BlockStoreSource.form : Form BlockStoreSource := .record "AWSElasticBlockStoreVolumeSource" <|
  (Fields.of BlockStoreSource.mk)
    |>.field "fsType" "fs_type" (.optional .string) (·.fsType)
    |>.field "partition" "partition" (.optional .int32) (·.partition)
    |>.field "readOnly" "read_only" (.optional .bool) (·.readOnly)
    |>.field "volumeID" "volume_id" .text (·.volumeID)

def AzureDiskSource.form : Form AzureDiskSource := .record "AzureDiskVolumeSource" <|
  (Fields.of AzureDiskSource.mk)
    |>.field "cachingMode" "caching_mode" (.optional .string) (·.cachingMode)
    |>.field "diskName" "disk_name" .text (·.diskName)
    |>.field "diskURI" "disk_uri" .text (·.diskURI)
    |>.field "fsType" "fs_type" (.optional .string) (·.fsType)
    |>.field "kind" "kind" (.optional .string) (·.kind)
    |>.field "readOnly" "read_only" (.optional .bool) (·.readOnly)

def AzureFileSource.form : Form AzureFileSource := .record "AzureFileVolumeSource" <|
  (Fields.of AzureFileSource.mk)
    |>.field "readOnly" "read_only" (.optional .bool) (·.readOnly)
    |>.field "secretName" "secret_name" .text (·.secretName)
    |>.field "shareName" "share_name" .text (·.shareName)

def CephFsSource.form : Form CephFsSource := .record "CephFSVolumeSource" <|
  (Fields.of CephFsSource.mk)
    |>.field "monitors" "monitors" (.expected (.list .string) []) (·.monitors)
    |>.field "path" "path" (.optional .string) (·.path)
    |>.field "readOnly" "read_only" (.optional .bool) (·.readOnly)
    |>.field "secretFile" "secret_file" (.optional .string) (·.secretFile)
    |>.field "secretRef" "secret_ref" (.optional LocalReference.form) (·.secretRef)
    |>.field "user" "user" (.optional .string) (·.user)

def CinderSource.form : Form CinderSource := .record "CinderVolumeSource" <|
  (Fields.of CinderSource.mk)
    |>.field "fsType" "fs_type" (.optional .string) (·.fsType)
    |>.field "readOnly" "read_only" (.optional .bool) (·.readOnly)
    |>.field "secretRef" "secret_ref" (.optional LocalReference.form) (·.secretRef)
    |>.field "volumeID" "volume_id" .text (·.volumeID)

def CsiSource.form : Form CsiSource := .record "CSIVolumeSource" <|
  (Fields.of CsiSource.mk)
    |>.field "driver" "driver" .text (·.driver)
    |>.field "fsType" "fs_type" (.optional .string) (·.fsType)
    |>.field "nodePublishSecretRef" "node_publish_secret_ref" (.optional LocalReference.form)
      (·.nodePublishSecretRef)
    |>.field "readOnly" "read_only" (.optional .bool) (·.readOnly)
    |>.field "volumeAttributes" "volume_attributes" (.optional (.dict .string)) (·.volumeAttributes)

def FibreChannelSource.form : Form FibreChannelSource := .record "FCVolumeSource" <|
  (Fields.of FibreChannelSource.mk)
    |>.field "fsType" "fs_type" (.optional .string) (·.fsType)
    |>.field "lun" "lun" (.optional .int32) (·.lun)
    |>.field "readOnly" "read_only" (.optional .bool) (·.readOnly)
    |>.field "targetWWNs" "target_wwns" (.optional (.list .string)) (·.targetWWNs)
    |>.field "wwids" "wwids" (.optional (.list .string)) (·.wwids)

def FlexSource.form : Form FlexSource := .record "FlexVolumeSource" <|
  (Fields.of FlexSource.mk)
    |>.field "driver" "driver" .text (·.driver)
    |>.field "fsType" "fs_type" (.optional .string) (·.fsType)
    |>.field "options" "options" (.optional (.dict .string)) (·.options)
    |>.field "readOnly" "read_only" (.optional .bool) (·.readOnly)
    |>.field "secretRef" "secret_ref" (.optional LocalReference.form) (·.secretRef)

def FlockerSource.form : Form FlockerSource := .record "FlockerVolumeSource" <|
  (Fields.of FlockerSource.mk)
    |>.field "datasetName" "dataset_name" (.optional .string) (·.datasetName)
    |>.field "datasetUUID" "dataset_uuid" (.optional .string) (·.datasetUUID)

def GceDiskSource.form : Form GceDiskSource := .record "GCEPersistentDiskVolumeSource" <|
  (Fields.of GceDiskSource.mk)
    |>.field "fsType" "fs_type" (.optional .string) (·.fsType)
    |>.field "partition" "partition" (.optional .int32) (·.partition)
    |>.field "pdName" "pd_name" .text (·.pdName)
    |>.field "readOnly" "read_only" (.optional .bool) (·.readOnly)

def GlusterSource.form : Form GlusterSource := .record "GlusterfsVolumeSource" <|
  (Fields.of GlusterSource.mk)
    |>.field "endpoints" "endpoints" .text (·.endpoints)
    |>.field "path" "path" .text (·.path)
    |>.field "readOnly" "read_only" (.optional .bool) (·.readOnly)

def IscsiSource.form : Form IscsiSource := .record "ISCSIVolumeSource" <|
  (Fields.of IscsiSource.mk)
    |>.field "chapAuthDiscovery" "chap_auth_discovery" (.optional .bool) (·.chapAuthDiscovery)
    |>.field "chapAuthSession" "chap_auth_session" (.optional .bool) (·.chapAuthSession)
    |>.field "fsType" "fs_type" (.optional .string) (·.fsType)
    |>.field "initiatorName" "initiator_name" (.optional .string) (·.initiatorName)
    |>.field "iqn" "iqn" .text (·.iqn)
    |>.field "iscsiInterface" "iscsi_interface" (.optional .string) (·.iscsiInterface)
    |>.field "lun" "lun" (.expected .int32 0) (·.lun)
    |>.field "portals" "portals" (.optional (.list .string)) (·.portals)
    |>.field "readOnly" "read_only" (.optional .bool) (·.readOnly)
    |>.field "secretRef" "secret_ref" (.optional LocalReference.form) (·.secretRef)
    |>.field "targetPortal" "target_portal" .text (·.targetPortal)

def NfsSource.form : Form NfsSource := .record "NFSVolumeSource" <|
  (Fields.of NfsSource.mk)
    |>.field "path" "path" .text (·.path)
    |>.field "readOnly" "read_only" (.optional .bool) (·.readOnly)
    |>.field "server" "server" .text (·.server)

def PhotonDiskSource.form : Form PhotonDiskSource := .record "PhotonPersistentDiskVolumeSource" <|
  (Fields.of PhotonDiskSource.mk)
    |>.field "fsType" "fs_type" (.optional .string) (·.fsType)
    |>.field "pdID" "pd_id" .text (·.pdID)

def PortworxSource.form : Form PortworxSource := .record "PortworxVolumeSource" <|
  (Fields.of PortworxSource.mk)
    |>.field "fsType" "fs_type" (.optional .string) (·.fsType)
    |>.field "readOnly" "read_only" (.optional .bool) (·.readOnly)
    |>.field "volumeID" "volume_id" .text (·.volumeID)

def QuobyteSource.form : Form QuobyteSource := .record "QuobyteVolumeSource" <|
  (Fields.of QuobyteSource.mk)
    |>.field "group" "group" (.optional .string) (·.group)
    |>.field "readOnly" "read_only" (.optional .bool) (·.readOnly)
    |>.field "registry" "registry" .text (·.registry)
    |>.field "tenant" "tenant" (.optional .string) (·.tenant)
    |>.field "user" "user" (.optional .string) (·.user)
    |>.field "volume" "volume" .text (·.volume)

def RadosSource.form : Form RadosSource := .record "RBDVolumeSource" <|
  (Fields.of RadosSource.mk)
    |>.field "fsType" "fs_type" (.optional .string) (·.fsType)
    |>.field "image" "image" .text (·.image)
    |>.field "keyring" "keyring" (.optional .string) (·.keyring)
    |>.field "monitors" "monitors" (.expected (.list .string) []) (·.monitors)
    |>.field "pool" "pool" (.optional .string) (·.pool)
    |>.field "readOnly" "read_only" (.optional .bool) (·.readOnly)
    |>.field "secretRef" "secret_ref" (.optional LocalReference.form) (·.secretRef)
    |>.field "user" "user" (.optional .string) (·.user)

def ScaleIoSource.form : Form ScaleIoSource := .record "ScaleIOVolumeSource" <|
  (Fields.of ScaleIoSource.mk)
    |>.field "fsType" "fs_type" (.optional .string) (·.fsType)
    |>.field "gateway" "gateway" .text (·.gateway)
    |>.field "protectionDomain" "protection_domain" (.optional .string) (·.protectionDomain)
    |>.field "readOnly" "read_only" (.optional .bool) (·.readOnly)
    |>.field "secretRef" "secret_ref" (.expected LocalReference.form {}) (·.secretRef)
    |>.field "sslEnabled" "ssl_enabled" (.optional .bool) (·.sslEnabled)
    |>.field "storageMode" "storage_mode" (.optional .string) (·.storageMode)
    |>.field "storagePool" "storage_pool" (.optional .string) (·.storagePool)
    |>.field "system" "system" .text (·.system)
    |>.field "volumeName" "volume_name" (.optional .string) (·.volumeName)

def StorageOsSource.form : Form StorageOsSource := .record "StorageOSVolumeSource" <|
  (Fields.of StorageOsSource.mk)
    |>.field "fsType" "fs_type" (.optional .string) (·.fsType)
    |>.field "readOnly" "read_only" (.optional .bool) (·.readOnly)
    |>.field "secretRef" "secret_ref" (.optional LocalReference.form) (·.secretRef)
    |>.field "volumeName" "volume_name" (.optional .string) (·.volumeName)
    |>.field "volumeNamespace" "volume_namespace" (.optional .string) (·.volumeNamespace)

def VsphereSource.form : Form VsphereSource := .record "VsphereVirtualDiskVolumeSource" <|
  (Fields.of VsphereSource.mk)
    |>.field "fsType" "fs_type" (.optional .string) (·.fsType)
    |>.field "storagePolicyID" "storage_policy_id" (.optional .string) (·.storagePolicyID)
    |>.field "storagePolicyName" "storage_policy_name" (.optional .string) (·.storagePolicyName)
    |>.field "volumePath" "volume_path" .text (·.volumePath)

end WebhookOperator
