import CronSweep.Wire.Container

namespace CronSweep.Wire

def nameShape : Shape := .object [("name", .text)]

def storageFields (names : List String) : List (String × Shape) :=
  ("readOnly", .bool) :: Shape.text.each names

def guardedFields (names : List String) : List (String × Shape) :=
  ("secretRef", nameShape) :: storageFields names

def keyFileShape : Shape := .object [("key", .text), ("mode", .int32), ("path", .text)]

def podFileShape : Shape :=
  .object [("fieldRef", fieldShape), ("mode", .int32), ("path", .text),
    ("resourceFieldRef", resourceFieldShape)]

def objectNameShape : Shape := .object (Shape.text.each ["apiGroup", "kind", "name"])

def objectPathShape : Shape := .object (Shape.text.each ["apiGroup", "kind", "name", "namespace"])

def claimSpecShape : Shape :=
  .object ([("accessModes", .list .text), ("dataSource", objectNameShape),
    ("dataSourceRef", objectPathShape),
    ("resources", .object [("limits", .texts), ("requests", .texts)]),
    ("selector", selectorShape)] ++
    Shape.text.each ["storageClassName", "volumeAttributesClassName", "volumeMode", "volumeName"])

def claimTemplateShape : Shape := .object [("metadata", .metadata), ("spec", claimSpecShape)]

def trustShape : Shape :=
  .object [("labelSelector", selectorShape), ("name", .text), ("optional", .bool), ("path", .text),
    ("signerName", .text)]

def filesShape : Shape :=
  .object [("items", .list keyFileShape), ("name", .text), ("optional", .bool)]

def tokenShape : Shape :=
  .object [("audience", .text), ("expirationSeconds", .int64), ("path", .text)]

def projectionShape : Shape :=
  .object [("clusterTrustBundle", trustShape), ("configMap", filesShape),
    ("downwardAPI", .object [("items", .list podFileShape)]), ("secret", filesShape),
    ("serviceAccountToken", tokenShape)]

def clusterVolumes : List (String × Shape) :=
  [("configMap",
      .object [("defaultMode", .int32), ("items", .list keyFileShape), ("name", .text),
        ("optional", .bool)]),
    ("downwardAPI", .object [("defaultMode", .int32), ("items", .list podFileShape)]),
    ("projected", .object [("defaultMode", .int32), ("sources", .list projectionShape)]),
    ("secret",
      .object [("defaultMode", .int32), ("items", .list keyFileShape), ("optional", .bool),
        ("secretName", .text)])]

def claimedVolumes : List (String × Shape) :=
  [("csi",
      .object (("nodePublishSecretRef", nameShape) :: ("volumeAttributes", .texts) ::
        storageFields ["driver", "fsType"])),
    ("emptyDir", .object (Shape.text.each ["medium", "sizeLimit"])),
    ("ephemeral", .object [("volumeClaimTemplate", claimTemplateShape)]),
    ("gitRepo", .object (Shape.text.each ["directory", "repository", "revision"])),
    ("hostPath", .object (Shape.text.each ["path", "type"])),
    ("persistentVolumeClaim", .object (storageFields ["claimName"]))]

def diskVolumes : List (String × Shape) :=
  [("awsElasticBlockStore",
      .object (("partition", .int32) :: storageFields ["fsType", "volumeID"])),
    ("azureDisk",
      .object (storageFields ["cachingMode", "diskName", "diskURI", "fsType", "kind"])),
    ("azureFile", .object (storageFields ["secretName", "shareName"])),
    ("cinder", .object (guardedFields ["fsType", "volumeID"])),
    ("gcePersistentDisk", .object (("partition", .int32) :: storageFields ["fsType", "pdName"])),
    ("photonPersistentDisk", .object (Shape.text.each ["fsType", "pdID"])),
    ("portworxVolume", .object (storageFields ["fsType", "volumeID"])),
    ("scaleIO",
      .object (("sslEnabled", .bool) ::
        guardedFields ["fsType", "gateway", "protectionDomain", "storageMode", "storagePool",
          "system", "volumeName"])),
    ("storageos", .object (guardedFields ["fsType", "volumeName", "volumeNamespace"])),
    ("vsphereVolume",
      .object (Shape.text.each ["fsType", "storagePolicyID", "storagePolicyName", "volumePath"]))]

def networkVolumes : List (String × Shape) :=
  [("cephfs",
      .object (("monitors", .list .text) :: guardedFields ["path", "secretFile", "user"])),
    ("fc",
      .object (("lun", .int32) :: ("targetWWNs", .list .text) :: ("wwids", .list .text) ::
        storageFields ["fsType"])),
    ("flexVolume", .object (("options", .texts) :: guardedFields ["driver", "fsType"])),
    ("flocker", .object (Shape.text.each ["datasetName", "datasetUUID"])),
    ("glusterfs", .object (storageFields ["endpoints", "path"])),
    ("iscsi",
      .object (("chapAuthDiscovery", .bool) :: ("chapAuthSession", .bool) :: ("lun", .int32) ::
        ("portals", .list .text) ::
        guardedFields ["fsType", "initiatorName", "iqn", "iscsiInterface", "targetPortal"])),
    ("nfs", .object (storageFields ["path", "server"])),
    ("quobyte", .object (storageFields ["group", "registry", "tenant", "user", "volume"])),
    ("rbd",
      .object (("monitors", .list .text) ::
        guardedFields ["fsType", "image", "keyring", "pool", "user"]))]

def volumeShape : Shape :=
  .object (("name", .text) ::
    clusterVolumes ++ claimedVolumes ++ diskVolumes ++ networkVolumes)

end CronSweep.Wire
