import CronSweep.Wire.Volume

namespace CronSweep.Wire

def nodeTermShape : Shape :=
  .object [("matchExpressions", .list requirementShape), ("matchFields", .list requirementShape)]

def nodeAffinityShape : Shape :=
  .object [
    ("preferredDuringSchedulingIgnoredDuringExecution",
      .list (.object [("preference", nodeTermShape), ("weight", .int32)])),
    ("requiredDuringSchedulingIgnoredDuringExecution",
      .object [("nodeSelectorTerms", .list nodeTermShape)])]

def podTermShape : Shape :=
  .object [("labelSelector", selectorShape), ("matchLabelKeys", .list .text),
    ("mismatchLabelKeys", .list .text), ("namespaceSelector", selectorShape),
    ("namespaces", .list .text), ("topologyKey", .text)]

def podAffinityShape : Shape :=
  .object [
    ("preferredDuringSchedulingIgnoredDuringExecution",
      .list (.object [("podAffinityTerm", podTermShape), ("weight", .int32)])),
    ("requiredDuringSchedulingIgnoredDuringExecution", .list podTermShape)]

def affinityShape : Shape :=
  .object [("nodeAffinity", nodeAffinityShape), ("podAffinity", podAffinityShape),
    ("podAntiAffinity", podAffinityShape)]

def tolerationShape : Shape :=
  .object (("tolerationSeconds", .int64) :: Shape.text.each ["effect", "key", "operator", "value"])

def spreadShape : Shape :=
  .object ([("labelSelector", selectorShape), ("matchLabelKeys", .list .text),
    ("maxSkew", .int32), ("minDomains", .int32)] ++
    Shape.text.each ["nodeAffinityPolicy", "nodeTaintsPolicy", "topologyKey", "whenUnsatisfiable"])

def podRightsShape : Shape :=
  .object ([("fsGroup", .int64), ("fsGroupChangePolicy", .text),
    ("supplementalGroups", .list .int64), ("sysctls", .list headerShape)] ++ rightsFields)

def nameServiceShape : Shape :=
  .object [("nameservers", .list .text), ("options", .list headerShape),
    ("searches", .list .text)]

def resourceClaimShape : Shape :=
  .object [("name", .text),
    ("source", .object (Shape.text.each ["resourceClaimName", "resourceClaimTemplateName"]))]

def podParts : List (String × Shape) :=
  [("affinity", affinityShape), ("containers", .list containerShape),
    ("dnsConfig", nameServiceShape), ("ephemeralContainers", .list guestShape),
    ("hostAliases", .list (.object [("hostnames", .list .text), ("ip", .text)])),
    ("imagePullSecrets", .list nameShape), ("initContainers", .list containerShape),
    ("nodeSelector", .texts), ("os", nameShape), ("overhead", .texts),
    ("readinessGates", .list (.object [("conditionType", .text)])),
    ("resourceClaims", .list resourceClaimShape), ("schedulingGates", .list nameShape),
    ("securityContext", podRightsShape), ("tolerations", .list tolerationShape),
    ("topologySpreadConstraints", .list spreadShape), ("volumes", .list volumeShape)]

def podSpecShape : Shape :=
  .object (podParts ++
    [("activeDeadlineSeconds", .int64), ("priority", .int32),
      ("terminationGracePeriodSeconds", .int64)] ++
    Shape.bool.each ["automountServiceAccountToken", "enableServiceLinks", "hostIPC",
      "hostNetwork", "hostPID", "hostUsers", "setHostnameAsFQDN", "shareProcessNamespace"] ++
    Shape.text.each ["dnsPolicy", "hostname", "nodeName", "preemptionPolicy", "priorityClassName",
      "restartPolicy", "runtimeClassName", "schedulerName", "serviceAccount", "serviceAccountName",
      "subdomain"])

def podTemplateShape : Shape := .object [("metadata", .metadata), ("spec", podSpecShape)]

end CronSweep.Wire
