import CronSweep.Wire.Shape

namespace CronSweep.Wire

def sourceShape : Shape := .object [("name", .text), ("optional", .bool)]

def keyShape : Shape := .object [("key", .text), ("name", .text), ("optional", .bool)]

def fieldShape : Shape := .object (Shape.text.each ["apiVersion", "fieldPath"])

def resourceFieldShape : Shape := .object (Shape.text.each ["containerName", "divisor", "resource"])

def variableShape : Shape :=
  .object [("name", .text), ("value", .text),
    ("valueFrom",
      .object [("configMapKeyRef", keyShape), ("fieldRef", fieldShape),
        ("resourceFieldRef", resourceFieldShape), ("secretKeyRef", keyShape)])]

def variablesShape : Shape :=
  .object [("configMapRef", sourceShape), ("prefix", .text), ("secretRef", sourceShape)]

def commandShape : Shape := .object [("command", .list .text)]

def headerShape : Shape := .object (Shape.text.each ["name", "value"])

def httpGetShape : Shape :=
  .object [("host", .text), ("httpHeaders", .list headerShape), ("path", .text),
    ("port", .intOrText), ("scheme", .text)]

def socketShape : Shape := .object [("host", .text), ("port", .intOrText)]

def hookShape : Shape :=
  .object [("exec", commandShape), ("httpGet", httpGetShape),
    ("sleep", .object [("seconds", .int64)]), ("tcpSocket", socketShape)]

def probeShape : Shape :=
  .object ([("exec", commandShape), ("grpc", .object [("port", .int32), ("service", .text)]),
    ("httpGet", httpGetShape), ("tcpSocket", socketShape),
    ("terminationGracePeriodSeconds", .int64)] ++
    Shape.int32.each ["failureThreshold", "initialDelaySeconds", "periodSeconds",
      "successThreshold", "timeoutSeconds"])

def portShape : Shape :=
  .object [("containerPort", .int32), ("hostIP", .text), ("hostPort", .int32), ("name", .text),
    ("protocol", .text)]

def resourcesShape : Shape :=
  .object [("claims", .list (.object [("name", .text)])), ("limits", .texts), ("requests", .texts)]

def labelsShape : Shape := .object (Shape.text.each ["level", "role", "type", "user"])

def filterShape : Shape := .object (Shape.text.each ["localhostProfile", "type"])

def windowsShape : Shape :=
  .object (("hostProcess", .bool) ::
    Shape.text.each ["gmsaCredentialSpec", "gmsaCredentialSpecName", "runAsUserName"])

def rightsFields : List (String × Shape) :=
  [("runAsGroup", .int64), ("runAsNonRoot", .bool), ("runAsUser", .int64),
    ("seLinuxOptions", labelsShape), ("seccompProfile", filterShape),
    ("windowsOptions", windowsShape)]

def containerRightsShape : Shape :=
  .object ([("capabilities", .object [("add", .list .text), ("drop", .list .text)]),
    ("procMount", .text)] ++
    Shape.bool.each ["allowPrivilegeEscalation", "privileged", "readOnlyRootFilesystem"] ++
    rightsFields)

def mountShape : Shape :=
  .object (("readOnly", .bool) ::
    Shape.text.each ["mountPath", "mountPropagation", "name", "subPath", "subPathExpr"])

def containerFields : List (String × Shape) :=
  [("args", .list .text), ("command", .list .text), ("env", .list variableShape),
    ("envFrom", .list variablesShape),
    ("lifecycle", .object [("postStart", hookShape), ("preStop", hookShape)]),
    ("ports", .list portShape),
    ("resizePolicy", .list (.object (Shape.text.each ["resourceName", "restartPolicy"]))),
    ("resources", resourcesShape), ("securityContext", containerRightsShape),
    ("volumeDevices", .list (.object (Shape.text.each ["devicePath", "name"]))),
    ("volumeMounts", .list mountShape)] ++
    probeShape.each ["livenessProbe", "readinessProbe", "startupProbe"] ++
    Shape.bool.each ["stdin", "stdinOnce", "tty"] ++
    Shape.text.each ["image", "imagePullPolicy", "name", "restartPolicy", "terminationMessagePath",
      "terminationMessagePolicy", "workingDir"]

def containerShape : Shape := .object containerFields

def guestShape : Shape := .object (("targetContainerName", .text) :: containerFields)

end CronSweep.Wire
