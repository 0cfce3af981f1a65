import CronSweep.Execution
import CronSweep.Wire.Pod

namespace CronSweep.Wire

structure JobStatus where
  startTime : Option Instant
  active : Option Int32
  succeeded : Option Int32
  failed : Option Int32

structure Job where
  metadata : Metadata
  status : Option JobStatus

def jobConditionShape : Shape :=
  .object [("lastProbeTime", .time), ("lastTransitionTime", .time), ("message", .text),
    ("reason", .text), ("status", .text), ("type", .text)]

def jobStatusShape : Shape :=
  .object [("completedIndexes", .text), ("completionTime", .time),
    ("conditions", .list jobConditionShape), ("failedIndexes", .text), ("ready", .int32),
    ("terminating", .int32),
    ("uncountedTerminatedPods", .object [("failed", .list .text), ("succeeded", .list .text)])]

def podFailureRuleShape : Shape :=
  .object [("action", .text),
    ("onExitCodes",
      .object [("containerName", .text), ("operator", .text), ("values", .list .int32)]),
    ("onPodConditions", .list (.object [("status", .text), ("type", .text)]))]

def jobSpecShape : Shape :=
  .object [("activeDeadlineSeconds", .int64), ("backoffLimit", .int32),
    ("backoffLimitPerIndex", .int32), ("completionMode", .text), ("completions", .int32),
    ("manualSelector", .bool), ("maxFailedIndexes", .int32), ("parallelism", .int32),
    ("podFailurePolicy", .object [("rules", .list podFailureRuleShape)]),
    ("podReplacementPolicy", .text), ("selector", selectorShape), ("suspend", .bool),
    ("template", podTemplateShape), ("ttlSecondsAfterFinished", .int32)]

def JobStatus.ofJson? (j : Json) : Option JobStatus := do
  let ms ← j.members?
  jobStatusShape.check? j
  let startTime ← Json.latest ms "startTime" Json.time?
  let active ← Json.latest ms "active" Json.int32?
  let succeeded ← Json.latest ms "succeeded" Json.int32?
  let failed ← Json.latest ms "failed" Json.int32?
  return ⟨startTime, active, succeeded, failed⟩

def Job.ofJson? (j : Json) : Option Job := do
  let ms ← j.members?
  guard (hasHeader "batch/v1" "Job" ms)
  let metadata ← Json.latest ms "metadata" Metadata.ofJson?
  let _ ← Json.latest ms "spec" jobSpecShape.check?
  let status ← Json.latest ms "status" JobStatus.ofJson?
  return ⟨metadata.getD .blank, status⟩

/-- A counter that is missing or below zero counts nothing. -/
def counted (n : Option Int32) : UInt32 := UInt32.ofNat ((n.getD 0).toInt.toNat)

def Job.execution (job : Job) : Execution where
  namespace_ := job.metadata.namespace_.getD ""
  name := job.metadata.name.getD ""
  uid := job.metadata.uid
  owners := (job.metadata.ownerReferences.getD []).map fun o => ⟨o.kind, o.name⟩
  start := job.status.bind (·.startTime)
  active := counted (job.status.bind (·.active))
  succeeded := counted (job.status.bind (·.succeeded))
  failed := counted (job.status.bind (·.failed))

end CronSweep.Wire
