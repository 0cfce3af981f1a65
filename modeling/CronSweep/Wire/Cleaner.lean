import CronSweep.Cleaner
import CronSweep.Wire.Metadata

namespace CronSweep

namespace Retention

def ofJson? (j : Json) : Option Retention := do
  guard (j.isRecord 2)
  let successfulJobs ← (j.slot 0 ["successfulJobs", "successful"]).required Json.int32?
  let failedJobs ← (j.slot 1 ["failedJobs", "failed"]).required Json.int32?
  return ⟨successfulJobs, failedJobs⟩

def toJson (r : Retention) : Json :=
  .obj [("successfulJobs", .int r.successfulJobs.toInt), ("failedJobs", .int r.failedJobs.toInt)]

end Retention

namespace StuckCleanup

def off : StuckCleanup := ⟨false, ""⟩

def ofJson? (j : Json) : Option StuckCleanup := do
  guard (j.isRecord 2)
  let enabled ← (j.slot 0 ["enabled"]).withDefault false Json.bool?
  let stuckAfter ← (j.slot 1 ["stuckAfter"]).withDefault "" Json.text?
  return ⟨enabled, stuckAfter⟩

def toJson (s : StuckCleanup) : Json :=
  .obj [("enabled", .bool s.enabled), ("stuckAfter", .str s.stuckAfter)]

end StuckCleanup

namespace Spec

def ofJson? (j : Json) : Option Spec := do
  guard (j.isRecord 5)
  let namespace_ ← (j.slot 0 ["namespace"]).required Json.text?
  let cronJobName ← (j.slot 1 ["cronJobName", "targetWorkloadName"]).required Json.text?
  let retain ← (j.slot 2 ["retain"]).required Retention.ofJson?
  let cleanupStuck ← (j.slot 3 ["cleanupStuck"]).withDefault .off StuckCleanup.ofJson?
  let runInterval ← (j.slot 4 ["runInterval"]).required Json.text?
  return ⟨namespace_, cronJobName, retain, cleanupStuck, runInterval⟩

def toJson (s : Spec) : Json :=
  .obj [
    ("namespace", .str s.namespace_),
    ("cronJobName", .str s.cronJobName),
    ("retain", s.retain.toJson),
    ("cleanupStuck", s.cleanupStuck.toJson),
    ("runInterval", .str s.runInterval)]

end Spec

def Instant.toJson (t : Instant) : Json := .str (t.text .exactly)

namespace ConditionStatus

def symbol : ConditionStatus → String
  | .holds => "True"
  | .fails => "False"
  | .unknown => "Unknown"

def ofSymbol? (s : String) : Option ConditionStatus :=
  if s = "True" then some .holds
  else if s = "False" then some .fails
  else if s = "Unknown" then some .unknown
  else none

end ConditionStatus

namespace Condition

def ofJson? (j : Json) : Option Condition := do
  guard (j.isRecord 6)
  let type ← (j.slot 0 ["type"]).required Json.text?
  let status ← (j.slot 1 ["status"]).required fun s => s.symbol?.bind ConditionStatus.ofSymbol?
  let reason ← (j.slot 2 ["reason"]).required Json.text?
  let message ← (j.slot 3 ["message"]).required Json.text?
  let lastTransitionTime ← (j.slot 4 ["lastTransitionTime"]).required Json.time?
  let observedGeneration ←
    (j.slot 5 ["observedGeneration"]).withDefault none (Json.nullable Json.int64?)
  return ⟨type, status, reason, message, lastTransitionTime, observedGeneration⟩

def toJson (c : Condition) : Json :=
  .obj ([
    ("type", .str c.type),
    ("status", .str c.status.symbol),
    ("reason", .str c.reason),
    ("message", .str c.message),
    ("lastTransitionTime", c.lastTransitionTime.toJson)] ++
    Json.optional "observedGeneration" (fun n => .int n.toInt) c.observedGeneration)

end Condition

namespace Status

def ofJson? (j : Json) : Option Status := do
  guard (j.isRecord 4)
  let lastRunTime ← (j.slot 0 ["lastRunTime"]).withDefault none (Json.nullable Json.time?)
  let jobsDeleted ← (j.slot 1 ["jobsDeleted"]).withDefault 0 Json.uint64?
  let podsDeleted ← (j.slot 2 ["podsDeleted"]).withDefault 0 Json.uint64?
  let conditions ← (j.slot 3 ["conditions"]).withDefault [] (Json.list? Condition.ofJson?)
  return ⟨lastRunTime, jobsDeleted, podsDeleted, conditions⟩

/-- The counters are always written, the other fields only when there is something in them. -/
def toJson (s : Status) : Json :=
  .obj (Json.optional "lastRunTime" Instant.toJson s.lastRunTime ++
    [("jobsDeleted", .int s.jobsDeleted.toNat), ("podsDeleted", .int s.podsDeleted.toNat)] ++
    if s.conditions.isEmpty then []
    else [("conditions", .arr (s.conditions.map Condition.toJson))])

end Status

namespace Cleaner

/-- A cleaner is taken as an object only, though its spec and its status may be arrays. What the
object says of its own version and kind is not looked at. -/
def ofJson? (j : Json) : Option Cleaner := do
  let ms ← j.members?
  let metadata ← (Json.Slot.ofMembers ["metadata"] ms).required Metadata.ofJson?
  let spec ← (Json.Slot.ofMembers ["spec"] ms).required Spec.ofJson?
  let status ← (Json.Slot.ofMembers ["status"] ms).withDefault none (Json.nullable Status.ofJson?)
  return ⟨metadata, spec, status⟩

def toJson (c : Cleaner) : Json :=
  .obj ([
    ("apiVersion", .str apiVersion),
    ("kind", .str kind),
    ("metadata", c.metadata.toJson),
    ("spec", c.spec.toJson)] ++
    Json.optional "status" Status.toJson c.status)

end Cleaner

end CronSweep
