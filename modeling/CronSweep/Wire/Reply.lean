import CronSweep.Wire.Job

namespace CronSweep.Wire

structure Refusal where
  code : UInt16
  reason : String
  message : String
deriving DecidableEq

def Refusal.ofJson? (j : Json) : Option Refusal := do
  guard (j.isRecord 4)
  let _ ← (j.slot 0 ["status"]).required Json.text?
  let message ← (j.slot 1 ["message"]).withDefault "" Json.text?
  let reason ← (j.slot 2 ["reason"]).withDefault "" Json.text?
  let code ← (j.slot 3 ["code"]).required Json.uint16?
  return ⟨code, reason, message⟩

def listMetadataShape : Shape :=
  .object [("continue", .text), ("remainingItemCount", .int64), ("resourceVersion", .text),
    ("selfLink", .text)]

/-- The jobs of a listing. Its own version and kind are not looked at, but like all else that it
holds beside the jobs they must be usable. -/
def jobs? (j : Json) : Option (List Job) := do
  let ms ← j.members?
  (Json.Slot.ofMembers ["metadata"] ms).required listMetadataShape.check?
  guard (ms.all fun m => m.1 == "metadata" || m.1 == "items" || m.2.isUsable)
  let jobs ← (Json.Slot.ofMembers ["items"] ms).required (Json.nullable (Json.list? Job.ofJson?))
  return jobs.getD []

def cause? (j : Json) : Option Unit := do
  guard (j.isRecord 3)
  let _ ← (j.slot 0 ["reason"]).withDefault "" Json.text?
  let _ ← (j.slot 1 ["message"]).withDefault "" Json.text?
  let _ ← (j.slot 2 ["field"]).withDefault "" Json.text?

def details? (j : Json) : Option Unit := do
  guard (j.isRecord 6)
  let _ ← (j.slot 0 ["name"]).withDefault "" Json.text?
  let _ ← (j.slot 1 ["group"]).withDefault "" Json.text?
  let _ ← (j.slot 2 ["kind"]).withDefault "" Json.text?
  let _ ← (j.slot 3 ["uid"]).withDefault "" Json.text?
  let _ ← (j.slot 4 ["causes"]).withDefault [] (Json.list? cause?)
  let _ ← (j.slot 5 ["retryAfterSeconds"]).withDefault 0 Json.uint32?

def verdict? (j : Json) : Option Unit := do
  let s ← j.symbol?
  guard (s = "Success" ∨ s = "Failure")

def result? (j : Json) : Option Unit := do
  let _ ← (j.slot 0 ["status"]).withDefault none (Json.nullable verdict?)
  let _ ← (j.slot 1 ["code"]).withDefault 0 Json.uint16?
  let _ ← (j.slot 2 ["message"]).withDefault "" Json.text?
  let _ ← (j.slot 3 ["reason"]).withDefault "" Json.text?
  let _ ← (j.slot 4 ["details"]).withDefault none (Json.nullable details?)

/-- A deletion answers with its result, or with the job that is going to be deleted. -/
def deletion? (j : Json) : Option Unit := do
  let j ← j.any?
  if (j.get? "kind").bind Json.text? = some "Status" then result? j
  else (Job.ofJson? j).map fun _ => ()

def objectReferenceShape : Shape :=
  .object [("apiVersion", .text), ("fieldPath", .text), ("kind", .text), ("name", .text),
    ("namespace", .text), ("resourceVersion", .text), ("uid", .text)]

def eventShape : Shape :=
  .object [("action", .text), ("deprecatedCount", .int32), ("deprecatedFirstTimestamp", .time),
    ("deprecatedLastTimestamp", .time),
    ("deprecatedSource", .object [("component", .text), ("host", .text)]), ("eventTime", .time),
    ("note", .text), ("reason", .text), ("regarding", objectReferenceShape),
    ("related", objectReferenceShape), ("reportingController", .text),
    ("reportingInstance", .text),
    ("series", .object [("count", .int32), ("lastObservedTime", .time)]), ("type", .text)]

def eventApiVersion : String := "events.k8s.io/v1"
def eventKind : String := "Event"

def event? (j : Json) : Option Unit := do
  let ms ← j.members?
  guard (hasHeader eventApiVersion eventKind ms)
  eventShape.check? j
  let _ ← Json.latest ms "metadata" Metadata.ofJson?

end CronSweep.Wire
