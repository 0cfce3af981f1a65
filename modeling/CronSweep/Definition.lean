import CronSweep.Json.Printer
import CronSweep.Schema
import CronSweep.Wire.Cleaner

namespace CronSweep.Definition

def retentionSchema : Schema :=
  .object [
    ("successfulJobs", .described "Number of succeeded Jobs to keep." (.integer .int32)),
    ("failedJobs", .described "Number of failed Jobs to keep." (.integer .int32))]
    ["failedJobs", "successfulJobs"]

def stuckCleanupSchema : Schema :=
  .object [
    ("enabled", .withDefault (.bool false) .boolean),
    ("stuckAfter", .described "How long a Job may stay active before it counts as stuck."
      (.withDefault (.str "") .string))]
    []

def specSchema : Schema :=
  .described "Desired state of a `CronExecutionCleaner`." <|
    .object [
      ("namespace", .described "Namespace in which the target CronJob exists." .string),
      ("cronJobName",
        .described "Name of the CronJob whose executions should be cleaned." .string),
      ("retain", retentionSchema),
      ("cleanupStuck", .withDefault StuckCleanup.off.toJson stuckCleanupSchema),
      ("runInterval",
        .described "Interval at which cleanup runs, as a Go duration string." .string)]
      ["cronJobName", "namespace", "retain", "runInterval"]

def conditionSchema : Schema :=
  .described "A `metav1.Condition` shaped status entry." <|
    .object [
      ("type", .string),
      ("status", .choice ([.holds, .fails, .unknown].map ConditionStatus.symbol)),
      ("reason", .string),
      ("message", .string),
      ("lastTransitionTime", .dateTime),
      ("observedGeneration", .nullable (.integer .int64))]
      ["lastTransitionTime", "message", "reason", "status", "type"]

def statusSchema : Schema :=
  .nullable <|
    .described
      "Observed state of a `CronExecutionCleaner`, written only by the controller." <|
      .object [
        ("lastRunTime",
          .described "Last time a cycle deleted at least one Job." (.nullable .dateTime)),
        ("jobsDeleted", .withDefault (.int 0) (.integer .uint64)),
        ("podsDeleted",
          .described "Mirrors `jobs_deleted`: each Job is assumed to own exactly one Pod."
            (.withDefault (.int 0) (.integer .uint64))),
        ("conditions", .list conditionSchema)]
        []

def schema : Schema :=
  .titled Cleaner.kind <|
    .described "Auto-generated derived type for CronExecutionCleanerSpec via `CustomResource`" <|
      .object [("spec", specSchema), ("status", statusSchema)] ["spec"]

def singular : String := "cronexecutioncleaner"
def shortName : String := "cec"

def column (name type jsonPath : String) : Json :=
  .obj [("jsonPath", .str jsonPath), ("name", .str name), ("type", .str type)]

def columns : List Json :=
  [column "CronJob" "string" ".spec.cronJobName",
    column "Deleted" "integer" ".status.jobsDeleted",
    column "Ready" "string" ".status.conditions[?(@.type==\"Ready\")].status"]

def names : Json :=
  .obj [
    ("categories", .arr []),
    ("kind", .str Cleaner.kind),
    ("plural", .str Cleaner.plural),
    ("shortNames", .arr [.str shortName]),
    ("singular", .str singular)]

def version : Json :=
  .obj [
    ("additionalPrinterColumns", .arr columns),
    ("name", .str Cleaner.version),
    ("schema", .obj [("openAPIV3Schema", schema.toJson)]),
    ("served", .bool true),
    ("storage", .bool true),
    ("subresources", .obj [("status", .obj [])])]

def json : Json :=
  .obj [
    ("apiVersion", .str "apiextensions.k8s.io/v1"),
    ("kind", .str "CustomResourceDefinition"),
    ("metadata", .obj [("name", .str (Cleaner.plural ++ "." ++ Cleaner.apiGroup))]),
    ("spec", .obj [
      ("group", .str Cleaner.apiGroup),
      ("names", names),
      ("scope", .str "Namespaced"),
      ("versions", .arr [version])])]

def text : String := json.pretty 0 ++ "\n"

end CronSweep.Definition
