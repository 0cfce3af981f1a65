import CronSweep.Metadata

namespace CronSweep

structure Retention where
  successfulJobs : Int32
  failedJobs : Int32
deriving DecidableEq

structure StuckCleanup where
  enabled : Bool
  stuckAfter : String
deriving DecidableEq

structure Spec where
  /-- The namespace of the cron job. -/
  namespace_ : String
  cronJobName : String
  retain : Retention
  cleanupStuck : StuckCleanup
  /-- The time between two cycles, as a duration text. -/
  runInterval : String
deriving DecidableEq

inductive ConditionStatus
  | holds
  | fails
  | unknown
deriving DecidableEq

structure Condition where
  type : String
  status : ConditionStatus
  reason : String
  message : String
  /-- When the status last changed its value. -/
  lastTransitionTime : Instant
  /-- The generation of the spec that the condition speaks about. -/
  observedGeneration : Option Int64
deriving DecidableEq

structure Status where
  /-- The last cycle that deleted something. -/
  lastRunTime : Option Instant
  jobsDeleted : UInt64
  /-- Counts like `jobsDeleted`, as each job is taken to have one pod. -/
  podsDeleted : UInt64
  conditions : List Condition
deriving DecidableEq

/-- Add to a counter, which stays at its greatest value once it is there. -/
def saturatingAdd (counter : UInt64) (n : Nat) : UInt64 :=
  UInt64.ofNat (min (counter.toNat + n) 18_446_744_073_709_551_615)

theorem toNat_saturatingAdd (counter : UInt64) (n : Nat) :
    (saturatingAdd counter n).toNat = min (counter.toNat + n) 18_446_744_073_709_551_615 := by
  simp only [saturatingAdd, UInt64.toNat_ofNat']
  omega

namespace Condition

/-- The old condition brought up to date: the transition time moves only with the status. -/
def update (old new : Condition) : Condition :=
  { new with
    lastTransitionTime :=
      if old.status = new.status then old.lastTransitionTime else new.lastTransitionTime }

/-- Update the first condition of the same type, or add one at the end. -/
def set (new : Condition) : List Condition → List Condition
  | [] => [new]
  | c :: cs => if c.type = new.type then c.update new :: cs else c :: set new cs

end Condition

namespace Status

def initial : Status := ⟨none, 0, 0, []⟩

def condition? (s : Status) (type : String) : Option Condition :=
  s.conditions.find? (·.type = type)

def setCondition (s : Status) (new : Condition) : Status :=
  { s with conditions := new.set s.conditions }

end Status

structure Cleaner where
  metadata : Metadata
  spec : Spec
  status : Option Status

namespace Cleaner

def apiGroup : String := "lifecycle.github.io"
def version : String := "v1alpha1"
def apiVersion : String := apiGroup ++ "/" ++ version
def kind : String := "CronExecutionCleaner"
def plural : String := "cronexecutioncleaners"

end Cleaner

end CronSweep
