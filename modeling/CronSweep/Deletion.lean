import CronSweep.Plan

namespace CronSweep

structure DeleteFailure where
  execution : String
  error : ClientError
deriving DecidableEq

structure Outcome where
  category : Category
  deleted : Nat
  failures : List DeleteFailure
deriving DecidableEq

namespace Outcome

def empty (category : Category) : Outcome := ⟨category, 0, []⟩

def addDeleted (o : Outcome) : Outcome := { o with deleted := o.deleted + 1 }

def addFailure (o : Outcome) (f : DeleteFailure) : Outcome := { o with failures := f :: o.failures }

end Outcome

/-- The namespaces and names that a cycle has already asked to delete. -/
abbrev Seen := List (String × String)

/-- Delete executions in turn, each namespace and name at most once, going on after failures. An
execution that is already gone counts neither as deleted nor as a failure. -/
def deleteAll (category : Category) : List Execution → Seen → Plan (Outcome × Seen)
  | [], seen => .done (.empty category, seen)
  | e :: es, seen =>
      if e.key ∈ seen then deleteAll category es seen
      else
        .ask (.delete e) fun
          | .ok () => .count (.deleted category) <|
              (deleteAll category es (e.key :: seen)).bind fun r => .done (r.1.addDeleted, r.2)
          | .error .notFound => deleteAll category es (e.key :: seen)
          | .error error => .count (.deleteFailed category) <|
              (deleteAll category es (e.key :: seen)).bind fun r =>
                .done (r.1.addFailure ⟨e.name, error⟩, r.2)

structure Deletions where
  stuck : Outcome
  excessSucceeded : Outcome
  excessFailed : Outcome
deriving DecidableEq

namespace Deletions

def total (d : Deletions) : Nat :=
  d.stuck.deleted + d.excessSucceeded.deleted + d.excessFailed.deleted

def failures (d : Deletions) : List DeleteFailure :=
  d.stuck.failures ++ d.excessSucceeded.failures ++ d.excessFailed.failures

/-- Add the deletions to the counters of a status. Without any the status stays as it is. -/
def applyTo (d : Deletions) (s : Status) (now : Instant) : Status :=
  if d.total = 0 then s
  else
    { s with
      lastRunTime := some now
      jobsDeleted := saturatingAdd s.jobsDeleted d.total
      podsDeleted := saturatingAdd s.podsDeleted d.total }

end Deletions

end CronSweep
