import CronSweep.Deletion
import CronSweep.Policy
import CronSweep.Selection

namespace CronSweep

inductive CycleError
  | fetch (source : ClientError)
  | list (namespace_ : String) (source : ClientError)
  | statusWrite (source : ClientError)
deriving DecidableEq

namespace CycleError

def source : CycleError → ClientError
  | .fetch e | .list _ e | .statusWrite e => e

def message : CycleError → String
  | .fetch e => "failed to fetch cleaner: " ++ e.message
  | .list ns e => "failed to list jobs in namespace " ++ ns ++ ": " ++ e.message
  | .statusWrite e => "failed to update cleaner status: " ++ e.message

end CycleError

inductive CycleOutcome
  /-- The cleaner no longer exists. -/
  | missing
  | invalidSpec (error : SpecError)
  | completed (deletions : Deletions)
deriving DecidableEq

structure Report where
  /-- The wait until the next cycle; absent when only a change calls for one. -/
  requeueAfter : Option Duration
  outcome : CycleOutcome
deriving DecidableEq

namespace Cycle

def readyType : String := "Ready"

/-- The condition that a valid spec leaves behind, whether or not all deletions succeeded. -/
def completedCondition (c : Cleaner) (now : Instant) : Condition where
  type := readyType
  status := .holds
  reason := "CycleCompleted"
  message := "cleanup cycle completed"
  lastTransitionTime := now
  observedGeneration := c.metadata.generation

def invalidCondition (c : Cleaner) (error : SpecError) (now : Instant) : Condition where
  type := readyType
  status := .fails
  reason := "InvalidSpec"
  message := error.message
  lastTransitionTime := now
  observedGeneration := c.metadata.generation

def invalidEvent (error : SpecError) : Event := ⟨.warning, "InvalidSpec", "Validate", error.message⟩

def deletedEvent (d : Deletions) : Event where
  kind := .normal
  reason := "JobsDeleted"
  action := "Cleanup"
  note := "deleted " ++ toString d.total ++ " jobs (stuck=" ++ toString d.stuck.deleted ++
    ", succeeded=" ++ toString d.excessSucceeded.deleted ++
    ", failed=" ++ toString d.excessFailed.deleted ++ ")"

def failedEvent (d : Deletions) (first : DeleteFailure) : Event where
  kind := .warning
  reason := "DeleteFailed"
  action := "Cleanup"
  note := "failed to delete " ++ String.intercalate ", " (d.failures.map (·.execution)) ++ ": " ++
    first.error.message

def events (d : Deletions) : List Event :=
  (if 0 < d.total then [deletedEvent d] else []) ++
    d.failures.head?.elim [] fun first => [failedEvent d first]

/-- Publish events in turn. A note that is not taken is let go. -/
def publishAll (c : Cleaner) : List Event → Plan Unit
  | [] => .done ()
  | e :: es => .ask (.publish c e) fun _ => publishAll c es

/-- Write the status unless it is what was read. The result says whether it was written. -/
def writeStatus (c : Cleaner) (s : Status) : Plan (Except CycleError Bool) :=
  if c.status = some s then .done (.ok false)
  else
    .ask (.updateStatus c s) fun
      | .ok () => .done (.ok true)
      | .error e => .done (.error (.statusWrite e))

structure Selected where
  stuck : List Execution
  excessSucceeded : List Execution
  excessFailed : List Execution

def select (p : Policy) (now : Instant) (listing : List Execution) : Selected :=
  let owned := Selection.ownedBy p.cronJobName listing
  { stuck := p.stuckAfter.elim [] fun threshold =>
      Selection.stuck threshold now (Selection.inPhase .active owned)
    excessSucceeded := Selection.excess p.retainSuccessful (Selection.inPhase .succeeded owned)
    excessFailed := Selection.excess p.retainFailed (Selection.inPhase .failed owned) }

/-- Delete the stuck executions first, then the ended ones in excess. -/
def deleteSelected (s : Selected) : Plan Deletions :=
  (deleteAll .stuck s.stuck []).bind fun (stuck, seen) =>
    (deleteAll .excessSucceeded s.excessSucceeded seen).bind fun (excessSucceeded, seen) =>
      (deleteAll .excessFailed s.excessFailed seen).bind fun (excessFailed, _) =>
        .done ⟨stuck, excessSucceeded, excessFailed⟩

def clean (p : Policy) (now : Instant) : Plan (Except CycleError Deletions) :=
  .ask (.list p.namespace_) fun
    | .error e => .done (.error (.list p.namespace_ e))
    | .ok listing => (deleteSelected (select p now listing)).bind fun d => .done (.ok d)

def completedStatus (c : Cleaner) (d : Deletions) (now : Instant) : Status :=
  (d.applyTo (c.status.getD .initial) now).setCondition (completedCondition c now)

def invalidStatus (c : Cleaner) (error : SpecError) (now : Instant) : Status :=
  (c.status.getD .initial).setCondition (invalidCondition c error now)

def complete (c : Cleaner) (p : Policy) (now : Instant) : Plan (Except CycleError Report) :=
  (clean p now).andThen fun d =>
    (writeStatus c (completedStatus c d now)).andThen fun _ =>
      (publishAll c (events d)).bind fun _ =>
        .done (.ok ⟨some p.runInterval, .completed d⟩)

/-- An invalid spec: say so in the status, and in an event if that changed the status. The run
interval still says when to look again, if it is of use by itself. -/
def reportInvalid (backoff : Duration) (c : Cleaner) (error : SpecError) (now : Instant) :
    Plan (Except CycleError Report) :=
  (writeStatus c (invalidStatus c error now)).andThen fun written =>
    (publishAll c (if written then [invalidEvent error] else [])).bind fun _ =>
      let wait := match Policy.runInterval? c.spec with
        | .ok d => d
        | .error _ => backoff
      .done (.ok ⟨some wait, .invalidSpec error⟩)

def course (backoff : Duration) (namespace_ name : String) (now : Instant) :
    Plan (Except CycleError Report) :=
  .ask (.fetch namespace_ name) fun
    | .error e => .done (.error (.fetch e))
    | .ok none => .done (.ok ⟨none, .missing⟩)
    | .ok (some c) =>
        match Policy.ofSpec? c.spec with
        | .ok p => complete c p now
        | .error e => reportInvalid backoff c e now

def ending : Except CycleError Report → Ending
  | .error _ => .error
  | .ok ⟨_, .missing⟩ => .missing
  | .ok ⟨_, .invalidSpec _⟩ => .invalidSpec
  | .ok ⟨_, .completed _⟩ => .completed

def clampBackoff (backoff : Duration) : Duration := max backoff Policy.shortest

def reconcile (backoff : Duration) (namespace_ name : String) (now : Instant) :
    Plan (Except CycleError Report) :=
  (course (clampBackoff backoff) namespace_ name now).bind fun result =>
    .count (.cycle (ending result)) (.done result)

end Cycle

end CronSweep
