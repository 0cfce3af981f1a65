import CronSweep.Duration.Syntax
import CronSweep.Cleaner

namespace CronSweep

inductive SpecError
  | emptyNamespace
  | emptyCronJobName
  | runIntervalTooShort
  | runIntervalUnparsable (cause : Duration.SyntaxError)
  | negativeSuccessfulRetention
  | negativeFailedRetention
  | stuckAfterTooShort
  | stuckAfterUnparsable (cause : Duration.SyntaxError)
deriving DecidableEq

def SpecError.message : SpecError → String
  | .emptyNamespace => "spec.namespace must not be empty"
  | .emptyCronJobName => "spec.cronJobName must not be empty"
  | .runIntervalTooShort => "spec.runInterval must be at least 1s"
  | .runIntervalUnparsable e => "spec.runInterval is not a valid duration: " ++ e.message
  | .negativeSuccessfulRetention => "spec.retain.successfulJobs cannot be negative"
  | .negativeFailedRetention => "spec.retain.failedJobs cannot be negative"
  | .stuckAfterTooShort => "spec.cleanupStuck.stuckAfter must be at least 1s when enabled"
  | .stuckAfterUnparsable e => "spec.cleanupStuck.stuckAfter is not a valid duration: " ++ e.message

structure Policy where
  namespace_ : String
  cronJobName : String
  retainSuccessful : Nat
  retainFailed : Nat
  /-- Absent when executions are never stuck. -/
  stuckAfter : Option Duration
  runInterval : Duration
deriving DecidableEq

namespace Policy

def shortest : Duration := .ofSeconds 1

def isBlankText (s : String) : Bool := (Text.trim s.toList).isEmpty

/-- The run interval of a spec on its own, which also decides when a spec with another fault is
looked at again. -/
def runInterval? (spec : Spec) : Except SpecError Duration :=
  match Duration.parse spec.runInterval with
  | .ok d => if shortest ≤ d then .ok d else .error .runIntervalTooShort
  | .error e =>
      if e.fault = .negative then .error .runIntervalTooShort else .error (.runIntervalUnparsable e)

def stuckAfter? (spec : Spec) : Except SpecError (Option Duration) :=
  if !spec.cleanupStuck.enabled then .ok none
  else match Duration.parse spec.cleanupStuck.stuckAfter with
    | .ok d => if shortest ≤ d then .ok (some d) else .error .stuckAfterTooShort
    | .error e =>
        if e.fault = .negative ∨ e.fault = .empty then .error .stuckAfterTooShort
        else .error (.stuckAfterUnparsable e)

def retained? (count : Int32) (error : SpecError) : Except SpecError Nat :=
  if count < 0 then .error error else .ok count.toInt.toNat

def ofSpec? (spec : Spec) : Except SpecError Policy :=
  if isBlankText spec.namespace_ then .error .emptyNamespace
  else if isBlankText spec.cronJobName then .error .emptyCronJobName
  else do
    let runInterval ← runInterval? spec
    let retainSuccessful ← retained? spec.retain.successfulJobs .negativeSuccessfulRetention
    let retainFailed ← retained? spec.retain.failedJobs .negativeFailedRetention
    let stuckAfter ← stuckAfter? spec
    return ⟨spec.namespace_, spec.cronJobName, retainSuccessful, retainFailed, stuckAfter,
      runInterval⟩

end Policy

end CronSweep
