import CronSweep.Proofs.Cluster.Cycle
import CronSweep.Proofs.Cycle.Decision

namespace CronSweep

/-- What happens to a cluster from one moment to the next. The status of a cleaner is nobody's to
edit. -/
inductive Step
  | cycle (faults : Faults) (backoff : Duration) (namespace_ name : String) (now : Instant)
  | add (es : List Execution)
  | remove (gone : Execution → Bool)
  | edit (spec : Spec) (metadata : Metadata) (version : Nat)

namespace Step

def added : Step → List Execution
  | .add es => es
  | .cycle _ _ _ _ _ | .remove _ | .edit _ _ _ => []

def instant? : Step → Option Instant
  | .cycle _ _ _ _ now => some now
  | .add _ | .remove _ | .edit _ _ _ => none

def Keeps (spec? : Option Spec) : Step → Prop
  | .cycle _ _ _ _ _ | .add _ => True
  | .remove _ => False
  | .edit spec _ _ => spec? = some spec

/-- A cycle at this instant whose calls to fetch, list and delete are not refused. -/
def CleansAt (now : Instant) : Step → Prop
  | .cycle faults _ _ _ t =>
      t = now ∧ faults.fetch = none ∧ faults.list = none ∧ ∀ name, faults.delete name = none
  | .add _ | .remove _ | .edit _ _ _ => False

end Step

def added (steps : List Step) : List Execution := steps.flatMap Step.added

def instants (steps : List Step) : List Instant := steps.filterMap Step.instant?

def nightlySteps : List Step :=
  [.cycle { Faults.none with updateStatus := some .notFound } .zero "ops" "sweep" Cycle.pastOne,
    .add [Cycle.nightlyRun "b" 15 1 0 0], .cycle Faults.none .zero "ops" "sweep" Cycle.pastOne]

structure Completion where
  now : Instant
  deletions : Deletions
  asked : List Execution

def Run.completion? {σ : Type} (now : Instant) (r : Run σ (Except CycleError Report)) :
    Option Completion :=
  match r.value with
  | .ok ⟨_, .completed d⟩ => some ⟨now, d, r.deletions⟩
  | _ => none

namespace Cluster

def cycle (k : Cluster) (faults : Faults) (backoff : Duration) (namespace_ name : String)
    (now : Instant) : Run Cluster (Except CycleError Report) :=
  (Cycle.reconcile backoff namespace_ name now).run client { k with faults }

def step (k : Cluster) : Step → Cluster
  | .cycle faults backoff namespace_ name now => (k.cycle faults backoff namespace_ name now).state
  | .add es => { k with executions := k.executions ++ es }
  | .remove gone => { k with executions := k.executions.filter (!gone ·) }
  | .edit spec metadata version =>
      { k with cleaner := k.cleaner.map fun c => { c with spec, metadata }, version }

def after (k : Cluster) (steps : List Step) : Cluster :=
  steps.foldl step k

def completion? (k : Cluster) : Step → Option Completion
  | .cycle faults backoff namespace_ name now =>
      (k.cycle faults backoff namespace_ name now).completion? now
  | .add _ | .remove _ | .edit _ _ _ => none

def completions (k : Cluster) : List Step → List Completion
  | [] => []
  | s :: steps => (k.completion? s).toList ++ (k.step s).completions steps

theorem effect_cycle (k : Cluster) (faults : Faults) (backoff : Duration)
    (namespace_ name : String) (now : Instant) :
    let r := k.cycle faults backoff namespace_ name now
    Effect { k with faults } (Cycle.clampBackoff backoff) now r.value r.state :=
  effect_reconcile ..

end Cluster

end CronSweep
