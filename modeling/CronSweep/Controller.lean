import CronSweep.Api.Request
import CronSweep.Cycle
import CronSweep.Settings

namespace CronSweep

inductive Action
  | awaitChange
  | requeue (delay : Duration)
deriving DecidableEq

/-- How often in a row the cycles of a cleaner have failed, by its key. Nothing is kept for a
cleaner whose last cycle did not fail. -/
abbrev Streaks := List (String × UInt32)

namespace Streaks

def count (s : Streaks) (key : String) : UInt32 := (s.lookup key).getD 0

def clear (s : Streaks) (key : String) : Streaks := s.filter (·.1 != key)

/-- One more failure; the greatest count stays. -/
def extend (s : Streaks) (key : String) : Streaks :=
  let n := s.count key
  (key, if n = 4_294_967_295 then n else n + 1) :: s.clear key

end Streaks

structure Controller where
  backoff : Duration
  retryPolicy : RetryPolicy

namespace Controller

def name : String := "cron-execution-cleaner"

def ofSettings (s : Settings) : Controller := ⟨s.invalidSpecBackoff, s.retryPolicy⟩

def key (m : Metadata) : String := m.namespace_.getD "" ++ "/" ++ m.anyName

/-- After an error the wait grows with the failures before it; a success starts them afresh. -/
def settle (c : Controller) (key : String) (s : Streaks) :
    Except CycleError Report → Action × Streaks
  | .ok report => (report.requeueAfter.elim .awaitChange .requeue, s.clear key)
  | .error _ => (.requeue (c.retryPolicy.delay (s.count key) none), s.extend key)

structure Handled where
  result : Except CycleError Report
  action : Action
  streaks : Streaks

def handle (c : Controller) (m : Metadata) (now : Instant) (s : Streaks) : Plan Handled :=
  (Cycle.reconcile c.backoff (m.namespace_.getD "") m.anyName now).bind fun result =>
    let (action, streaks) := c.settle (key m) s result
    .done ⟨result, action, streaks⟩

end Controller

def Settings.reporter (s : Settings) : Api.Reporter :=
  ⟨Controller.name, if s.podName.isEmpty then none else some s.podName⟩

end CronSweep
