import CronSweep.Cycle

namespace CronSweep.Cycle

def writeAlways (c : Cleaner) (s : Status) : Plan (Except CycleError Bool) :=
  .ask (.updateStatus c s) fun
    | .ok () => .done (.ok true)
    | .error e => .done (.error (.statusWrite e))

section Writing

variable (write : Cleaner → Status → Plan (Except CycleError Bool))

def settleBy (c : Cleaner) (s : Status) (events : Bool → List Event) (report : Report) :
    Plan (Except CycleError Report) :=
  (write c s).andThen fun written =>
    (publishAll c (events written)).bind fun _ => .done (.ok report)

def completeBy (c : Cleaner) (p : Policy) (now : Instant) : Plan (Except CycleError Report) :=
  (clean p now).andThen fun d =>
    settleBy write c (completedStatus c d now) (fun _ => events d)
      ⟨some p.runInterval, .completed d⟩

def reportInvalidBy (backoff : Duration) (c : Cleaner) (error : SpecError) (now : Instant) :
    Plan (Except CycleError Report) :=
  settleBy write c (invalidStatus c error now)
    (fun written => if written then [invalidEvent error] else [])
    ⟨some (match Policy.runInterval? c.spec with | .ok d => d | .error _ => backoff),
      .invalidSpec error⟩

def courseBy (backoff : Duration) (namespace_ name : String) (now : Instant) :
    Plan (Except CycleError Report) :=
  .ask (.fetch namespace_ name) fun
    | .error e => .done (.error (.fetch e))
    | .ok none => .done (.ok ⟨none, .missing⟩)
    | .ok (some c) =>
        match Policy.ofSpec? c.spec with
        | .ok p => completeBy write c p now
        | .error e => reportInvalidBy write backoff c e now

def reconcileBy (backoff : Duration) (namespace_ name : String) (now : Instant) :
    Plan (Except CycleError Report) :=
  (courseBy write (clampBackoff backoff) namespace_ name now).bind fun result =>
    .count (.cycle (ending result)) (.done result)

end Writing

theorem reconcileBy_writeStatus (backoff : Duration) (namespace_ name : String) (now : Instant) :
    reconcileBy writeStatus backoff namespace_ name now = reconcile backoff namespace_ name now :=
  rfl

end CronSweep.Cycle
