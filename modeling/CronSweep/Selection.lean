import CronSweep.Duration.Basic
import CronSweep.Execution

namespace CronSweep.Selection

def ownedBy (cronJob : String) (es : List Execution) : List Execution :=
  es.filter (·.isOwnedBy Execution.cronJobKind cronJob)

inductive Phase
  | active
  | succeeded
  | failed
  | unclassified
deriving DecidableEq

/-- While a pod is being replaced an execution can count as active and as ended; it is then still
running. -/
def phase (e : Execution) : Phase :=
  if 0 < e.active then .active
  else if 0 < e.succeeded then .succeeded
  else if 0 < e.failed then .failed
  else .unclassified

def inPhase (p : Phase) (es : List Execution) : List Execution := es.filter (phase · = p)

/-- Spans between instants are counted in 64-bit milliseconds; a longer threshold is never
exceeded. -/
def longestSpan : Nat := 9_223_372_036_854_775_807 * 1_000_000

def isStuck (threshold : Duration) (now : Instant) (e : Execution) : Bool :=
  match e.start with
  | some start => (threshold.nanos : Int) < Instant.elapsed start now
  | none => false

def stuck (threshold : Duration) (now : Instant) (es : List Execution) : List Execution :=
  if longestSpan < threshold.nanos then [] else es.filter (isStuck threshold now)

/-- Newest start first, a missing start last, equal starts by name. -/
def precedes (a b : Execution) : Bool :=
  match a.start, b.start with
  | some s, some t => t < s || (s = t && a.name ≤ b.name)
  | some _, none => true
  | none, some _ => false
  | none, none => a.name ≤ b.name

def newestFirst (es : List Execution) : List Execution := es.mergeSort precedes

def excess (retain : Nat) (es : List Execution) : List Execution :=
  if es.length ≤ retain then [] else (newestFirst es).drop retain

end CronSweep.Selection
