import CronSweep.Text.Quoted

namespace CronSweep

inductive Category
  | stuck
  | excessSucceeded
  | excessFailed
deriving DecidableEq

def Category.label : Category → String
  | .stuck => "stuck"
  | .excessSucceeded => "excess_succeeded"
  | .excessFailed => "excess_failed"

inductive Ending
  | missing
  | invalidSpec
  | completed
  | error
deriving DecidableEq

def Ending.label : Ending → String
  | .missing => "missing"
  | .invalidSpec => "invalid_spec"
  | .completed => "completed"
  | .error => "error"

inductive Sample
  | deleted (category : Category)
  | deleteFailed (category : Category)
  | cycle (ending : Ending)
  | request (method path : String) (status : Nat)
deriving DecidableEq

namespace Metrics

/-- In a label's value a backslash, a quote and a line end are marked by a backslash. A backslash
that stands before a quote or another backslash is taken for such a mark already. -/
def labelChars : List Char → List Char
  | '\\' :: '\\' :: cs => '\\' :: '\\' :: labelChars cs
  | '\\' :: '"' :: cs => '\\' :: '"' :: labelChars cs
  | '\\' :: cs => '\\' :: '\\' :: labelChars cs
  | '"' :: cs => '\\' :: '"' :: labelChars cs
  | '\n' :: cs => '\\' :: 'n' :: labelChars cs
  | c :: cs => c :: labelChars cs
  | [] => []

def labelText (l : String × String) : String :=
  l.1 ++ "=\"" ++ String.ofList (labelChars l.2.toList) ++ "\""

def series (name : String) (labels : List (String × String)) : String :=
  if labels.isEmpty then name
  else name ++ "\x7b" ++ String.intercalate "," (labels.map labelText) ++ "\x7d"

def bucketBounds : List String :=
  ["0.005", "0.01", "0.025", "0.05", "0.1", "0.25", "0.5", "1", "2.5", "5", "10", "30", "60",
    "+Inf"]

def requestLabels (method path : String) (status : Nat) : List (String × String) :=
  [("method", method), ("path", path), ("status", toString status)]

def counter : Sample → String × List (String × String)
  | .deleted c => ("cleaner_executions_deleted_total", [("category", c.label)])
  | .deleteFailed c => ("cleaner_delete_failures_total", [("category", c.label)])
  | .cycle e => ("cleaner_reconcile_total", [("outcome", e.label)])
  | .request method path status => ("http_requests_total", requestLabels method path status)

def histogram? : Sample → Option (String × List (String × String))
  | .deleted _ | .deleteFailed _ => none
  | .cycle _ => some ("cleaner_reconcile_duration_seconds", [])
  | .request method path status =>
      some ("http_requests_duration_seconds", requestLabels method path status)

def totals (s : Sample) : List String :=
  series (counter s).1 (counter s).2 ::
    ((histogram? s).elim [] fun h => [series (h.1 ++ "_count") h.2])

/-- The bucket lines that an instantaneous sample raises by one: all of its duration's buckets. -/
def buckets (s : Sample) : List String :=
  (histogram? s).elim [] fun h =>
    bucketBounds.map fun b => series (h.1 ++ "_bucket") (h.2 ++ [("le", b)])

def tally : List String → List (String × Nat)
  | [] => []
  | l :: ls =>
      match (tally ls).lookup l with
      | none => (l, 1) :: tally ls
      | some _ => (tally ls).map fun e => if e.1 = l then (e.1, e.2 + 1) else e

def growth (samples : List Sample) : List (String × Nat) := tally (samples.flatMap totals)

def fullGrowth (samples : List Sample) : List (String × Nat) :=
  tally (samples.flatMap fun s => totals s ++ buckets s)

end Metrics

end CronSweep
