import CronSweep.Retry
import CronSweep.Text.Basic

namespace CronSweep

abbrev Environment := List (String × String)

structure Settings where
  host : String
  port : UInt16
  /-- The namespace to watch; blank stands for all namespaces. -/
  watchNamespace : String
  /-- The wait for a cleaner whose run interval is no use. -/
  invalidSpecBackoffSeconds : UInt64
  retryCoefficient : UInt32
  retryInitialSeconds : UInt64
  retryMaximumSeconds : UInt64
  /-- Named as the instance that an event comes from. -/
  podName : String
deriving DecidableEq

namespace Settings

structure Error where
  variable_ : String
deriving DecidableEq

def Error.message (e : Error) : String := "Failed to parse environment variable " ++ e.variable_

def readNumber (limit : Nat) (s : String) : Option Nat :=
  match s.toList with
  | '+' :: ds => Text.number? limit ds
  | ds => Text.number? limit ds

def text (env : Environment) (name default : String) : String := (env.lookup name).getD default

def number (env : Environment) (name default : String) (limit : Nat) : Except Error Nat :=
  match readNumber limit (text env name default) with
  | some n => .ok n
  | none => .error ⟨name⟩

def load (env : Environment) : Except Error Settings := do
  let host := text env "BIND_HOST" "0.0.0.0"
  let port ← number env "BIND_PORT" "3302" 65_535
  let watchNamespace := text env "WATCH_NAMESPACE" ""
  let invalidSpecBackoff ← number env "INVALID_SPEC_BACKOFF_SECS" "30" 18_446_744_073_709_551_615
  let retryCoefficient ← number env "RETRY_BACKOFF_COEFFICIENT" "2" 4_294_967_295
  let retryInitial ← number env "RETRY_INITIAL_INTERVAL_SECS" "1" 18_446_744_073_709_551_615
  let retryMaximum ← number env "RETRY_MAXIMUM_INTERVAL_SECS" "300" 18_446_744_073_709_551_615
  let podName := text env "POD_NAME" ""
  return ⟨host, .ofNat port, watchNamespace, .ofNat invalidSpecBackoff, .ofNat retryCoefficient,
    .ofNat retryInitial, .ofNat retryMaximum, podName⟩

def bind (s : Settings) : String := s.host ++ ":" ++ toString s.port.toNat

def watched? (s : Settings) : Option String :=
  match Text.trim s.watchNamespace.toList with
  | [] => none
  | cs => some (String.ofList cs)

def invalidSpecBackoff (s : Settings) : Duration := .ofSeconds (max s.invalidSpecBackoffSeconds 1)

/-- No part of the policy is zero: a zero coefficient would let every retry but the first follow at
once. -/
def retryPolicy (s : Settings) : RetryPolicy where
  coefficient := max s.retryCoefficient 1
  initial := .ofSeconds (max s.retryInitialSeconds 1)
  maximum := some (.ofSeconds (max s.retryMaximumSeconds 1))

end Settings

end CronSweep
