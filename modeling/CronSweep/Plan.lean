import CronSweep.Cleaner
import CronSweep.ClientError
import CronSweep.Execution
import CronSweep.Metrics

namespace CronSweep

inductive EventKind
  | normal
  | warning
deriving DecidableEq

def EventKind.label : EventKind → String
  | .normal => "Normal"
  | .warning => "Warning"

structure Event where
  kind : EventKind
  reason : String
  action : String
  note : String
deriving DecidableEq

inductive Call
  | fetch (namespace_ name : String)
  | list (namespace_ : String)
  | delete (execution : Execution)
  /-- Replace the status of a cleaner, if it is still as it was read. -/
  | updateStatus (cleaner : Cleaner) (status : Status)
  | publish (cleaner : Cleaner) (event : Event)

def Call.Answer : Call → Type
  | .fetch _ _ => Except ClientError (Option Cleaner)
  | .list _ => Except ClientError (List Execution)
  | .delete _ | .updateStatus _ _ | .publish _ _ => Except ClientError Unit

/-- A course of action: what to ask of the cluster next, for every answer so far, and what to count
on the way. -/
inductive Plan (α : Type)
  | done (value : α)
  | ask (call : Call) (next : call.Answer → Plan α)
  | count (sample : Sample) (next : Plan α)

/-- A cluster in some state: it answers a call and goes to its next state. -/
abbrev Client (σ : Type) := (call : Call) → σ → call.Answer × σ

structure Run (σ α : Type) where
  value : α
  state : σ
  calls : List Call
  samples : List Sample

namespace Plan

variable {α β σ : Type}

def bind (p : Plan α) (f : α → Plan β) : Plan β :=
  match p with
  | .done a => f a
  | .ask call next => .ask call fun answer => (next answer).bind f
  | .count sample next => .count sample (next.bind f)

instance : Monad Plan where
  pure := .done
  bind := bind

def andThen {ε : Type} (p : Plan (Except ε α)) (f : α → Plan (Except ε β)) : Plan (Except ε β) :=
  p.bind fun
    | .ok a => f a
    | .error e => .done (.error e)

def run (client : Client σ) : Plan α → σ → Run σ α
  | .done a, s => ⟨a, s, [], []⟩
  | .ask call next, s =>
      let (answer, s) := client call s
      let r := (next answer).run client s
      { r with calls := call :: r.calls }
  | .count sample next, s =>
      let r := next.run client s
      { r with samples := sample :: r.samples }

theorem bind_bind {γ : Type} (p : Plan α) (f : α → Plan β) (g : β → Plan γ) :
    (p.bind f).bind g = p.bind fun a => (f a).bind g := by
  induction p with
  | done a => rfl
  | ask call next ih => simp only [bind, ih]
  | count sample next ih => simp only [bind, ih]

/-- One plan after another: the second starts where the first ends, and both leave their calls and
samples. -/
theorem run_bind (client : Client σ) (p : Plan α) (f : α → Plan β) (s : σ) :
    (p.bind f).run client s =
      { (f (p.run client s).value).run client (p.run client s).state with
        calls := (p.run client s).calls ++
          ((f (p.run client s).value).run client (p.run client s).state).calls
        samples := (p.run client s).samples ++
          ((f (p.run client s).value).run client (p.run client s).state).samples } := by
  induction p generalizing s with
  | done a => rfl
  | ask call next ih => simp only [bind, run, ih, List.cons_append]
  | count sample next ih => simp only [bind, run, ih, List.cons_append]

end Plan

end CronSweep
