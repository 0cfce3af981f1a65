import CronSweep.Api.Request
import CronSweep.Http.Target
import CronSweep.Json.Reader
import CronSweep.Text.Quoted

namespace CronSweep.Api

inductive Reply
  | response (status : Nat) (body : String)
  | lost (reason : String)

inductive Failure
  | unsent (error : Http.TargetError)
  | lost (reason : String)
  | refused (refusal : Wire.Refusal)
  | unreadable
deriving DecidableEq

namespace Failure

def error : Failure → ClientError
  | .unsent e => .transport ("Failed to build request: failed to build request: " ++ e.message)
  | .lost reason => .transport ("ServiceError: " ++ reason)
  | .refused r => .ofCode r.code r.message
  | .unreadable => .transport "Error deserializing response"

/-- Told apart by the reason that the cluster gives, whatever the code. -/
def isAbsence : Failure → Bool
  | .refused r => r.reason = "NotFound"
  | _ => false

end Failure

/-- The refusal that a body tells of. If it tells of none, the status is the code and the body
itself the message. -/
def refusal (status : Nat) (body : String) : Wire.Refusal :=
  ((Json.parse body).bind Wire.Refusal.ofJson?).getD
    ⟨.ofNat status, "Failed to parse error data", Text.quoted body⟩

def isRefusal (status : Nat) : Bool := 400 ≤ status && status < 600

def Reply.accepted : Reply → Except Failure String
  | .lost reason => .error (.lost reason)
  | .response status body =>
      if isRefusal status then .error (.refused (refusal status body)) else .ok body

def read {α : Type} (decode : Json → Option α) : Except Failure String → Except Failure α
  | .error f => .error f
  | .ok body =>
      match (Json.parse body).bind decode with
      | some a => .ok a
      | none => .error .unreadable

def finish {α β : Type} (f : α → β) : Except Failure α → Except ClientError β
  | .ok a => .ok (f a)
  | .error failure => .error failure.error

def fetched : Except Failure Cleaner → Except ClientError (Option Cleaner)
  | .ok c => .ok (some c)
  | .error failure => if failure.isAbsence then .ok none else .error failure.error

def answer : (call : Call) → Except Failure String → call.Answer
  | .fetch _ _, body => fetched (read Cleaner.ofJson? body)
  | .list _, body => finish (List.map Wire.Job.execution) (read Wire.jobs? body)
  | .delete _, body => finish id (read Wire.deletion? body)
  | .updateStatus _ _, body => finish (fun _ => ()) (read Cleaner.ofJson? body)
  | .publish _ _, body => finish id (read Wire.event? body)

structure Exchange where
  requests : List Request
  replies : List Reply

def Exchange.start (replies : List Reply) : Exchange := ⟨[], replies⟩

def Exchange.send (x : Exchange) (q : Request) : Reply × Exchange :=
  match x.replies with
  | [] => (.lost "no reply left", ⟨x.requests ++ [q], []⟩)
  | r :: rs => (r, ⟨x.requests ++ [q], rs⟩)

/-- A cluster behind its HTTP interface: one request a call. A request whose path is no target is
not sent. -/
def client (r : Reporter) (now : Instant) : Client Exchange := fun call x =>
  let q := request r now call
  match Http.Target.toSend? q.path with
  | .error e => (answer call (.error (.unsent e)), x)
  | .ok t =>
      let (reply, x) := x.send { q with path := t.text }
      (answer call reply.accepted, x)

end CronSweep.Api
