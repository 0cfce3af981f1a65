import CronSweep.Http.Target
import CronSweep.Metrics

namespace CronSweep.Http

inductive Route
  | index
  | readiness
  | liveness
  | metrics
deriving DecidableEq

def Route.path : Route → String
  | .index => "/"
  | .readiness => "/_readiness"
  | .liveness => "/_liveness"
  | .metrics => "/metrics"

/-- The metrics have a page only when they are kept. -/
def routes (metered : Bool) : List Route :=
  [.index, .readiness, .liveness] ++ if metered then [.metrics] else []

structure Request where
  method : String
  path : String

def isTokenChar (c : Char) : Bool := c.isAlphanum || "!#$%&'*+-.^_`|~".toList.contains c

def Request.ofParts? (method target : String) : Option Request :=
  match Target.ofText? target with
  | .ok t =>
      if !method.isEmpty && method.toList.all isTokenChar then
        some ⟨method, String.ofList t.path⟩
      else none
  | .error _ => none

inductive Body
  | text (s : String)
  /-- The metrics text, by what it has grown since the start. -/
  | metrics (growth : List (String × Nat))

structure Response where
  status : Nat
  contentType : Option String
  /-- The methods to use instead. -/
  allow : Option String
  body : Body

def plainText : String := "text/plain; charset=utf-8"

def greeting : String := "cron execution cleaner"

def Route.body (past : List Sample) : Route → Body
  | .index | .readiness | .liveness => .text greeting
  | .metrics => .metrics (Metrics.fullGrowth past)

def route? (metered : Bool) (q : Request) : Option Route :=
  (routes metered).find? fun r => r.path == q.path

/-- Pages are read with GET, or with HEAD for all but the body. -/
def respond (metered : Bool) (past : List Sample) (q : Request) : Response :=
  match route? metered q with
  | none => ⟨404, none, none, .text ""⟩
  | some r =>
      if q.method = "GET" then ⟨200, some plainText, none, r.body past⟩
      else if q.method = "HEAD" then ⟨200, some plainText, none, .text ""⟩
      else ⟨405, none, some "GET,HEAD", .text ""⟩

def serve (metered : Bool) (past : List Sample) (q : Request) : Response × List Sample :=
  let r := respond metered past q
  (r, if metered then [.request q.method q.path r.status] else [])

end CronSweep.Http
