import CronSweep.Plan
import CronSweep.Wire.Cleaner
import CronSweep.Wire.Reply

namespace CronSweep.Api

inductive Method
  | get
  | post
  | put
  | delete
deriving DecidableEq

def Method.name : Method → String
  | .get => "GET"
  | .post => "POST"
  | .put => "PUT"
  | .delete => "DELETE"

structure Request where
  method : Method
  path : String
  body : Option Json

def Request.contentType (q : Request) : Option String := q.body.map fun _ => "application/json"

structure Reporter where
  controller : String
  /-- The running copy of the controller, where it has a name of its own. -/
  instance_ : Option String

def cleanerPath (namespace_ name : String) : String :=
  "/apis/" ++ Cleaner.apiVersion ++ "/namespaces/" ++ namespace_ ++ "/" ++ Cleaner.plural ++ "/" ++
    name

def jobsPath (namespace_ : String) : String := "/apis/batch/v1/namespaces/" ++ namespace_ ++ "/jobs"

def jobPath (namespace_ name : String) : String := jobsPath namespace_ ++ "/" ++ name

def eventsNamespace : String := "kube-system"

def eventsPath (namespace_ : String) : String :=
  "/apis/" ++ Wire.eventApiVersion ++ "/namespaces/" ++ namespace_ ++ "/events"

/-- Delete a job and, in the background, its pods, unless it is another one of the same name. -/
def deletion (e : Execution) : Json :=
  .obj (Json.optional "preconditions" (fun uid => .obj [("uid", .str uid)]) e.uid ++
    [("propagationPolicy", .str "Background")])

def regarding (m : Metadata) : Json :=
  .obj ([("apiVersion", .str Cleaner.apiVersion), ("kind", .str Cleaner.kind)] ++
    Json.optional "name" .str m.name ++
    Json.optional "namespace" .str m.namespace_ ++
    Json.optional "uid" .str m.uid)

def publication (r : Reporter) (now : Instant) (m : Metadata) (e : Event) : Json :=
  .obj [
    ("apiVersion", .str Wire.eventApiVersion),
    ("kind", .str Wire.eventKind),
    ("action", .str e.action),
    ("eventTime", .str (now.text .micros)),
    ("metadata", .obj (("generateName", .str (r.controller ++ "-")) ::
      Json.optional "namespace" .str m.namespace_)),
    ("note", .str e.note),
    ("reason", .str e.reason),
    ("regarding", regarding m),
    ("reportingController", .str r.controller),
    ("reportingInstance", .str (r.instance_.getD r.controller)),
    ("type", .str e.kind.label)]

/-- The request for a call. A status is written together with the whole cleaner it was made for, so
that the cluster can see whether that cleaner is still the current one. -/
def request (r : Reporter) (now : Instant) : Call → Request
  | .fetch ns name => ⟨.get, cleanerPath ns name, none⟩
  | .list ns => ⟨.get, jobsPath ns, none⟩
  | .delete e => ⟨.delete, jobPath e.namespace_ e.name, some (deletion e)⟩
  | .updateStatus c s =>
      ⟨.put, cleanerPath (c.metadata.namespace_.getD "") (c.metadata.name.getD "") ++ "/status",
        some { c with status := some s }.toJson⟩
  | .publish c e =>
      ⟨.post, eventsPath (c.metadata.namespace_.getD eventsNamespace),
        some (publication r now c.metadata e)⟩

end CronSweep.Api
