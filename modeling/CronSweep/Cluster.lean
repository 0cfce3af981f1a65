import CronSweep.Plan

namespace CronSweep

structure Faults where
  fetch : Option ClientError
  list : Option ClientError
  /-- By the name of the execution. -/
  delete : String → Option ClientError
  updateStatus : Option ClientError
  publish : Option ClientError
  /-- Somebody else edits the cleaner right before every status write. -/
  concurrentEdit : Bool

def Faults.none : Faults :=
  ⟨Option.none, Option.none, fun _ => Option.none, Option.none, Option.none, false⟩

/-- A cluster in memory, with room for one cleaner. -/
structure Cluster where
  cleaner : Option Cleaner
  executions : List Execution
  /-- Raised by every change of the cleaner. -/
  version : Nat
  faults : Faults

namespace Cluster

def setVersion (c : Cleaner) (version : Nat) : Cleaner :=
  { c with metadata := { c.metadata with resourceVersion := some (toString version) } }

def start (cleaner : Option Cleaner) (executions : List Execution) : Cluster :=
  ⟨cleaner.map (setVersion · 1), executions, 1, .none⟩

def refuse {α : Type} (fault : Option ClientError) (otherwise : Except ClientError α) :
    Except ClientError α :=
  fault.elim otherwise .error

/-- Take over a status if the cleaner it was made for is the current one. -/
def writeStatus (k : Cluster) (c : Cleaner) (s : Status) : Except ClientError Unit × Cluster :=
  let k := if k.faults.concurrentEdit then { k with version := k.version + 1 } else k
  if c.metadata.resourceVersion = some (toString k.version) then
    (.ok (),
      { k with
        version := k.version + 1
        cleaner := k.cleaner.map fun stored =>
          setVersion { stored with status := some s } (k.version + 1) })
  else (.error (.conflict "the object has been modified"), k)

def deleteExecution (k : Cluster) (e : Execution) : Cluster :=
  { k with executions := k.executions.filter fun stored => stored.key != e.key }

/-- The cluster's answers. The fetched cleaner is the stored one, whatever name is asked for. -/
def client : Client Cluster
  | .fetch _ _, k => (refuse k.faults.fetch (.ok k.cleaner), k)
  | .list ns, k => (refuse k.faults.list (.ok (k.executions.filter (·.namespace_ == ns))), k)
  | .delete e, k =>
      match k.faults.delete e.name with
      | some error => (.error error, k)
      | none => (.ok (), k.deleteExecution e)
  | .updateStatus c s, k =>
      match k.faults.updateStatus with
      | some error => (.error error, k)
      | none => k.writeStatus c s
  | .publish _ _, k => (refuse k.faults.publish (.ok ()), k)

end Cluster

end CronSweep
