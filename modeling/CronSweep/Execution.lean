import CronSweep.Instant.Basic

namespace CronSweep

structure Owner where
  kind : String
  name : String
deriving DecidableEq

structure Execution where
  namespace_ : String
  name : String
  uid : Option String
  owners : List Owner
  start : Option Instant
  active : UInt32
  succeeded : UInt32
  failed : UInt32
deriving DecidableEq

namespace Execution

def cronJobKind : String := "CronJob"

def isOwnedBy (e : Execution) (kind name : String) : Bool :=
  e.owners.any fun o => o.kind == kind && o.name == name

def key (e : Execution) : String × String := (e.namespace_, e.name)

end Execution

end CronSweep
