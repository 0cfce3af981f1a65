import CronSweep.Instant.Basic
import CronSweep.Json.Usable

namespace CronSweep

structure TextMap where
  entries : List (String × String)
  distinct : (entries.map (·.1)).Nodup

structure OwnerReference where
  apiVersion : String
  blockOwnerDeletion : Option Bool
  controller : Option Bool
  kind : String
  name : String
  uid : String
deriving DecidableEq

structure FieldSet where
  value : Json
  isUsable : value.isUsable = true
  isNull : value.isNull = false

structure ManagedFields where
  apiVersion : Option String
  fieldsType : Option String
  fields : Option FieldSet
  manager : Option String
  operation : Option String
  subresource : Option String
  time : Option Instant

structure Metadata where
  annotations : Option TextMap
  creationTimestamp : Option Instant
  deletionGracePeriodSeconds : Option Int64
  deletionTimestamp : Option Instant
  finalizers : Option (List String)
  generateName : Option String
  generation : Option Int64
  labels : Option TextMap
  managedFields : Option (List ManagedFields)
  name : Option String
  namespace_ : Option String
  ownerReferences : Option (List OwnerReference)
  resourceVersion : Option String
  selfLink : Option String
  uid : Option String

namespace TextMap

theorem not_mem_map_filter_ne (key : String) (es : List (String × String)) :
    key ∉ (es.filter (·.1 != key)).map (·.1) := by
  simp

def put (m : TextMap) (key value : String) : TextMap where
  entries := m.entries.filter (·.1 != key) ++ [(key, value)]
  distinct := by
    rw [List.map_append, List.nodup_append]
    refine ⟨m.distinct.sublist (List.filter_sublist.map _), by simp, ?_⟩
    simp only [List.map_cons, List.map_nil, List.mem_singleton]
    rintro a ha b rfl rfl
    exact not_mem_map_filter_ne _ _ ha

def empty : TextMap := ⟨[], by simp⟩

end TextMap

namespace Metadata

def blank : Metadata :=
  ⟨none, none, none, none, none, none, none, none, none, none, none, none, none, none, none⟩

/-- The name, or else the start of a name that is still to be made up. -/
def anyName (m : Metadata) : String := (m.name.or m.generateName).getD ""

end Metadata

end CronSweep
