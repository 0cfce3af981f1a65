import CronSweep.Json.Decode
import CronSweep.Json.Usable
import CronSweep.Metadata

namespace CronSweep

namespace TextMap

def ofJson? (j : Json) : Option TextMap := do
  (← j.members?).foldlM (fun m e => e.2.text?.map (m.put e.1)) empty

def toJson (m : TextMap) : Json := .obj (m.entries.map fun e => (e.1, .str e.2))

end TextMap

/-- The cluster's own times are written in whole seconds. -/
def Instant.toStampJson (t : Instant) : Json := .str (t.text .seconds)

namespace OwnerReference

def ofJson? (j : Json) : Option OwnerReference := do
  let ms ← j.members?
  let apiVersion ← Json.latest ms "apiVersion" Json.text?
  let blockOwnerDeletion ← Json.latest ms "blockOwnerDeletion" Json.bool?
  let controller ← Json.latest ms "controller" Json.bool?
  let kind ← Json.latest ms "kind" Json.text?
  let name ← Json.latest ms "name" Json.text?
  let uid ← Json.latest ms "uid" Json.text?
  return ⟨apiVersion.getD "", blockOwnerDeletion, controller, kind.getD "", name.getD "",
    uid.getD ""⟩

def toJson (o : OwnerReference) : Json :=
  .obj ([("apiVersion", .str o.apiVersion)] ++
    Json.optional "blockOwnerDeletion" .bool o.blockOwnerDeletion ++
    Json.optional "controller" .bool o.controller ++
    [("kind", .str o.kind), ("name", .str o.name), ("uid", .str o.uid)])

end OwnerReference

def FieldSet.ofJson? (j : Json) : Option FieldSet :=
  if h : j.isUsable = true ∧ j.isNull = false then some ⟨j, h.1, h.2⟩ else none

namespace ManagedFields

def ofJson? (j : Json) : Option ManagedFields := do
  let ms ← j.members?
  let apiVersion ← Json.latest ms "apiVersion" Json.text?
  let fieldsType ← Json.latest ms "fieldsType" Json.text?
  let fields ← Json.latest ms "fieldsV1" FieldSet.ofJson?
  let manager ← Json.latest ms "manager" Json.text?
  let operation ← Json.latest ms "operation" Json.text?
  let subresource ← Json.latest ms "subresource" Json.text?
  let time ← Json.latest ms "time" Json.time?
  return ⟨apiVersion, fieldsType, fields, manager, operation, subresource, time⟩

def toJson (f : ManagedFields) : Json :=
  .obj (Json.optional "apiVersion" .str f.apiVersion ++
    Json.optional "fieldsType" .str f.fieldsType ++
    Json.optional "fieldsV1" FieldSet.value f.fields ++
    Json.optional "manager" .str f.manager ++
    Json.optional "operation" .str f.operation ++
    Json.optional "subresource" .str f.subresource ++
    Json.optional "time" Instant.toStampJson f.time)

end ManagedFields

namespace Metadata

def ofJson? (j : Json) : Option Metadata := do
  let ms ← j.members?
  let annotations ← Json.latest ms "annotations" TextMap.ofJson?
  let creationTimestamp ← Json.latest ms "creationTimestamp" Json.time?
  let deletionGracePeriodSeconds ← Json.latest ms "deletionGracePeriodSeconds" Json.int64?
  let deletionTimestamp ← Json.latest ms "deletionTimestamp" Json.time?
  let finalizers ← Json.latest ms "finalizers" (Json.list? Json.text?)
  let generateName ← Json.latest ms "generateName" Json.text?
  let generation ← Json.latest ms "generation" Json.int64?
  let labels ← Json.latest ms "labels" TextMap.ofJson?
  let managedFields ← Json.latest ms "managedFields" (Json.list? ManagedFields.ofJson?)
  let name ← Json.latest ms "name" Json.text?
  let namespace_ ← Json.latest ms "namespace" Json.text?
  let ownerReferences ← Json.latest ms "ownerReferences" (Json.list? OwnerReference.ofJson?)
  let resourceVersion ← Json.latest ms "resourceVersion" Json.text?
  let selfLink ← Json.latest ms "selfLink" Json.text?
  let uid ← Json.latest ms "uid" Json.text?
  return ⟨annotations, creationTimestamp, deletionGracePeriodSeconds, deletionTimestamp, finalizers,
    generateName, generation, labels, managedFields, name, namespace_, ownerReferences,
    resourceVersion, selfLink, uid⟩

def toJson (m : Metadata) : Json :=
  .obj (Json.optional "annotations" TextMap.toJson m.annotations ++
    Json.optional "creationTimestamp" Instant.toStampJson m.creationTimestamp ++
    Json.optional "deletionGracePeriodSeconds" (fun n => .int n.toInt)
      m.deletionGracePeriodSeconds ++
    Json.optional "deletionTimestamp" Instant.toStampJson m.deletionTimestamp ++
    Json.optional "finalizers" (fun fs => .arr (fs.map .str)) m.finalizers ++
    Json.optional "generateName" .str m.generateName ++
    Json.optional "generation" (fun n => .int n.toInt) m.generation ++
    Json.optional "labels" TextMap.toJson m.labels ++
    Json.optional "managedFields" (fun fs => .arr (fs.map ManagedFields.toJson)) m.managedFields ++
    Json.optional "name" .str m.name ++
    Json.optional "namespace" .str m.namespace_ ++
    Json.optional "ownerReferences" (fun os => .arr (os.map OwnerReference.toJson))
      m.ownerReferences ++
    Json.optional "resourceVersion" .str m.resourceVersion ++
    Json.optional "selfLink" .str m.selfLink ++
    Json.optional "uid" .str m.uid)

end Metadata

end CronSweep
