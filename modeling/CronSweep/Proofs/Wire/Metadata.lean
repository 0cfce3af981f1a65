import CronSweep.Proofs.Json.Coding

namespace CronSweep

open Json

namespace TextMap

theorem put_of_not_mem {m : TextMap} {key : String} (h : key ∉ m.entries.map (·.1))
    (value : String) : (m.put key value).entries = m.entries ++ [(key, value)] := by
  have hkeep : m.entries.filter (·.1 != key) = m.entries :=
    List.filter_eq_self.mpr fun e he =>
      bne_iff_ne.mpr fun hkey => h (hkey ▸ List.mem_map_of_mem he)
  exact congrArg (· ++ [(key, value)]) hkeep

theorem foldlM_put {es : List (String × String)} {m : TextMap}
    (h : ((m.entries ++ es).map (·.1)).Nodup) :
    ∃ m', (es.map fun e => (e.1, Json.str e.2)).foldlM
      (fun (m : TextMap) e => e.2.text?.map (m.put e.1)) m = some m' ∧
      m'.entries = m.entries ++ es := by
  -- The map grows by one entry at a time, and none of its keys comes again.
  induction es generalizing m with
  | nil => exact ⟨m, rfl, (List.append_nil _).symm⟩
  | cons e es ih =>
      have hnew : e.1 ∉ m.entries.map (·.1) := by
        rw [List.map_append, List.map_cons] at h
        exact fun hmem => (List.nodup_append.mp h).2.2 _ hmem _ List.mem_cons_self rfl
      have hput := put_of_not_mem hnew e.2
      have hrest : (((m.put e.1 e.2).entries ++ es).map (·.1)).Nodup := by
        rw [hput, List.append_assoc]
        exact h
      obtain ⟨m', hfold, hm'⟩ := ih hrest
      refine ⟨m', hfold, ?_⟩
      rw [hm', hput, List.append_assoc]
      rfl

theorem ofJson?_toJson (m : TextMap) : ofJson? m.toJson = some m := by
  have hdistinct : ((empty.entries ++ m.entries).map (·.1)).Nodup := m.distinct
  obtain ⟨m', hfold, hm'⟩ := foldlM_put hdistinct
  obtain rfl : m' = m := by
    cases m
    cases m'
    simpa [empty] using hm'
  exact hfold

end TextMap

theorem TextMap.nullable_ofJson?_toJson (m : TextMap) :
    nullable ofJson? m.toJson = some (some m) :=
  nullable_eq_some_some_iff.mpr ⟨nofun, m.ofJson?_toJson⟩

theorem OwnerReference.ofJson?_toJson (o : OwnerReference) : ofJson? o.toJson = some o := by
  rcases o with ⟨apiVersion, blockOwnerDeletion, controller, kind, name, uid⟩
  cases blockOwnerDeletion <;> cases controller <;>
    simp [ofJson?, toJson, members?, latest, Json.optional, nullable, text?, bool?]

theorem FieldSet.ne_null (s : FieldSet) : s.value ≠ .null := by
  intro hnull
  have hvalue := s.isNull
  rw [hnull] at hvalue
  cases hvalue

theorem FieldSet.ofJson?_value (s : FieldSet) : ofJson? s.value = some s := by
  rw [ofJson?, dif_pos ⟨s.isUsable, s.isNull⟩]

def ManagedFields.HasWholeStamp (f : ManagedFields) : Prop := ∀ t ∈ f.time, t.IsWhole

def ManagedFields.jsonFields (f : ManagedFields) : List (String × Option Json) :=
  [("apiVersion", f.apiVersion.map .str), ("fieldsType", f.fieldsType.map .str),
    ("fieldsV1", f.fields.map FieldSet.value), ("manager", f.manager.map .str),
    ("operation", f.operation.map .str), ("subresource", f.subresource.map .str),
    ("time", f.time.map Instant.toStampJson)]

theorem ManagedFields.toJson_eq (f : ManagedFields) : f.toJson = .obj (written f.jsonFields) := by
  simp [toJson, written, jsonFields, optional_eq]

theorem ManagedFields.ofJson?_toJson {f : ManagedFields} (h : f.HasWholeStamp) :
    ofJson? f.toJson = some f := by
  have hnodup : (f.jsonFields.map (·.1)).Nodup := by simp [jsonFields]
  have hfields (s : FieldSet) : nullable FieldSet.ofJson? s.value = some (some s) :=
    nullable_eq_some_some_iff.mpr ⟨s.ne_null, s.ofJson?_value⟩
  let ms := written f.jsonFields
  have hapiVersion : latest ms "apiVersion" text? = some f.apiVersion :=
    latest_written hnodup (by simp [jsonFields]) fun s _ => nullable_text?_str s
  have hfieldsType : latest ms "fieldsType" text? = some f.fieldsType :=
    latest_written hnodup (by simp [jsonFields]) fun s _ => nullable_text?_str s
  have hfields : latest ms "fieldsV1" FieldSet.ofJson? = some f.fields :=
    latest_written hnodup (by simp [jsonFields]) fun s _ => hfields s
  have hmanager : latest ms "manager" text? = some f.manager :=
    latest_written hnodup (by simp [jsonFields]) fun s _ => nullable_text?_str s
  have hoperation : latest ms "operation" text? = some f.operation :=
    latest_written hnodup (by simp [jsonFields]) fun s _ => nullable_text?_str s
  have hsubresource : latest ms "subresource" text? = some f.subresource :=
    latest_written hnodup (by simp [jsonFields]) fun s _ => nullable_text?_str s
  have htime : latest ms "time" time? = some f.time :=
    latest_written hnodup (by simp [jsonFields]) fun t ht => nullable_time?_toStampJson (h t ht)
  rw [ofJson?, toJson_eq, members?, Option.bind_eq_bind, Option.bind_some, hapiVersion,
    hfieldsType, hfields, hmanager, hoperation, hsubresource, htime]
  rfl

structure Metadata.HasWholeStamps (m : Metadata) : Prop where
  creationTimestamp : ∀ t ∈ m.creationTimestamp, t.IsWhole
  deletionTimestamp : ∀ t ∈ m.deletionTimestamp, t.IsWhole
  managedFields : ∀ fs ∈ m.managedFields, ∀ f ∈ fs, f.HasWholeStamp

def Metadata.jsonFields (m : Metadata) : List (String × Option Json) :=
  [("annotations", m.annotations.map TextMap.toJson),
    ("creationTimestamp", m.creationTimestamp.map Instant.toStampJson),
    ("deletionGracePeriodSeconds", m.deletionGracePeriodSeconds.map fun n => .int n.toInt),
    ("deletionTimestamp", m.deletionTimestamp.map Instant.toStampJson),
    ("finalizers", m.finalizers.map fun fs => .arr (fs.map .str)),
    ("generateName", m.generateName.map .str),
    ("generation", m.generation.map fun n => .int n.toInt),
    ("labels", m.labels.map TextMap.toJson),
    ("managedFields", m.managedFields.map fun fs => .arr (fs.map ManagedFields.toJson)),
    ("name", m.name.map .str),
    ("namespace", m.namespace_.map .str),
    ("ownerReferences", m.ownerReferences.map fun os => .arr (os.map OwnerReference.toJson)),
    ("resourceVersion", m.resourceVersion.map .str),
    ("selfLink", m.selfLink.map .str),
    ("uid", m.uid.map .str)]

theorem Metadata.toJson_eq (m : Metadata) : m.toJson = .obj (written m.jsonFields) := by
  simp [toJson, written, jsonFields, optional_eq]

theorem Metadata.ofJson?_toJson {m : Metadata} (h : m.HasWholeStamps) :
    ofJson? m.toJson = some m := by
  have hnodup : (m.jsonFields.map (·.1)).Nodup := by simp [jsonFields]
  let ms := written m.jsonFields
  have hannotations : latest ms "annotations" TextMap.ofJson? = some m.annotations :=
    latest_written hnodup (by simp [jsonFields]) fun es _ => es.nullable_ofJson?_toJson
  have hcreationTimestamp : latest ms "creationTimestamp" time? = some m.creationTimestamp :=
    latest_written hnodup (by simp [jsonFields]) fun t ht =>
      nullable_time?_toStampJson (h.creationTimestamp t ht)
  have hdeletionGracePeriodSeconds : latest ms "deletionGracePeriodSeconds" int64? =
      some m.deletionGracePeriodSeconds :=
    latest_written hnodup (by simp [jsonFields]) fun n _ => nullable_int64?_toInt n
  have hdeletionTimestamp : latest ms "deletionTimestamp" time? = some m.deletionTimestamp :=
    latest_written hnodup (by simp [jsonFields]) fun t ht =>
      nullable_time?_toStampJson (h.deletionTimestamp t ht)
  have hfinalizers : latest ms "finalizers" (list? text?) = some m.finalizers :=
    latest_written hnodup (by simp [jsonFields]) fun fs _ => nullable_list?_str fs
  have hgenerateName : latest ms "generateName" text? = some m.generateName :=
    latest_written hnodup (by simp [jsonFields]) fun s _ => nullable_text?_str s
  have hgeneration : latest ms "generation" int64? = some m.generation :=
    latest_written hnodup (by simp [jsonFields]) fun n _ => nullable_int64?_toInt n
  have hlabels : latest ms "labels" TextMap.ofJson? = some m.labels :=
    latest_written hnodup (by simp [jsonFields]) fun es _ => es.nullable_ofJson?_toJson
  have hmanagedFields :
      latest ms "managedFields" (list? ManagedFields.ofJson?) = some m.managedFields :=
    latest_written hnodup (by simp [jsonFields]) fun fs hfs =>
      nullable_list?_map fun f hf => ManagedFields.ofJson?_toJson (h.managedFields fs hfs f hf)
  have hname : latest ms "name" text? = some m.name :=
    latest_written hnodup (by simp [jsonFields]) fun s _ => nullable_text?_str s
  have hnamespace : latest ms "namespace" text? = some m.namespace_ :=
    latest_written hnodup (by simp [jsonFields]) fun s _ => nullable_text?_str s
  have hownerReferences : latest ms "ownerReferences" (list? OwnerReference.ofJson?) =
      some m.ownerReferences :=
    latest_written hnodup (by simp [jsonFields]) fun os _ =>
      nullable_list?_map fun o _ => o.ofJson?_toJson
  have hresourceVersion : latest ms "resourceVersion" text? = some m.resourceVersion :=
    latest_written hnodup (by simp [jsonFields]) fun s _ => nullable_text?_str s
  have hselfLink : latest ms "selfLink" text? = some m.selfLink :=
    latest_written hnodup (by simp [jsonFields]) fun s _ => nullable_text?_str s
  have huid : latest ms "uid" text? = some m.uid :=
    latest_written hnodup (by simp [jsonFields]) fun s _ => nullable_text?_str s
  rw [ofJson?, toJson_eq, members?, Option.bind_eq_bind, Option.bind_some, hannotations,
    hcreationTimestamp, hdeletionGracePeriodSeconds, hdeletionTimestamp, hfinalizers,
    hgenerateName, hgeneration, hlabels, hmanagedFields, hname, hnamespace, hownerReferences,
    hresourceVersion, hselfLink, huid]
  rfl

end CronSweep
