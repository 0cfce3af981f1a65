import CronSweep.Proofs.Json.Coding

namespace CronSweep

open Json

theorem ConditionStatus.ofSymbol?_symbol (s : ConditionStatus) :
    (Json.str s.symbol).symbol?.bind ofSymbol? = some s := by
  cases s <;> rfl

def Condition.jsonFields (c : Condition) : List (String × Option Json) :=
  [("type", some (.str c.type)), ("status", some (.str c.status.symbol)),
    ("reason", some (.str c.reason)), ("message", some (.str c.message)),
    ("lastTransitionTime", some c.lastTransitionTime.toJson),
    ("observedGeneration", c.observedGeneration.map fun n => .int n.toInt)]

theorem Condition.toJson_eq (c : Condition) : c.toJson = .obj (written c.jsonFields) := by
  rcases c with ⟨_, _, _, _, _, _ | _⟩ <;> rfl

theorem Condition.ofJson?_toJson (c : Condition) : ofJson? c.toJson = some c := by
  have hnodup : (c.jsonFields.map (·.1)).Nodup := by simp [jsonFields]
  let j : Json := .obj (written c.jsonFields)
  have htype : (j.slot 0 ["type"]).required text? = some c.type :=
    required_written hnodup (by simp [jsonFields]) (text?_str c.type)
  have hstatus : (j.slot 1 ["status"]).required
      (fun s => s.symbol?.bind ConditionStatus.ofSymbol?) = some c.status :=
    required_written hnodup (by simp [jsonFields]) c.status.ofSymbol?_symbol
  have hreason : (j.slot 2 ["reason"]).required text? = some c.reason :=
    required_written hnodup (by simp [jsonFields]) (text?_str c.reason)
  have hmessage : (j.slot 3 ["message"]).required text? = some c.message :=
    required_written hnodup (by simp [jsonFields]) (text?_str c.message)
  have htime : (j.slot 4 ["lastTransitionTime"]).required time? = some c.lastTransitionTime :=
    required_written hnodup (by simp [jsonFields]) (time?_toJson c.lastTransitionTime)
  have hgeneration : (j.slot 5 ["observedGeneration"]).withDefault none (nullable int64?) =
      some c.observedGeneration :=
    withDefault_written_map hnodup (by simp [jsonFields]) fun n _ => nullable_int64?_toInt n
  rw [toJson_eq, ofJson?, htype, hstatus, hreason, hmessage, htime, hgeneration]
  rfl

def Status.jsonFields (s : Status) : List (String × Option Json) :=
  [("lastRunTime", s.lastRunTime.map Instant.toJson),
    ("jobsDeleted", some (.int s.jobsDeleted.toNat)),
    ("podsDeleted", some (.int s.podsDeleted.toNat)),
    ("conditions",
      if s.conditions.isEmpty then none else some (.arr (s.conditions.map Condition.toJson)))]

theorem Status.toJson_eq (s : Status) : s.toJson = .obj (written s.jsonFields) := by
  rcases s with ⟨_ | _, _, _, _ | _⟩ <;> rfl

theorem Status.ofJson?_toJson (s : Status) : ofJson? s.toJson = some s := by
  have hnodup : (s.jsonFields.map (·.1)).Nodup := by simp [jsonFields]
  let j : Json := .obj (written s.jsonFields)
  have hlastRunTime : (j.slot 0 ["lastRunTime"]).withDefault none (nullable time?) =
      some s.lastRunTime :=
    withDefault_written_map hnodup (by simp [jsonFields]) fun t _ => nullable_time?_toJson t
  have hjobsDeleted : (j.slot 1 ["jobsDeleted"]).withDefault 0 uint64? = some s.jobsDeleted :=
    withDefault_written hnodup (by simp [jsonFields]) (uint64?_toNat s.jobsDeleted)
  have hpodsDeleted : (j.slot 2 ["podsDeleted"]).withDefault 0 uint64? = some s.podsDeleted :=
    withDefault_written hnodup (by simp [jsonFields]) (uint64?_toNat s.podsDeleted)
  have hconditions : (j.slot 3 ["conditions"]).withDefault [] (list? Condition.ofJson?) =
      some s.conditions := by
    cases hempty : s.conditions.isEmpty with
    | true =>
        rw [List.isEmpty_iff.mp hempty]
        exact withDefault_written_none hnodup (by simp [jsonFields, hempty])
    | false =>
        exact withDefault_written hnodup (by simp [jsonFields, hempty])
          (list?_map fun c _ => c.ofJson?_toJson)
  rw [toJson_eq, ofJson?, hlastRunTime, hjobsDeleted, hpodsDeleted, hconditions]
  rfl

theorem Status.nullable_ofJson?_toJson (s : Status) : nullable ofJson? s.toJson = some (some s) :=
  nullable_eq_some_some_iff.mpr ⟨nofun, s.ofJson?_toJson⟩

end CronSweep
