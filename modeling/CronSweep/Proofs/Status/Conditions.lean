import CronSweep.Proofs.Status.Verdict
import Mathlib.Data.List.Nodup

namespace CronSweep

namespace Condition

theorem find?_set (new : Condition) (cs : List Condition) (t : String) :
    (new.set cs).find? (·.type = t) =
      if new.type = t then some ((cs.find? (·.type = t)).elim new (·.update new))
      else cs.find? (·.type = t) := by
  induction cs with
  | nil => by_cases hnew : new.type = t <;> simp [set, hnew]
  | cons c cs ih =>
      by_cases hc : c.type = new.type
      · by_cases hnew : new.type = t <;> simp [set, update, hc, hnew]
      · by_cases ht : c.type = t
        · subst ht
          simp [set, hc, Ne.symm hc]
        · simp [set, hc, ht, ih]

/-- Also where a type is there twice, setting another one leaves it alone. -/
theorem filter_set_of_ne {new : Condition} {t : String} (h : new.type ≠ t) (cs : List Condition) :
    (new.set cs).filter (·.type = t) = cs.filter (·.type = t) := by
  induction cs with
  | nil => simp [set, h]
  | cons c cs ih =>
      by_cases hc : c.type = new.type
      · simp [set, update, hc, h]
      · simp [set, hc, List.filter_cons, ih]

theorem map_type_set (new : Condition) (cs : List Condition) :
    (new.set cs).map (·.type) =
      if new.type ∈ cs.map (·.type) then cs.map (·.type) else cs.map (·.type) ++ [new.type] := by
  induction cs with
  | nil => rfl
  | cons c cs ih =>
      by_cases hc : c.type = new.type
      · simp [set, update, hc]
      · have hc' : new.type ≠ c.type := fun h => hc h.symm
        simp only [set, hc, if_false, List.map_cons, ih, List.mem_cons, hc', false_or]
        split <;> rfl

end Condition

namespace Status

open Condition

def types (s : Status) : List String := s.conditions.map (·.type)

def setAll (s : Status) (calls : List Condition) : Status := calls.foldl setCondition s

/-- All that is said of a type: the condition that was there, if any, and the calls for it. -/
def said (s : Status) (calls : List Condition) (t : String) : List Condition :=
  (s.condition? t).toList ++ calls.filter (·.type = t)

variable (s : Status) (calls : List Condition) (t : String)

theorem setAll_concat (c : Condition) : s.setAll (calls ++ [c]) = (s.setAll calls).setCondition c :=
  List.foldl_concat ..

theorem condition?_setCondition (c : Condition) :
    (s.setCondition c).condition? t =
      if c.type = t then some ((s.condition? t).elim c (·.update c)) else s.condition? t :=
  find?_set c s.conditions t

/-- Calls for other types come between without being noticed. -/
theorem condition?_setAll : (s.setAll calls).condition? t = latest (s.said calls t) := by
  induction calls using List.reverseRecOn with
  | nil =>
      change s.condition? t = latest ((s.condition? t).toList ++ [])
      cases s.condition? t with
      | none => rfl
      | some c => exact (latest_concat [] c).symm
  | append_singleton calls c ih =>
      rw [setAll_concat, condition?_setCondition, ih]
      by_cases hc : c.type = t
      · have hsaid : s.said (calls ++ [c]) t = s.said calls t ++ [c] := by simp [said, hc]
        rw [if_pos hc, hsaid, latest_concat_eq_update]
      · have hsaid : s.said (calls ++ [c]) t = s.said calls t := by simp [said, hc]
        rw [if_neg hc, hsaid]

theorem filter_conditions_setAll (h : t ∉ calls.map (·.type)) :
    (s.setAll calls).conditions.filter (·.type = t) = s.conditions.filter (·.type = t) := by
  induction calls generalizing s with
  | nil => rfl
  | cons c calls ih =>
      rw [List.map_cons, List.mem_cons, not_or] at h
      exact (ih (s.setCondition c) h.2).trans (filter_set_of_ne (Ne.symm h.1) s.conditions)

theorem types_setCondition (c : Condition) :
    (s.setCondition c).types = if c.type ∈ s.types then s.types else s.types ++ [c.type] :=
  map_type_set c s.conditions

theorem types_setAll : (s.setAll calls).types =
    s.types ++ ((calls.map (·.type)).filter (· ∉ s.types)).eraseDups := by
  induction calls generalizing s with
  | nil => exact (List.append_nil _).symm
  | cons c calls ih =>
      have hrest : (s.setAll (c :: calls)).types = ((s.setCondition c).setAll calls).types := rfl
      rw [hrest, ih, types_setCondition]
      by_cases hc : c.type ∈ s.types
      · simp [hc]
      · simp [hc, List.eraseDups_cons, List.filter_filter, beq_eq_decide, Bool.and_comm]

theorem nodup_types_setCondition {s : Status} (h : s.types.Nodup) (c : Condition) :
    (s.setCondition c).types.Nodup := by
  rw [types_setCondition]
  split
  · exact h
  · next hc => exact h.append (List.nodup_singleton _) (List.disjoint_singleton.mpr hc)

theorem nodup_types_setAll {s : Status} (h : s.types.Nodup) (calls : List Condition) :
    (s.setAll calls).types.Nodup := by
  induction calls generalizing s with
  | nil => exact h
  | cons c calls ih => exact ih (nodup_types_setCondition h c)

theorem setAll_with_conditions : { s.setAll calls with conditions := s.conditions } = s := by
  induction calls generalizing s with
  | nil => rfl
  | cons c calls ih =>
      exact congrArg (fun r : Status => { r with conditions := s.conditions }) (ih (s.setCondition c))

/-- Saying again what was said last changes nothing. -/
theorem setCondition_setAll_of_said {s : Status} {calls front : List Condition} {last : Condition}
    (h : s.said calls last.type = front ++ [last]) :
    (s.setAll calls).setCondition last = s.setAll calls := by
  have hfound := s.condition?_setAll calls last.type
  rw [h, latest_concat] at hfound
  have hset : last.set (s.setAll calls).conditions = (s.setAll calls).conditions :=
    set_eq_self_iff.mpr (congrArg (Option.map verdict) hfound)
  rw [setCondition, hset]

theorem condition?_setCondition_comm {a b : Condition} (h : a.type ≠ b.type) :
    ((s.setCondition a).setCondition b).condition? t =
      ((s.setCondition b).setCondition a).condition? t := by
  simp only [condition?_setCondition]
  by_cases ha : a.type = t
  · subst ha
    simp [Ne.symm h]
  · simp [ha]

/-- The conditions are a map from types, in the order in which the types were first set. Under a type
stands what was said of it last, since the first time of the final run with the same status, whatever
was said of other types in between; what was never set stays as it was. -/
theorem setAll_by_type :
    let after := s.setAll calls
    { after with conditions := s.conditions } = s ∧
    after.types = s.types ++ ((calls.map (·.type)).filter (· ∉ s.types)).eraseDups ∧
    (s.types.Nodup → after.types.Nodup) ∧
    (∀ t, t ∉ calls.map (·.type) →
      after.conditions.filter (·.type = t) = s.conditions.filter (·.type = t)) ∧
    (∀ t last, (calls.filter (·.type = t)).getLast? = some last →
      (∃ first, (finalRun last.status (s.said calls t)).head? = some first ∧
        after.condition? t =
          some { last with lastTransitionTime := first.lastTransitionTime }) ∧
      after.setCondition last = after) ∧
    ∀ a b, a.type ≠ b.type → ∀ t,
      ((s.setCondition a).setCondition b).condition? t =
        ((s.setCondition b).setCondition a).condition? t := by
  intro after
  refine ⟨s.setAll_with_conditions calls, s.types_setAll calls, fun h => nodup_types_setAll h calls,
    fun t => s.filter_conditions_setAll calls t, fun t last hlast => ?_,
    fun a b h t => s.condition?_setCondition_comm t h⟩
  obtain ⟨front, hfront⟩ := List.getLast?_eq_some_iff.mp hlast
  have hsaid : s.said calls t = ((s.condition? t).toList ++ front) ++ [last] := by
    rw [said, hfront, List.append_assoc]
  have htype : last.type = t := by
    have hmem : last ∈ calls.filter (·.type = t) := by rw [hfront]; exact List.mem_concat_self
    simpa using (List.mem_filter.mp hmem).2
  refine ⟨?_, setCondition_setAll_of_said (htype ▸ hsaid)⟩
  rw [s.condition?_setAll calls t, hsaid]
  exact exists_latest_concat _ last

def entry (type : String) (status : ConditionStatus) (reason : String) (second : Fin 60) :
    Condition :=
  ⟨type, status, reason, "", ⟨second, 0, .inl (by decide), by omega, by omega⟩, none⟩

def noted : Status :=
  ⟨none, 3, 3, [entry "Ready" .holds "Started" 10, entry "Stale" .unknown "NoNews" 11]⟩

def flips : List Condition :=
  [entry "Ready" .fails "Broken" 20, entry "Paused" .holds "Asked" 21,
    entry "Ready" .holds "Mended" 22, entry "Ready" .holds "Again" 23]

/-- Ready again since it was mended, with the last reason. -/
theorem flips_noted :
    noted.types.Nodup ∧ "Stale" ∉ flips.map (·.type) ∧
      (flips.filter (·.type = "Ready")).getLast? = some (entry "Ready" .holds "Again" 23) ∧
      (noted.setAll flips).types = ["Ready", "Stale", "Paused"] ∧
      (noted.setAll flips).types.Nodup ∧
      (noted.setAll flips).conditions.filter (·.type = "Stale") =
        [entry "Stale" .unknown "NoNews" 11] ∧
      (noted.setAll flips).condition? "Ready" = some (entry "Ready" .holds "Again" 22) ∧
      (noted.setAll flips).setCondition (entry "Ready" .holds "Again" 23) = noted.setAll flips ∧
      ((noted.setCondition (entry "Paused" .holds "Asked" 21)).setCondition
          (entry "Ready" .fails "Broken" 20)).condition? "Ready" =
        ((noted.setCondition (entry "Ready" .fails "Broken" 20)).setCondition
          (entry "Paused" .holds "Asked" 21)).condition? "Ready" := by
  have hnodup : noted.types.Nodup := by decide
  have hstale : "Stale" ∉ flips.map (·.type) := by decide
  have hlast : (flips.filter (·.type = "Ready")).getLast? =
      some (entry "Ready" .holds "Again" 23) := by decide
  obtain ⟨-, htypes, hdistinct, hkept, hset, hcomm⟩ := setAll_by_type noted flips
  obtain ⟨⟨first, hfirst, hready⟩, hagain⟩ := hset _ _ hlast
  have hsince : (finalRun .holds (noted.said flips "Ready")).head? =
      some (entry "Ready" .holds "Mended" 22) := by decide
  cases hfirst.symm.trans hsince
  exact ⟨hnodup, hstale, hlast, htypes.trans (by decide), hdistinct hnodup,
    (hkept _ hstale).trans (by decide), hready, hagain, hcomm _ _ (by decide) _⟩

end Status

end CronSweep
