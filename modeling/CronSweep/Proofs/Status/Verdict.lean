import CronSweep.Cycle
import CronSweep.Proofs.Status.Latest

namespace CronSweep

/-- What a condition says, apart from its type and its time. -/
structure Verdict where
  status : ConditionStatus
  reason : String
  message : String
  observedGeneration : Option Int64
deriving DecidableEq

def Condition.verdict (c : Condition) : Verdict :=
  ⟨c.status, c.reason, c.message, c.observedGeneration⟩

def Verdict.since (v : Verdict) (time : Instant) : Condition :=
  ⟨Cycle.readyType, v.status, v.reason, v.message, time, v.observedGeneration⟩

def Cycle.completedVerdict (c : Cleaner) : Verdict :=
  ⟨.holds, "CycleCompleted", "cleanup cycle completed", c.metadata.generation⟩

def Cycle.invalidVerdict (c : Cleaner) (error : SpecError) : Verdict :=
  ⟨.fails, "InvalidSpec", error.message, c.metadata.generation⟩

def Cycle.verdict? (c : Cleaner) : Except CycleError Report → Option Verdict
  | .ok ⟨_, .completed _⟩ => some (completedVerdict c)
  | .ok ⟨_, .invalidSpec e⟩ => some (invalidVerdict c e)
  | .ok ⟨_, .missing⟩ | .error _ => none

theorem Deletions.conditions_applyTo (d : Deletions) (s : Status) (now : Instant) :
    (d.applyTo s now).conditions = s.conditions := by
  rw [applyTo]
  split <;> rfl

theorem Cycle.conditions_completedStatus (c : Cleaner) (d : Deletions) (now : Instant) :
    (completedStatus c d now).conditions =
      ((completedVerdict c).since now).set (c.status.getD .initial).conditions :=
  congrArg (((completedVerdict c).since now).set ·) (d.conditions_applyTo _ now)

theorem Cycle.conditions_invalidStatus (c : Cleaner) (error : SpecError) (now : Instant) :
    (invalidStatus c error now).conditions =
      ((invalidVerdict c error).since now).set (c.status.getD .initial).conditions :=
  rfl

structure Finding where
  now : Instant
  verdict : Verdict

def Finding.condition (f : Finding) : Condition := f.verdict.since f.now

/-- The condition that findings in their order come to: what the last of them says, since the first
of the final run with its status. -/
def standing (fs : List Finding) : Option Condition :=
  Condition.latest (fs.map Finding.condition)

namespace Condition

theorem set_append_of_forall_ne {new : Condition} {cs : List Condition}
    (h : ∀ c ∈ cs, c.type ≠ new.type) (ds : List Condition) :
    new.set (cs ++ ds) = cs ++ new.set ds := by
  induction cs with
  | nil => rfl
  | cons c cs ih =>
      obtain ⟨hc, hcs⟩ := List.forall_mem_cons.mp h
      rw [List.cons_append, set, if_neg hc, ih hcs, List.cons_append]

theorem update_eq_self_iff {old new : Condition} (htype : old.type = new.type) :
    old.update new = old ↔ old.verdict = new.verdict := by
  cases old
  cases new
  cases htype
  simp only [update, verdict, mk.injEq, Verdict.mk.injEq, true_and]
  constructor
  · rintro ⟨rfl, rfl, rfl, -, rfl⟩
    exact ⟨rfl, rfl, rfl, rfl⟩
  · rintro ⟨rfl, rfl, rfl, rfl⟩
    exact ⟨rfl, rfl, rfl, if_pos rfl, rfl⟩

/-- Only a verdict that is new makes a difference. -/
theorem set_eq_self_iff {new : Condition} {cs : List Condition} :
    new.set cs = cs ↔ (cs.find? (·.type = new.type)).map verdict = some new.verdict := by
  induction cs with
  | nil => simp [set]
  | cons c cs ih =>
      by_cases hc : c.type = new.type
      · simp [set, hc, update_eq_self_iff]
      · simp [set, hc, ih]

end Condition

theorem standing_concat (fs : List Finding) (f : Finding) :
    standing (fs ++ [f]) = some (f.verdict.since
      (((Condition.finalRun f.verdict.status (fs.map Finding.condition)).head?.map
        (·.lastTransitionTime)).getD f.now)) := by
  rw [standing, List.map_append]
  exact Condition.latest_concat (fs.map Finding.condition) f.condition

theorem type_of_standing {fs : List Finding} {c : Condition} (h : standing fs = some c) :
    c.type = Cycle.readyType := by
  rcases fs.eq_nil_or_concat' with rfl | ⟨front, last, rfl⟩
  · cases h
  · rw [standing_concat] at h
    cases h
    rfl

/-- One more finding updates the condition as any cycle does. -/
theorem toList_standing_concat (fs : List Finding) (f : Finding) :
    (standing (fs ++ [f])).toList = (f.verdict.since f.now).set (standing fs).toList := by
  have hupdate : standing (fs ++ [f]) =
      some ((standing fs).elim f.condition (·.update f.condition)) := by
    rw [standing, List.map_append]
    exact Condition.latest_concat_eq_update (fs.map Finding.condition) f.condition
  rw [hupdate]
  cases hstanding : standing fs with
  | none => rfl
  | some c => exact (if_pos (type_of_standing hstanding)).symm

/-- What findings make of conditions none of which is of their type. -/
theorem foldl_set_eq_append_standing {cs : List Condition}
    (h : ∀ c ∈ cs, c.type ≠ Cycle.readyType) (fs : List Finding) :
    fs.foldl (fun cs f => (f.verdict.since f.now).set cs) cs = cs ++ (standing fs).toList := by
  induction fs using List.reverseRecOn with
  | nil => exact (List.append_nil cs).symm
  | append_singleton fs f ih =>
      rw [List.foldl_append, ih, List.foldl_cons, List.foldl_nil, Condition.set_append_of_forall_ne h,
        toList_standing_concat]

end CronSweep
