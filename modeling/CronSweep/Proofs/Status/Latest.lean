import CronSweep.Cleaner
import Mathlib.Data.List.DropRight

namespace CronSweep.Condition

/-- The longest block at the end that all has the status. -/
def finalRun (status : ConditionStatus) (cs : List Condition) : List Condition :=
  cs.rtakeWhile (·.status = status)

/-- What has been said of one type, put into one condition: what was said last, since the first of
the final run with that status. -/
def latest (said : List Condition) : Option Condition :=
  said.getLast?.bind fun last =>
    (finalRun last.status said).head?.map fun first =>
      { last with lastTransitionTime := first.lastTransitionTime }

theorem finalRun_concat (cs : List Condition) (c : Condition) :
    finalRun c.status (cs ++ [c]) = finalRun c.status cs ++ [c] :=
  List.rtakeWhile_concat_pos _ _ _ (decide_eq_true rfl)

theorem finalRun_concat_of_ne {status : ConditionStatus} {c : Condition} (h : c.status ≠ status)
    (cs : List Condition) : finalRun status (cs ++ [c]) = [] :=
  List.rtakeWhile_concat_neg _ _ _ (by simpa using h)

theorem latest_concat (said : List Condition) (c : Condition) :
    latest (said ++ [c]) = some { c with
      lastTransitionTime :=
        (((finalRun c.status said).head?.map (·.lastTransitionTime)).getD c.lastTransitionTime) } := by
  rw [latest, List.getLast?_concat, Option.bind_some, finalRun_concat]
  cases finalRun c.status said <;> rfl

theorem exists_latest_concat (said : List Condition) (c : Condition) :
    ∃ first, (finalRun c.status (said ++ [c])).head? = some first ∧
      latest (said ++ [c]) = some { c with lastTransitionTime := first.lastTransitionTime } := by
  rw [latest_concat, finalRun_concat]
  cases finalRun c.status said with
  | nil => exact ⟨c, rfl, rfl⟩
  | cons first rest => exact ⟨first, rfl, rfl⟩

/-- One more thing said updates the condition as a call does. -/
theorem latest_concat_eq_update (said : List Condition) (c : Condition) :
    latest (said ++ [c]) = some ((latest said).elim c (·.update c)) := by
  rw [latest_concat]
  rcases said.eq_nil_or_concat' with rfl | ⟨front, last, rfl⟩
  · rfl
  · rw [latest_concat, Option.elim_some, update]
    by_cases hstatus : last.status = c.status
    · rw [if_pos hstatus, ← hstatus, finalRun_concat]
      cases finalRun last.status front <;> rfl
    · rw [if_neg hstatus, finalRun_concat_of_ne hstatus]
      rfl

end CronSweep.Condition
