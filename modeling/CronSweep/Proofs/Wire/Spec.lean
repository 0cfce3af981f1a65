import CronSweep.Proofs.Json.Coding
import CronSweep.Wire.Cleaner

namespace CronSweep

open Json

/-- What can be written for a retention: an object with one of the names of each field, in any
order and next to other members, or an array. -/
def Retention.Spelled (r : Retention) : Json → Prop
  | .obj ms =>
      Holds ["successfulJobs", "successful"] ms (.int r.successfulJobs.toInt) ∧
        Holds ["failedJobs", "failed"] ms (.int r.failedJobs.toInt)
  | .arr xs => xs = [.int r.successfulJobs.toInt, .int r.failedJobs.toInt]
  | _ => False

/-- A field that has its default can be left out, of an array at its end. -/
def StuckCleanup.Spelled (s : StuckCleanup) : Json → Prop
  | .obj ms =>
      (Holds ["enabled"] ms (.bool s.enabled) ∨ (Lacks ["enabled"] ms ∧ s.enabled = false)) ∧
        (Holds ["stuckAfter"] ms (.str s.stuckAfter) ∨
          (Lacks ["stuckAfter"] ms ∧ s.stuckAfter = ""))
  | .arr xs =>
      xs = [.bool s.enabled, .str s.stuckAfter] ∨
        (xs = [.bool s.enabled] ∧ s.stuckAfter = "") ∨
        (xs = [] ∧ s.enabled = false ∧ s.stuckAfter = "")
  | _ => False

def Spec.Spelled (s : Spec) : Json → Prop
  | .obj ms =>
      Holds ["namespace"] ms (.str s.namespace_) ∧
        Holds ["cronJobName", "targetWorkloadName"] ms (.str s.cronJobName) ∧
        (∃ retain, Holds ["retain"] ms retain ∧ s.retain.Spelled retain) ∧
        ((∃ cleanup, Holds ["cleanupStuck"] ms cleanup ∧ s.cleanupStuck.Spelled cleanup) ∨
          (Lacks ["cleanupStuck"] ms ∧ s.cleanupStuck = .off)) ∧
        Holds ["runInterval"] ms (.str s.runInterval)
  | .arr [namespace_, cronJobName, retain, cleanupStuck, runInterval] =>
      namespace_ = .str s.namespace_ ∧ cronJobName = .str s.cronJobName ∧
        s.retain.Spelled retain ∧ s.cleanupStuck.Spelled cleanupStuck ∧
        runInterval = .str s.runInterval
  | _ => False

theorem Retention.ofJson?_eq_some_iff {j : Json} {r : Retention} :
    ofJson? j = some r ↔ r.Spelled j := by
  rcases r with ⟨successfulJobs, failedJobs⟩
  cases j with
  | obj ms =>
      simp [ofJson?, Spelled, isRecord, slot, Slot.required_eq_some_iff,
        Slot.ofMembers_eq_filled_iff, int32?_eq_some_iff, Option.bind_eq_some_iff]
  | arr xs =>
      rcases xs with _ | ⟨x, _ | ⟨y, _ | ⟨z, xs⟩⟩⟩ <;>
        simp [ofJson?, Spelled, isRecord, slot, Slot.required, int32?_eq_some_iff,
          Option.bind_eq_some_iff]
  | null | bool | int | real | str | unusable => simp [ofJson?, Spelled, isRecord]

theorem StuckCleanup.ofJson?_eq_some_iff {j : Json} {s : StuckCleanup} :
    ofJson? j = some s ↔ s.Spelled j := by
  rcases s with ⟨enabled, stuckAfter⟩
  cases j with
  | obj ms =>
      simp [ofJson?, Spelled, isRecord, slot, Slot.withDefault_eq_some_iff,
        Slot.ofMembers_eq_filled_iff, Slot.ofMembers_eq_missing_iff, text?_eq_some_iff,
        bool?_eq_some_iff, Option.bind_eq_some_iff, or_comm]
  | arr xs =>
      cases enabled <;> rcases xs with _ | ⟨x, _ | ⟨y, _ | ⟨z, xs⟩⟩⟩ <;>
        simp [ofJson?, Spelled, isRecord, slot, Slot.withDefault, text?_eq_some_iff,
          bool?_eq_some_iff, Option.bind_eq_some_iff]
  | null | bool | int | real | str | unusable => simp [ofJson?, Spelled, isRecord]

theorem Spec.ofJson?_eq_some_iff {j : Json} {s : Spec} : ofJson? j = some s ↔ s.Spelled j := by
  rcases s with ⟨namespace_, cronJobName, retain, cleanupStuck, runInterval⟩
  cases j with
  | obj ms =>
      simp [ofJson?, Spelled, isRecord, slot, Slot.required_eq_some_iff,
        Slot.withDefault_eq_some_iff, Slot.ofMembers_eq_filled_iff, Slot.ofMembers_eq_missing_iff,
        text?_eq_some_iff, Retention.ofJson?_eq_some_iff, StuckCleanup.ofJson?_eq_some_iff,
        Option.bind_eq_some_iff, or_comm]
  | arr xs =>
      -- Only the last field has no default, so that arrays of any other length are not taken.
      rcases xs with _ | ⟨x, _ | ⟨y, _ | ⟨z, _ | ⟨v, _ | ⟨w, _ | ⟨u, xs⟩⟩⟩⟩⟩⟩ <;>
        simp [ofJson?, Spelled, isRecord, slot, Slot.required, Slot.withDefault,
          text?_eq_some_iff, Retention.ofJson?_eq_some_iff, StuckCleanup.ofJson?_eq_some_iff,
          Option.bind_eq_some_iff]
  | null | bool | int | real | str | unusable => simp [ofJson?, Spelled, isRecord]

theorem Retention.spelled_toJson (r : Retention) : r.Spelled r.toJson := by
  simp [Spelled, toJson, ← Slot.ofMembers_eq_filled_iff, Slot.ofMembers]

theorem StuckCleanup.spelled_toJson (s : StuckCleanup) : s.Spelled s.toJson := by
  simp [Spelled, toJson, ← Slot.ofMembers_eq_filled_iff, Slot.ofMembers]

theorem Spec.spelled_toJson (s : Spec) : s.Spelled s.toJson := by
  simp [Spelled, toJson, ← Slot.ofMembers_eq_filled_iff, Slot.ofMembers, s.retain.spelled_toJson,
    s.cleanupStuck.spelled_toJson]

theorem Spec.ofJson?_toJson (s : Spec) : ofJson? s.toJson = some s :=
  ofJson?_eq_some_iff.mpr s.spelled_toJson

theorem Spec.ofJson?_of_aliases {ms : List (String × Json)} {v w : Json}
    (hv : ("cronJobName", v) ∈ ms) (hw : ("targetWorkloadName", w) ∈ ms) :
    ofJson? (.obj ms) = none := by
  rw [Option.eq_none_iff_forall_ne_some]
  intro s hs
  obtain ⟨-, hholds, -⟩ := ofJson?_eq_some_iff.mp hs
  exact not_holds_of_aliases (by decide) (by decide) (by decide) hv hw hholds

theorem Retention.ofJson?_of_aliases {ms : List (String × Json)} {v w : Json}
    (h : (("successfulJobs", v) ∈ ms ∧ ("successful", w) ∈ ms) ∨
      (("failedJobs", v) ∈ ms ∧ ("failed", w) ∈ ms)) : ofJson? (.obj ms) = none := by
  rw [Option.eq_none_iff_forall_ne_some]
  intro r hr
  obtain ⟨hsuccessful, hfailed⟩ := ofJson?_eq_some_iff.mp hr
  rcases h with ⟨hv, hw⟩ | ⟨hv, hw⟩
  · exact not_holds_of_aliases (by decide) (by decide) (by decide) hv hw hsuccessful
  · exact not_holds_of_aliases (by decide) (by decide) (by decide) hv hw hfailed

end CronSweep
