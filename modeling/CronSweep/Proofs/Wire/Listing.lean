import CronSweep.Proofs.Cycle.Condemned
import CronSweep.Proofs.Json.Field
import CronSweep.Wire.Reply
import Mathlib.Data.Option.Basic

namespace CronSweep.Wire

/-- A job that an owner reference ties to a cron job and that counts as active or ended. -/
structure Job.RunOf (job : Job) (cronJob : String) : Prop where
  owned : ∃ os o, job.metadata.ownerReferences = some os ∧ o ∈ os ∧ o.kind = "CronJob" ∧
    o.name = cronJob
  counted : ∃ s n, job.status = some s ∧
    (s.active = some n ∨ s.succeeded = some n ∨ s.failed = some n) ∧ 0 < n

theorem counted_pos {n : Option Int32} (h : 0 < counted n) : ∃ m, n = some m ∧ 0 < m := by
  cases n with
  | none => cases h
  | some m =>
      refine ⟨m, rfl, Int32.lt_iff_toInt_lt.mpr ?_⟩
      rw [UInt32.lt_iff_toNat_lt, counted, Option.getD_some, UInt32.toNat_ofNat'] at h
      by_contra hm
      rw [Int32.toInt_zero, not_lt] at hm
      rw [Int.toNat_of_nonpos hm] at h
      cases h

theorem Job.runOf_of_execution {job : Job} {cronJob : String}
    (howned : job.execution.isOwnedBy Execution.cronJobKind cronJob = true)
    (hphase : Selection.phase job.execution ≠ .unclassified) : job.RunOf cronJob := by
  constructor
  · rw [Execution.isOwnedBy, List.any_eq_true] at howned
    obtain ⟨owner, howner, hname⟩ := howned
    obtain ⟨o, ho, rfl⟩ := List.mem_map.mp howner
    simp only [Bool.and_eq_true, beq_iff_eq] at hname
    cases hos : job.metadata.ownerReferences with
    | none =>
        rw [hos] at ho
        cases ho
    | some os =>
        rw [hos] at ho
        exact ⟨os, o, rfl, ho, hname⟩
  · have hpos : 0 < job.execution.active ∨ 0 < job.execution.succeeded ∨
        0 < job.execution.failed := by
      by_contra hnone
      simp only [not_or] at hnone
      simp [Selection.phase, hnone] at hphase
    cases hs : job.status with
    | none =>
        simp only [execution, hs] at hpos
        rcases hpos with h | h | h <;> cases h
    | some s =>
        simp only [execution, hs, Option.bind_some] at hpos
        rcases hpos with h | h | h
        · obtain ⟨n, hn, hlt⟩ := counted_pos h
          exact ⟨s, n, rfl, .inl hn, hlt⟩
        · obtain ⟨n, hn, hlt⟩ := counted_pos h
          exact ⟨s, n, rfl, .inr (.inl hn), hlt⟩
        · obtain ⟨n, hn, hlt⟩ := counted_pos h
          exact ⟨s, n, rfl, .inr (.inr hn), hlt⟩

theorem exists_item_of_jobs? {j : Json} {jobs : List Job} {job : Job} (h : jobs? j = some jobs)
    (hjob : job ∈ jobs) :
    ∃ ms items item, j = .obj ms ∧ ("items", .arr items) ∈ ms ∧ item ∈ items ∧
      Job.ofJson? item = some job := by
  simp only [jobs?, Option.bind_eq_bind, Option.bind_eq_some_iff] at h
  obtain ⟨ms, hms, -, -, -, -, found, hfound, hjobs⟩ := h
  obtain ⟨v, hfilled, hdecode⟩ := Json.Slot.required_eq_some_iff.mp hfound
  obtain ⟨name, hname, hmem⟩ := (Json.Slot.ofMembers_eq_filled_iff.mp hfilled).mem
  obtain rfl := List.mem_singleton.mp hname
  cases found with
  | none =>
      cases hjobs
      cases hjob
  | some found =>
      cases hjobs
      obtain ⟨-, hlist⟩ := Json.nullable_eq_some_some_iff.mp hdecode
      obtain ⟨items, hitems, hall⟩ := Json.list?_eq_some_iff.mp hlist
      obtain ⟨item, hitem, hjson⟩ := exists_mem_of_forall₂ hall hjob
      exact ⟨ms, items, item, Json.members?_eq_some_iff.mp hms, hitems ▸ hmem, hitem, hjson⟩

end CronSweep.Wire
