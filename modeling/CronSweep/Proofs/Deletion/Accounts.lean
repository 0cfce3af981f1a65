import CronSweep.Proofs.Deletion.Unseen
import CronSweep.Proofs.Plan.Log

namespace CronSweep

namespace Exchange

def deleted : Exchange → Bool
  | ⟨.delete _, .ok ()⟩ => true
  | _ => false

def failure? : Exchange → Option DeleteFailure
  | ⟨.delete _, .error .notFound⟩ => none
  | ⟨.delete e, .error error⟩ => some ⟨e.name, error⟩
  | _ => none

end Exchange

structure Outcome.Accounts (o : Outcome) (log : List Exchange) : Prop where
  calls : ∀ x ∈ log, x.call.isDelete = true
  deleted : o.deleted = log.countP (·.deleted)
  failures : o.failures = log.filterMap (·.failure?)

structure Deletions.Accounts (d : Deletions) (log : List Exchange) : Prop where
  calls : ∀ x ∈ log, x.call.isDelete = true
  total : d.total = log.countP (·.deleted)
  failures : d.failures = log.filterMap (·.failure?)

theorem accounts_empty (category : Category) : (Outcome.empty category).Accounts [] :=
  ⟨fun _ => nofun, rfl, rfl⟩

theorem Outcome.Accounts.record {o : Outcome} {log : List Exchange} (h : o.Accounts log)
    (e : Execution) (answer : Except ClientError Unit) :
    (o.record e.name answer).Accounts (⟨.delete e, answer⟩ :: log) := by
  have hcalls : ∀ x ∈ (⟨.delete e, answer⟩ :: log : List Exchange), x.call.isDelete = true :=
    List.forall_mem_cons.mpr ⟨rfl, h.calls⟩
  rcases answer with error | ⟨⟩
  · cases error with
    | notFound => exact ⟨hcalls, h.deleted, h.failures⟩
    | conflict | api | transport | serialization =>
        exact ⟨hcalls, h.deleted, congrArg (_ :: ·) h.failures⟩
  · refine ⟨hcalls, ?_, h.failures⟩
    rw [List.countP_cons_of_pos rfl, ← h.deleted]
    rfl

theorem deleteAll_cons_cases {category : Category} {e : Execution} {es : List Execution}
    {seen : Seen} (he : e.key ∉ seen) {log : List Exchange} {r : Outcome × Seen}
    (h : (deleteAll category (e :: es) seen).Ends log r) :
    ∃ answer rest later, log = ⟨.delete e, answer⟩ :: rest ∧
      (deleteAll category es (e.key :: seen)).Ends rest later ∧
      r = (later.1.record e.name answer, later.2) := by
  rw [deleteAll, if_neg he] at h
  obtain ⟨answer, rest, rfl, hrest⟩ := Plan.ends_ask_iff.mp h
  rcases answer with error | ⟨⟩
  · cases error with
    | notFound => exact ⟨_, rest, r, rfl, hrest, rfl⟩
    | conflict | api | transport | serialization =>
        obtain ⟨later, hlater, rfl⟩ := Plan.ends_bind_done_iff.mp (Plan.ends_count_iff.mp hrest)
        exact ⟨_, rest, later, rfl, hlater, rfl⟩
  · obtain ⟨later, hlater, rfl⟩ := Plan.ends_bind_done_iff.mp (Plan.ends_count_iff.mp hrest)
    exact ⟨_, rest, later, rfl, hlater, rfl⟩

theorem accounts_deleteAll {category : Category} {es : List Execution} {seen : Seen}
    {log : List Exchange} {r : Outcome × Seen} (h : (deleteAll category es seen).Ends log r) :
    r.1.Accounts log := by
  induction es generalizing seen log r with
  | nil =>
      obtain ⟨rfl, rfl⟩ := Plan.ends_done_iff.mp h
      exact accounts_empty category
  | cons e es ih =>
      by_cases he : e.key ∈ seen
      · rw [deleteAll, if_pos he] at h
        exact ih h
      · obtain ⟨answer, rest, later, rfl, hrest, rfl⟩ := deleteAll_cons_cases he h
        exact (ih hrest).record e answer

end CronSweep
