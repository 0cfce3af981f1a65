import CronSweep.Cycle
import CronSweep.Proofs.Deletion.Accounts
import CronSweep.Proofs.Metrics.Growth
import Mathlib.Algebra.GroupWithZero.Nat

namespace CronSweep

structure Batch where
  category : Category
  executions : List Execution

/-- Batches in turn, none of which asks again for what one before it has asked for. -/
def deleteBatches : List Batch → Seen → Plan (List Outcome)
  | [], _ => .done []
  | b :: bs, seen =>
      (deleteAll b.category b.executions seen).bind fun r =>
        (deleteBatches bs r.2).bind fun os => .done (r.1 :: os)

/-- The deletions of a cycle are three batches. -/
theorem deleteBatches_selected (sel : Cycle.Selected) :
    deleteBatches [⟨.stuck, sel.stuck⟩, ⟨.excessSucceeded, sel.excessSucceeded⟩,
        ⟨.excessFailed, sel.excessFailed⟩] [] =
      (Cycle.deleteSelected sel).bind fun d =>
        .done [d.stuck, d.excessSucceeded, d.excessFailed] := by
  simp only [deleteBatches, Cycle.deleteSelected, Plan.bind_bind, Plan.bind]

def Exchange.gone : Exchange → Bool
  | ⟨.delete _, .error .notFound⟩ => true
  | _ => false

/-- A deletion succeeds, or fails, or there is nothing to delete. -/
theorem length_eq_of_isDelete {log : List Exchange} (h : ∀ x ∈ log, x.call.isDelete = true) :
    log.length =
      log.countP (·.deleted) + (log.filterMap (·.failure?)).length + log.countP (·.gone) := by
  induction log with
  | nil => rfl
  | cons x log ih =>
      obtain ⟨hx, hlog⟩ := List.forall_mem_cons.mp h
      obtain ⟨call, answer⟩ := x
      cases call with
      | fetch | list | updateStatus | publish => cases hx
      | delete e =>
          rcases answer with error | ⟨⟩
          · cases error <;>
              simp [Exchange.deleted, Exchange.failure?, Exchange.gone, ih hlog] <;> omega
          · simp [Exchange.deleted, Exchange.failure?, Exchange.gone, ih hlog]
            omega

/-- A batch and what becomes of it: of its executions those are asked for that none of the `earlier`
ones has the key of, each key once. -/
structure Batch.Settles (b : Batch) (earlier : List Execution) (log : List Exchange) (o : Outcome) :
    Prop where
  category : o.category = b.category
  asked : log.map (·.call) =
    ((b.executions.filter (·.key ∉ earlier.map (·.key))).eraseDupsBy sameKey).map .delete
  accounts : o.Accounts log
  total : log.length = o.deleted + o.failures.length + log.countP (·.gone)

inductive Settled : List Execution → List Batch → List Exchange → List Outcome → Prop
  | nil (earlier) : Settled earlier [] [] []
  | cons {earlier b bs part log o os} (first : b.Settles earlier part o)
      (rest : Settled (earlier ++ b.executions) bs log os) :
      Settled earlier (b :: bs) (part ++ log) (o :: os)

structure Outcome.Counted (o : Outcome) (samples : List Sample) : Prop where
  deleted : ∀ c, samples.count (.deleted c) = if o.category = c then o.deleted else 0
  failed : ∀ c, samples.count (.deleteFailed c) = if o.category = c then o.failures.length else 0

theorem category_record (o : Outcome) (name : String) (answer : Except ClientError Unit) :
    (o.record name answer).category = o.category := by
  rcases answer with error | ⟨⟩
  · cases error <;> rfl
  · rfl

theorem Outcome.Counted.record {o : Outcome} {samples : List Sample} (h : o.Counted samples)
    (name : String) (answer : Except ClientError Unit) :
    (o.record name answer).Counted (deletionSamples o.category answer ++ samples) := by
  have hne (c d : Category) : Sample.deleted c ≠ .deleteFailed d := nofun
  rcases answer with error | ⟨⟩
  · cases error with
    | notFound => exact h
    | conflict | api | transport | serialization =>
        refine ⟨fun c => (List.count_cons_of_ne (hne _ _).symm).trans (h.deleted c), fun c => ?_⟩
        change (Sample.deleteFailed o.category :: samples).count (.deleteFailed c) =
          if o.category = c then o.failures.length + 1 else 0
        rw [List.count_cons, h.failed]
        by_cases hc : o.category = c <;> simp [hc]
  · refine ⟨fun c => ?_, fun c => (List.count_cons_of_ne (hne _ _)).trans (h.failed c)⟩
    change (Sample.deleted o.category :: samples).count (.deleted c) =
      if o.category = c then o.deleted + 1 else 0
    rw [List.count_cons, h.deleted]
    by_cases hc : o.category = c <;> simp [hc]

/-- Seen are the keys of the batches so far, whatever was asked for on the way. -/
theorem mem_seen_iff {earlier es : List Execution} {seen : Seen}
    (h : ∀ key, key ∈ seen ↔ key ∈ earlier.map (·.key)) (key : String × String) :
    key ∈ ((unseen es seen).map (·.key)).reverse ++ seen ↔
      key ∈ (earlier ++ es).map (·.key) := by
  rw [List.mem_append, List.mem_reverse, List.map_append, List.mem_append, ← h]
  constructor
  · rintro (hnew | hold)
    · obtain ⟨e, he, rfl⟩ := List.mem_map.mp hnew
      exact .inr (List.mem_map_of_mem (mem_of_mem_unseen he))
    · exact .inl hold
  · rintro (hold | hnew)
    · exact .inr hold
    · obtain ⟨e, he, rfl⟩ := List.mem_map.mp hnew
      exact (key_mem_unseen seen he).symm

variable {σ : Type} (client : Client σ)

theorem counted_deleteAll (category : Category) (es : List Execution) (seen : Seen) (s : σ) :
    let r := (deleteAll category es seen).run client s
    r.value.1.category = category ∧ r.value.1.Counted r.samples := by
  induction es generalizing seen s with
  | nil => exact ⟨rfl, fun c => (ite_self 0).symm, fun c => (ite_self 0).symm⟩
  | cons e es ih =>
      by_cases he : e.key ∈ seen
      · rw [deleteAll, if_pos he]
        exact ih seen s
      · rcases h : client (.delete e) s with ⟨answer, t⟩
        obtain ⟨hcategory, hcounted⟩ := ih (e.key :: seen) t
        rw [run_deleteAll_cons client he h]
        refine ⟨(category_record ..).trans hcategory, ?_⟩
        have hrecord := hcounted.record e.name answer
        rwa [hcategory] at hrecord

theorem settles_deleteAll (b : Batch) {earlier : List Execution} {seen : Seen}
    (h : ∀ key, key ∈ seen ↔ key ∈ earlier.map (·.key)) (s : σ) :
    let plan := deleteAll b.category b.executions seen
    b.Settles earlier (plan.log client s) (plan.run client s).value.1 := by
  intro plan
  have haccounts : (plan.run client s).value.1.Accounts (plan.log client s) :=
    accounts_deleteAll (plan.ends_log client s)
  refine ⟨(counted_deleteAll ..).1, ?_, haccounts, ?_⟩
  · rw [Plan.calls_log, calls_deleteAll, unseen_eq_eraseDupsBy]
    simp only [h]
  · rw [haccounts.deleted, haccounts.failures]
    exact length_eq_of_isDelete haccounts.calls

/-- The first batch is deleted, then the others from where it leaves the cluster. -/
theorem run_deleteBatches_cons (b : Batch) (bs : List Batch) (seen : Seen) (s : σ) :
    (deleteBatches (b :: bs) seen).run client s =
      let first := (deleteAll b.category b.executions seen).run client s
      let rest := (deleteBatches bs first.value.2).run client first.state
      ⟨first.value.1 :: rest.value, rest.state, first.calls ++ rest.calls,
        first.samples ++ rest.samples⟩ := by
  simp [deleteBatches, Plan.run_bind, Plan.run]

theorem log_deleteBatches_cons (b : Batch) (bs : List Batch) (seen : Seen) (s : σ) :
    (deleteBatches (b :: bs) seen).log client s =
      let plan := deleteAll b.category b.executions seen
      let first := plan.run client s
      plan.log client s ++ (deleteBatches bs first.value.2).log client first.state := by
  simp [deleteBatches, Plan.log_bind, Plan.log]

theorem calls_deleteBatches (bs : List Batch) (seen : Seen) (s : σ) :
    ((deleteBatches bs seen).run client s).calls =
      (unseen (bs.flatMap (·.executions)) seen).map .delete := by
  induction bs generalizing seen s with
  | nil => rfl
  | cons b bs ih =>
      rw [run_deleteBatches_cons]
      dsimp only
      rw [ih, calls_deleteAll, seen_deleteAll, List.flatMap_cons, unseen_append, List.map_append]

theorem settled_deleteBatches {bs : List Batch} {earlier : List Execution} {seen : Seen}
    (h : ∀ key, key ∈ seen ↔ key ∈ earlier.map (·.key)) (s : σ) :
    let plan := deleteBatches bs seen
    Settled earlier bs (plan.log client s) (plan.run client s).value := by
  induction bs generalizing earlier seen s with
  | nil => exact .nil earlier
  | cons b bs ih =>
      intro plan
      rw [log_deleteBatches_cons, run_deleteBatches_cons]
      refine .cons (settles_deleteAll client b h s) (ih ?_ _)
      rw [seen_deleteAll]
      exact mem_seen_iff h

theorem count_deleteBatches (bs : List Batch) (seen : Seen) (s : σ) (c : Category) :
    let r := (deleteBatches bs seen).run client s
    let own := r.value.filter (·.category = c)
    r.samples.count (.deleted c) = (own.map (·.deleted)).sum ∧
      r.samples.count (.deleteFailed c) = (own.map (·.failures.length)).sum := by
  induction bs generalizing seen s with
  | nil => exact ⟨rfl, rfl⟩
  | cons b bs ih =>
      rw [run_deleteBatches_cons]
      dsimp only
      obtain ⟨-, hfirst⟩ := counted_deleteAll client b.category b.executions seen s
      generalize (deleteAll b.category b.executions seen).run client s = first at hfirst ⊢
      obtain ⟨hdeleted, hfailed⟩ := ih first.value.2 first.state
      rw [List.count_append, List.count_append, hdeleted, hfailed, hfirst.deleted, hfirst.failed]
      by_cases hc : first.value.1.category = c <;> simp [hc]

/-- Whatever the cluster answers: each key is asked for once, in the order of the batches, and what
is answered for a batch is in its outcome and, category by category, in the metrics. -/
theorem deleteBatches_settled (batches : List Batch) (s : σ) :
    let plan := deleteBatches batches []
    let r := plan.run client s
    r.calls = ((batches.flatMap (·.executions)).eraseDupsBy sameKey).map .delete ∧
    Settled [] batches (plan.log client s) r.value ∧
    ∀ c : Category,
      let own := r.value.filter (·.category = c)
      Metrics.raised r.samples (Metrics.counterLine (.deleted c)) = (own.map (·.deleted)).sum ∧
        Metrics.raised r.samples (Metrics.counterLine (.deleteFailed c)) =
          (own.map (·.failures.length)).sum := by
  intro plan r
  refine ⟨?_, settled_deleteBatches client (fun _ => Iff.rfl) s, fun c => ?_⟩
  · have hall (es : List Execution) : es.filter (·.key ∉ ([] : Seen)) = es :=
      List.filter_eq_self.mpr fun _ _ => decide_eq_true List.not_mem_nil
    rw [calls_deleteBatches, unseen_eq_eraseDupsBy, hall]
  · rw [Metrics.raised_counterLine rfl, Metrics.raised_counterLine rfl]
    exact count_deleteBatches client batches [] s c

end CronSweep
