import CronSweep.Proofs.Cycle.Run

namespace CronSweep

/-- A condition that differs from the one set before in its time only changes nothing. -/
theorem Condition.set_again (a : Condition) (time : Instant) (cs : List Condition) :
    ({ a with lastTransitionTime := time } : Condition).set (a.set cs) = a.set cs := by
  induction cs with
  | nil => simp [set, update]
  | cons c cs ih =>
      by_cases hc : c.type = a.type
      · simp [set, update, hc]
      · simp only [set, if_neg hc, ih]

def Deletions.none : Deletions :=
  ⟨.empty .stuck, .empty .excessSucceeded, .empty .excessFailed⟩

namespace Cycle

def Selected.none : Selected := ⟨[], [], []⟩

theorem completedStatus_again {c c' : Cleaner} {d : Deletions} {now : Instant}
    (hgeneration : c'.metadata.generation = c.metadata.generation)
    (hstatus : c'.status = some (completedStatus c d now)) (later : Instant) :
    completedStatus c' .none later = completedStatus c d now := by
  have hcondition : completedCondition c' later =
      { completedCondition c now with lastTransitionTime := later } := by
    rw [completedCondition, hgeneration]
    rfl
  rw [completedStatus, hstatus, hcondition]
  exact congrArg (fun cs => { completedStatus c d now with conditions := cs })
    (Condition.set_again _ later _)

variable {σ : Type} (client : Client σ) {backoff : Duration} {namespace_ name : String}
  {now : Instant} {s t u : σ} {c : Cleaner} {p : Policy} {listing : List Execution}

theorem run_complete_quiet (hlist : client (.list p.namespace_) s = (.ok listing, t))
    (hselect : select p now listing = .none) (hstatus : c.status = some (completedStatus c .none now)) :
    (complete c p now).run client s =
      ⟨.ok ⟨some p.runInterval, .completed .none⟩, t, [.list p.namespace_], []⟩ := by
  have hclean : (clean p now).run client s = ⟨.ok .none, t, [.list p.namespace_], []⟩ := by
    rw [run_clean_ok client now hlist, hselect]
    rfl
  rw [complete, Plan.run_andThen_ok client (congrArg Run.value hclean), hclean]
  have hwrite := run_writeStatus_same client hstatus t
  rw [Plan.run_andThen_ok client (congrArg Run.value hwrite), hwrite]
  rfl

/-- A cycle that finds nothing to do only looks. -/
theorem run_reconcile_quiet (hfetch : client (.fetch namespace_ name) s = (.ok (some c), t))
    (hp : Policy.ofSpec? c.spec = .ok p) (hlist : client (.list p.namespace_) t = (.ok listing, u))
    (hselect : select p now listing = .none)
    (hstatus : c.status = some (completedStatus c .none now)) :
    (reconcile backoff namespace_ name now).run client s =
      ⟨.ok ⟨some p.runInterval, .completed .none⟩, u,
        [.fetch namespace_ name, .list p.namespace_], [.cycle .completed]⟩ := by
  rw [run_reconcile, run_course_valid client hfetch hp,
    run_complete_quiet client hlist hselect hstatus]
  rfl

end Cycle

end CronSweep
