import CronSweep.Cycle
import CronSweep.Proofs.Deletion.Unseen

namespace CronSweep.Cycle

def Selected.all (s : Selected) : List Execution :=
  s.stuck ++ s.excessSucceeded ++ s.excessFailed

variable {σ : Type} (client : Client σ)

theorem calls_deleteSelected (sel : Selected) (s : σ) :
    ((deleteSelected sel).run client s).calls = (unseen sel.all []).map .delete := by
  simp only [deleteSelected, Selected.all, Plan.calls_bind, calls_deleteAll, seen_deleteAll,
    Plan.run, unseen_append, List.map_append, List.append_nil, List.append_assoc]

theorem total_deleteSelected_le (sel : Selected) (s : σ) :
    ((deleteSelected sel).run client s).value.total ≤ (unseen sel.all []).length := by
  have hlength : (unseen sel.all []).length = ((deleteSelected sel).run client s).calls.length := by
    rw [calls_deleteSelected, List.length_map]
  rw [hlength]
  simp only [deleteSelected, Plan.value_bind, Plan.calls_bind, calls_deleteAll, Plan.run,
    List.length_append, List.length_map, List.length_nil, Deletions.total, Nat.add_zero,
    ← Nat.add_assoc]
  exact Nat.add_le_add (Nat.add_le_add (deleted_deleteAll_le ..) (deleted_deleteAll_le ..))
    (deleted_deleteAll_le ..)

theorem run_clean_error {p : Policy} (now : Instant) {e : ClientError} {s t : σ}
    (h : client (.list p.namespace_) s = (.error e, t)) :
    (clean p now).run client s = ⟨.error (.list p.namespace_ e), t, [.list p.namespace_], []⟩ := by
  rw [clean, Plan.run_ask client h, Plan.run]

theorem run_clean_ok {p : Policy} (now : Instant) {listing : List Execution} {s t : σ}
    (h : client (.list p.namespace_) s = (.ok listing, t)) :
    (clean p now).run client s =
      let r := (deleteSelected (select p now listing)).run client t
      ⟨.ok r.value, r.state, .list p.namespace_ :: r.calls, r.samples⟩ := by
  rw [clean, Plan.run_ask client h]
  simp [Plan.run_bind, Plan.run]

theorem run_writeStatus_same {c : Cleaner} {status : Status} (h : c.status = some status) (s : σ) :
    (writeStatus c status).run client s = ⟨.ok false, s, [], []⟩ := by
  rw [writeStatus, if_pos h, Plan.run]

theorem run_writeStatus_new {c : Cleaner} {status : Status} (h : c.status ≠ some status) {s t : σ}
    {answer : Except ClientError Unit} (hupdate : client (.updateStatus c status) s = (answer, t)) :
    (writeStatus c status).run client s =
      ⟨(answer.map fun _ => true).mapError .statusWrite, t, [.updateStatus c status], []⟩ := by
  rw [writeStatus, if_neg h, Plan.run_ask client hupdate]
  cases answer <;> rfl

theorem deletions_writeStatus (c : Cleaner) (status : Status) (s : σ) :
    ((writeStatus c status).run client s).deletions = [] := by
  by_cases hs : c.status = some status
  · rw [run_writeStatus_same client hs]; rfl
  · rcases h : client (.updateStatus c status) s with ⟨answer, t⟩
    rw [run_writeStatus_new client hs h]; rfl

theorem deletions_publishAll (c : Cleaner) (es : List Event) (s : σ) :
    ((publishAll c es).run client s).deletions = [] := by
  induction es generalizing s with
  | nil => rfl
  | cons e es ih => exact ih _

theorem deletions_clean {p : Policy} (now : Instant) {listing : List Execution} {s t : σ}
    (h : client (.list p.namespace_) s = (.ok listing, t)) :
    ((clean p now).run client s).deletions = unseen (select p now listing).all [] := by
  rw [run_clean_ok client now h]
  simp only [Run.deletions, calls_deleteSelected]
  exact filterMap_deleted_map_delete _

/-- Of a whole cycle for a valid spec only the first part deletes. -/
theorem deletions_complete (c : Cleaner) (p : Policy) (now : Instant) (s : σ) :
    ((complete c p now).run client s).deletions = ((clean p now).run client s).deletions := by
  rw [complete, Plan.deletions_andThen]
  intro d t
  rw [Plan.deletions_andThen, deletions_writeStatus]
  intro _ t
  rw [Plan.deletions_bind, deletions_publishAll]
  exact fun _ _ => rfl

theorem total_clean_le {p : Policy} {now : Instant} {s : σ} {d : Deletions}
    (h : ((clean p now).run client s).value = .ok d) :
    d.total ≤ ((clean p now).run client s).deletions.length := by
  rcases hlist : client (.list p.namespace_) s with ⟨answer, t⟩
  cases answer with
  | error e =>
      rw [run_clean_error client now hlist] at h
      cases h
  | ok listing =>
      rw [deletions_clean client now hlist]
      rw [run_clean_ok client now hlist] at h
      cases h
      exact total_deleteSelected_le client _ t

theorem total_le_deletions_complete (c : Cleaner) {p : Policy} {now : Instant} {s : σ}
    {d : Deletions} (h : ((clean p now).run client s).value = .ok d) :
    d.total ≤ ((complete c p now).run client s).deletions.length := by
  rw [deletions_complete]
  exact total_clean_le client h

theorem value_clean_of_completed {c : Cleaner} {p : Policy} {now : Instant} {s : σ} {d : Deletions}
    {wait : Option Duration}
    (h : ((complete c p now).run client s).value = .ok ⟨wait, .completed d⟩) :
    ((clean p now).run client s).value = .ok d := by
  rw [complete] at h
  obtain ⟨d', hclean, h⟩ := Plan.value_andThen_ok client h
  obtain ⟨written, -, h⟩ := Plan.value_andThen_ok client h
  rw [Plan.value_bind, Plan.run] at h
  cases h
  exact hclean

/-- By the time its status is refused a cycle has deleted. -/
theorem exists_clean_of_statusWrite {c : Cleaner} {p : Policy} {now : Instant} {s : σ}
    {e : ClientError} (h : ((complete c p now).run client s).value = .error (.statusWrite e)) :
    ∃ d, ((clean p now).run client s).value = .ok d := by
  rcases hlist : client (.list p.namespace_) s with ⟨e' | listing, t⟩
  · have hclean := run_clean_error client now hlist
    rw [complete, Plan.run_andThen_error client (congrArg Run.value hclean)] at h
    cases h
  · rw [run_clean_ok client now hlist]
    exact ⟨_, rfl⟩

variable {backoff : Duration} {namespace_ name : String} {now : Instant} {s t : σ}

theorem run_course_fetch_error {e : ClientError}
    (h : client (.fetch namespace_ name) s = (.error e, t)) :
    (course backoff namespace_ name now).run client s =
      ⟨.error (.fetch e), t, [.fetch namespace_ name], []⟩ := by
  rw [course, Plan.run_ask client h, Plan.run]

theorem run_course_missing (h : client (.fetch namespace_ name) s = (.ok none, t)) :
    (course backoff namespace_ name now).run client s =
      ⟨.ok ⟨none, .missing⟩, t, [.fetch namespace_ name], []⟩ := by
  rw [course, Plan.run_ask client h, Plan.run]

theorem run_course_valid {c : Cleaner} {p : Policy}
    (h : client (.fetch namespace_ name) s = (.ok (some c), t)) (hp : Policy.ofSpec? c.spec = .ok p) :
    (course backoff namespace_ name now).run client s =
      { (complete c p now).run client t with
        calls := .fetch namespace_ name :: ((complete c p now).run client t).calls } := by
  rw [course, Plan.run_ask client h]
  simp only [hp]

theorem run_course_invalid {c : Cleaner} {e : SpecError}
    (h : client (.fetch namespace_ name) s = (.ok (some c), t))
    (hp : Policy.ofSpec? c.spec = .error e) :
    (course backoff namespace_ name now).run client s =
      { (reportInvalid backoff c e now).run client t with
        calls := .fetch namespace_ name :: ((reportInvalid backoff c e now).run client t).calls } := by
  rw [course, Plan.run_ask client h]
  simp only [hp]

theorem run_reconcile :
    (reconcile backoff namespace_ name now).run client s =
      let r := (course (clampBackoff backoff) namespace_ name now).run client s
      { r with samples := r.samples ++ [.cycle (ending r.value)] } := by
  rw [reconcile, Plan.run_bind]
  simp [Plan.run]

theorem deletions_reconcile {c : Cleaner} {p : Policy} {listing : List Execution} {u : σ}
    (hfetch : client (.fetch namespace_ name) s = (.ok (some c), t))
    (hp : Policy.ofSpec? c.spec = .ok p) (hlist : client (.list p.namespace_) t = (.ok listing, u)) :
    ((reconcile backoff namespace_ name now).run client s).deletions =
      unseen (select p now listing).all [] := by
  rw [run_reconcile, ← deletions_clean client now hlist, ← deletions_complete client c]
  simp only [Run.deletions, run_course_valid client hfetch hp]
  rfl

theorem deletions_reportInvalid (c : Cleaner) (e : SpecError) (s : σ) :
    ((reportInvalid backoff c e now).run client s).deletions = [] := by
  rw [reportInvalid, Plan.deletions_andThen, deletions_writeStatus]
  intro _ t
  rw [Plan.deletions_bind, deletions_publishAll]
  exact fun _ _ => rfl

/-- Whatever a cycle asks to delete, it has read a cleaner and a listing before. -/
theorem deletions_reconcile_cases (backoff : Duration) (namespace_ name : String) (now : Instant)
    (s : σ) :
    let r := (reconcile backoff namespace_ name now).run client s
    r.deletions = [] ∨ ∃ c p listing t u, client (.fetch namespace_ name) s = (.ok (some c), t) ∧
      Policy.ofSpec? c.spec = .ok p ∧ client (.list p.namespace_) t = (.ok listing, u) ∧
      r.deletions = unseen (select p now listing).all [] := by
  intro r
  rcases hfetch : client (.fetch namespace_ name) s with ⟨answer, t⟩
  rcases answer with e | _ | c
  · left
    simp only [r, run_reconcile, run_course_fetch_error client hfetch]
    rfl
  · left
    simp only [r, run_reconcile, run_course_missing client hfetch]
    rfl
  · cases hp : Policy.ofSpec? c.spec with
    | error e =>
        left
        simp only [r, run_reconcile, run_course_invalid client hfetch hp]
        exact deletions_reportInvalid client c e t
    | ok p =>
        rcases hlist : client (.list p.namespace_) t with ⟨e | listing, u⟩
        · left
          simp only [r, run_reconcile, run_course_valid client hfetch hp]
          apply (deletions_complete client c p now t).trans
          rw [run_clean_error client now hlist]
          rfl
        · exact .inr ⟨c, p, listing, t, u, rfl, hp, hlist,
            deletions_reconcile client hfetch hp hlist⟩

/-- A cycle that completes deletes no more than it asked for. -/
theorem total_reconcile_le {d : Deletions} {wait : Option Duration}
    (h : ((reconcile backoff namespace_ name now).run client s).value = .ok ⟨wait, .completed d⟩) :
    d.total ≤ ((reconcile backoff namespace_ name now).run client s).deletions.length := by
  rw [run_reconcile] at h ⊢
  rcases hfetch : client (.fetch namespace_ name) s with ⟨answer, t⟩
  cases answer with
  | error e =>
      rw [run_course_fetch_error client hfetch] at h
      cases h
  | ok found =>
      cases found with
      | none =>
          rw [run_course_missing client hfetch] at h
          cases h
      | some c =>
          cases hp : Policy.ofSpec? c.spec with
          | error e =>
              rw [run_course_invalid client hfetch hp] at h
              obtain ⟨written, -, h⟩ := Plan.value_andThen_ok client h
              rw [Plan.value_bind, Plan.run] at h
              cases h
          | ok p =>
              rw [run_course_valid client hfetch hp] at h ⊢
              exact total_le_deletions_complete client c (value_clean_of_completed client h)

/-- Nor does a cycle whose status is refused. -/
theorem total_reconcile_le_of_statusWrite {c : Cleaner} {p : Policy} {e : ClientError}
    (hfetch : client (.fetch namespace_ name) s = (.ok (some c), t))
    (hp : Policy.ofSpec? c.spec = .ok p)
    (h : ((reconcile backoff namespace_ name now).run client s).value = .error (.statusWrite e)) :
    ∃ d, ((clean p now).run client t).value = .ok d ∧
      d.total ≤ ((reconcile backoff namespace_ name now).run client s).deletions.length := by
  rw [run_reconcile, run_course_valid client hfetch hp] at h ⊢
  obtain ⟨d, hclean⟩ := exists_clean_of_statusWrite client h
  exact ⟨d, hclean, total_le_deletions_complete client c hclean⟩

end CronSweep.Cycle
