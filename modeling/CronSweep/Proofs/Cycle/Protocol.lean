import CronSweep.Proofs.Cycle.Run
import CronSweep.Proofs.Deletion.Accounts
import CronSweep.Proofs.Plan.Publishing
import CronSweep.Proofs.Policy.Checked

namespace CronSweep.Cycle

theorem accounts_deleteSelected {sel : Selected} {log : List Exchange} {d : Deletions}
    (h : (deleteSelected sel).Ends log d) : d.Accounts log := by
  obtain ⟨log₁, stuck, rest, rfl, h₁, h⟩ := Plan.ends_bind_iff.mp h
  obtain ⟨log₂, succeeded, rest, rfl, h₂, h⟩ := Plan.ends_bind_iff.mp h
  obtain ⟨log₃, failed, rest, rfl, h₃, h⟩ := Plan.ends_bind_iff.mp h
  obtain ⟨rfl, rfl⟩ := Plan.ends_done_iff.mp h
  have a₁ := accounts_deleteAll h₁
  have a₂ := accounts_deleteAll h₂
  have a₃ := accounts_deleteAll h₃
  refine ⟨?_, ?_, ?_⟩
  · intro x hx
    simp only [List.append_nil, List.mem_append] at hx
    rcases hx with hx | hx | hx
    · exact a₁.calls x hx
    · exact a₂.calls x hx
    · exact a₃.calls x hx
  · simp only [Deletions.total, a₁.deleted, a₂.deleted, a₃.deleted, List.countP_append,
      List.countP_nil, Nat.add_zero, Nat.add_assoc]
  · simp only [Deletions.failures, a₁.failures, a₂.failures, a₃.failures, List.filterMap_append,
      List.append_nil, List.append_assoc]

theorem clean_cases {p : Policy} {now : Instant} {log : List Exchange}
    {result : Except CycleError Deletions} (h : (clean p now).Ends log result) :
    (∃ e, log = [⟨.list p.namespace_, .error e⟩] ∧ result = .error (.list p.namespace_ e)) ∨
      ∃ listing deletes d, log = ⟨.list p.namespace_, .ok listing⟩ :: deletes ∧
        d.Accounts deletes ∧ result = .ok d := by
  obtain ⟨answer, rest, rfl, hrest⟩ := Plan.ends_ask_iff.mp h
  rcases answer with e | listing
  · obtain ⟨rfl, rfl⟩ := Plan.ends_done_iff.mp hrest
    exact .inl ⟨e, rfl, rfl⟩
  · obtain ⟨d, hdelete, rfl⟩ := Plan.ends_bind_done_iff.mp hrest
    exact .inr ⟨listing, rest, d, rfl, accounts_deleteSelected hdelete, rfl⟩

/-- How a cycle ends: the status is written where it is new, then come the events. -/
inductive Settling (c : Cleaner) (s : Status) (events : (written : Bool) → List Event)
    (report : Report) : List Exchange → Except CycleError Report → Prop
  | unwritten {log} (hs : c.status = some s)
      (hevents : log.map (·.call) = (events false).map (.publish c)) :
      Settling c s events report log (.ok report)
  | written {log} (hs : c.status ≠ some s)
      (hevents : log.map (·.call) = (events true).map (.publish c)) :
      Settling c s events report (⟨.updateStatus c s, .ok ()⟩ :: log) (.ok report)
  | refused (e) (hs : c.status ≠ some s) :
      Settling c s events report [⟨.updateStatus c s, .error e⟩] (.error (.statusWrite e))

/-- What a completed cycle tells: that something is deleted, then that something is not. -/
def completionEvents (d : Deletions) (deletes : List Exchange) : List Event :=
  (if ∃ x ∈ deletes, x.deleted = true then [deletedEvent d] else []) ++
    (deletes.filterMap (·.failure?)).head?.elim [] fun first => [failedEvent d first]

/-- The calls of a cycle in their order, with what was answered and what the cycle then comes to. -/
inductive Protocol (backoff : Duration) (namespace_ name : String) (now : Instant) :
    List Exchange → Except CycleError Report → Prop
  | unfetched (e) :
      Protocol backoff namespace_ name now [⟨.fetch namespace_ name, .error e⟩] (.error (.fetch e))
  | missing :
      Protocol backoff namespace_ name now [⟨.fetch namespace_ name, .ok none⟩] (.ok ⟨none, .missing⟩)
  | invalid (c e) {log result} (hp : Policy.ofSpec? c.spec = .error e)
      (h : Settling c (invalidStatus c e now) (fun written => if written then [invalidEvent e] else [])
        ⟨some (c.spec.ownInterval?.getD backoff), .invalidSpec e⟩ log result) :
      Protocol backoff namespace_ name now (⟨.fetch namespace_ name, .ok (some c)⟩ :: log) result
  | unlisted (c p e) (hp : Policy.ofSpec? c.spec = .ok p) :
      Protocol backoff namespace_ name now
        [⟨.fetch namespace_ name, .ok (some c)⟩, ⟨.list c.spec.namespace_, .error e⟩]
        (.error (.list c.spec.namespace_ e))
  | cleaned (c p listing d) {deletes log result} (hp : Policy.ofSpec? c.spec = .ok p)
      (hd : d.Accounts deletes)
      (h : Settling c (completedStatus c d now) (fun _ => completionEvents d deletes)
        ⟨some p.runInterval, .completed d⟩ log result) :
      Protocol backoff namespace_ name now
        (⟨.fetch namespace_ name, .ok (some c)⟩ :: ⟨.list c.spec.namespace_, .ok listing⟩ ::
          deletes ++ log) result

theorem events_eq_completionEvents {d : Deletions} {deletes : List Exchange}
    (h : d.Accounts deletes) : events d = completionEvents d deletes := by
  simp only [events, completionEvents, h.total, h.failures, List.countP_pos_iff]

theorem calls_of_ends_publishAll {c : Cleaner} {es : List Event} {log : List Exchange}
    (h : (publishAll c es).Ends log ()) : log.map (·.call) = es.map (.publish c) := by
  induction es generalizing log with
  | nil =>
      obtain ⟨rfl, -⟩ := Plan.ends_done_iff.mp h
      rfl
  | cons e es ih =>
      obtain ⟨answer, rest, rfl, hrest⟩ := Plan.ends_ask_iff.mp h
      exact congrArg (_ :: ·) (ih hrest)

theorem settling_of_ends {c : Cleaner} {s : Status} {events : Bool → List Event} {report : Report}
    {log : List Exchange} {result : Except CycleError Report}
    (h : ((writeStatus c s).andThen fun written =>
      (publishAll c (events written)).bind fun _ => .done (.ok report)).Ends log result) :
    Settling c s events report log result := by
  have hpublish {written : Bool} {log : List Exchange} {result : Except CycleError Report}
      (h : ((publishAll c (events written)).bind fun _ => .done (.ok report)).Ends log result) :
      log.map (·.call) = (events written).map (.publish c) ∧ result = .ok report := by
    obtain ⟨_, hlog, hresult⟩ := Plan.ends_bind_done_iff.mp h
    exact ⟨calls_of_ends_publishAll hlog, hresult⟩
  by_cases hs : c.status = some s
  · rw [writeStatus, if_pos hs] at h
    obtain ⟨hevents, rfl⟩ := hpublish h
    exact .unwritten hs hevents
  · rw [writeStatus, if_neg hs] at h
    obtain ⟨answer, rest, rfl, hrest⟩ := Plan.ends_ask_iff.mp h
    rcases answer with e | ⟨⟩
    · obtain ⟨rfl, rfl⟩ := Plan.ends_done_iff.mp hrest
      exact .refused e hs
    · obtain ⟨hevents, rfl⟩ := hpublish hrest
      exact .written hs hevents

variable {backoff : Duration} {namespace_ name : String} {now : Instant}

theorem protocol_of_ends_course {log : List Exchange} {result : Except CycleError Report}
    (h : (course backoff namespace_ name now).Ends log result) :
    Protocol backoff namespace_ name now log result := by
  obtain ⟨answer, rest, rfl, hrest⟩ := Plan.ends_ask_iff.mp h
  rcases answer with e | found
  · obtain ⟨rfl, rfl⟩ := Plan.ends_done_iff.mp hrest
    exact .unfetched e
  · cases found with
    | none =>
        obtain ⟨rfl, rfl⟩ := Plan.ends_done_iff.mp hrest
        exact .missing
    | some c =>
        cases hp : Policy.ofSpec? c.spec with
        | error e =>
            simp only [hp, reportInvalid] at hrest
            apply Protocol.invalid c e hp
            rw [← Policy.runInterval?_getD]
            exact settling_of_ends hrest
        | ok p =>
            obtain ⟨-, -, hnamespace, -⟩ := Policy.ofSpec?_eq_ok_iff.mp hp
            simp only [hp, complete] at hrest
            rcases hrest.andThen_cases with ⟨e, rfl, hclean⟩ | ⟨front, d, rest, rfl, hclean, hsettle⟩
            · rcases clean_cases hclean with ⟨e, rfl, he⟩ | ⟨_, _, _, _, _, he⟩
              · cases he
                rw [hnamespace]
                exact .unlisted c p _ hp
              · cases he
            · rcases clean_cases hclean with ⟨_, _, hd⟩ | ⟨listing, deletes, d, rfl, haccounts, hd⟩
              · cases hd
              · cases hd
                rw [events_eq_completionEvents haccounts] at hsettle
                rw [hnamespace]
                exact .cleaned c p listing d hp haccounts (settling_of_ends hsettle)

theorem protocol_of_ends {log : List Exchange} {result : Except CycleError Report}
    (h : (reconcile backoff namespace_ name now).Ends log result) :
    Protocol (clampBackoff backoff) namespace_ name now log result := by
  obtain ⟨front, r, rest, rfl, hcourse, hcount⟩ := Plan.ends_bind_iff.mp h
  obtain ⟨rfl, rfl⟩ := Plan.ends_done_iff.mp (Plan.ends_count_iff.mp hcount)
  rw [List.append_nil]
  exact protocol_of_ends_course hcourse

section Events

variable {σ : Type} {client : Client σ}
  {publish : Cleaner → Event → σ → Except ClientError Unit × σ}

/-- Nothing hangs on the answers to events, so the two clusters may be in any states. -/
theorem same_publishAll {α : Type} (c : Cleaner) (es : List Event) (a : α) (s t : σ) :
    (((publishAll c es).bind fun _ => .done a).run (client.publishing publish) s).Same
      (((publishAll c es).bind fun _ => .done a).run client t) := by
  induction es generalizing s t with
  | nil => exact ⟨rfl, rfl, rfl⟩
  | cons e es ih =>
      obtain ⟨hvalue, hcalls, hsamples⟩ := ih (publish c e s).2 (client (.publish c e) t).2
      exact ⟨hvalue, congrArg (_ :: ·) hcalls, hsamples⟩

theorem silent_writeStatus (c : Cleaner) (status : Status) : (writeStatus c status).Silent := by
  rw [writeStatus]
  split
  · exact Plan.silent_done _
  · apply Plan.silent_ask rfl
    intro answer
    rcases answer with e | ⟨⟩ <;> exact Plan.silent_done _

theorem silent_clean (p : Policy) (now : Instant) : (clean p now).Silent := by
  intro log result h x hx
  rcases clean_cases h with ⟨e, rfl, -⟩ | ⟨listing, deletes, d, rfl, haccounts, -⟩
  · rw [List.mem_singleton.mp hx]
    rfl
  · rcases List.mem_cons.mp hx with rfl | hx
    · rfl
    · exact Call.isPublish_of_isDelete (haccounts.calls x hx)

theorem same_settling (c : Cleaner) (status : Status) (events : Bool → List Event)
    (report : Report) (s : σ) :
    let plan : Plan (Except CycleError Report) := (writeStatus c status).andThen fun written =>
      (publishAll c (events written)).bind fun _ => .done (.ok report)
    (plan.run (client.publishing publish) s).Same (plan.run client s) :=
  Plan.same_andThen (silent_writeStatus c status)
    (fun written s => same_publishAll c (events written) _ s s) s

theorem same_course (s : σ) :
    ((course backoff namespace_ name now).run (client.publishing publish) s).Same
      ((course backoff namespace_ name now).run client s) := by
  apply Plan.same_bind (p := .ask (.fetch namespace_ name) .done)
  · exact Plan.silent_ask rfl Plan.silent_done
  · intro found s
    rcases found with e | _ | c
    · exact ⟨rfl, rfl, rfl⟩
    · exact ⟨rfl, rfl, rfl⟩
    · cases hp : Policy.ofSpec? c.spec with
      | error e =>
          simp only [hp]
          exact same_settling c _ _ _ s
      | ok p =>
          simp only [hp]
          exact Plan.same_andThen (silent_clean p now)
            (fun d s => same_settling c _ (fun _ => events d) _ s) s

end Events

/-- The calls of a cycle against any cluster. What becomes of its events changes nothing else. -/
theorem reconcile_protocol {σ : Type} (client : Client σ) (backoff : Duration)
    (namespace_ name : String) (now : Instant) (s : σ) :
    let plan := reconcile backoff namespace_ name now
    (plan.log client s).map (·.call) = (plan.run client s).calls ∧
      Protocol (clampBackoff backoff) namespace_ name now (plan.log client s)
        (plan.run client s).value ∧
      ∀ publish, (plan.run (client.publishing publish) s).Same (plan.run client s) := by
  intro plan
  refine ⟨plan.calls_log client s, protocol_of_ends (plan.ends_log client s), fun publish => ?_⟩
  let started := course (clampBackoff backoff) namespace_ name now
  have hsame : (started.run (client.publishing publish) s).Same (started.run client s) :=
    same_course s
  simp only [plan, run_reconcile]
  exact ⟨hsame.value, hsame.calls, by rw [hsame.value, hsame.samples]⟩

end CronSweep.Cycle
