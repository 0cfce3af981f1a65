import CronSweep.Proofs.Cluster.Ready
import CronSweep.Proofs.Cycle.Change
import CronSweep.Proofs.Cycle.Insistent
import CronSweep.Proofs.Cycle.Quiet

namespace CronSweep

/-- Status writes are taken, and nobody edits the spec or its generation. -/
def Step.Smooth (spec : Spec) (generation : Option Int64) : Step → Prop
  | .cycle faults _ _ _ _ => faults.updateStatus = none ∧ faults.concurrentEdit = false
  | .add _ | .remove _ => True
  | .edit spec' metadata version => spec' = spec ∧ metadata.generation = generation ∧
      metadata.resourceVersion = some (toString version)

namespace Cluster

open CronSweep.Cycle

def stored (k : Cluster) : Option Status := k.cleaner.bind (·.status)

section Insistent

variable {k : Cluster} {c : Cleaner}

/-- To write what is there already changes nothing, whether the write is taken or refused. -/
theorem stored_settleBy_writeAlways (hk : k.cleaner = some c) (s : Status)
    (events : Bool → List Event) (report : Report) :
    ((settleBy writeAlways c s events report).run client k).state.stored =
      ((settleBy Cycle.writeStatus c s events report).run client k).state.stored := by
  by_cases hs : c.status = some s
  · have hstored : k.stored = some s := by rw [stored, hk, Option.bind_some, hs]
    have hpublish (written : Bool) (k : Cluster) :=
      (run_publishAll_done c (events written) (.ok report : Except CycleError Report) k).2
    have hsame := run_writeStatus_same client hs k
    have hskip : ((settleBy Cycle.writeStatus c s events report).run client k).state = k := by
      simp only [settleBy, Plan.run_andThen_ok client (congrArg Run.value hsame), hsame, hpublish]
    rw [hskip, hstored]
    rcases client_updateStatus hk s with ⟨v, n, hupdate⟩ | ⟨e, n, hupdate⟩
    · have hwrite : (writeAlways c s).run client k = ⟨.ok true, _, [.updateStatus c s], []⟩ :=
        Plan.run_ask client hupdate _
      simp only [settleBy, Plan.run_andThen_ok client (congrArg Run.value hwrite), hwrite, hpublish]
      rfl
    · have hwrite : (writeAlways c s).run client k =
          ⟨.error (.statusWrite e), _, [.updateStatus c s], []⟩ := Plan.run_ask client hupdate _
      simp only [settleBy, Plan.run_andThen_error client (congrArg Run.value hwrite), hwrite]
      exact hstored
  · rw [settleBy, settleBy, Cycle.writeStatus, if_neg hs]
    rfl

theorem stored_courseBy_writeAlways (backoff : Duration) (namespace_ name : String)
    (now : Instant) :
    ((courseBy writeAlways backoff namespace_ name now).run client k).state.stored =
      ((courseBy Cycle.writeStatus backoff namespace_ name now).run client k).state.stored := by
  rcases hfetch : client (.fetch namespace_ name) k with ⟨answer, t⟩
  simp only [courseBy, Plan.run_ask client hfetch]
  cases hfault : k.faults.fetch with
  | some e =>
      simp only [client, hfault, refuse, Option.elim_some] at hfetch
      cases hfetch
      rfl
  | none =>
      rw [client_fetch hfault] at hfetch
      cases hfetch
      cases hk : k.cleaner with
      | none => rfl
      | some c =>
          cases hp : Policy.ofSpec? c.spec with
          | error e =>
              simp only [hp, reportInvalidBy]
              exact stored_settleBy_writeAlways hk _ _ _
          | ok p =>
              simp only [hp, completeBy]
              cases hlist : k.faults.list with
              | none =>
                  have hclean := run_clean_ok client now (client_list hlist p.namespace_)
                  rw [Plan.run_andThen_ok client (congrArg Run.value hclean),
                    Plan.run_andThen_ok client (congrArg Run.value hclean), hclean]
                  apply stored_settleBy_writeAlways
                  rw [state_deleteSelected]
                  exact hk
              | some e =>
                  have hanswer : client (.list p.namespace_) k = (.error e, k) := by
                    simp only [client, hlist, refuse, Option.elim_some]
                  have hclean := congrArg Run.value (run_clean_error client now hanswer)
                  simp only [Plan.run_andThen_error client hclean]

end Insistent

theorem stored_reconcileBy_writeAlways (k : Cluster) (backoff : Duration)
    (namespace_ name : String) (now : Instant) :
    ((reconcileBy writeAlways backoff namespace_ name now).run client k).state.stored =
      ((reconcile backoff namespace_ name now).run client k).state.stored := by
  rw [← reconcileBy_writeStatus, reconcileBy, reconcileBy, Plan.state_bind, Plan.state_bind]
  exact stored_courseBy_writeAlways _ _ _ _

def Accepts (k : Cluster) : Prop :=
  ∀ c, k.cleaner = some c → ∀ s, (client (.updateStatus c s) k).1 = .ok ()

theorem value_settle {k : Cluster} {c : Cleaner} (h : k.Accepts) (hk : k.cleaner = some c)
    (s : Status) (events : Bool → List Event) (report : Report) :
    ((settleBy Cycle.writeStatus c s events report).run client k).value = .ok report := by
  have hpublish (written : Bool) (k : Cluster) :=
    (run_publishAll_done c (events written) (.ok report : Except CycleError Report) k).1
  by_cases hs : c.status = some s
  · have hsame := run_writeStatus_same client hs k
    simp only [settleBy, Plan.run_andThen_ok client (congrArg Run.value hsame), hpublish]
  · rcases hupdate : client (.updateStatus c s) k with ⟨answer, t⟩
    have hanswer : answer = .ok () := by simpa only [hupdate] using h c hk s
    have hwrite := run_writeStatus_new client hs hupdate
    rw [hanswer] at hwrite
    simp only [settleBy, Plan.run_andThen_ok client (congrArg Run.value hwrite), hpublish]

/-- The cleaner has the version of the cluster, as it has after every change of it. -/
def Current (k : Cluster) : Prop :=
  ∀ c, k.cleaner = some c → c.metadata.resourceVersion = some (toString k.version)

def Holds (k : Cluster) (spec : Spec) (generation : Option Int64) : Prop :=
  ∃ c, k.cleaner = some c ∧ c.spec = spec ∧ c.metadata.generation = generation

theorem current_client {call : Call} {k : Cluster}
    (h : k.Current ∧ k.faults.concurrentEdit = false) :
    (client call k).2.Current ∧ (client call k).2.faults.concurrentEdit = false := by
  obtain ⟨hk, hedit⟩ := h
  cases call with
  | fetch | list | publish => exact ⟨hk, hedit⟩
  | delete e =>
      simp only [client]
      cases k.faults.delete e.name <;> exact ⟨hk, hedit⟩
  | updateStatus c s =>
      simp only [client]
      cases k.faults.updateStatus with
      | some e => exact ⟨hk, hedit⟩
      | none =>
          simp only [writeStatus, hedit, Bool.false_eq_true, if_false]
          split
          · refine ⟨?_, hedit⟩
            intro c' hc'
            obtain ⟨stored, -, rfl⟩ := Option.map_eq_some_iff.mp hc'
            rfl
          · exact ⟨hk, hedit⟩

section Steady

variable {k : Cluster} {spec : Spec} {generation : Option Int64} {faults : Faults}

theorem Current.cycle (h : k.Current) (hedit : faults.concurrentEdit = false) (backoff : Duration)
    (namespace_ name : String) (now : Instant) :
    (k.cycle faults backoff namespace_ name now).state.Current :=
  (Plan.state_run_of_forall (P := fun k : Cluster => k.Current ∧ k.faults.concurrentEdit = false)
    (fun _ _ => current_client) _ (s := { k with faults }) ⟨h, hedit⟩).1

theorem Current.accepts (h : k.Current) (hupdate : k.faults.updateStatus = none)
    (hedit : k.faults.concurrentEdit = false) : k.Accepts := by
  intro c hk s
  simp only [client, hupdate, writeStatus, hedit, Bool.false_eq_true, if_false,
    if_pos (h c hk)]
  rfl

theorem Effect.holds {k' : Cluster} {backoff : Duration} {now : Instant}
    {value : Except CycleError Report} (h : Effect k backoff now value k')
    (hk : k.Holds spec generation) : k'.Holds spec generation := by
  obtain ⟨c, hcleaner, hc⟩ := hk
  cases h with
  | fetchRefused | listRefused => exact ⟨c, hcleaner, hc⟩
  | missing _ hnone => cases hnone.symm.trans hcleaner
  | invalid c' e _ hk' _ h | swept c' p d _ hk' _ _ h =>
      cases hk'.symm.trans hcleaner
      cases h with
      | written v n => exact ⟨_, rfl, hc⟩
      | unwritten e n => exact ⟨_, hk', hc⟩

end Steady

def pending (k : Cluster) (v : Verdict) : Nat :=
  if (k.status.condition? readyType).map (·.verdict) = some v then 0 else 1

theorem pending_of_outdated {k : Cluster} {c : Cleaner} {v : Verdict} (hk : k.cleaner = some c)
    (h : c.Outdated v) : k.pending v = 1 := by
  apply if_neg
  rw [status_of_cleaner hk]
  rw [Cleaner.outdated_iff] at h
  cases hc : c.status with
  | none => nofun
  | some s => simpa [hc] using h

theorem pending_of_conditions {k : Cluster} {v : Verdict} {now : Instant} {cs : List Condition}
    (h : k.status.conditions = (v.since now).set cs) : k.pending v = 0 := by
  apply if_pos
  rw [Status.condition?, h]
  exact Condition.set_eq_self_iff.mp (Condition.set_again (v.since now) now cs)

def callsAt (k : Cluster) : Step → List Call
  | .cycle faults backoff namespace_ name now => (k.cycle faults backoff namespace_ name now).calls
  | .add _ | .remove _ | .edit _ _ _ => []

def calls (k : Cluster) : List Step → List Call
  | [] => []
  | s :: steps => k.callsAt s ++ (k.step s).calls steps

section Invalid

variable {k : Cluster} {spec : Spec} {generation : Option Int64} {e : SpecError}

theorem value_reconcile_of_invalid {c : Cleaner} (hk : k.cleaner = some c)
    (hp : Policy.ofSpec? c.spec = .error e) (hfetch : k.faults.fetch = none)
    (haccepts : k.Accepts) (backoff : Duration) (namespace_ name : String) (now : Instant) :
    ∃ wait, ((reconcile backoff namespace_ name now).run client k).value =
      .ok ⟨wait, .invalidSpec e⟩ := by
  have hfetched := client_fetch hfetch namespace_ name
  rw [hk] at hfetched
  rw [run_reconcile, run_course_invalid client hfetched hp]
  exact ⟨_, value_settle haccepts hk _ _ _⟩

/-- Of all that a cycle does about an invalid spec it does each thing once, until an edit. -/
theorem count_cycle (hk : k.Holds spec generation) (hp : Policy.ofSpec? spec = .error e)
    (hcurrent : k.Current) {faults : Faults} (hupdate : faults.updateStatus = none)
    (hedit : faults.concurrentEdit = false) (backoff : Duration) (namespace_ name : String)
    (now : Instant) :
    let v : Verdict := ⟨.fails, "InvalidSpec", e.message, generation⟩
    let r := k.cycle faults backoff namespace_ name now
    r.calls.countP (·.isUpdate) + r.state.pending v ≤ k.pending v ∧
      r.calls.countP (·.isPublish) + r.state.pending v ≤ k.pending v := by
  intro v r
  obtain ⟨c, hcleaner, rfl, rfl⟩ := hk
  cases hfetch : faults.fetch with
  | some error =>
      have hanswer : client (.fetch namespace_ name) { k with faults } =
          (.error error, { k with faults }) := by
        simp only [client, hfetch, refuse, Option.elim_some]
      simp only [r, cycle, run_reconcile, run_course_fetch_error client hanswer]
      exact ⟨(Nat.zero_add _).le, (Nat.zero_add _).le⟩
  | none =>
      obtain ⟨wait, hvalue⟩ :=
        value_reconcile_of_invalid (k := { k with faults }) hcleaner hp hfetch
        (Current.accepts hcurrent hupdate hedit) backoff namespace_ name now
      replace hvalue : r.value = .ok ⟨wait, .invalidSpec e⟩ := hvalue
      have hconditions : r.state.status.conditions = _ :=
        k.conditions_cycle faults backoff namespace_ name now
      rw [hcleaner, Option.bind_some, hvalue, Cycle.verdict?, Option.elim_some] at hconditions
      have hzero : r.state.pending v = 0 := pending_of_conditions hconditions
      let plan := reconcile backoff namespace_ name now
      let start : Cluster := { k with faults }
      have hhead : (plan.log client start).head? = some ⟨.fetch namespace_ name, .ok (some c)⟩ := by
        have hanswer := congrArg Prod.fst (client_fetch (k := start) hfetch namespace_ name)
        rw [show start.cleaner = some c from hcleaner] at hanswer
        exact congrArg (fun answer => some (⟨.fetch namespace_ name, answer⟩ : Exchange)) hanswer
      have hcalls : (plan.log client start).map (·.call) = r.calls := plan.calls_log client start
      rw [hzero, ← hcalls]
      have hwritten (failure : ClientError) :
          (plan.run client start).value ≠ .error (.statusWrite failure) := by
        rw [show (plan.run client start).value = _ from hvalue]
        intro herror
        cases herror
      rcases (protocol_of_ends (plan.ends_log client start)).calls_of_invalid hhead hp hwritten with
        ⟨hlog, -⟩ | ⟨s, event, hlog, hout⟩
      · rw [hlog]
        exact ⟨Nat.zero_le _, Nat.zero_le _⟩
      · have hpending : k.pending v = 1 := pending_of_outdated hcleaner hout
        rw [hlog, hpending]
        exact ⟨le_rfl, le_rfl⟩

theorem holds_step (hk : k.Holds spec generation) {s : Step} (hs : s.Smooth spec generation) :
    (k.step s).Holds spec generation := by
  cases s with
  | cycle faults backoff namespace_ name now =>
      exact (effect_cycle k faults backoff namespace_ name now).holds hk
  | add | remove => exact hk
  | edit spec' metadata version =>
      obtain ⟨c, hcleaner, -⟩ := hk
      obtain ⟨rfl, rfl, -⟩ := hs
      exact ⟨_, congrArg (Option.map _) hcleaner, rfl, rfl⟩

theorem current_step (hk : k.Current) {s : Step} (hs : s.Smooth spec generation) :
    (k.step s).Current := by
  cases s with
  | cycle faults backoff namespace_ name now => exact hk.cycle hs.2 backoff namespace_ name now
  | add | remove => exact hk
  | edit spec' metadata version =>
      intro c hc
      obtain ⟨c', -, rfl⟩ := Option.map_eq_some_iff.mp hc
      exact hs.2.2

theorem count_calls (hk : k.Holds spec generation) (hp : Policy.ofSpec? spec = .error e)
    (hcurrent : k.Current) {steps : List Step} (hsteps : ∀ s ∈ steps, s.Smooth spec generation) :
    let v : Verdict := ⟨.fails, "InvalidSpec", e.message, generation⟩
    (k.calls steps).countP (·.isUpdate) ≤ k.pending v ∧
      (k.calls steps).countP (·.isPublish) ≤ k.pending v := by
  intro v
  induction steps generalizing k with
  | nil => exact ⟨Nat.zero_le _, Nat.zero_le _⟩
  | cons s steps ih =>
      obtain ⟨hs, hsteps⟩ := List.forall_mem_cons.mp hsteps
      have hstep : (k.callsAt s).countP (·.isUpdate) + (k.step s).pending v ≤ k.pending v ∧
          (k.callsAt s).countP (·.isPublish) + (k.step s).pending v ≤ k.pending v := by
        cases s with
        | cycle faults backoff namespace_ name now =>
            exact count_cycle hk hp hcurrent hs.1 hs.2 backoff namespace_ name now
        | add | remove => exact ⟨(Nat.zero_add _).le, (Nat.zero_add _).le⟩
        | edit spec' metadata version =>
            have hstatus : (k.step (.edit spec' metadata version)).status = k.status := by
              rw [step, status, status]
              cases k.cleaner <;> rfl
            rw [pending, hstatus]
            exact ⟨(Nat.zero_add _).le, (Nat.zero_add _).le⟩
      obtain ⟨hupdates, hpublishes⟩ := ih (holds_step hk hs) (current_step hcurrent hs) hsteps
      rw [calls, List.countP_append, List.countP_append]
      exact ⟨(Nat.add_le_add_left hupdates _).trans hstep.1,
        (Nat.add_le_add_left hpublishes _).trans hstep.2⟩

end Invalid

/-- A cycle that deletes nothing writes the status if it does not say yet what the cycle has come
to, at whatever instant; to write it every time would store the same. -/
theorem status_written_on_change (backoff : Duration) (namespace_ name : String) (now : Instant) :
    let plan := reconcile backoff namespace_ name now
    (∀ {σ : Type} (client : Client σ) (s : σ) (c : Cleaner),
      Reaches namespace_ name c (plan.log client s) →
      (∀ x ∈ plan.log client s, x.deleted = false) →
        ((∃ x ∈ plan.log client s, x.call.isUpdate = true) ↔ c.Outdated (dueVerdict c)) ∧
        ∀ e, Policy.ofSpec? c.spec = .error e →
          ((∃ x ∈ plan.log client s, x.call = .publish c (invalidEvent e)) ↔
            ∃ s', ⟨.updateStatus c s', .ok ()⟩ ∈ plan.log client s)) ∧
    (∀ k : Cluster, (plan.run client k).state.stored =
      ((reconcileBy writeAlways backoff namespace_ name now).run client k).state.stored) ∧
    ∀ (k : Cluster) (c : Cleaner) (e : SpecError) (steps : List Step), k.cleaner = some c →
      Policy.ofSpec? c.spec = .error e → k.Current →
      (∀ s ∈ steps, s.Smooth c.spec c.metadata.generation) →
        (k.calls steps).countP (·.isUpdate) ≤ 1 ∧ (k.calls steps).countP (·.isPublish) ≤ 1 := by
  intro plan
  refine ⟨?_, fun k => (stored_reconcileBy_writeAlways k _ _ _ _).symm, ?_⟩
  · intro σ client s c hreach hnone
    have hprotocol := protocol_of_ends (plan.ends_log client s)
    exact ⟨hprotocol.update_iff hreach hnone, fun e hp => hprotocol.publish_iff hreach.fetched hp⟩
  · intro k c e steps hk hp hcurrent hsteps
    obtain ⟨hupdates, hpublishes⟩ := count_calls ⟨c, hk, rfl, rfl⟩ hp hcurrent hsteps
    have hpending : k.pending ⟨.fails, "InvalidSpec", e.message, c.metadata.generation⟩ ≤ 1 := by
      rw [pending]
      split <;> decide
    exact ⟨hupdates.trans hpending, hpublishes.trans hpending⟩

/-- Of three cycles that find the same fault the first one writes. -/
theorem nightly_change :
    let wrong := { Cycle.nightly with spec := { Cycle.nightlySpec with runInterval := "500ms" } }
    let k := start (some wrong) [Cycle.nightlyRun "a" 10 1 0 0]
    let fetched := setVersion wrong 1
    let plan := reconcile .zero "ops" "sweep" Cycle.pastOne
    let steps := [Step.cycle .none .zero "ops" "sweep" Cycle.pastOne,
      .add [Cycle.nightlyRun "b" 15 1 0 0], .cycle .none .zero "ops" "sweep" pastTwo,
      .cycle .none .zero "ops" "sweep" pastThree]
    k.cleaner = some fetched ∧ k.Current ∧
      Policy.ofSpec? fetched.spec = .error .runIntervalTooShort ∧
      Reaches "ops" "sweep" fetched (plan.log client k) ∧
      (∀ x ∈ plan.log client k, x.deleted = false) ∧
      (∃ x ∈ plan.log client k, x.call.isUpdate = true) ∧
      (∀ s ∈ steps, s.Smooth fetched.spec fetched.metadata.generation) ∧
      (k.calls steps).countP (·.isUpdate) = 1 ∧ (k.calls steps).countP (·.isPublish) = 1 := by
  intro wrong k fetched plan steps
  have hp : Policy.ofSpec? fetched.spec = .error .runIntervalTooShort := by decide
  have hcurrent : k.Current := by
    rintro c ⟨⟩
    rfl
  have hreach : Reaches "ops" "sweep" fetched (plan.log client k) :=
    ⟨rfl, fun p hok => nomatch hok.symm.trans hp⟩
  have hnone : ∀ x ∈ plan.log client k, x.deleted = false := by decide
  have hsteps : ∀ s ∈ steps, s.Smooth fetched.spec fetched.metadata.generation := by
    simp [steps, Step.Smooth, Faults.none]
  obtain ⟨hwrites, -, hruns⟩ := status_written_on_change .zero "ops" "sweep" Cycle.pastOne
  obtain ⟨hwrite, -⟩ := hwrites client k fetched hreach hnone
  obtain ⟨hupdates, hpublishes⟩ := hruns k fetched _ steps rfl hp hcurrent hsteps
  refine ⟨rfl, hcurrent, hp, hreach, hnone, hwrite.mpr (.noStatus rfl), hsteps,
    hupdates.antisymm ?_, hpublishes.antisymm ?_⟩
  · decide
  · decide

end Cluster

end CronSweep
