import CronSweep.Proofs.Cluster.History
import CronSweep.Proofs.Cluster.Swept
import CronSweep.Proofs.Cycle.Quiet

namespace CronSweep

open Selection

/-- What is left of the executions `old` when nothing keeps a cycle from deleting. -/
structure Spec.Cleaned (spec : Spec) (now : Instant) (old new : List Execution) : Prop where
  sublist : new.Sublist old
  succeeded : KeepsNewest spec.retain.successfulJobs.toInt.toNat
    (old.filter fun e => e.namespace_ = spec.namespace_ ∧ spec.Succeeded e)
    (new.filter fun e => e.namespace_ = spec.namespace_ ∧ spec.Succeeded e)
  failed : KeepsNewest spec.retain.failedJobs.toInt.toNat
    (old.filter fun e => e.namespace_ = spec.namespace_ ∧ spec.Failed e)
    (new.filter fun e => e.namespace_ = spec.namespace_ ∧ spec.Failed e)
  overdue : ∀ e ∈ new, e.namespace_ = spec.namespace_ → ¬spec.Overdue now e
  other : ∀ e ∈ old, (e.namespace_ = spec.namespace_ →
    ¬spec.Overdue now e ∧ ¬spec.Succeeded e ∧ ¬spec.Failed e) → e ∈ new

namespace Cluster

open CronSweep.Cycle

variable {k k' : Cluster} {c : Cleaner} {p : Policy} {now : Instant}

theorem filter_inNamespace (k : Cluster) (namespace_ : String) (P : Execution → Prop)
    [DecidablePred P] : (k.executions.filter fun e => e.namespace_ = namespace_ ∧ P e) =
      (k.inNamespace namespace_).filter (P ·) := by
  rw [inNamespace, List.filter_filter]
  exact List.filter_congr fun e _ => by simp [Bool.and_comm, beq_eq_decide]

theorem keepsNewest_group (hdistinct : k.Distinct) (hk : k.cleaner = some c)
    (hp : Policy.ofSpec? c.spec = .ok p) (hsub : k'.executions.Sublist k.executions)
    (hgone : ∀ e ∈ k.executions, e ∈ k'.executions ↔ ¬k.Condemns now e) {q : Phase} {n : Nat}
    (hn : p.retained q = some n) :
    KeepsNewest n (p.group q (k.inNamespace p.namespace_))
      (p.group q (k'.inNamespace p.namespace_)) := by
  have hnames := hdistinct.names p.namespace_
  have hlisting : (k'.inNamespace p.namespace_).Sublist (k.inNamespace p.namespace_) :=
    hsub.filter _
  apply keepsNewest (Policy.nodup_group q hnames) (Policy.group_sublist q hlisting)
  intro e he
  obtain ⟨hmem, howned, hphase⟩ := Policy.mem_group.mp he
  obtain ⟨hstored, hnamespace⟩ := mem_inNamespace.mp hmem
  have hcondemns : k.Condemns now e ↔ e ∈ excess n (p.group q (k.inNamespace p.namespace_)) := by
    rw [condemns_iff_of_cleaner hk hp, Policy.condemns_iff_mem_excess hnames hn he]
    exact and_iff_right hmem
  rw [← hcondemns, ← hgone e hstored, Policy.mem_group, mem_inNamespace]
  tauto

theorem cleaned_of_mem_iff (hdistinct : k.Distinct) (hk : k.cleaner = some c)
    (hp : Policy.ofSpec? c.spec = .ok p) (hsub : k'.executions.Sublist k.executions)
    (hgone : ∀ e ∈ k.executions, e ∈ k'.executions ↔ ¬k.Condemns now e) :
    c.spec.Cleaned now k.executions k'.executions := by
  obtain ⟨-, -, hnamespace, -, -, hs, hf, -⟩ := Policy.ofSpec?_eq_ok_iff.mp hp
  have hcondemns {e : Execution} (he : e ∈ k.executions)
      (hns : e.namespace_ = c.spec.namespace_) :
      k.Condemns now e ↔ c.spec.Condemns now (k.inNamespace p.namespace_) e := by
    rw [condemns_iff_of_cleaner hk hp, Spec.condemns_iff hp]
    exact and_iff_right (mem_inNamespace.mpr ⟨he, hns.trans hnamespace.symm⟩)
  refine ⟨hsub, ?_, ?_, fun e he hns hoverdue => ?_, fun e he hother => ?_⟩
  · rw [filter_inNamespace, filter_inNamespace, ← hnamespace, ← Spec.group_succeeded hp,
      ← Spec.group_succeeded hp, hs, Int.toNat_natCast]
    exact keepsNewest_group hdistinct hk hp hsub hgone rfl
  · rw [filter_inNamespace, filter_inNamespace, ← hnamespace, ← Spec.group_failed hp,
      ← Spec.group_failed hp, hf, Int.toNat_natCast]
    exact keepsNewest_group hdistinct hk hp hsub hgone rfl
  · have hstored := hsub.subset he
    exact (hgone e hstored).mp he ((hcondemns hstored hns).mpr (.inl hoverdue))
  · apply (hgone e he).mpr
    intro hcondemned
    have hns : e.namespace_ = c.spec.namespace_ := by
      obtain ⟨hmem, -⟩ := (condemns_iff_of_cleaner hk hp).mp hcondemned
      exact (mem_inNamespace.mp hmem).2.trans hnamespace
    obtain ⟨hoverdue, hsucceeded, hfailed⟩ := hother hns
    rcases (hcondemns he hns).mp hcondemned with h | ⟨h, -⟩ | ⟨h, -⟩
    · exact hoverdue h
    · exact hsucceeded h
    · exact hfailed h

/-- What is asked to be deleted does not come up for deletion again, unless it becomes stuck. -/
theorem select_swept (hp : Policy.ofSpec? c.spec = .ok p) (now later : Instant)
    (haccepted : k.faults.accepted (k.asked p now) = k.asked p now)
    (hoverdue : ∀ e ∈ (k.swept p now).executions,
      e.namespace_ = c.spec.namespace_ → ¬c.spec.Overdue later e) :
    select p later ((k.swept p now).inNamespace p.namespace_) = .none := by
  obtain ⟨-, -, hnamespace, -⟩ := Policy.ofSpec?_eq_ok_iff.mp hp
  let asked := (k.asked p now).map (·.key)
  have hlisting : (k.swept p now).inNamespace p.namespace_ =
      (k.inNamespace p.namespace_).filter (!asked.contains ·.key) := by
    simp only [swept, haccepted, without, inNamespace, List.filter_filter]
    exact List.filter_congr fun e _ => Bool.and_comm _ _
  have hexcess (q : Selection.Phase) (n : Nat)
      (hselected : ∀ e ∈ excess n (p.group q (k.inNamespace p.namespace_)),
        e ∈ (select p now (k.inNamespace p.namespace_)).all) :
      excess n (p.group q ((k.swept p now).inNamespace p.namespace_)) = [] := by
    rw [hlisting, Policy.group_filter]
    apply excess_eq_nil
    apply length_filter_le
    intro e he
    have hkey : e.key ∈ asked :=
      (key_mem_unseen [] (hselected e he)).resolve_left List.not_mem_nil
    simpa using hkey
  have hstuck : (select p later ((k.swept p now).inNamespace p.namespace_)).stuck = [] := by
    rw [Spec.select_stuck hp, List.filter_eq_nil_iff]
    intro e he
    obtain ⟨hstored, hns⟩ := mem_inNamespace.mp he
    simpa using hoverdue e hstored (hns.trans hnamespace)
  have hs := hexcess .succeeded p.retainSuccessful fun e he =>
    List.mem_append_left _ (List.mem_append_right _ he)
  have hf := hexcess .failed p.retainFailed fun e he => List.mem_append_right _ he
  change Selected.mk _ _ _ = _
  rw [Selected.none, Selected.mk.injEq]
  exact ⟨hstuck, hs, hf⟩

theorem cycle_again {d : Deletions} {v : Option String} {later : Instant}
    (hk' : k'.cleaner = some (c.stamped (completedStatus c d now) v))
    (hexecutions : k'.executions = (k.swept p now).executions) (hp : Policy.ofSpec? c.spec = .ok p)
    (haccepted : k.faults.accepted (k.asked p now) = k.asked p now)
    (hoverdue : ∀ e ∈ k'.executions,
      e.namespace_ = c.spec.namespace_ → ¬c.spec.Overdue later e)
    {faults : Faults} (hfetch : faults.fetch = none) (hlist : faults.list = none)
    (backoff : Duration) (namespace_ name : String) :
    k'.cycle faults backoff namespace_ name later =
      ⟨.ok ⟨some p.runInterval, .completed .none⟩, { k' with faults },
        [.fetch namespace_ name, .list p.namespace_], [.cycle .completed]⟩ := by
  let k'' : Cluster := { k' with faults }
  have hfetched : client (.fetch namespace_ name) k'' = (.ok k'.cleaner, k'') :=
    client_fetch hfetch namespace_ name
  have hlisted : client (.list p.namespace_) k'' =
      (.ok ((k.swept p now).inNamespace p.namespace_), k'') := by
    rw [client_list hlist, inNamespace, inNamespace, ← hexecutions]
  have hselect : select p later ((k.swept p now).inNamespace p.namespace_) = .none :=
    select_swept hp now later haccepted (hexecutions ▸ hoverdue)
  let c' := c.stamped (completedStatus c d now) v
  have hgeneration : c'.metadata.generation = c.metadata.generation := rfl
  have hwritten : c'.status = some (completedStatus c d now) := rfl
  have hstatus := completedStatus_again hgeneration hwritten later
  rw [hk'] at hfetched
  exact run_reconcile_quiet client hfetched hp hlisted hselect (congrArg some hstatus.symm)

/-- A cycle that completes without a refused deletion leaves exactly what is to be kept, and a
cycle after it finds nothing to do until another execution is overdue. -/
theorem clean_cycle (hk : k.cleaner = some c) {faults : Faults} {backoff : Duration}
    {namespace_ name : String} {wait : Option Duration} {d : Deletions}
    (hcompleted : (k.cycle faults backoff namespace_ name now).value = .ok ⟨wait, .completed d⟩)
    (haccepted : ∀ e ∈ (k.cycle faults backoff namespace_ name now).deletions,
      faults.delete e.name = none) :
    let k' := (k.cycle faults backoff namespace_ name now).state
    (k.Distinct → c.spec.Cleaned now k.executions k'.executions) ∧
    ∀ (faults' : Faults) (backoff' : Duration) (namespace' name' : String) (later : Instant),
      faults'.fetch = none → faults'.list = none →
      (∀ e ∈ k'.executions, e.namespace_ = c.spec.namespace_ → ¬c.spec.Overdue later e) →
      let r := k'.cycle faults' backoff' namespace' name' later
      r.calls = [.fetch namespace' name', .list c.spec.namespace_] ∧
        r.state = { k' with faults := faults' } ∧ r.value = .ok ⟨wait, .completed .none⟩ := by
  intro k'
  have heffect := k.effect_cycle faults backoff namespace_ name now
  have hcycle : Effect { k with faults } (clampBackoff backoff) now
      (.ok ⟨wait, .completed d⟩) k' := hcompleted ▸ heffect
  obtain ⟨c₀, p, v, n, hfetch, hk₀, hp, hlist, rfl, hstate⟩ := hcycle.completed
  cases hk.symm.trans hk₀
  obtain ⟨-, -, hnamespace, -⟩ := Policy.ofSpec?_eq_ok_iff.mp hp
  have hasked : (k.cycle faults backoff namespace_ name now).deletions = k.asked p now :=
    deletions_reconcile hfetch hk hp hlist backoff namespace_ name now
  rw [hasked] at haccepted
  constructor
  · intro hdistinct
    have hdelete (a : Execution) (ha : k.Condemns now a) : faults.delete a.name = none :=
      haccepted a ((mem_asked hdistinct).mpr ((condemns_iff_of_cleaner hk hp).mp ha))
    apply cleaned_of_mem_iff hdistinct hk hp heffect.sublist
    intro e he
    exact (heffect.mem_executions_iff hdistinct hfetch hlist hdelete).trans (and_iff_right he)
  · intro faults' backoff' namespace' name' later hfetch' hlist' hoverdue r
    have hall : faults.accepted (k.asked p now) = k.asked p now :=
      List.filter_eq_self.mpr fun e he => by rw [haccepted e he, Option.isNone_none]
    have hcleaner : k'.cleaner = some (c.stamped (completedStatus c d now) v) := by rw [hstate]
    have hexecutions : k'.executions = ({ k with faults }.swept p now).executions := by rw [hstate]
    have hagain : r = _ :=
      cycle_again hcleaner hexecutions hp hall hoverdue hfetch' hlist' backoff' namespace' name'
    rw [hagain, hnamespace]
    exact ⟨rfl, rfl, rfl⟩

/-- Of the two active runs only "a" is overdue, and there is one ended run to be kept. -/
theorem nightly_clean_cycle :
    let runs := [nightlyRun "a" 10 1 0 0, nightlyRun "b" 20 0 1 0, nightlyRun "c" 30 1 0 0]
    let k := start (some nightly) runs
    let first := k.cycle .none .zero "ops" "sweep" pastOne
    let second := first.state.cycle .none .zero "ops" "sweep" pastOne
    let wait := some ⟨300_000_000_000, by decide⟩
    k.cleaner = some (setVersion nightly 1) ∧
      first.value = .ok ⟨wait, .completed { Deletions.none with stuck := ⟨.stuck, 1, []⟩ }⟩ ∧
      (∀ e ∈ first.deletions, Faults.none.delete e.name = none) ∧ k.Distinct ∧
      nightlySpec.Cleaned pastOne runs first.state.executions ∧
      second.calls = [.fetch "ops" "sweep", .list "batch"] ∧
      second.state = { first.state with faults := .none } ∧ second.value = .ok ⟨wait, .completed .none⟩ := by
  intro runs k first second wait
  have hcleaner : k.cleaner = some (setVersion nightly 1) := rfl
  have hfirst : first.value =
      .ok ⟨wait, .completed { Deletions.none with stuck := ⟨.stuck, 1, []⟩ }⟩ := by decide
  have hspared : ∀ e ∈ first.deletions, Faults.none.delete e.name = none := fun _ _ => rfl
  have hdistinct : k.Distinct := by
    rw [Distinct]
    decide
  have hoverdue : ∀ e ∈ first.state.executions,
      e.namespace_ = nightlySpec.namespace_ → ¬nightlySpec.Overdue pastOne e := by decide
  obtain ⟨hcleaned, hagain⟩ := clean_cycle hcleaner hfirst hspared
  obtain ⟨hcalls, hstate, hvalue⟩ :=
    hagain .none .zero "ops" "sweep" pastOne rfl rfl hoverdue
  exact ⟨hcleaner, hfirst, hspared, hdistinct, hcleaned hdistinct, hcalls, hstate, hvalue⟩

end Cluster

end CronSweep
