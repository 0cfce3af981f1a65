import CronSweep.Cluster
import CronSweep.Proofs.Cycle.Condemned
import CronSweep.Proofs.Policy.Checked
import Mathlib.Data.List.Nodup

namespace CronSweep.Spec

open Selection

def Owns (spec : Spec) (e : Execution) : Prop :=
  ∃ o ∈ e.owners, o.kind = "CronJob" ∧ o.name = spec.cronJobName

def Overdue (spec : Spec) (now : Instant) (e : Execution) : Prop :=
  spec.Owns e ∧ 0 < e.active ∧ spec.cleanupStuck.enabled = true ∧
    ∃ threshold, Duration.parse spec.cleanupStuck.stuckAfter = .ok threshold ∧
      ∃ start, e.start = some start ∧ (threshold.nanos : Int) < Instant.elapsed start now

def Succeeded (spec : Spec) (e : Execution) : Prop :=
  spec.Owns e ∧ e.active = 0 ∧ 0 < e.succeeded

def Failed (spec : Spec) (e : Execution) : Prop :=
  spec.Owns e ∧ e.active = 0 ∧ e.succeeded = 0 ∧ 0 < e.failed

instance (spec : Spec) (e : Execution) : Decidable (spec.Owns e) :=
  inferInstanceAs (Decidable (∃ o ∈ e.owners, _))

instance (spec : Spec) (e : Execution) : Decidable (spec.Succeeded e) :=
  inferInstanceAs (Decidable (_ ∧ _))

instance (spec : Spec) (e : Execution) : Decidable (spec.Failed e) :=
  inferInstanceAs (Decidable (_ ∧ _))

instance (spec : Spec) (now : Instant) (e : Execution) : Decidable (spec.Overdue now e) :=
  decidable_of_iff (spec.Owns e ∧ 0 < e.active ∧ spec.cleanupStuck.enabled = true ∧
      (match Duration.parse spec.cleanupStuck.stuckAfter with
      | .ok threshold => isStuck threshold now e
      | .error _ => false) = true) <| by
    rw [Overdue]
    cases Duration.parse spec.cleanupStuck.stuckAfter <;> simp [isStuck_iff]

/-- Overdue, or ended with as many of its kind before it as are to be kept. -/
def Condemns (spec : Spec) (now : Instant) (listing : List Execution) (e : Execution) : Prop :=
  spec.Overdue now e ∨
  (spec.Succeeded e ∧
    spec.retain.successfulJobs.toInt ≤ listing.countP fun o => spec.Succeeded o ∧ Before o e) ∨
  (spec.Failed e ∧
    spec.retain.failedJobs.toInt ≤ listing.countP fun o => spec.Failed o ∧ Before o e)

instance (spec : Spec) (now : Instant) (listing : List Execution) (e : Execution) :
    Decidable (spec.Condemns now listing e) :=
  inferInstanceAs (Decidable (_ ∨ _ ∨ _))

theorem active_iff (e : Execution) : phase e = .active ↔ 0 < e.active := by
  rw [phase]
  split_ifs <;> simp_all [UInt32.pos_iff_ne_zero]

theorem succeeded_iff (e : Execution) :
    phase e = .succeeded ↔ e.active = 0 ∧ 0 < e.succeeded := by
  rw [phase]
  split_ifs <;> simp_all [UInt32.pos_iff_ne_zero]

theorem failed_iff (e : Execution) :
    phase e = .failed ↔ e.active = 0 ∧ e.succeeded = 0 ∧ 0 < e.failed := by
  rw [phase]
  split_ifs <;> simp_all [UInt32.pos_iff_ne_zero]

variable {spec : Spec} {p : Policy} (hp : Policy.ofSpec? spec = .ok p)
include hp

theorem owns_iff (e : Execution) :
    spec.Owns e ↔ e.isOwnedBy Execution.cronJobKind p.cronJobName = true := by
  obtain ⟨-, -, -, hname, -⟩ := Policy.ofSpec?_eq_ok_iff.mp hp
  simp only [Owns, Execution.isOwnedBy, Execution.cronJobKind, List.any_eq_true, Bool.and_eq_true,
    beq_iff_eq, hname]

theorem overdue_iff (now : Instant) (e : Execution) :
    spec.Overdue now e ↔ e.isOwnedBy Execution.cronJobKind p.cronJobName = true ∧
      phase e = .active ∧
        ∃ threshold, p.stuckAfter = some threshold ∧ isStuck threshold now e = true := by
  obtain ⟨-, -, -, -, -, -, -, hstuck⟩ := Policy.ofSpec?_eq_ok_iff.mp hp
  rw [Policy.stuckAfter?_eq_ok_iff] at hstuck
  rw [Overdue, owns_iff hp, active_iff]
  apply and_congr_right
  intro _
  apply and_congr_right
  intro _
  split at hstuck
  · next henabled =>
      obtain ⟨d, hd, -, hthreshold⟩ := hstuck
      simp [henabled, hd, hthreshold, isStuck_iff]
  · next henabled => simp [henabled, hstuck]

theorem group_succeeded (listing : List Execution) :
    p.group .succeeded listing = listing.filter (spec.Succeeded ·) :=
  Policy.group_eq_filter spec.Succeeded
    (fun e => by rw [Succeeded, owns_iff hp, succeeded_iff]) listing

theorem group_failed (listing : List Execution) :
    p.group .failed listing = listing.filter (spec.Failed ·) :=
  Policy.group_eq_filter spec.Failed (fun e => by rw [Failed, owns_iff hp, failed_iff]) listing

theorem select_stuck (now : Instant) (listing : List Execution) :
    (Cycle.select p now listing).stuck = listing.filter (spec.Overdue now ·) := by
  have hoverdue (e : Execution) := overdue_iff hp now e
  rw [Cycle.select]
  cases hstuck : p.stuckAfter with
  | none =>
      simp only [hstuck, reduceCtorEq, false_and, exists_false, and_false] at hoverdue
      simp [hoverdue]
  | some threshold =>
      simp only [hstuck, Option.some.injEq, exists_eq_left'] at hoverdue
      simp only [Option.elim_some, stuck_eq_filter, inPhase, ownedBy, List.filter_filter]
      congr 1
      funext e
      rw [Bool.eq_iff_iff]
      simp only [Bool.and_eq_true, decide_eq_true_eq, hoverdue]
      tauto

theorem condemns_iff (now : Instant) (listing : List Execution) (e : Execution) :
    spec.Condemns now listing e ↔ p.Condemns now listing e := by
  obtain ⟨-, -, -, -, -, hs, hf, -⟩ := Policy.ofSpec?_eq_ok_iff.mp hp
  have hsucceeded : listing.countP (fun o => spec.Succeeded o ∧ Before o e) =
      (p.group .succeeded listing).countP (Before · e) := by
    rw [group_succeeded hp, List.countP_filter]
    simp [and_comm]
  have hfailed : listing.countP (fun o => spec.Failed o ∧ Before o e) =
      (p.group .failed listing).countP (Before · e) := by
    rw [group_failed hp, List.countP_filter]
    simp [and_comm]
  rw [Condemns, Policy.Condemns, overdue_iff hp, hsucceeded, hfailed, hs, hf, Succeeded, Failed,
    ← succeeded_iff, ← failed_iff, owns_iff hp]
  cases phase e <;> simp [Policy.retained]

end CronSweep.Spec

namespace CronSweep.Cycle

open Selection

variable {σ : Type} (client : Client σ)

/-- Which executions a cycle asks to delete, in which order, whatever the cluster answers. -/
theorem deletions_reconcile_eq_condemned {s t u : σ} (backoff : Duration)
    {namespace_ name : String} (now : Instant) {c : Cleaner} {listing : List Execution}
    (hvalid : ∃ p, Policy.ofSpec? c.spec = .ok p)
    (hfetch : client (.fetch namespace_ name) s = (.ok (some c), t))
    (hlist : client (.list c.spec.namespace_) t = (.ok listing, u)) :
    let deletions := ((reconcile backoff namespace_ name now).run client s).deletions
    (∃ succeeded failed,
      NewestFirst (listing.filter (c.spec.Succeeded ·)) succeeded ∧
      NewestFirst (listing.filter (c.spec.Failed ·)) failed ∧
      deletions = (listing.filter (c.spec.Overdue now ·) ++
          succeeded.drop c.spec.retain.successfulJobs.toInt.toNat ++
          failed.drop c.spec.retain.failedJobs.toInt.toNat).eraseDupsBy
        fun a b => a.namespace_ == b.namespace_ && a.name == b.name) ∧
    ((listing.map (·.name)).Nodup → ∀ e ∈ listing,
      e ∈ deletions ↔ c.spec.Condemns now listing e) := by
  obtain ⟨p, hp⟩ := hvalid
  obtain ⟨-, -, hns, -, -, hs, hf, -⟩ := Policy.ofSpec?_eq_ok_iff.mp hp
  intro deletions
  have hdeletions : deletions = unseen (select p now listing).all [] :=
    deletions_reconcile client hfetch hp (hns ▸ hlist)
  refine ⟨⟨newestFirst (p.group .succeeded listing), newestFirst (p.group .failed listing), ?_, ?_,
    ?_⟩, fun hnames e he => ?_⟩
  · rw [Spec.group_succeeded hp]
    exact newestFirst_newestFirst _
  · rw [Spec.group_failed hp]
    exact newestFirst_newestFirst _
  · have hkeys (a b : Execution) :
        (a.namespace_ == b.namespace_ && a.name == b.name) = sameKey a b := rfl
    rw [hdeletions, unseen_eq_eraseDupsBy, hs, hf, ← Spec.select_stuck hp]
    simp only [Int.toNat_natCast, ← excess_eq_drop, hkeys]
    simp [Selected.all, select, Policy.group]
  · rw [hdeletions, Spec.condemns_iff hp, mem_unseen_nil_iff, Policy.mem_select_all hnames]
    · exact and_iff_right he
    · intro a ha b hb hkey
      rw [Policy.mem_select_all hnames] at ha hb
      exact List.inj_on_of_nodup_map hnames ha.1 hb.1 (Prod.mk.inj hkey).2

def nightlySpec : Spec := ⟨"batch", "nightly", ⟨1, 0⟩, ⟨true, "1h"⟩, "5m"⟩

def nightly : Cleaner := ⟨.blank, nightlySpec, none⟩

def nightlyRun (name : String) (second : Int) (active succeeded failed : UInt32) : Execution :=
  ⟨"batch", name, none, [⟨"CronJob", "nightly"⟩], Instant.ofParts? second 0, active, succeeded,
    failed⟩

def nightlyRuns : List Execution :=
  [nightlyRun "a" 10 1 0 0, nightlyRun "b" 20 0 1 0, nightlyRun "c" 30 0 1 1,
    nightlyRun "d" 40 1 0 0, nightlyRun "e" 50 0 0 1]

theorem nightlySpec_valid : Policy.ofSpec? nightlySpec =
    .ok ⟨"batch", "nightly", 1, 0, some ⟨3_600_000_000_000, by decide⟩,
      ⟨300_000_000_000, by decide⟩⟩ := by
  decide

def pastOne : Instant := ⟨3620, 0, .inl (by decide), by decide, by decide⟩

/-- "c" is the run that is kept and "d" has not run for more than an hour. -/
theorem nightly_deletions :
    let k := Cluster.start (some nightly) nightlyRuns
    let fetched := Cluster.setVersion nightly 1
    let deletions := ((reconcile .zero "ops" "sweep" pastOne).run Cluster.client k).deletions
    (∃ p, Policy.ofSpec? fetched.spec = .ok p) ∧
    Cluster.client (.fetch "ops" "sweep") k = (.ok (some fetched), k) ∧
    Cluster.client (.list fetched.spec.namespace_) k = (.ok nightlyRuns, k) ∧
    ∀ e ∈ nightlyRuns, e ∈ deletions ↔ e.name ∈ ["a", "b", "e"] := by
  intro k fetched deletions
  have hvalid : ∃ p, Policy.ofSpec? fetched.spec = .ok p := ⟨_, nightlySpec_valid⟩
  have hfetch : Cluster.client (.fetch "ops" "sweep") k = (.ok (some fetched), k) := rfl
  have hlist : Cluster.client (.list fetched.spec.namespace_) k = (.ok nightlyRuns, k) := rfl
  obtain ⟨-, hall⟩ :=
    deletions_reconcile_eq_condemned Cluster.client .zero pastOne hvalid hfetch hlist
  refine ⟨hvalid, hfetch, hlist, fun e he => ?_⟩
  rw [hall (by decide) e he]
  revert e
  decide

end CronSweep.Cycle
