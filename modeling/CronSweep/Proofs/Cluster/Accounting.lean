import CronSweep.Proofs.Cluster.History
import Mathlib.Algebra.GroupWithZero.Nat

namespace CronSweep

structure Tally where
  lastRunTime : Option Instant
  jobsDeleted : UInt64
  podsDeleted : UInt64

def Status.tally (s : Status) : Tally :=
  ⟨s.lastRunTime, s.jobsDeleted, s.podsDeleted⟩

def Tally.add (t : Tally) (c : Completion) : Tally where
  lastRunTime := if c.deletions.total = 0 then t.lastRunTime else some c.now
  jobsDeleted := saturatingAdd t.jobsDeleted c.deletions.total
  podsDeleted := saturatingAdd t.podsDeleted c.deletions.total

theorem saturatingAdd_zero (counter : UInt64) : saturatingAdd counter 0 = counter := by
  apply UInt64.toNat_inj.mp
  have hbound := counter.toNat_lt
  rw [toNat_saturatingAdd]
  omega

theorem toNat_foldl_saturatingAdd (counter : UInt64) (ns : List Nat) :
    (ns.foldl saturatingAdd counter).toNat = min (2 ^ 64 - 1) (counter.toNat + ns.sum) := by
  induction ns generalizing counter with
  | nil =>
      have hbound := counter.toNat_lt
      simp only [List.foldl_nil, List.sum_nil]
      omega
  | cons n ns ih =>
      rw [List.foldl_cons, ih, toNat_saturatingAdd, List.sum_cons]
      omega

theorem le_foldl_saturatingAdd (counter : UInt64) (ns : List Nat) :
    counter ≤ ns.foldl saturatingAdd counter := by
  have hbound := counter.toNat_lt
  rw [UInt64.le_iff_toNat_le, toNat_foldl_saturatingAdd]
  omega

theorem Deletions.tally_applyTo (c : Completion) (s : Status) :
    (c.deletions.applyTo s c.now).tally = s.tally.add c := by
  rw [applyTo, Tally.add]
  split
  · next hzero => rw [hzero, saturatingAdd_zero, saturatingAdd_zero]
  · rfl

/-- The sum that is added to the counters, in the 64 bits that they have. -/
def Deletions.sum64 (d : Deletions) : UInt64 :=
  UInt64.ofNat d.stuck.deleted + UInt64.ofNat d.excessSucceeded.deleted +
    UInt64.ofNat d.excessFailed.deleted

theorem Deletions.toNat_sum64 {d : Deletions} {n : Nat} (hle : d.total ≤ n) (hn : n < 2 ^ 64) :
    d.sum64.toNat = d.total := by
  rw [total] at hle ⊢
  simp only [sum64, UInt64.toNat_add, UInt64.toNat_ofNat']
  omega

namespace Tally

variable (t : Tally)

theorem counters_foldl (cs : List Completion) :
    (cs.foldl add t).jobsDeleted =
        (cs.map (·.deletions.total)).foldl saturatingAdd t.jobsDeleted ∧
      (cs.foldl add t).podsDeleted =
        (cs.map (·.deletions.total)).foldl saturatingAdd t.podsDeleted := by
  induction cs generalizing t with
  | nil => exact ⟨rfl, rfl⟩
  | cons c cs ih => exact ih (t.add c)

theorem lastRunTime_foldl (cs : List Completion) :
    (cs.foldl add t).lastRunTime =
      ((cs.filter (0 < ·.deletions.total)).getLast?.map (·.now)).or t.lastRunTime := by
  induction cs generalizing t with
  | nil => rfl
  | cons c cs ih =>
      rw [List.foldl_cons, ih, add]
      dsimp only
      by_cases hzero : c.deletions.total = 0
      · rw [if_pos hzero, List.filter_cons_of_neg (by simp [hzero])]
      · rw [if_neg hzero, List.filter_cons_of_pos (by simpa using Nat.pos_of_ne_zero hzero),
          List.getLast?_cons]
        cases (cs.filter (0 < ·.deletions.total)).getLast? <;> rfl

end Tally

namespace Cluster

/-- The stored status; where there is none, the one that cycles start from. -/
def status (k : Cluster) : Status := (k.cleaner.bind (·.status)).getD .initial

theorem status_of_cleaner {k : Cluster} {c : Cleaner} (hk : k.cleaner = some c) :
    k.status = c.status.getD .initial := by
  rw [status, hk, Option.bind_some]

variable (k : Cluster)

theorem tally_cycle (faults : Faults) (backoff : Duration) (namespace_ name : String)
    (now : Instant) :
    let r := k.cycle faults backoff namespace_ name now
    r.state.status.tally = (r.completion? now).elim k.status.tally k.status.tally.add := by
  intro r
  have heffect : Effect { k with faults } (Cycle.clampBackoff backoff) now r.value r.state :=
    effect_cycle ..
  rw [Run.completion?]
  generalize r.deletions = asked
  generalize r.value = value, r.state = k' at heffect
  cases heffect with
  | fetchRefused | missing | listRefused => rfl
  | invalid c e hfetch hk hp h =>
      have hstatus : k.status = c.status.getD .initial := status_of_cleaner hk
      cases h with
      | unwritten => rfl
      | written v n =>
          rw [hstatus]
          rfl
  | swept c p d hfetch hk hp hlist h =>
      have hstatus : k.status = c.status.getD .initial := status_of_cleaner hk
      cases h with
      | unwritten => rfl
      | written v n =>
          rw [hstatus]
          exact Deletions.tally_applyTo ⟨now, d, asked⟩ _

theorem tally_step (s : Step) :
    (k.step s).status.tally = (k.completion? s).elim k.status.tally k.status.tally.add := by
  cases s with
  | cycle faults backoff namespace_ name now => exact k.tally_cycle faults backoff namespace_ name now
  | add es => rfl
  | remove gone => rfl
  | edit spec metadata version =>
      rw [step, status, completion?, status]
      cases k.cleaner <;> rfl

theorem tally_after (steps : List Step) :
    (k.after steps).status.tally = (k.completions steps).foldl Tally.add k.status.tally := by
  induction steps generalizing k with
  | nil => rfl
  | cons s steps ih =>
      rw [completions, List.foldl_append, after, List.foldl_cons]
      apply (ih (k.step s)).trans
      rw [tally_step]
      cases k.completion? s <;> rfl

theorem total_completion_le (faults : Faults) (backoff : Duration) (namespace_ name : String)
    (now : Instant) {c : Completion}
    (hc : (k.cycle faults backoff namespace_ name now).completion? now = some c) :
    c.deletions.total ≤ c.asked.length := by
  rw [Run.completion?] at hc
  split at hc
  · next wait d hvalue =>
      cases hc
      exact Cycle.total_reconcile_le client hvalue
  · cases hc

theorem total_completions_le {steps : List Step} {c : Completion} (hc : c ∈ k.completions steps) :
    c.deletions.total ≤ c.asked.length := by
  induction steps generalizing k with
  | nil => cases hc
  | cons s steps ih =>
      rw [completions, List.mem_append, Option.mem_toList] at hc
      rcases hc with hc | hc
      · cases s with
        | cycle faults backoff namespace_ name now =>
            exact k.total_completion_le faults backoff namespace_ name now hc
        | add | remove | edit => cases hc
      · exact ih (k.step s) hc

theorem tally_cycle_of_not_completed {faults : Faults} {backoff : Duration}
    {namespace_ name : String} {now : Instant}
    (h : (k.cycle faults backoff namespace_ name now).completion? now = none) :
    (k.cycle faults backoff namespace_ name now).state.status.tally = k.status.tally := by
  simpa only [h, Option.elim_none] using k.tally_cycle faults backoff namespace_ name now

theorem total_cycle_le_of_statusWrite {k : Cluster} {c : Cleaner} {p : Policy}
    (hk : k.cleaner = some c) (hp : Policy.ofSpec? c.spec = .ok p) {faults : Faults}
    {backoff : Duration} {namespace_ name : String} {now : Instant} {e : ClientError}
    (h : (k.cycle faults backoff namespace_ name now).value = .error (.statusWrite e)) :
    ∃ d, ((Cycle.clean p now).run client { k with faults }).value = .ok d ∧
      d.total ≤ (k.cycle faults backoff namespace_ name now).deletions.length := by
  have heffect : Effect { k with faults } (Cycle.clampBackoff backoff) now
      (k.cycle faults backoff namespace_ name now).value _ := effect_cycle ..
  rw [h] at heffect
  have hfetch : client (.fetch namespace_ name) { k with faults } =
      (.ok (some c), { k with faults }) := by
    rw [← hk]
    exact client_fetch heffect.fetch_eq_none_of_statusWrite namespace_ name
  exact Cycle.total_reconcile_le_of_statusWrite client hfetch hp h

/-- What the status counts after a history is what the completed cycles have deleted. What a cycle
adds up is no more than it asked for, whether its status is taken or refused. -/
theorem status_after_eq_completions (k : Cluster) (steps : List Step) :
    let old := k.status
    let new := (k.after steps).status
    let completions := k.completions steps
    let deleted := (completions.map (·.deletions.total)).sum
    new.jobsDeleted.toNat = min (2 ^ 64 - 1) (old.jobsDeleted.toNat + deleted) ∧
    new.podsDeleted.toNat = min (2 ^ 64 - 1) (old.podsDeleted.toNat + deleted) ∧
    old.jobsDeleted ≤ new.jobsDeleted ∧ old.podsDeleted ≤ new.podsDeleted ∧
    (old.jobsDeleted = old.podsDeleted → new.jobsDeleted = new.podsDeleted) ∧
    new.lastRunTime =
      ((completions.filter (0 < ·.deletions.total)).getLast?.map (·.now)).or old.lastRunTime ∧
    (∀ c ∈ completions, c.deletions.total ≤ c.asked.length ∧
      (c.asked.length < 2 ^ 64 → c.deletions.sum64.toNat = c.deletions.total)) ∧
    ∀ faults backoff namespace_ name now,
      let r := (k.after steps).cycle faults backoff namespace_ name now
      (((∃ e, r.value = .error e) ∨ ∃ wait e, r.value = .ok ⟨wait, .invalidSpec e⟩) →
        r.state.status.tally = new.tally) ∧
      ∀ c p e, (k.after steps).cleaner = some c → Policy.ofSpec? c.spec = .ok p →
        r.value = .error (.statusWrite e) →
        ∃ d, ((Cycle.clean p now).run client { k.after steps with faults }).value = .ok d ∧
          d.total ≤ r.deletions.length ∧
          (r.deletions.length < 2 ^ 64 → d.sum64.toNat = d.total) := by
  intro old new completions deleted
  have htally : new.tally = completions.foldl Tally.add old.tally := k.tally_after steps
  obtain ⟨hjobs, hpods⟩ := old.tally.counters_foldl completions
  rw [← htally] at hjobs hpods
  have hjobsNat := congrArg UInt64.toNat hjobs
  have hpodsNat := congrArg UInt64.toNat hpods
  rw [toNat_foldl_saturatingAdd] at hjobsNat hpodsNat
  refine ⟨hjobsNat, hpodsNat, ?_, ?_, ?_, ?_, ?_, ?_⟩
  · exact (le_foldl_saturatingAdd _ _).trans_eq hjobs.symm
  · exact (le_foldl_saturatingAdd _ _).trans_eq hpods.symm
  · intro hequal
    exact hjobs.trans ((congrArg (List.foldl saturatingAdd · _) hequal).trans hpods.symm)
  · exact (congrArg Tally.lastRunTime htally).trans (old.tally.lastRunTime_foldl completions)
  · intro c hc
    have hle := k.total_completions_le hc
    exact ⟨hle, Deletions.toNat_sum64 hle⟩
  · intro faults backoff namespace_ name now r
    constructor
    · intro hr
      apply tally_cycle_of_not_completed
      rw [Run.completion?]
      rcases hr with ⟨e, he⟩ | ⟨wait, e, he⟩ <;> rw [he]
    · intro c p e hc hp hr
      obtain ⟨d, hclean, hle⟩ := total_cycle_le_of_statusWrite hc hp hr
      exact ⟨d, hclean, hle, Deletions.toNat_sum64 hle⟩

/-- The first deletion is not counted, because the status cannot be written. -/
theorem nightly_status :
    let k := start (some Cycle.nightly) [Cycle.nightlyRun "a" 10 1 0 0]
    let new := (k.after nightlySteps).status
    let unreachable := { Faults.none with fetch := some .notFound }
    let r := (k.after nightlySteps).cycle unreachable .zero "ops" "sweep" Cycle.pastOne
    let refused := { Faults.none with updateStatus := some .notFound }
    let first := k.cycle refused .zero "ops" "sweep" Cycle.pastOne
    new.jobsDeleted.toNat = 1 ∧ k.status.jobsDeleted = k.status.podsDeleted ∧
      new.jobsDeleted = new.podsDeleted ∧ new.lastRunTime = some Cycle.pastOne ∧
      r.value = .error (.fetch .notFound) ∧ r.state.status.tally = new.tally ∧
      first.value = .error (.statusWrite .notFound) ∧ first.deletions.length = 1 ∧
      ∃ p d, Policy.ofSpec? Cycle.nightlySpec = .ok p ∧
        ((Cycle.clean p Cycle.pastOne).run client { k with faults := refused }).value = .ok d ∧
        d.total ≤ first.deletions.length ∧ d.sum64.toNat = d.total := by
  intro k new unreachable r refused first
  obtain ⟨hjobs, -, -, -, hequal, hlast, -, hcycle⟩ := status_after_eq_completions k nightlySteps
  obtain ⟨-, -, -, -, -, -, -, hbegun⟩ := status_after_eq_completions k []
  have hold : k.status.jobsDeleted = k.status.podsDeleted := rfl
  have htotals : (k.completions nightlySteps).map (·.deletions.total) = [1] := by decide
  have htimes : ((k.completions nightlySteps).filter (0 < ·.deletions.total)).map (·.now) =
      [Cycle.pastOne] := by decide
  have hr : r.value = .error (.fetch .notFound) := rfl
  have hfirst : first.value = .error (.statusWrite .notFound) := by decide
  have hasked : first.deletions.length = 1 := by decide
  have hlt : first.deletions.length < 2 ^ 64 := by
    rw [hasked]
    decide
  have hvalid := Cycle.nightlySpec_valid
  obtain ⟨d, hclean, hle, hsum⟩ := (hbegun _ _ _ _ _).2 _ _ _ rfl hvalid hfirst
  rw [htotals] at hjobs
  rw [← List.getLast?_map, htimes] at hlast
  exact ⟨hjobs, hold, hequal hold, hlast, hr, (hcycle _ _ _ _ _).1 (.inl ⟨_, hr⟩), hfirst, hasked,
    _, d, hvalid, hclean, hle, hsum hlt⟩

end Cluster

end CronSweep
