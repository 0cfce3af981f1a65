import CronSweep.Proofs.Cycle.Decision
import CronSweep.Proofs.Cycle.Protocol
import CronSweep.Proofs.Plan.Relabelling
import CronSweep.Proofs.Policy.Checks

namespace CronSweep

/-- The same with another text for the threshold, unless the threshold is read. -/
def Spec.rephrased (text : String) (s : Spec) : Spec :=
  if s.cleanupStuck.enabled then s else { s with cleanupStuck := ⟨false, text⟩ }

/-- Two specs differ in nothing but the text of a threshold that neither of them reads. -/
structure Spec.Rephrases (a b : Spec) : Prop where
  namespace_ : a.namespace_ = b.namespace_
  cronJobName : a.cronJobName = b.cronJobName
  retain : a.retain = b.retain
  disabled : a.cleanupStuck.enabled = false
  disabled' : b.cleanupStuck.enabled = false
  runInterval : a.runInterval = b.runInterval

theorem Spec.Rephrases.eq_rephrased {a b : Spec} (h : a.Rephrases b) :
    a = b.rephrased a.cleanupStuck.stuckAfter := by
  obtain ⟨namespace_, name, retain, ⟨enabled, text⟩, interval⟩ := a
  obtain ⟨hnamespace, hname, hretain, hdisabled, hdisabled', hinterval⟩ := h
  simp only at hnamespace hname hretain hdisabled hinterval
  rw [Spec.rephrased, hdisabled', hnamespace, hname, hretain, hdisabled, hinterval]
  rfl

namespace Policy

variable (text : String) (spec : Spec)

theorem runInterval?_rephrased : runInterval? (spec.rephrased text) = runInterval? spec := by
  rw [Spec.rephrased]
  split <;> rfl

theorem ofSpec?_rephrased : ofSpec? (spec.rephrased text) = ofSpec? spec := by
  rw [Spec.rephrased]
  split
  · rfl
  · next hdisabled =>
      have hstuck : stuckAfter? { spec with cleanupStuck := ⟨false, text⟩ } = stuckAfter? spec := by
        simp [stuckAfter?, hdisabled]
      rw [ofSpec?, hstuck]
      rfl

end Policy

def Cleaner.rephrased (text : String) (c : Cleaner) : Cleaner :=
  { c with spec := c.spec.rephrased text }

def Cluster.rephrased (text : String) (k : Cluster) : Cluster :=
  { k with cleaner := k.cleaner.map (·.rephrased text) }

def Exchange.rephrased (text : String) : Exchange → Exchange
  | ⟨.fetch namespace_ name, (answer : Except ClientError (Option Cleaner))⟩ =>
      ⟨.fetch namespace_ name, answer.map (Option.map (·.rephrased text))⟩
  | ⟨.list namespace_, answer⟩ => ⟨.list namespace_, answer⟩
  | ⟨.delete e, answer⟩ => ⟨.delete e, answer⟩
  | ⟨.updateStatus c s, answer⟩ => ⟨.updateStatus (c.rephrased text) s, answer⟩
  | ⟨.publish c e, answer⟩ => ⟨.publish (c.rephrased text) e, answer⟩

namespace Cycle

open Plan

variable {text : String}

theorem alike_publishAll (c : Cleaner) (es : List Event) :
    Alike (Exchange.rephrased text) (publishAll c es) (publishAll (c.rephrased text) es) := by
  induction es with
  | nil => exact .done ()
  | cons e es ih => exact .ask (fun _ => rfl) fun _ _ _ => ih

theorem alike_writeStatus (c : Cleaner) (s : Status) :
    Alike (Exchange.rephrased text) (writeStatus c s) (writeStatus (c.rephrased text) s) := by
  have hstatus : (c.rephrased text).status = c.status := rfl
  rw [writeStatus, writeStatus, hstatus]
  split
  · exact .done _
  · refine .ask (fun _ => rfl) ?_
    rintro answer answer' ⟨⟩
    rcases answer with e | ⟨⟩ <;> exact .done _

theorem alike_clean (p : Policy) (now : Instant) :
    Alike (Exchange.rephrased text) (clean p now) (clean p now) := by
  apply Alike.refl
  intro log result h x hx
  have hdelete {x : Exchange} (hx : x.call.isDelete = true) : x.rephrased text = x := by
    obtain ⟨call, answer⟩ := x
    cases call with
    | delete => rfl
    | fetch | list | updateStatus | publish => cases hx
  rcases clean_cases h with ⟨e, rfl, -⟩ | ⟨listing, deletes, d, rfl, haccounts, -⟩
  · rw [List.mem_singleton.mp hx]
    rfl
  · rcases List.mem_cons.mp hx with rfl | hx
    · rfl
    · exact hdelete (haccounts.calls x hx)

theorem alike_settle {α : Type} (c : Cleaner) (s : Status) (events : Bool → List Event)
    (result : Except CycleError α) :
    Alike (Exchange.rephrased text)
      ((writeStatus c s).andThen fun written =>
        (publishAll c (events written)).bind fun _ => .done result)
      ((writeStatus (c.rephrased text) s).andThen fun written =>
        (publishAll (c.rephrased text) (events written)).bind fun _ => .done result) :=
  (alike_writeStatus c s).andThen fun written =>
    (alike_publishAll c (events written)).bind fun _ => .done result

/-- The cleaner that is read is passed on, and its threshold is looked at where it is read only. -/
theorem alike_course (backoff : Duration) (namespace_ name : String) (now : Instant) :
    Alike (Exchange.rephrased text) (course backoff namespace_ name now)
      (course backoff namespace_ name now) := by
  refine .ask (fun _ => rfl) ?_
  rintro answer answer' ⟨⟩
  rcases answer with e | _ | c
  · exact .done _
  · exact .done _
  · have hsame : Policy.ofSpec? (c.rephrased text).spec = Policy.ofSpec? c.spec :=
      Policy.ofSpec?_rephrased text c.spec
    have hinterval : Policy.runInterval? (c.rephrased text).spec = Policy.runInterval? c.spec :=
      Policy.runInterval?_rephrased text c.spec
    simp only [Except.map, Option.map_some, hsame]
    cases hp : Policy.ofSpec? c.spec with
    | error e =>
        simp only [reportInvalid, hinterval]
        exact alike_settle c _ _ _
    | ok p => exact (alike_clean p now).andThen fun d => alike_settle c _ (fun _ => events d) _

theorem alike_reconcile (backoff : Duration) (namespace_ name : String) (now : Instant) :
    Alike (Exchange.rephrased text) (reconcile backoff namespace_ name now)
      (reconcile backoff namespace_ name now) :=
  (alike_course _ namespace_ name now).bind fun result => .count _ (.done result)

end Cycle

namespace Cluster

variable (text : String) (k : Cluster)

theorem writeStatus_rephrased (c : Cleaner) (s : Status) :
    (k.rephrased text).writeStatus (c.rephrased text) s =
      ((k.writeStatus c s).1, (k.writeStatus c s).2.rephrased text) := by
  -- The version is the same, so the same writes are refused; both keep the specs they find.
  have hfaults : (k.rephrased text).faults = k.faults := rfl
  have hstored (n : Nat) :
      ((k.rephrased text).cleaner.map fun stored => setVersion { stored with status := some s } n) =
        (k.cleaner.map fun stored => setVersion { stored with status := some s } n).map
          (·.rephrased text) := by
    rw [rephrased, Option.map_map, Option.map_map]
    rfl
  simp only [writeStatus, hfaults]
  cases k.faults.concurrentEdit with
  | false =>
      simp only [Bool.false_eq_true, if_false]
      change (if c.metadata.resourceVersion = some (toString k.version) then _ else _) = _
      split
      · simp only [hstored]
        rfl
      · rfl
  | true =>
      simp only [if_true]
      change (if c.metadata.resourceVersion = some (toString (k.version + 1)) then _ else _) = _
      split
      · simp only [hstored]
        rfl
      · rfl

theorem client_respects :
    Client.Respects client (Exchange.rephrased text) (Cluster.rephrased text) := by
  intro call k
  cases call with
  | list | publish => rfl
  | fetch namespace_ name =>
      have hfetch (fault : Option ClientError) :
          refuse fault (.ok (k.rephrased text).cleaner) =
            (refuse fault (.ok k.cleaner)).map (Option.map (·.rephrased text)) := by
        cases fault <;> rfl
      exact congrArg (·, k.rephrased text) (hfetch k.faults.fetch)
  | delete e =>
      have hfaults : (k.rephrased text).faults = k.faults := rfl
      simp only [client, Exchange.rephrased, hfaults]
      cases k.faults.delete e.name <;> rfl
  | updateStatus c s =>
      have hfaults : (k.rephrased text).faults = k.faults := rfl
      simp only [client, Exchange.rephrased, hfaults]
      cases k.faults.updateStatus with
      | some e => rfl
      | none => exact writeStatus_rephrased text k c s

/-- The cycle of two clusters whose cleaners differ in a threshold text that is not read. -/
theorem mirrors_rephrased (backoff : Duration) (namespace_ name : String) (now : Instant) :
    Plan.Mirrors client (Exchange.rephrased text) (Cluster.rephrased text)
      (Cycle.reconcile backoff namespace_ name now) (Cycle.reconcile backoff namespace_ name now) k :=
  (Cycle.alike_reconcile backoff namespace_ name now).mirrors (client_respects text) k

end Cluster

namespace Policy

/-- A spec is taken exactly if it passes every check, and the policy then says what it says; else the
first check in their order that it does not pass says what is wrong, so that of a spec with another
fault than those of the names the run interval is known as soon as the fault lies behind it. The
threshold of a disabled stuck cleanup changes neither this nor the cycles of a cluster. -/
theorem validation_exact (spec : Spec) :
    ((∃ p, ofSpec? spec = .ok p) ↔ ∀ check : Check, check.Passes spec) ∧
    (∀ p, ofSpec? spec = .ok p → p.Reads spec) ∧
    (∀ e, ofSpec? spec = .error e ↔
      ∃ check, Check.firstFailing? spec = some check ∧ e = check.error spec) ∧
    (∀ e, ofSpec? spec = .error e →
      e.check ∈ [Check.successfulJobs, .failedJobs, .stuckAfter] → ∃ d, runInterval? spec = .ok d) ∧
    ∀ other : Spec, other.Rephrases spec →
      ofSpec? other = ofSpec? spec ∧
      ∀ (k : Cluster) (c : Cleaner), k.cleaner = some c → c.spec = spec →
        ∀ backoff namespace_ name now,
          let plan := Cycle.reconcile backoff namespace_ name now
          let k' := { k with cleaner := some { c with spec := other } }
          (plan.run Cluster.client k').value = (plan.run Cluster.client k).value ∧
          (plan.run Cluster.client k').samples = (plan.run Cluster.client k).samples ∧
          (plan.run Cluster.client k').state =
            (plan.run Cluster.client k).state.rephrased other.cleanupStuck.stuckAfter ∧
          plan.log Cluster.client k' =
            (plan.log Cluster.client k).map (Exchange.rephrased other.cleanupStuck.stuckAfter) := by
  refine ⟨exists_ofSpec?_eq_ok_iff spec, fun p => reads_of_ofSpec?,
    fun e => ofSpec?_eq_error_iff spec, fun e => exists_runInterval_of_late spec, ?_⟩
  intro other hother
  have heq := hother.eq_rephrased
  refine ⟨by rw [heq, ofSpec?_rephrased], ?_⟩
  rintro k c hk rfl backoff namespace_ name now plan k'
  have hk' : k' = k.rephrased other.cleanupStuck.stuckAfter := by
    simp only [k', Cluster.rephrased, hk, Option.map_some, Cleaner.rephrased, ← heq]
  obtain ⟨hvalue, hstate, hsamples, hlog⟩ :=
    k.mirrors_rephrased other.cleanupStuck.stuckAfter backoff namespace_ name now
  rw [hk']
  exact ⟨hvalue, hsamples, hstate, hlog⟩

def nightlyStuck (cleanupStuck : StuckCleanup) : Spec :=
  { Cycle.nightlySpec with cleanupStuck := cleanupStuck }

/-- More than one thing is wrong with it, and the run interval is none of them. -/
def faultySpec : Spec := { nightlyStuck ⟨true, "-1h"⟩ with retain := ⟨1, -1⟩ }

theorem nightly_validated :
    let spec := nightlyStuck ⟨false, ""⟩
    let other := nightlyStuck ⟨false, "soon"⟩
    let stored (spec : Spec) := Cluster.start (some ⟨.blank, spec, none⟩) Cycle.nightlyRuns
    let plan := Cycle.reconcile .zero "ops" "sweep" Cycle.pastOne
    (∃ p, ofSpec? spec = .ok p ∧ p.Reads spec) ∧
    Check.firstFailing? faultySpec = some .failedJobs ∧
    ofSpec? faultySpec = .error .negativeFailedRetention ∧
    (∃ d, runInterval? faultySpec = .ok d) ∧
    other.Rephrases spec ∧ ofSpec? other = ofSpec? spec ∧
    (plan.run Cluster.client (stored other)).value =
      (plan.run Cluster.client (stored spec)).value := by
  intro spec other stored plan
  have hvalid : ofSpec? spec =
      .ok ⟨"batch", "nightly", 1, 0, none, ⟨300_000_000_000, by decide⟩⟩ := by decide
  have hfirst : Check.firstFailing? faultySpec = some .failedJobs := by decide
  have hother : other.Rephrases spec := ⟨rfl, rfl, rfl, rfl, rfl, rfl⟩
  obtain ⟨-, hreads, -, -, hrephrased⟩ := validation_exact spec
  obtain ⟨-, -, herror, hlate, -⟩ := validation_exact faultySpec
  have hfails : ofSpec? faultySpec = .error .negativeFailedRetention :=
    (herror _).mpr ⟨.failedJobs, hfirst, rfl⟩
  obtain ⟨hsame, hcycle⟩ := hrephrased other hother
  obtain ⟨hvalue, -⟩ := hcycle (stored spec) _ rfl rfl .zero "ops" "sweep" Cycle.pastOne
  exact ⟨⟨_, hvalid, hreads _ hvalid⟩, hfirst, hfails, hlate _ hfails (by decide), hother, hsame,
    hvalue⟩

end Policy

end CronSweep
