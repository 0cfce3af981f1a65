import CronSweep.Proofs.Cluster.Accounting
import CronSweep.Proofs.Status.Verdict

namespace CronSweep

theorem Status.condition?_eq_none_iff {s : Status} {type : String} :
    s.condition? type = none ↔ ∀ c ∈ s.conditions, c.type ≠ type := by
  simp [condition?]

theorem Status.condition?_eq_standing {s : Status} {cs : List Condition} {fs : List Finding}
    (hcs : ∀ c ∈ cs, c.type ≠ Cycle.readyType) (hs : s.conditions = cs ++ (standing fs).toList) :
    s.condition? Cycle.readyType = standing fs := by
  have hnone : cs.find? (·.type = Cycle.readyType) = none := by simpa using hcs
  rw [condition?, hs, List.find?_append, hnone, Option.none_or]
  cases hstanding : standing fs with
  | none => rfl
  | some c => simp [type_of_standing hstanding]

namespace Cluster

def finding? (k : Cluster) : Step → Option Finding
  | .cycle faults backoff namespace_ name now =>
      (k.cleaner.bind fun c =>
        Cycle.verdict? c (k.cycle faults backoff namespace_ name now).value).map (⟨now, ·⟩)
  | .add _ | .remove _ | .edit _ _ _ => none

/-- The findings of the cycles of a history that did not break off. -/
def findings (k : Cluster) : List Step → List Finding
  | [] => []
  | s :: steps => (k.finding? s).toList ++ (k.step s).findings steps

variable (k : Cluster)

theorem conditions_cycle (faults : Faults) (backoff : Duration) (namespace_ name : String)
    (now : Instant) :
    let r := k.cycle faults backoff namespace_ name now
    r.state.status.conditions =
      (k.cleaner.bind fun c => Cycle.verdict? c r.value).elim k.status.conditions
        fun v => (v.since now).set k.status.conditions := by
  intro r
  have heffect : Effect { k with faults } (Cycle.clampBackoff backoff) now r.value r.state :=
    effect_cycle ..
  generalize r.value = value, r.state = k' at heffect
  cases heffect with
  | fetchRefused | missing | listRefused =>
      cases hk : k.cleaner <;> simp [status, Cycle.verdict?, hk]
  | invalid c e hfetch hk hp h =>
      have hstatus : k.status = c.status.getD .initial := status_of_cleaner hk
      replace hk : k.cleaner = some c := hk
      cases h with
      | unwritten => simp [status, Cycle.verdict?, hk]
      | written v n =>
          rw [hstatus, hk]
          exact Cycle.conditions_invalidStatus c e now
  | swept c p d hfetch hk hp hlist h =>
      have hstatus : k.status = c.status.getD .initial := status_of_cleaner hk
      replace hk : k.cleaner = some c := hk
      cases h with
      | unwritten => simp [status, Cycle.verdict?, swept, without, hk]
      | written v n =>
          rw [hstatus, hk]
          exact Cycle.conditions_completedStatus c d now

theorem conditions_step (s : Step) :
    (k.step s).status.conditions = (k.finding? s).elim k.status.conditions
      fun f => (f.verdict.since f.now).set k.status.conditions := by
  cases s with
  | cycle faults backoff namespace_ name now =>
      rw [step, conditions_cycle, finding?]
      cases k.cleaner.bind _ <;> rfl
  | add es => rfl
  | remove gone => rfl
  | edit spec metadata version =>
      rw [step, status, finding?, status]
      cases k.cleaner <;> rfl

theorem conditions_after (steps : List Step) :
    (k.after steps).status.conditions = (k.findings steps).foldl
      (fun cs f => (f.verdict.since f.now).set cs) k.status.conditions := by
  induction steps generalizing k with
  | nil => rfl
  | cons s steps ih =>
      rw [findings, List.foldl_append, after, List.foldl_cons]
      apply (ih (k.step s)).trans
      rw [conditions_step]
      cases k.finding? s <;> rfl

theorem Effect.invalidSpec {k k' : Cluster} {backoff : Duration} {now : Instant}
    {wait : Option Duration} {e : SpecError}
    (h : Effect k backoff now (.ok ⟨wait, .invalidSpec e⟩) k') :
    ∃ c, k.cleaner = some c ∧ Policy.ofSpec? c.spec = .error e := by
  cases h with
  | invalid c e' hfetch hk hp h =>
      cases h
      exact ⟨c, hk, hp⟩
  | swept c p d hfetch hk hp hlist h => cases h

theorem condition?_cycle {k : Cluster} {cs : List Condition} {fs : List Finding}
    (hcs : ∀ c ∈ cs, c.type ≠ Cycle.readyType)
    (hk : k.status.conditions = cs ++ (standing fs).toList) (faults : Faults) (backoff : Duration)
    (namespace_ name : String) (now : Instant) :
    let r := k.cycle faults backoff namespace_ name now
    r.state.status.condition? Cycle.readyType =
      (k.cleaner.bind fun c => Cycle.verdict? c r.value).elim (standing fs)
        fun v => standing (fs ++ [⟨now, v⟩]) := by
  intro r
  have hconditions : r.state.status.conditions = _ :=
    k.conditions_cycle faults backoff namespace_ name now
  rw [show k.cycle faults backoff namespace_ name now = r from rfl] at hconditions
  cases hv : k.cleaner.bind fun c => Cycle.verdict? c r.value with
  | none =>
      rw [hv] at hconditions
      exact Status.condition?_eq_standing hcs (hconditions.trans hk)
  | some v =>
      rw [hv, Option.elim_some, hk, Condition.set_append_of_forall_ne hcs,
        ← toList_standing_concat fs ⟨now, v⟩] at hconditions
      exact Status.condition?_eq_standing hcs hconditions

/-- After any history of a status that starts without a `Ready` condition there is one from the
first finding on, behind the others, and it is the one that the findings come to. -/
theorem ready_after_eq_standing (k : Cluster) (steps : List Step)
    (hnone : k.status.condition? Cycle.readyType = none) :
    let k' := k.after steps
    let ready := standing (k.findings steps)
    k'.status.condition? Cycle.readyType = ready ∧
    k'.status.conditions = k.status.conditions ++ ready.toList ∧
    ∀ faults backoff namespace_ name now,
      let r := k'.cycle faults backoff namespace_ name now
      let new := r.state.status.condition? Cycle.readyType
      match r.value with
      | .error _ | .ok ⟨_, .missing⟩ => new = ready
      | .ok ⟨_, .completed _⟩ => ∃ c since, k'.cleaner = some c ∧ new = some
          ⟨"Ready", .holds, "CycleCompleted", "cleanup cycle completed", since,
            c.metadata.generation⟩
      | .ok ⟨_, .invalidSpec e⟩ => ∃ c since, k'.cleaner = some c ∧
          Policy.ofSpec? c.spec = .error e ∧ new = some
            ⟨"Ready", .fails, "InvalidSpec", e.message, since, c.metadata.generation⟩ := by
  intro k' ready
  have hothers := Status.condition?_eq_none_iff.mp hnone
  have hconditions : k'.status.conditions = k.status.conditions ++ ready.toList := by
    rw [conditions_after, foldl_set_eq_append_standing hothers]
  refine ⟨Status.condition?_eq_standing hothers hconditions, hconditions,
    fun faults backoff namespace_ name now => ?_⟩
  intro r new
  have hnew : new = _ := condition?_cycle hothers hconditions faults backoff namespace_ name now
  have heffect : Effect { k' with faults } (Cycle.clampBackoff backoff) now r.value r.state :=
    effect_cycle ..
  rw [show k'.cycle faults backoff namespace_ name now = r from rfl] at hnew
  generalize r.value = value at hnew heffect
  match value with
  | .error e | .ok ⟨_, .missing⟩ =>
      cases hk : k'.cleaner <;> simpa [hk, Cycle.verdict?] using hnew
  | .ok ⟨_, .completed d⟩ =>
      obtain ⟨c, p, v, n, -, hk, -⟩ := heffect.completed
      replace hk : k'.cleaner = some c := hk
      rw [hk, Option.bind_some, Cycle.verdict?, Option.elim_some, standing_concat] at hnew
      exact ⟨c, _, hk, hnew⟩
  | .ok ⟨_, .invalidSpec e⟩ =>
      obtain ⟨c, hk, hp⟩ := heffect.invalidSpec
      replace hk : k'.cleaner = some c := hk
      rw [hk, Option.bind_some, Cycle.verdict?, Option.elim_some, standing_concat] at hnew
      exact ⟨c, _, hk, hp, hnew⟩

def pastTwo : Instant := ⟨7220, 0, .inl (by decide), by decide, by decide⟩
def pastThree : Instant := ⟨10820, 0, .inl (by decide), by decide, by decide⟩

/-- The spec is found wrong at two, and what comes after that moves nothing. -/
theorem nightly_ready :
    let k := start (some Cycle.nightly) [Cycle.nightlyRun "a" 10 1 0 0]
    let wrong := { Cycle.nightlySpec with runInterval := "500ms" }
    let second := { Metadata.blank with generation := some 2, resourceVersion := some "9" }
    let unreachable := { Faults.none with fetch := some .notFound }
    let steps := [Step.cycle .none .zero "ops" "sweep" Cycle.pastOne, .edit wrong second 9,
      .cycle .none .zero "ops" "sweep" pastTwo, .cycle unreachable .zero "ops" "sweep" pastThree,
      .cycle .none .zero "ops" "sweep" pastThree]
    let ready : Condition := ⟨"Ready", .fails, "InvalidSpec",
      "spec.runInterval must be at least 1s", pastTwo, some 2⟩
    k.status.condition? Cycle.readyType = none ∧
      (k.after steps).status.condition? Cycle.readyType = some ready ∧
      (k.after steps).status.conditions = [ready] := by
  intro k wrong second unreachable steps ready
  have hnone : k.status.condition? Cycle.readyType = none := rfl
  have hstanding : standing (k.findings steps) = some ready := by decide
  obtain ⟨hready, hconditions, -⟩ := ready_after_eq_standing k steps hnone
  rw [hstanding] at hready hconditions
  exact ⟨hnone, hready, hconditions⟩

end Cluster

end CronSweep
