import CronSweep.Proofs.Policy.Checked
import CronSweep.Proofs.Text.Trim

namespace CronSweep

inductive Check
  | namespace_
  | cronJobName
  | runInterval
  | successfulJobs
  | failedJobs
  | stuckAfter
deriving DecidableEq

namespace Check

def order : List Check :=
  [.namespace_, .cronJobName, .runInterval, .successfulJobs, .failedJobs, .stuckAfter]

def IsLong (text : String) : Prop :=
  ∃ d, Duration.parse text = .ok d ∧ 1_000_000_000 ≤ d.nanos

def Passes (spec : Spec) : Check → Prop
  | .namespace_ => ∃ c ∈ spec.namespace_.toList, Text.isBlank c = false
  | .cronJobName => ∃ c ∈ spec.cronJobName.toList, Text.isBlank c = false
  | .runInterval => IsLong spec.runInterval
  | .successfulJobs => 0 ≤ spec.retain.successfulJobs.toInt
  | .failedJobs => 0 ≤ spec.retain.failedJobs.toInt
  | .stuckAfter => spec.cleanupStuck.enabled = true → IsLong spec.cleanupStuck.stuckAfter

/-- What is reported about a spec that does not pass. A negative duration is one that is too short,
and so is an empty threshold. -/
def error (spec : Spec) : Check → SpecError
  | .namespace_ => .emptyNamespace
  | .cronJobName => .emptyCronJobName
  | .runInterval =>
      match Duration.parse spec.runInterval with
      | .ok _ | .error ⟨.negative, _⟩ => .runIntervalTooShort
      | .error e => .runIntervalUnparsable e
  | .successfulJobs => .negativeSuccessfulRetention
  | .failedJobs => .negativeFailedRetention
  | .stuckAfter =>
      match Duration.parse spec.cleanupStuck.stuckAfter with
      | .ok _ | .error ⟨.negative, _⟩ | .error ⟨.empty, _⟩ => .stuckAfterTooShort
      | .error e => .stuckAfterUnparsable e

instance (text : String) : Decidable (IsLong text) :=
  decidable_of_iff ((Duration.parse text).toOption.any (1_000_000_000 ≤ ·.nanos) = true) <| by
    rw [IsLong]
    cases Duration.parse text <;> simp [Except.toOption]

instance (spec : Spec) (check : Check) : Decidable (check.Passes spec) :=
  match check with
  | .namespace_ => List.decidableBEx (Text.isBlank · = false) spec.namespace_.toList
  | .cronJobName => List.decidableBEx (Text.isBlank · = false) spec.cronJobName.toList
  | .runInterval => inferInstanceAs (Decidable (IsLong _))
  | .successfulJobs => inferInstanceAs (Decidable (_ ≤ _))
  | .failedJobs => inferInstanceAs (Decidable (_ ≤ _))
  | .stuckAfter => inferInstanceAs (Decidable (_ = true → IsLong _))

def firstFailing? (spec : Spec) : Option Check := order.find? fun check => !check.Passes spec

end Check

def SpecError.check : SpecError → Check
  | .emptyNamespace => .namespace_
  | .emptyCronJobName => .cronJobName
  | .runIntervalTooShort | .runIntervalUnparsable _ => .runInterval
  | .negativeSuccessfulRetention => .successfulJobs
  | .negativeFailedRetention => .failedJobs
  | .stuckAfterTooShort | .stuckAfterUnparsable _ => .stuckAfter

/-- Every error names the check that reports it. -/
theorem Check.check_error (spec : Spec) (check : Check) : (check.error spec).check = check := by
  cases check with
  | namespace_ | cronJobName | successfulJobs | failedJobs => rfl
  | runInterval =>
      rw [error]
      split <;> rfl
  | stuckAfter =>
      rw [error]
      split <;> rfl

namespace Check

variable {spec : Spec} {e : SpecError} {α β : Type}

def Reported (spec : Spec) (e : SpecError) : List Check → Prop
  | [] => False
  | check :: checks =>
      (¬check.Passes spec ∧ e = check.error spec) ∨ (check.Passes spec ∧ Reported spec e checks)

theorem reported_iff {checks : List Check} :
    Reported spec e checks ↔
      ∃ check, checks.find? (fun check => !check.Passes spec) = some check ∧
        e = check.error spec := by
  induction checks with
  | nil => simp [Reported]
  | cons check checks ih =>
      rw [Reported, ih]
      by_cases hpasses : check.Passes spec <;> simp [hpasses]

/-- It fails with the check's error, exactly when the spec does not pass. -/
def Decides (check : Check) (spec : Spec) (x : Except SpecError α) : Prop :=
  ∀ e, x = .error e ↔ ¬check.Passes spec ∧ e = check.error spec

theorem Decides.bind_eq_error_iff {check : Check} {x : Except SpecError α}
    (hx : check.Decides spec x) {checks : List Check} {f : α → Except SpecError β}
    (hf : ∀ a, f a = .error e ↔ Reported spec e checks) :
    (x >>= f) = .error e ↔ Reported spec e (check :: checks) := by
  rw [Reported]
  cases x with
  | error e' =>
      obtain ⟨hfails, rfl⟩ := (hx e').mp rfl
      simp [bind, Except.bind, hfails, eq_comm]
  | ok a =>
      have hpasses : check.Passes spec :=
        Decidable.byContradiction fun hfails => nomatch (hx _).mpr ⟨hfails, rfl⟩
      simp [bind, Except.bind, hpasses, hf]

theorem ite_eq_error_iff (check : Check) {fails : Bool} (hfails : fails = false ↔ check.Passes spec)
    {checks : List Check} {rest : Except SpecError α}
    (hrest : rest = .error e ↔ Reported spec e checks) :
    (if fails then .error (check.error spec) else rest) = .error e ↔
      Reported spec e (check :: checks) := by
  rw [Reported, ← hfails, ← hrest]
  cases fails <;> simp [eq_comm]

end Check

namespace Policy

open Check

theorem isBlankText_eq_false_iff {text : String} :
    isBlankText text = false ↔ ∃ c ∈ text.toList, Text.isBlank c = false := by
  rw [isBlankText, List.isEmpty_eq_false_iff, ne_eq, Text.trim_eq_nil_iff]
  simp

theorem isLong_iff {text : String} :
    IsLong text ↔ ∃ d, Duration.parse text = .ok d ∧ shortest ≤ d := Iff.rfl

variable (spec : Spec)

theorem decides_runInterval : Check.runInterval.Decides spec (runInterval? spec) := by
  intro e
  rw [Passes, isLong_iff, Check.error, runInterval?]
  cases Duration.parse spec.runInterval with
  | ok d => by_cases hd : shortest ≤ d <;> simp [hd, eq_comm]
  | error e' =>
      obtain ⟨fault, input⟩ := e'
      cases fault <;> simp [eq_comm]

theorem decides_stuckAfter : Check.stuckAfter.Decides spec (stuckAfter? spec) := by
  intro e
  rw [Passes, isLong_iff, Check.error, stuckAfter?]
  cases spec.cleanupStuck.enabled with
  | false => simp
  | true =>
      cases Duration.parse spec.cleanupStuck.stuckAfter with
      | ok d => by_cases hd : shortest ≤ d <;> simp [hd, eq_comm]
      | error e' =>
          obtain ⟨fault, input⟩ := e'
          cases fault <;> simp [eq_comm]

theorem retained?_eq_error_iff {count : Int32} {error e : SpecError} :
    retained? count error = .error e ↔ ¬0 ≤ count.toInt ∧ e = error := by
  have hsign : count < 0 ↔ count.toInt < 0 := Int32.lt_iff_toInt_lt
  rw [retained?, Int.not_le, ← hsign]
  by_cases hcount : count < 0 <;> simp [hcount, eq_comm]

theorem decides_successfulJobs : Check.successfulJobs.Decides spec
    (retained? spec.retain.successfulJobs .negativeSuccessfulRetention) :=
  fun _ => retained?_eq_error_iff

theorem decides_failedJobs : Check.failedJobs.Decides spec
    (retained? spec.retain.failedJobs .negativeFailedRetention) :=
  fun _ => retained?_eq_error_iff

theorem ofSpec?_eq_error_iff {e : SpecError} :
    ofSpec? spec = .error e ↔
      ∃ check, firstFailing? spec = some check ∧ e = check.error spec := by
  rw [firstFailing?, ← reported_iff, ofSpec?, order]
  refine ite_eq_error_iff .namespace_ isBlankText_eq_false_iff ?_
  refine ite_eq_error_iff .cronJobName isBlankText_eq_false_iff ?_
  refine (decides_runInterval spec).bind_eq_error_iff fun interval => ?_
  refine (decides_successfulJobs spec).bind_eq_error_iff fun successful => ?_
  refine (decides_failedJobs spec).bind_eq_error_iff fun failed => ?_
  refine (decides_stuckAfter spec).bind_eq_error_iff fun threshold => ?_
  simp [Reported, pure, Except.pure]

theorem exists_ofSpec?_eq_ok_iff :
    (∃ p, ofSpec? spec = .ok p) ↔ ∀ check : Check, check.Passes spec := by
  have hnone : (∃ p, ofSpec? spec = .ok p) ↔ firstFailing? spec = none := by
    cases h : ofSpec? spec with
    | error e =>
        obtain ⟨check, hcheck, -⟩ := (ofSpec?_eq_error_iff spec).mp h
        simp [hcheck]
    | ok p =>
        simp only [Except.ok.injEq, exists_eq', true_iff]
        apply Option.eq_none_iff_forall_ne_some.mpr
        intro check hcheck
        cases h.symm.trans ((ofSpec?_eq_error_iff spec).mpr ⟨check, hcheck, rfl⟩)
  rw [hnone, firstFailing?, List.find?_eq_none]
  constructor
  · intro h check
    simpa using h check (by cases check <;> decide)
  · intro h check _
    simpa using h check

theorem passes_runInterval_iff :
    Check.runInterval.Passes spec ↔ ∃ d, runInterval? spec = .ok d := by
  rw [Passes, isLong_iff]
  simp only [runInterval?_eq_ok_iff]

/-- Retention and threshold are looked at once the run interval is known. -/
theorem exists_runInterval_of_late {e : SpecError} (h : ofSpec? spec = .error e)
    (hlate : e.check ∈ [Check.successfulJobs, .failedJobs, .stuckAfter]) :
    ∃ d, runInterval? spec = .ok d := by
  rw [ofSpec?_eq_error_iff, firstFailing?, ← reported_iff, order] at h
  simp only [Reported] at h
  rcases h with ⟨-, rfl⟩ | ⟨-, ⟨-, rfl⟩ | ⟨-, ⟨-, rfl⟩ | ⟨hinterval, -⟩⟩⟩
  · simp [check_error] at hlate
  · simp [check_error] at hlate
  · simp [check_error] at hlate
  · exact (passes_runInterval_iff spec).mp hinterval

structure Reads (p : Policy) (spec : Spec) : Prop where
  namespace_ : p.namespace_ = spec.namespace_
  cronJobName : p.cronJobName = spec.cronJobName
  retainSuccessful : spec.retain.successfulJobs.toInt = p.retainSuccessful
  retainFailed : spec.retain.failedJobs.toInt = p.retainFailed
  runInterval : runInterval? spec = .ok p.runInterval
  isSome_stuckAfter : p.stuckAfter.isSome = spec.cleanupStuck.enabled
  stuckAfter : ∀ d, p.stuckAfter = some d → Duration.parse spec.cleanupStuck.stuckAfter = .ok d

theorem reads_of_ofSpec? {spec : Spec} {p : Policy} (h : ofSpec? spec = .ok p) : p.Reads spec := by
  obtain ⟨-, -, hnamespace, hname, hinterval, hsuccessful, hfailed, hstuck⟩ :=
    ofSpec?_eq_ok_iff.mp h
  rw [stuckAfter?_eq_ok_iff] at hstuck
  refine ⟨hnamespace, hname, hsuccessful, hfailed, hinterval, ?_, ?_⟩
  · split at hstuck
    · next henabled =>
        obtain ⟨d, -, -, hd⟩ := hstuck
        rw [hd, henabled]
        rfl
    · next henabled =>
        rw [hstuck, Bool.eq_false_iff.mpr henabled]
        rfl
  · intro d hd
    split at hstuck
    · obtain ⟨d', hd', -, hsome⟩ := hstuck
      cases hsome.symm.trans hd
      exact hd'
    · cases hstuck.symm.trans hd

end Policy

end CronSweep
