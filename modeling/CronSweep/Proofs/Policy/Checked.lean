import CronSweep.Policy

namespace CronSweep

theorem bind_eq_ok_iff {ε α β : Type} {x : Except ε α} {f : α → Except ε β} {b : β} :
    (x >>= f) = .ok b ↔ ∃ a, x = .ok a ∧ f a = .ok b := by
  cases x with
  | error e => simp [bind, Except.bind]
  | ok a => simp [bind, Except.bind]

namespace Policy

theorem retained?_eq_ok_iff {count : Int32} {error : SpecError} {n : Nat} :
    retained? count error = .ok n ↔ count.toInt = n := by
  have hsign : count < 0 ↔ count.toInt < 0 := Int32.lt_iff_toInt_lt
  rw [retained?]
  split
  · next h =>
      have hneg := hsign.mp h
      simp only [reduceCtorEq, false_iff]
      omega
  · next h =>
      have hnonneg := mt hsign.mpr h
      rw [Except.ok.injEq]
      omega

theorem runInterval?_eq_ok_iff {spec : Spec} {d : Duration} :
    runInterval? spec = .ok d ↔ Duration.parse spec.runInterval = .ok d ∧ shortest ≤ d := by
  rw [runInterval?]
  cases h : Duration.parse spec.runInterval with
  | error e => by_cases hn : e.fault = .negative <;> simp [hn]
  | ok d' =>
      by_cases hd : shortest ≤ d'
      · simp only [hd, if_true, Except.ok.injEq]
        exact ⟨fun h => ⟨h, h ▸ hd⟩, fun h => h.1⟩
      · simp only [hd, if_false, reduceCtorEq, Except.ok.injEq, false_iff, not_and]
        rintro rfl
        exact hd

theorem stuckAfter?_eq_ok_iff {spec : Spec} {threshold : Option Duration} :
    stuckAfter? spec = .ok threshold ↔
      if spec.cleanupStuck.enabled then
        ∃ d, Duration.parse spec.cleanupStuck.stuckAfter = .ok d ∧ shortest ≤ d ∧ threshold = some d
      else threshold = none := by
  rw [stuckAfter?]
  cases spec.cleanupStuck.enabled with
  | false => simp [eq_comm]
  | true =>
      simp only [Bool.not_true, if_true]
      cases h : Duration.parse spec.cleanupStuck.stuckAfter with
      | error e => by_cases hn : e.fault = .negative ∨ e.fault = .empty <;> simp [hn]
      | ok d =>
          by_cases hd : shortest ≤ d
          · simp [hd, eq_comm]
          · simp [hd]

/-- A checked policy says what the spec says, with the counts and the durations read. -/
theorem ofSpec?_eq_ok_iff {spec : Spec} {p : Policy} :
    ofSpec? spec = .ok p ↔
      isBlankText spec.namespace_ = false ∧ isBlankText spec.cronJobName = false ∧
      p.namespace_ = spec.namespace_ ∧ p.cronJobName = spec.cronJobName ∧
      runInterval? spec = .ok p.runInterval ∧
      spec.retain.successfulJobs.toInt = p.retainSuccessful ∧
      spec.retain.failedJobs.toInt = p.retainFailed ∧
      stuckAfter? spec = .ok p.stuckAfter := by
  rw [ofSpec?]
  cases isBlankText spec.namespace_ with
  | true => simp
  | false =>
      cases isBlankText spec.cronJobName with
      | true => simp
      | false =>
          simp only [Bool.false_eq_true, if_false, bind_eq_ok_iff, retained?_eq_ok_iff, true_and]
          constructor
          · rintro ⟨interval, hinterval, successful, hs, failed, hf, threshold, ht, hp⟩
            cases hp
            exact ⟨rfl, rfl, hinterval, hs, hf, ht⟩
          · rintro ⟨hns, hname, hinterval, hs, hf, ht⟩
            refine ⟨_, hinterval, _, hs, _, hf, _, ht, ?_⟩
            rw [← hns, ← hname]
            rfl

end Policy

/-- The wait that a spec asks for, where its run interval is of use by itself. -/
def Spec.ownInterval? (spec : Spec) : Option Duration :=
  (Duration.parse spec.runInterval).toOption.filter (Policy.shortest ≤ ·)

theorem Policy.runInterval?_getD (spec : Spec) (backoff : Duration) :
    (match runInterval? spec with | .ok d => d | .error _ => backoff) =
      spec.ownInterval?.getD backoff := by
  rw [runInterval?, Spec.ownInterval?]
  cases Duration.parse spec.runInterval with
  | error e => by_cases he : e.fault = .negative <;> simp [he, Except.toOption]
  | ok d => by_cases hd : shortest ≤ d <;> simp [hd, Except.toOption, Option.filter]

end CronSweep
