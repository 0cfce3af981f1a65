import CronSweep.Proofs.Instant.Order
import CronSweep.Selection

namespace CronSweep.Selection

/-- No two instants are further apart than a count of milliseconds in 64 bits can say. -/
theorem elapsed_le_longestSpan (start now : Instant) :
    Instant.elapsed start now ≤ longestSpan := by
  have hs := start.earliest_le
  have hn := now.le_latest
  have hnano := now.nano_lt
  rw [Instant.elapsed, longestSpan]
  split
  · omega
  · split <;> omega

theorem isStuck_iff {threshold : Duration} {now : Instant} {e : Execution} :
    isStuck threshold now e = true ↔
      ∃ start, e.start = some start ∧ (threshold.nanos : Int) < Instant.elapsed start now := by
  rw [isStuck]
  cases e.start with
  | none => simp
  | some start => simp

/-- A threshold that is too long to compare with is not exceeded anyway. -/
theorem stuck_eq_filter (threshold : Duration) (now : Instant) (es : List Execution) :
    stuck threshold now es = es.filter (isStuck threshold now) := by
  rw [stuck]
  split
  · next h =>
      apply Eq.symm
      apply List.filter_eq_nil_iff.mpr
      intro e _ he
      obtain ⟨start, -, hlt⟩ := isStuck_iff.mp he
      have hle := elapsed_le_longestSpan start now
      omega
  · rfl

theorem isStuck_mono {threshold : Duration} {a b : Instant} {e : Execution}
    (he : ∀ start, e.start = some start → ¬start.IsLeap) (ha : ¬a.IsLeap) (hb : ¬b.IsLeap)
    (h : a ≤ b) (hstuck : isStuck threshold a e = true) : isStuck threshold b e = true := by
  obtain ⟨start, hstart, hlt⟩ := isStuck_iff.mp hstuck
  exact isStuck_iff.mpr
    ⟨start, hstart, Int.lt_of_lt_of_le hlt (Instant.elapsed_mono (he start hstart) ha hb h)⟩

end CronSweep.Selection
