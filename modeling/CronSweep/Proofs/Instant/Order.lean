import CronSweep.Instant.Basic

namespace CronSweep.Instant

theorem lt_def {a b : Instant} :
    a < b ↔ a.second < b.second ∨ (a.second = b.second ∧ a.nano < b.nano) := Iff.rfl

theorem le_def {a b : Instant} :
    a ≤ b ↔ a.second < b.second ∨ (a.second = b.second ∧ a.nano ≤ b.nano) := Iff.rfl

theorem ext_parts {a b : Instant} (hs : a.second = b.second) (hn : a.nano = b.nano) : a = b := by
  cases a; cases b; cases hs; cases hn; rfl

theorem lt_irrefl (a : Instant) : ¬a < a := by
  rw [lt_def]; omega

theorem lt_trans {a b c : Instant} (hab : a < b) (hbc : b < c) : a < c := by
  rw [lt_def] at *; omega

theorem lt_trichotomy (a b : Instant) : a < b ∨ a = b ∨ b < a := by
  by_cases h : a.second = b.second ∧ a.nano = b.nano
  · exact .inr (.inl (ext_parts h.1 h.2))
  · rw [lt_def, lt_def]; omega

/-- Away from leap seconds time only passes. -/
theorem elapsed_mono {start a b : Instant} (hs : ¬start.IsLeap) (ha : ¬a.IsLeap) (hb : ¬b.IsLeap)
    (h : a ≤ b) : elapsed start a ≤ elapsed start b := by
  rw [elapsed_of_not_isLeap hs ha, elapsed_of_not_isLeap hs hb]
  simp only [IsLeap] at ha hb
  rw [le_def] at h
  omega

end CronSweep.Instant
