import CronSweep.Proofs.Instant.Order
import CronSweep.Proofs.Text.ByteOrder
import CronSweep.Selection

namespace CronSweep.Selection

/-- The order of retention: later start first, missing start last, ties by the bytes of the name. -/
def Before (a b : Execution) : Prop :=
  match a.start, b.start with
  | some s, some t => t < s ∨ (s = t ∧ Text.bytes a.name < Text.bytes b.name)
  | some _, none => True
  | none, some _ => False
  | none, none => Text.bytes a.name < Text.bytes b.name

theorem before_irrefl (a : Execution) : ¬Before a a := by
  rw [Before]
  cases a.start with
  | none => simp [Text.bytes_lt_iff]
  | some s => simp [Text.bytes_lt_iff, Instant.lt_irrefl]

theorem before_trans {a b c : Execution} (hab : Before a b) (hbc : Before b c) : Before a c := by
  rw [Before] at *
  simp only [Text.bytes_lt_iff] at *
  cases ha : a.start <;> cases hb : b.start <;> cases hc : c.start <;>
    simp only [ha, hb, hc] at hab hbc ⊢
  · exact lt_trans hab hbc
  · rcases hab with hab | ⟨rfl, hab⟩ <;> rcases hbc with hbc | ⟨rfl, hbc⟩
    · exact .inl (Instant.lt_trans hbc hab)
    · exact .inl hab
    · exact .inl hbc
    · exact .inr ⟨rfl, lt_trans hab hbc⟩

theorem before_asymm {a b : Execution} (hab : Before a b) : ¬Before b a :=
  fun hba => before_irrefl a (before_trans hab hba)

theorem before_trichotomy (a b : Execution) :
    Before a b ∨ (a.start = b.start ∧ a.name = b.name) ∨ Before b a := by
  rw [Before, Before]
  simp only [Text.bytes_lt_iff]
  cases a.start with
  | none =>
      cases b.start with
      | none => simpa using lt_trichotomy a.name b.name
      | some t => simp
  | some s =>
      cases b.start with
      | none => simp
      | some t =>
          rcases Instant.lt_trichotomy s t with hst | rfl | hts
          · simp [hst]
          · rcases lt_trichotomy a.name b.name with h | h | h <;> simp [h]
          · simp [hts]

theorem precedes_iff (a b : Execution) : precedes a b = true ↔ ¬Before b a := by
  rw [precedes, Before]
  simp only [Text.bytes_lt_iff]
  cases a.start with
  | none => cases b.start <;> simp [-String.lt_iff_ltb]
  | some s =>
      cases b.start with
      | none => simp
      | some t =>
          rcases Instant.lt_trichotomy s t with hst | rfl | hts
          · have hne : s ≠ t := fun h => Instant.lt_irrefl t (h ▸ hst)
            have hts : ¬t < s := fun h => Instant.lt_irrefl s (Instant.lt_trans hst h)
            simp [hst, hne, hts]
          · simp [Instant.lt_irrefl, -String.lt_iff_ltb]
          · have hst : ¬s < t := fun h => Instant.lt_irrefl s (Instant.lt_trans h hts)
            have hne : t ≠ s := fun h => Instant.lt_irrefl t (h ▸ hts)
            simp [hst, hne, hts]

instance (a b : Execution) : Decidable (Before a b) :=
  decidable_of_iff (¬precedes b a = true) (by rw [precedes_iff, not_not])

theorem precedes_trans (a b c : Execution) (hab : precedes a b = true) (hbc : precedes b c = true) :
    precedes a c = true := by
  rw [precedes_iff] at *
  intro hca
  rcases before_trichotomy a b with h | ⟨hs, hn⟩ | h
  · exact hbc (before_trans hca h)
  · apply hbc
    rw [Before] at hca ⊢
    rwa [← hs, ← hn]
  · exact hab h

theorem precedes_total (a b : Execution) : (precedes a b || precedes b a) = true := by
  rw [Bool.or_eq_true, precedes_iff, precedes_iff]
  exact Classical.or_iff_not_imp_left.mpr fun h => before_asymm (not_not.mp h)

end CronSweep.Selection
