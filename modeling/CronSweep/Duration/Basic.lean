namespace CronSweep

/-- The first number of nanoseconds that no span has: its seconds do not fit 64 bits. -/
def Duration.bound : Nat := 18_446_744_073_709_551_616 * 1_000_000_000

structure Duration where
  nanos : Nat
  nanos_lt : nanos < Duration.bound := by decide
deriving DecidableEq

namespace Duration

theorem ext_nanos {a b : Duration} (h : a.nanos = b.nanos) : a = b := by
  cases a; cases b; cases h; rfl

def ofNanos? (n : Nat) : Option Duration :=
  if h : n < bound then some ⟨n, h⟩ else none

def zero : Duration := ⟨0, by decide⟩

def greatest : Duration := ⟨bound - 1, by decide⟩

def saturating (n : Nat) : Duration := (ofNanos? n).getD greatest

def ofSeconds (s : UInt64) : Duration :=
  ⟨s.toNat * 1_000_000_000, by have := s.toNat_lt; unfold bound; omega⟩

def seconds (d : Duration) : Nat := d.nanos / 1_000_000_000

def subsecond (d : Duration) : Nat := d.nanos % 1_000_000_000

instance : LE Duration := ⟨fun a b => a.nanos ≤ b.nanos⟩
instance : LT Duration := ⟨fun a b => a.nanos < b.nanos⟩
instance (a b : Duration) : Decidable (a ≤ b) := inferInstanceAs (Decidable (a.nanos ≤ b.nanos))
instance (a b : Duration) : Decidable (a < b) := inferInstanceAs (Decidable (a.nanos < b.nanos))
instance : Min Duration := minOfLe
instance : Max Duration := maxOfLe

theorem le_def {a b : Duration} : a ≤ b ↔ a.nanos ≤ b.nanos := Iff.rfl

theorem nanos_saturating (n : Nat) : (saturating n).nanos = min n (bound - 1) := by
  unfold saturating ofNanos?
  split
  · next h => simp only [Option.getD_some]; omega
  · next h => simp only [Option.getD_none, greatest]; omega

theorem nanos_min (a b : Duration) : (min a b).nanos = min a.nanos b.nanos := by
  by_cases h : a ≤ b
  · rw [show min a b = a from if_pos h, Nat.min_eq_left h]
  · rw [show min a b = b from if_neg h, Nat.min_eq_right (Nat.le_of_not_le h)]

theorem nanos_max (a b : Duration) : (max a b).nanos = max a.nanos b.nanos := by
  by_cases h : a ≤ b
  · rw [show max a b = b from if_pos h, Nat.max_eq_right h]
  · rw [show max a b = a from if_neg h, Nat.max_eq_left (Nat.le_of_not_le h)]

end Duration

end CronSweep
