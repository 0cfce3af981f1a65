import CronSweep.Duration.Basic
import CronSweep.Proofs.Instant.Order
import CronSweep.Selection

namespace CronSweep

def Instant.nanos (t : Instant) : Int := t.second * 1_000_000_000 + t.nano

/-- A signed span as it is kept in words: whole seconds, rounded down, and nanoseconds. -/
structure Span where
  second : Int64
  nano : UInt32
  nano_lt : nano.toNat < 1_000_000_000

namespace Span

def nanos (s : Span) : Int := s.second.toInt * 1_000_000_000 + s.nano.toNat

instance : LT Span := ⟨fun a b => a.second < b.second ∨ (a.second = b.second ∧ a.nano < b.nano)⟩
instance (a b : Span) : Decidable (a < b) := inferInstanceAs (Decidable (_ ∨ _))

def subsecond (n : Int) : UInt32 := UInt32.ofNat (n % 1_000_000_000).toNat

theorem toNat_subsecond (n : Int) : ((subsecond n).toNat : Int) = n % 1_000_000_000 := by
  rw [subsecond, UInt32.toNat_ofNat']
  omega

theorem subsecond_lt (n : Int) : (subsecond n).toNat < 1_000_000_000 := by
  have h := toNat_subsecond n
  omega

/-- The span of a duration, if it is not too long. Seconds beyond 63 bits would wrap. -/
def ofDuration? (d : Duration) : Option Span :=
  if Selection.longestSpan < d.nanos then none
  else some ⟨Int64.ofNat d.seconds, subsecond d.nanos, subsecond_lt _⟩

/-- From one instant to another, word by word. -/
def between (start now : Instant) : Span :=
  let rest : Int := now.nano - start.nano
  ⟨Int64.ofInt now.second - Int64.ofInt start.second + Int64.ofInt (rest / 1_000_000_000),
    subsecond rest, subsecond_lt _⟩

/-- Words compare as what they stand for. -/
theorem lt_iff_nanos_lt (a b : Span) : a < b ↔ a.nanos < b.nanos := by
  have ha := a.nano_lt
  have hb := b.nano_lt
  have hlt : a < b ↔ a.second < b.second ∨ (a.second = b.second ∧ a.nano < b.nano) := Iff.rfl
  rw [hlt, Int64.lt_iff_toInt_lt, ← Int64.toInt_inj, UInt32.lt_iff_toNat_lt, nanos, nanos]
  omega

theorem ofDuration?_eq_none_iff {d : Duration} :
    ofDuration? d = none ↔ Selection.longestSpan < d.nanos := by
  rw [ofDuration?]
  split <;> simp [*]

theorem nanos_ofDuration {d : Duration} {s : Span} (h : ofDuration? d = some s) :
    s.nanos = d.nanos := by
  rw [ofDuration?] at h
  split at h
  · cases h
  · next hfits =>
      cases h
      rw [Selection.longestSpan] at hfits
      rw [nanos, toNat_subsecond, Duration.seconds, Int64.toInt_ofNat_of_lt (by omega)]
      omega

/-- No two instants are so far apart that their difference would wrap. -/
theorem nanos_between (start now : Instant) :
    (between start now).nanos = now.nanos - start.nanos := by
  have hs := start.earliest_le
  have hs' := start.le_latest
  have hn := now.earliest_le
  have hn' := now.le_latest
  have hleap := start.nano_lt
  have hleap' := now.nano_lt
  rw [nanos, between, ← Int64.ofInt_sub, ← Int64.ofInt_add, toNat_subsecond,
    Int64.toInt_ofInt_of_le (by omega) (by omega), Instant.nanos, Instant.nanos]
  omega

end Span

end CronSweep
