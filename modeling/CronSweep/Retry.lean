import CronSweep.Duration.Basic

namespace CronSweep

/-- The `exponent`-th power of a 32-bit base, or the greatest 32-bit number when it is larger. Since
the 32nd power of two is already too large, no power beyond that is ever computed. -/
def saturatingPow (base exponent : Nat) : Nat :=
  if exponent = 0 then 1
  else if base ≤ 1 then base
  else if 32 ≤ exponent then 4_294_967_295
  else min (base.pow exponent) 4_294_967_295

structure RetryPolicy where
  /-- The factor by which each past attempt lengthens the wait. -/
  coefficient : UInt32
  initial : Duration
  maximum : Option Duration

namespace RetryPolicy

def standard : RetryPolicy := ⟨2, .ofSeconds 1, some (.ofSeconds 300)⟩

def uncapped (p : RetryPolicy) (attempt : UInt32) : Duration :=
  Duration.saturating (p.initial.nanos * saturatingPow p.coefficient.toNat attempt.toNat)

/-- The wait after `attempt` failures in a row, at least the preferred one if the cap allows it. -/
def delay (p : RetryPolicy) (attempt : UInt32) (preferred : Option Duration) : Duration :=
  match preferred, p.maximum with
  | some d, some m => min (max (min (p.uncapped attempt) m) d) m
  | some d, none => max (p.uncapped attempt) d
  | none, some m => min (p.uncapped attempt) m
  | none, none => p.uncapped attempt

end RetryPolicy

theorem two_pow_le_pow {base exponent : Nat} (hb : 2 ≤ base) (he : 32 ≤ exponent) :
    4_294_967_296 ≤ base.pow exponent :=
  Nat.le_trans (Nat.pow_le_pow_right (by decide : 0 < 2) he) (Nat.pow_le_pow_left hb exponent)

theorem saturatingPow_eq {base : Nat} (hb : base < 4_294_967_296) (exponent : Nat) :
    saturatingPow base exponent = min (base.pow exponent) 4_294_967_295 := by
  unfold saturatingPow
  split
  · next h => subst h; rfl
  · next h =>
    split
    · next hb1 =>
      rcases (by omega : base = 0 ∨ base = 1) with rfl | rfl
      · rw [Nat.pow_eq, Nat.zero_pow (Nat.pos_of_ne_zero h)]; rfl
      · rw [Nat.pow_eq, Nat.one_pow]; rfl
    · next hb1 =>
      split
      · next he =>
        have := two_pow_le_pow (by omega : 2 ≤ base) he
        omega
      · rfl

end CronSweep
