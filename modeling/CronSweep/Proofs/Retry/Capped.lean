import CronSweep.Retry
import Mathlib.Algebra.GroupWithZero.Nat

namespace CronSweep

theorem saturatingPow_mono {base : Nat} (hpos : 1 ≤ base) (hbase : base < 4_294_967_296)
    {m n : Nat} (h : m ≤ n) : saturatingPow base m ≤ saturatingPow base n := by
  rw [saturatingPow_eq hbase, saturatingPow_eq hbase]
  have hpow : base.pow m ≤ base.pow n := Nat.pow_le_pow_right hpos h
  omega

namespace Duration

theorem saturating_mono {m n : Nat} (h : m ≤ n) : saturating m ≤ saturating n := by
  rw [le_def, nanos_saturating, nanos_saturating]
  omega

theorem saturating_nanos (d : Duration) : saturating d.nanos = d := by
  apply ext_nanos
  have := d.nanos_lt
  rw [nanos_saturating]
  omega

theorem max_le_max {a b c d : Duration} (hab : a ≤ b) (hcd : c ≤ d) : max a c ≤ max b d := by
  rw [le_def, nanos_max, nanos_max]
  rw [le_def] at hab hcd
  omega

theorem le_max_left (a b : Duration) : a ≤ max a b := by
  rw [le_def, nanos_max]
  omega

theorem le_max_right (a b : Duration) : b ≤ max a b := by
  rw [le_def, nanos_max]
  omega

end Duration

namespace RetryPolicy

variable {p : RetryPolicy}

def cap (p : RetryPolicy) (d : Duration) : Duration := p.maximum.elim d (min d)

theorem cap_mono {d e : Duration} (h : d ≤ e) : p.cap d ≤ p.cap e := by
  rw [cap, cap]
  cases p.maximum with
  | none => exact h
  | some longest =>
      rw [Duration.le_def] at h
      simp only [Option.elim_some, Duration.le_def, Duration.nanos_min]
      omega

theorem cap_le {longest : Duration} (h : longest ∈ p.maximum) (d : Duration) :
    p.cap d ≤ longest := by
  rw [cap, Option.mem_def.mp h, Option.elim_some, Duration.le_def, Duration.nanos_min]
  omega

/-- The cap comes last, and no preference is as good as one for no wait at all. -/
theorem delay_eq_cap (p : RetryPolicy) (n : UInt32) (preferred : Option Duration) :
    p.delay n preferred = p.cap (max (p.uncapped n) (preferred.getD .zero)) := by
  apply Duration.ext_nanos
  have hzero : Duration.zero.nanos = 0 := rfl
  cases preferred <;> cases hmax : p.maximum <;>
    simp only [delay, cap, hmax, Option.elim_none, Option.elim_some, Option.getD_none,
      Option.getD_some, Duration.nanos_min, Duration.nanos_max, hzero] <;> omega

theorem uncapped_zero (p : RetryPolicy) : p.uncapped 0 = p.initial := by
  rw [uncapped, UInt32.toNat_zero, saturatingPow, if_pos rfl, Nat.mul_one,
    Duration.saturating_nanos]

/-- The power stops at 32 bits and the wait at the greatest duration. -/
theorem nanos_uncapped (p : RetryPolicy) (n : UInt32) :
    (p.uncapped n).nanos =
      min (p.initial.nanos * min (p.coefficient.toNat ^ n.toNat) 4_294_967_295)
        Duration.greatest.nanos := by
  rw [uncapped, Duration.nanos_saturating, saturatingPow_eq p.coefficient.toNat_lt]
  rfl

section Growing

variable (hp : 1 ≤ p.coefficient.toNat)
include hp

theorem uncapped_mono {m n : UInt32} (h : m ≤ n) : p.uncapped m ≤ p.uncapped n := by
  apply Duration.saturating_mono
  apply Nat.mul_le_mul_left
  exact saturatingPow_mono hp p.coefficient.toNat_lt (UInt32.le_iff_toNat_le.mp h)

theorem delay_mono {m n : UInt32} (h : m ≤ n) {x y : Option Duration}
    (hxy : x.getD .zero ≤ y.getD .zero) : p.delay m x ≤ p.delay n y := by
  rw [delay_eq_cap, delay_eq_cap]
  exact cap_mono (Duration.max_le_max (uncapped_mono hp h) hxy)

theorem cap_initial_le_delay (n : UInt32) (preferred : Option Duration) :
    p.cap p.initial ≤ p.delay n preferred := by
  have hfirst : p.initial ≤ p.uncapped n := by
    rw [← uncapped_zero p]
    exact uncapped_mono hp UInt32.zero_le
  rw [delay_eq_cap]
  exact cap_mono (Nat.le_trans hfirst (Duration.le_max_left _ _))

end Growing

theorem cap_preferred_le_delay (p : RetryPolicy) (n : UInt32) (preferred : Option Duration) :
    p.cap (preferred.getD .zero) ≤ p.delay n preferred := by
  rw [delay_eq_cap]
  exact cap_mono (Duration.le_max_right _ _)

/-- More failures or a longer preference never shorten a wait. It lies between what is asked for and
the maximum, and what is too long for a duration is the greatest one before the cap. -/
theorem delay_bounded (hp : 1 ≤ p.coefficient) :
    (∀ (m n : UInt32) (x y : Option Duration), m ≤ n → x.getD .zero ≤ y.getD .zero →
      p.delay m x ≤ p.delay n y) ∧
    ∀ (n : UInt32) (preferred : Option Duration),
      (∀ longest ∈ p.maximum, p.delay n preferred ≤ longest) ∧
      p.cap p.initial ≤ p.delay n preferred ∧
      p.cap (preferred.getD .zero) ≤ p.delay n preferred ∧
      p.delay n preferred = p.cap (max (p.uncapped n) (preferred.getD .zero)) ∧
      (p.uncapped n).nanos =
        min (p.initial.nanos * min (p.coefficient.toNat ^ n.toNat) 4_294_967_295)
          Duration.greatest.nanos := by
  have hpos : 1 ≤ p.coefficient.toNat := UInt32.le_iff_toNat_le.mp hp
  refine ⟨fun m n x y h hxy => delay_mono hpos h hxy, fun n preferred => ?_⟩
  refine ⟨fun longest hmax => ?_, cap_initial_le_delay hpos n preferred,
    cap_preferred_le_delay p n preferred, delay_eq_cap p n preferred, nanos_uncapped p n⟩
  rw [delay_eq_cap]
  exact cap_le hmax _

/-- Twice half of all seconds is too long for a duration, and stays so. -/
theorem endless_delay :
    let p : RetryPolicy := ⟨2, .ofSeconds 9_223_372_036_854_775_808, none⟩
    1 ≤ p.coefficient ∧ p.delay 1 none = .greatest ∧
      Duration.greatest ≤ p.delay 4_294_967_295 (some (.ofSeconds 1)) := by
  intro p
  have hcoefficient : 1 ≤ p.coefficient := by decide
  have hfirst : p.delay 1 none = .greatest := by decide
  refine ⟨hcoefficient, hfirst, ?_⟩
  rw [← hfirst]
  exact (delay_bounded hcoefficient).1 1 4_294_967_295 none _ (by decide) (by decide)

end RetryPolicy

end CronSweep
