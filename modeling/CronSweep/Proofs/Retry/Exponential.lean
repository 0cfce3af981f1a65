import CronSweep.Proofs.Controller.Delay

namespace CronSweep

namespace RetryPolicy

variable {p : RetryPolicy} {longest : Duration} (hmax : p.maximum = some longest)
include hmax

/-- A cap is no longer than the greatest duration, so of the two limits only that of the power is
left to see. -/
theorem nanos_delay_of_cap (n : UInt32) :
    (p.delay n none).nanos =
      min longest.nanos
        (p.initial.nanos * min (p.coefficient.toNat ^ n.toNat) 4_294_967_295) := by
  have hgreatest : longest.nanos ≤ Duration.greatest.nanos := Nat.le_sub_one_of_lt longest.nanos_lt
  simp only [delay, hmax, Duration.nanos_min, nanos_uncapped]
  omega

theorem nanos_delay_eq_iff (hpos : 0 < p.initial.nanos) (n : UInt32) :
    (p.delay n none).nanos = min longest.nanos (p.initial.nanos * p.coefficient.toNat ^ n.toNat) ↔
      p.coefficient.toNat ^ n.toNat ≤ 4_294_967_295 ∨
        longest.nanos ≤ p.initial.nanos * 4_294_967_295 := by
  rw [nanos_delay_of_cap hmax]
  generalize p.coefficient.toNat ^ n.toNat = power
  by_cases hpower : power ≤ 4_294_967_295
  · rw [Nat.min_eq_left hpower]
    exact iff_of_true rfl (.inl hpower)
  · have hlt : p.initial.nanos * 4_294_967_295 < p.initial.nanos * power :=
      Nat.mul_lt_mul_of_pos_left (Nat.lt_of_not_le hpower) hpos
    rw [Nat.min_eq_right (Nat.le_of_not_le hpower)]
    omega

end RetryPolicy

namespace Controller

/-- The waits of a controller that was set up by an environment grow as the powers of the
coefficient do, up to the longest one. Only a longest wait of more than `2 ^ 32 - 1` first ones lets
the power be seen to stop there. -/
theorem delay_eq_exponential {env : Environment} {settings : Settings}
    (hload : Settings.load env = .ok settings) :
    let c := ofSettings settings
    let p := c.retryPolicy
    c.ReadFrom env ∧ ∃ longest, p.maximum = some longest ∧ ∀ n : UInt32,
      let power := p.coefficient.toNat ^ n.toNat
      (p.delay n none).nanos = min longest.nanos (p.initial.nanos * min power 4_294_967_295) ∧
      ((p.delay n none).nanos = min longest.nanos (p.initial.nanos * power) ↔
        power ≤ 4_294_967_295 ∨ longest.nanos ≤ p.initial.nanos * 4_294_967_295) ∧
      (longest ≤ .ofSeconds 4_294_967_295 →
        (p.delay n none).nanos = min longest.nanos (p.initial.nanos * power)) := by
  intro c p
  have hpositive : p.Positive := settings.positive_retryPolicy
  have hsecond : 1_000_000_000 ≤ p.initial.nanos := hpositive.initial
  have hpos : 0 < p.initial.nanos := Nat.lt_of_lt_of_le (by decide) hsecond
  refine ⟨readFrom_ofSettings hload, _, rfl, fun n => ?_⟩
  have hiff := RetryPolicy.nanos_delay_eq_iff (p := p) rfl hpos n
  refine ⟨RetryPolicy.nanos_delay_of_cap rfl n, hiff, fun hlongest => hiff.mpr (.inr ?_)⟩
  calc
    _ ≤ (Duration.ofSeconds 4_294_967_295).nanos := hlongest
    _ = 1_000_000_000 * 4_294_967_295 := rfl
    _ ≤ p.initial.nanos * 4_294_967_295 := Nat.mul_le_mul_right _ hsecond

def boundlessEnvironment : Environment := [("RETRY_MAXIMUM_INTERVAL_SECS", "18446744073709551615")]

def boundlessSettings : Settings :=
  ⟨"0.0.0.0", 3302, "", 30, 2, 1, 18_446_744_073_709_551_615, ""⟩

theorem boundless_delays :
    let p := (ofSettings boundlessSettings).retryPolicy
    Settings.load boundlessEnvironment = .ok boundlessSettings ∧
      p.delay 31 none = .ofSeconds 2_147_483_648 ∧ p.delay 40 none = .ofSeconds 4_294_967_295 := by
  intro p
  have hload : Settings.load boundlessEnvironment = .ok boundlessSettings := by decide
  obtain ⟨-, longest, hmax, hdelay⟩ := delay_eq_exponential hload
  cases hmax
  refine ⟨hload, Duration.ext_nanos ?_, Duration.ext_nanos ?_⟩
  · exact (hdelay 31).1.trans (by decide)
  · exact (hdelay 40).1.trans (by decide)

/-- Without the limit on the power the fortieth wait would be of `2 ^ 40` seconds. -/
theorem boundless_delays_not_exponential :
    ¬∀ (env : Environment) (settings : Settings), Settings.load env = .ok settings →
      ∀ (n : UInt32) (longest : Duration), settings.retryPolicy.maximum = some longest →
        (settings.retryPolicy.delay n none).nanos =
          min longest.nanos (settings.retryPolicy.initial.nanos *
            settings.retryPolicy.coefficient.toNat ^ n.toNat) := by
  intro h
  have hload : Settings.load boundlessEnvironment = .ok boundlessSettings := by decide
  have hexact := h _ _ hload 40 _ rfl
  revert hexact
  decide

end Controller

end CronSweep
