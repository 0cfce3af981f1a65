import CronSweep.Proofs.Policy.Checked
import CronSweep.Proofs.Retry.Capped
import CronSweep.Settings

namespace CronSweep

namespace RetryPolicy

structure Positive (p : RetryPolicy) : Prop where
  coefficient : 1 ≤ p.coefficient.toNat
  initial : Policy.shortest ≤ p.initial
  maximum : ∀ m ∈ p.maximum, Policy.shortest ≤ m

variable {p : RetryPolicy}

theorem Positive.delay_mono (hp : p.Positive) {m n : UInt32} (h : m ≤ n) :
    p.delay m none ≤ p.delay n none :=
  RetryPolicy.delay_mono hp.coefficient h (Nat.le_refl 0)

theorem Positive.shortest_le_delay (hp : p.Positive) (n : UInt32) :
    Policy.shortest ≤ p.delay n none := by
  have hfirst : Policy.shortest ≤ p.cap p.initial := by
    have hinitial := hp.initial
    rw [cap]
    cases hmax : p.maximum with
    | none => exact hinitial
    | some longest =>
        have hlongest := hp.maximum longest hmax
        simp only [Duration.le_def, Option.elim_some, Duration.nanos_min] at hinitial hlongest ⊢
        omega
  exact Nat.le_trans hfirst (cap_initial_le_delay hp.coefficient n none)

end RetryPolicy

theorem Text.number?_le {limit : Nat} {ds : List Char} {n : Nat} (h : number? limit ds = some n) :
    n ≤ limit := by
  simp only [number?] at h
  split at h
  · next hd =>
      cases h
      simp only [Bool.and_eq_true, decide_eq_true_eq] at hd
      exact hd.2
  · cases h

namespace Settings

theorem number_le {env : Environment} {name default : String} {limit n : Nat}
    (h : number env name default limit = .ok n) : n ≤ limit := by
  rw [number] at h
  split at h
  · next m hread =>
      cases h
      rw [readNumber] at hread
      split at hread <;> exact Text.number?_le hread
  · cases h

theorem toNat_max_one (s : UInt64) : (max s 1).toNat = max s.toNat 1 := by
  change (if s ≤ 1 then 1 else s).toNat = _
  split <;> simp_all only [UInt64.le_iff_toNat_le, UInt64.toNat_one] <;> omega

theorem toNat_clamped {n : Nat} (h : n ≤ 4_294_967_295) : (max (UInt32.ofNat n) 1).toNat = max n 1 := by
  have hn : (UInt32.ofNat n).toNat = n := UInt32.toNat_ofNat_of_lt' (Nat.lt_succ_of_le h)
  change (if UInt32.ofNat n ≤ 1 then 1 else UInt32.ofNat n).toNat = _
  split <;> simp_all only [UInt32.le_iff_toNat_le, UInt32.toNat_one] <;> omega

theorem nanos_clamped {n : Nat} (h : n ≤ 18_446_744_073_709_551_615) :
    (Duration.ofSeconds (max (UInt64.ofNat n) 1)).nanos = max n 1 * 1_000_000_000 := by
  have hn : (UInt64.ofNat n).toNat = n := UInt64.toNat_ofNat_of_lt' (Nat.lt_succ_of_le h)
  simp only [Duration.ofSeconds, toNat_max_one, hn]

theorem shortest_le_clamped (s : UInt64) : Policy.shortest ≤ .ofSeconds (max s 1) := by
  have hshortest : Policy.shortest.nanos = 1_000_000_000 := rfl
  simp only [Duration.le_def, hshortest, Duration.ofSeconds, toNat_max_one]
  omega

theorem one_le_clamped (n : UInt32) : 1 ≤ (max n 1).toNat := by
  change 1 ≤ (if n ≤ 1 then 1 else n).toNat
  split <;> simp_all only [UInt32.le_iff_toNat_le, UInt32.toNat_one] <;> omega

theorem positive_retryPolicy (s : Settings) : s.retryPolicy.Positive where
  coefficient := one_le_clamped _
  initial := shortest_le_clamped _
  maximum := by
    rintro longest ⟨⟩
    exact shortest_le_clamped _

end Settings

end CronSweep
