import CronSweep.Proofs.Controller.Delay
import Mathlib.Data.List.Induction

namespace CronSweep

theorem eq_of_append_cons_eq {α : Type} {a : α} {xs ys xs' ys' : List α} (hxs : a ∉ xs)
    (hys : a ∉ ys) (h : xs ++ a :: xs' = ys ++ a :: ys') : xs = ys ∧ xs' = ys' := by
  induction xs generalizing ys with
  | nil =>
      cases ys with
      | nil =>
          cases h
          exact ⟨rfl, rfl⟩
      | cons y ys =>
          cases h
          exact absurd List.mem_cons_self hys
  | cons x xs ih =>
      cases ys with
      | nil =>
          cases h
          exact absurd List.mem_cons_self hxs
      | cons y ys =>
          injection h with hxy h
          obtain ⟨rfl, hrest⟩ :=
            ih (fun ha => hxs (.tail _ ha)) (fun ha => hys (.tail _ ha)) h
          exact ⟨by rw [hxy], hrest⟩

namespace Streaks

variable (s : Streaks) {key key' : String}

@[simp] theorem count_cons_self (n : UInt32) : count ((key, n) :: s) key = n := by
  simp [count]

@[simp] theorem count_cons_of_ne (h : key' ≠ key) (n : UInt32) :
    count ((key, n) :: s) key' = s.count key' := by
  simp [count, List.lookup_cons, beq_false_of_ne h]

@[simp] theorem count_clear_self : (s.clear key).count key = 0 := by
  induction s with
  | nil => rfl
  | cons entry s ih =>
      obtain ⟨k, n⟩ := entry
      by_cases h : k = key
      · rwa [clear, List.filter_cons_of_neg (by simp [h])]
      · rwa [clear, List.filter_cons_of_pos (by simp [h]), count_cons_of_ne _ (Ne.symm h)]

@[simp] theorem count_clear_of_ne (h : key' ≠ key) : (s.clear key).count key' = s.count key' := by
  induction s with
  | nil => rfl
  | cons entry s ih =>
      obtain ⟨k, n⟩ := entry
      by_cases hk : k = key
      · subst hk
        rw [clear, List.filter_cons_of_neg (by simp), count_cons_of_ne _ h]
        exact ih
      · rw [clear, List.filter_cons_of_pos (by simp [hk])]
        by_cases hk' : key' = k
        · subst hk'
          simp
        · rw [count_cons_of_ne _ hk', count_cons_of_ne _ hk']
          exact ih

theorem count_extend_self :
    ((s.extend key).count key).toNat = min ((s.count key).toNat + 1) 4_294_967_295 := by
  rw [extend, count_cons_self]
  have hlt := (s.count key).toNat_lt
  split
  · next h => simp [h]
  · next h =>
      have hne : (s.count key).toNat ≠ 4_294_967_295 := fun hn => h (UInt32.toNat_inj.mp hn)
      rw [UInt32.toNat_add, UInt32.toNat_one]
      omega

theorem count_extend_of_ne (h : key' ≠ key) : (s.extend key).count key' = s.count key' := by
  simp [extend, h]

end Streaks

def Metadata.identity (m : Metadata) : String × String := (m.namespace_.getD "", m.anyName)

namespace Controller

theorem key_injective {m m' : Metadata} (hm : '/' ∉ m.identity.1.toList)
    (hm' : '/' ∉ m'.identity.1.toList) (h : key m = key m') : m.identity = m'.identity := by
  have hchars : m.identity.1.toList ++ '/' :: m.identity.2.toList =
      m'.identity.1.toList ++ '/' :: m'.identity.2.toList := by
    have hkeys := congrArg String.toList h
    simpa [key, Metadata.identity] using hkeys
  obtain ⟨hnamespace, hname⟩ := eq_of_append_cons_eq hm hm' hchars
  exact Prod.ext (String.toList_inj.mp hnamespace) (String.toList_inj.mp hname)

structure Invocation (σ : Type) where
  metadata : Metadata
  now : Instant
  state : σ

variable {σ : Type} (c : Controller) (client : Client σ)

namespace Invocation

def cleaner (i : Invocation σ) : String × String := i.metadata.identity

def result (i : Invocation σ) : Except CycleError Report :=
  ((Cycle.reconcile c.backoff i.cleaner.1 i.cleaner.2 i.now).run client i.state).value

def failed (i : Invocation σ) : Bool :=
  match i.result c client with
  | .error _ => true
  | .ok _ => false

end Invocation

def handled (streaks : Streaks) (i : Invocation σ) : Handled :=
  ((c.handle i.metadata i.now streaks).run client i.state).value

def after (runs : List (Invocation σ)) : Streaks :=
  runs.foldl (fun streaks i => (c.handled client streaks i).streaks) []

/-- How many invocations for a cleaner have failed since the last one for it that did not. -/
def streak (cleaner : String × String) (runs : List (Invocation σ)) : Nat :=
  ((runs.filter (·.cleaner = cleaner)).reverse.takeWhile (·.failed c client)).length

variable {c client} {i : Invocation σ} {cleaner : String × String}

theorem handled_of_failed (streaks : Streaks) (h : i.failed c client = true) :
    (c.handled client streaks i).action =
        .requeue (c.retryPolicy.delay (streaks.count (key i.metadata)) none) ∧
      (c.handled client streaks i).streaks = streaks.extend (key i.metadata) := by
  rw [Invocation.failed] at h
  split at h
  · next e hresult =>
      rw [handled, value_handle hresult]
      exact ⟨rfl, rfl⟩
  · cases h

theorem streaks_handled_of_ok (streaks : Streaks) (h : i.failed c client = false) :
    (c.handled client streaks i).streaks = streaks.clear (key i.metadata) := by
  rw [Invocation.failed] at h
  split at h
  · cases h
  · next report hresult =>
      rw [handled, value_handle hresult]
      rfl

theorem after_concat (runs : List (Invocation σ)) (i : Invocation σ) :
    c.after client (runs ++ [i]) = (c.handled client (c.after client runs) i).streaks := by
  simp [after]

theorem streak_append (runs : List (Invocation σ)) {later : List (Invocation σ)}
    (h : ∀ i ∈ later, i.cleaner = cleaner → i.failed c client = true) :
    c.streak client cleaner (runs ++ later) =
      c.streak client cleaner runs + (later.filter (·.cleaner = cleaner)).length := by
  have hall : ∀ i ∈ (later.filter (·.cleaner = cleaner)).reverse, i.failed c client = true := by
    simpa using h
  simp only [streak, List.filter_append, List.reverse_append]
  rw [List.takeWhile_append_of_pos hall]
  simp [Nat.add_comm]

theorem streak_concat_of_ok (runs : List (Invocation σ)) (h : i.failed c client = false) :
    c.streak client i.cleaner (runs ++ [i]) = 0 := by
  simp [streak, h]

theorem streak_concat_of_ne (runs : List (Invocation σ)) (h : i.cleaner ≠ cleaner) :
    c.streak client cleaner (runs ++ [i]) = c.streak client cleaner runs := by
  simp [streak, h]

/-- What is kept under the key of a cleaner counts its own failures and nothing else. -/
theorem count_after {m : Metadata} (hm : '/' ∉ m.identity.1.toList) (runs : List (Invocation σ))
    (hruns : ∀ i ∈ runs, '/' ∉ i.cleaner.1.toList) :
    ((c.after client runs).count (key m)).toNat =
      min (c.streak client m.identity runs) 4_294_967_295 := by
  induction runs using List.reverseRecOn with
  | nil => rfl
  | append_singleton runs i ih =>
      have hcount := ih fun j hj => hruns j (List.mem_append_left _ hj)
      have hi : '/' ∉ i.metadata.identity.1.toList := hruns i (by simp)
      rw [after_concat]
      -- Only an invocation under the same key touches the count, and without slashes in the
      -- namespaces that is one for the same cleaner.
      by_cases hsame : i.cleaner = m.identity
      · have hkey : key m = key i.metadata :=
          congrArg (fun cleaner => cleaner.1 ++ "/" ++ cleaner.2) hsame.symm
        cases hfailed : i.failed c client with
        | true =>
            have hstreak : c.streak client m.identity (runs ++ [i]) =
                c.streak client m.identity runs + 1 := by
              rw [streak_append runs (by simpa using fun _ => hfailed)]
              simp [hsame]
            rw [(handled_of_failed _ hfailed).2, hkey, Streaks.count_extend_self, ← hkey, hcount,
              hstreak]
            omega
        | false =>
            rw [streaks_handled_of_ok _ hfailed, hkey, Streaks.count_clear_self, ← hsame,
              streak_concat_of_ok runs hfailed]
            rfl
      · have hkey : key m ≠ key i.metadata := fun h => hsame (key_injective hm hi h).symm
        rw [streak_concat_of_ne runs hsame, ← hcount]
        cases hfailed : i.failed c client with
        | true => rw [(handled_of_failed _ hfailed).2, Streaks.count_extend_of_ne _ hkey]
        | false => rw [streaks_handled_of_ok _ hfailed, Streaks.count_clear_of_ne _ hkey]

theorem action_of_failed {runs : List (Invocation σ)}
    (hruns : ∀ i ∈ runs, '/' ∉ i.cleaner.1.toList) (hi : '/' ∉ i.cleaner.1.toList)
    (hfailed : i.failed c client = true) :
    (c.handled client (c.after client runs) i).action =
      .requeue (c.retryPolicy.delay
        (.ofNat (min (c.streak client i.cleaner runs) 4_294_967_295)) none) := by
  have hcount : ((c.after client runs).count (key i.metadata)).toNat = _ :=
    count_after hi runs hruns
  rw [(handled_of_failed _ hfailed).1, Invocation.cleaner, ← hcount, UInt32.ofNat_toNat]

theorem saturated_le {m n : Nat} (h : m ≤ n) :
    UInt32.ofNat (min m 4_294_967_295) ≤ UInt32.ofNat (min n 4_294_967_295) := by
  rw [UInt32.le_iff_toNat_le, UInt32.toNat_ofNat', UInt32.toNat_ofNat']
  omega

/-- The wait after a failure goes by the failures in a row that the same cleaner has had before. -/
theorem action_eq_delay_streak (c : Controller) (client : Client σ) (runs : List (Invocation σ))
    (hruns : ∀ i ∈ runs, '/' ∉ i.cleaner.1.toList) :
    (∀ before i later, runs = before ++ i :: later → i.failed c client = true →
      let attempt := UInt32.ofNat (min (c.streak client i.cleaner before) 4_294_967_295)
      let own := before.filter (·.cleaner = i.cleaner)
      (c.handled client (c.after client before) i).action =
          .requeue (c.retryPolicy.delay attempt none) ∧
        (c.handled client (c.after client own) i).action =
          .requeue (c.retryPolicy.delay attempt none)) ∧
    (∀ i ∈ runs, ∀ j ∈ runs, i.cleaner ≠ j.cleaner → key i.metadata ≠ key j.metadata) ∧
    ∀ settings : Settings, c.retryPolicy = settings.retryPolicy →
      ∀ before i between j later, runs = before ++ i :: between ++ j :: later →
        j.cleaner = i.cleaner →
        (∀ k ∈ i :: between ++ [j], k.cleaner = i.cleaner → k.failed c client = true) →
        ∃ d d', (c.handled client (c.after client before) i).action = .requeue d ∧
          (c.handled client (c.after client (before ++ i :: between)) j).action = .requeue d' ∧
          d ≤ d' := by
  refine ⟨?_, ?_, ?_⟩
  · rintro before i later rfl hfailed attempt own
    have hi := hruns i (by simp)
    have hbefore : ∀ j ∈ before, '/' ∉ j.cleaner.1.toList := fun j hj => hruns j (by simp [hj])
    have hown : c.streak client i.cleaner own = c.streak client i.cleaner before := by
      simp [streak, own]
    have hownRuns : ∀ j ∈ own, '/' ∉ j.cleaner.1.toList :=
      fun j hj => hbefore j (List.mem_of_mem_filter hj)
    have haction := action_of_failed hownRuns hi hfailed
    rw [hown] at haction
    exact ⟨action_of_failed hbefore hi hfailed, haction⟩
  · intro i hi j hj hne hkey
    exact hne (key_injective (hruns i hi) (hruns j hj) hkey)
  · rintro settings hpolicy before i between j later rfl hsame hfailed
    have hbefore : ∀ k ∈ before, '/' ∉ k.cleaner.1.toList := fun k hk => hruns k (by simp [hk])
    have hbetween : ∀ k ∈ before ++ i :: between, '/' ∉ k.cleaner.1.toList :=
      fun k hk => hruns k (List.mem_append_left _ hk)
    have hstreak : c.streak client i.cleaner before ≤
        c.streak client i.cleaner (before ++ i :: between) := by
      rw [streak_append before fun k hk => hfailed k (List.mem_append_left _ hk)]
      omega
    refine ⟨_, _, action_of_failed hbefore (hruns i (by simp)) (hfailed i (by simp) rfl),
      action_of_failed hbetween (hruns j (by simp)) (hfailed j (by simp) hsame), ?_⟩
    rw [hsame, hpolicy]
    exact settings.positive_retryPolicy.delay_mono (saturated_le hstreak)

/-- The wait is doubled by the failure before, and not by what becomes of another cleaner. -/
theorem sweep_waits :
    let c := ofSettings ⟨"0.0.0.0", 3302, "", 30, 2, 1, 300, ""⟩
    let named (name : String) : Metadata := { Metadata.blank with namespace_ := "ops", name }
    let up := Cluster.start (some Cycle.nightly) []
    let down := { up with faults.fetch := some .notFound }
    let sweep : Invocation Cluster := ⟨named "sweep", Cycle.pastOne, down⟩
    let other : Invocation Cluster := ⟨named "other", Cycle.pastOne, up⟩
    (∀ i ∈ [sweep, other, sweep], '/' ∉ i.cleaner.1.toList) ∧
      sweep.failed c Cluster.client = true ∧ other.failed c Cluster.client = false ∧
      (c.handled Cluster.client (c.after Cluster.client [sweep, other]) sweep).action =
        .requeue ⟨2_000_000_000, by decide⟩ ∧
      ∃ d d', (c.handled Cluster.client (c.after Cluster.client []) sweep).action = .requeue d ∧
        (c.handled Cluster.client (c.after Cluster.client [sweep, other]) sweep).action =
          .requeue d' ∧ d ≤ d' := by
  intro c named up down sweep other
  have hruns : ∀ i ∈ [sweep, other, sweep], '/' ∉ i.cleaner.1.toList := by decide
  have hsweep : sweep.failed c Cluster.client = true := by decide
  have hother : other.failed c Cluster.client = false := by decide
  obtain ⟨haction, -, hgrows⟩ := action_eq_delay_streak c Cluster.client [sweep, other, sweep] hruns
  have hwait : c.retryPolicy.delay 1 none = ⟨2_000_000_000, by decide⟩ := by decide
  refine ⟨hruns, hsweep, hother, ?_, ?_⟩
  · rw [← hwait]
    exact (haction [sweep, other] sweep [] rfl hsweep).1
  · exact hgrows _ rfl [] sweep [other] sweep [] rfl rfl (by decide)

end Controller

end CronSweep
