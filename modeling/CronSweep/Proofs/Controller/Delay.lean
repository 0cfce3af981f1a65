import CronSweep.Controller
import CronSweep.Proofs.Cycle.Decision
import CronSweep.Proofs.Cycle.Protocol
import CronSweep.Proofs.Retry.Backoff

namespace CronSweep

namespace Cycle

variable {backoff : Duration} {namespace_ name : String} {now : Instant}

theorem clampBackoff_eq (h : Policy.shortest ≤ backoff) : clampBackoff backoff = backoff := by
  apply Duration.ext_nanos
  have hnanos := Duration.le_def.mp h
  rw [clampBackoff, Duration.nanos_max]
  omega

theorem shortest_le_ownInterval {spec : Spec} (h : Policy.shortest ≤ backoff) :
    Policy.shortest ≤ spec.ownInterval?.getD backoff := by
  cases hown : spec.ownInterval? with
  | none => exact h
  | some d =>
      rw [Spec.ownInterval?, Option.filter_eq_some_iff] at hown
      exact of_decide_eq_true hown.2

theorem ownInterval_of_valid {spec : Spec} {p : Policy} (h : Policy.ofSpec? spec = .ok p) :
    spec.ownInterval? = some p.runInterval := by
  obtain ⟨-, -, -, -, hinterval, -⟩ := Policy.ofSpec?_eq_ok_iff.mp h
  obtain ⟨hparse, hd⟩ := Policy.runInterval?_eq_ok_iff.mp hinterval
  rw [Spec.ownInterval?, hparse]
  exact Option.filter_eq_some_iff.mpr ⟨rfl, decide_eq_true hd⟩

theorem Settling.result_cases {c : Cleaner} {s : Status} {events : Bool → List Event}
    {report : Report} {log : List Exchange} {result : Except CycleError Report}
    (h : Settling c s events report log result) : result = .ok report ∨ ∃ e, result = .error e := by
  cases h with
  | unwritten | written => exact .inl rfl
  | refused e => exact .inr ⟨_, rfl⟩

/-- Whether a cycle that does not break off finds its cleaner is what the answer to the fetch
says. -/
theorem Protocol.fetched_cases {fetched : Except ClientError (Option Cleaner)}
    {log : List Exchange} {result : Except CycleError Report}
    (h : Protocol backoff namespace_ name now (⟨.fetch namespace_ name, fetched⟩ :: log) result) :
    (fetched = .ok none ∧ result = .ok ⟨none, .missing⟩) ∨
      (fetched ≠ .ok none ∧ ∃ e, result = .error e) ∨
      ∃ c outcome, fetched = .ok (some c) ∧
        result = .ok ⟨some (c.spec.ownInterval?.getD backoff), outcome⟩ := by
  cases h with
  | missing => exact .inl ⟨rfl, rfl⟩
  | unfetched | unlisted => exact .inr (.inl ⟨nofun, _, rfl⟩)
  | invalid c e hp h =>
      rcases h.result_cases with rfl | herror
      · exact .inr (.inr ⟨c, _, rfl, rfl⟩)
      · exact .inr (.inl ⟨nofun, herror⟩)
  | cleaned c p listing d hp hd h =>
      rcases h.result_cases with rfl | herror
      · refine .inr (.inr ⟨c, .completed d, rfl, ?_⟩)
        rw [ownInterval_of_valid hp, Option.getD_some]
      · exact .inr (.inl ⟨nofun, herror⟩)

end Cycle

namespace Controller

/-- What is to be done about a cleaner, by what was fetched and how the cycle ended. -/
structure Waits (c : Controller) (m : Metadata) (streaks : Streaks)
    (fetched : Except ClientError (Option Cleaner)) (handled : Handled) : Prop where
  missing : handled.action = .awaitChange ↔ fetched = .ok none
  second : ∀ delay, handled.action = .requeue delay → Policy.shortest ≤ delay
  found : ∀ report, handled.result = .ok report → fetched = .ok none ∨
    ∃ cleaner, fetched = .ok (some cleaner) ∧
      handled.action = .requeue (cleaner.spec.ownInterval?.getD c.backoff)
  failed : ∀ e, handled.result = .error e →
    handled.action = .requeue (c.retryPolicy.delay (streaks.count (key m)) none)

theorem value_handle {c : Controller} {σ : Type} {client : Client σ} {m : Metadata} {now : Instant}
    {s : σ} {result : Except CycleError Report}
    (h : ((Cycle.reconcile c.backoff (m.namespace_.getD "") m.anyName now).run client s).value =
      result) (streaks : Streaks) :
    ((c.handle m now streaks).run client s).value =
      ⟨result, (c.settle (key m) streaks result).1, (c.settle (key m) streaks result).2⟩ := by
  subst h
  rw [handle, Plan.value_bind]
  rfl

theorem waits_handle {c : Controller} (hbackoff : Policy.shortest ≤ c.backoff)
    (hpolicy : c.retryPolicy.Positive) {σ : Type} (client : Client σ) (m : Metadata)
    (now : Instant) (streaks : Streaks) (s : σ) :
    c.Waits m streaks (client (.fetch (m.namespace_.getD "") m.anyName) s).1
      ((c.handle m now streaks).run client s).value := by
  let plan := Cycle.reconcile c.backoff (m.namespace_.getD "") m.anyName now
  have hprotocol := Cycle.protocol_of_ends (plan.ends_log client s)
  rw [Cycle.clampBackoff_eq hbackoff] at hprotocol
  rcases hprotocol.fetched_cases with
    ⟨hmissing, hresult⟩ | ⟨hfound, e, hresult⟩ | ⟨cleaner, outcome, hfound, hresult⟩
  · rw [value_handle hresult]
    exact ⟨iff_of_true rfl hmissing, nofun, fun _ _ => .inl hmissing, nofun⟩
  · rw [value_handle hresult]
    refine ⟨iff_of_false nofun hfound, ?_, nofun, fun _ _ => rfl⟩
    rintro delay ⟨⟩
    exact hpolicy.shortest_le_delay _
  · rw [value_handle hresult]
    refine ⟨iff_of_false nofun (by rw [hfound]; nofun), ?_, fun _ _ => ?_, nofun⟩
    · rintro delay ⟨⟩
      exact Cycle.shortest_le_ownInterval hbackoff
    · exact .inr ⟨cleaner, hfound, rfl⟩

structure ReadFrom (c : Controller) (env : Environment) : Prop where
  backoff : ∃ n, Settings.number env "INVALID_SPEC_BACKOFF_SECS" "30" 18_446_744_073_709_551_615 =
    .ok n ∧ c.backoff.nanos = max n 1 * 1_000_000_000
  coefficient : ∃ n, Settings.number env "RETRY_BACKOFF_COEFFICIENT" "2" 4_294_967_295 = .ok n ∧
    c.retryPolicy.coefficient.toNat = max n 1
  initial : ∃ n, Settings.number env "RETRY_INITIAL_INTERVAL_SECS" "1" 18_446_744_073_709_551_615 =
    .ok n ∧ c.retryPolicy.initial.nanos = max n 1 * 1_000_000_000
  maximum : ∃ n longest,
    Settings.number env "RETRY_MAXIMUM_INTERVAL_SECS" "300" 18_446_744_073_709_551_615 = .ok n ∧
    c.retryPolicy.maximum = some longest ∧ longest.nanos = max n 1 * 1_000_000_000

theorem readFrom_ofSettings {env : Environment} {settings : Settings}
    (hload : Settings.load env = .ok settings) : (ofSettings settings).ReadFrom env := by
  simp only [Settings.load, bind_eq_ok_iff] at hload
  obtain ⟨port, -, backoff, hbackoff, coefficient, hcoefficient, initial, hinitial, longest,
    hlongest, hsettings⟩ := hload
  cases hsettings
  refine ⟨⟨backoff, hbackoff, ?_⟩, ⟨coefficient, hcoefficient, ?_⟩, ⟨initial, hinitial, ?_⟩,
    ⟨longest, _, hlongest, rfl, ?_⟩⟩
  · exact Settings.nanos_clamped (Settings.number_le hbackoff)
  · exact Settings.toNat_clamped (Settings.number_le hcoefficient)
  · exact Settings.nanos_clamped (Settings.number_le hinitial)
  · exact Settings.nanos_clamped (Settings.number_le hlongest)

/-- With settings that were read from an environment there is always a second, or a change of the
cleaner, before its next cycle. -/
theorem handle_never_spins {env : Environment} {settings : Settings}
    (hload : Settings.load env = .ok settings) {σ : Type} (client : Client σ) (m : Metadata)
    (now : Instant) (streaks : Streaks) (s : σ) :
    let c := ofSettings settings
    c.ReadFrom env ∧
    c.Waits m streaks (client (.fetch (m.namespace_.getD "") m.anyName) s).1
      ((c.handle m now streaks).run client s).value ∧
    ∀ (key : String) (history : Streaks) (e : CycleError),
      let delay := c.retryPolicy.delay (history.count key) none
      (c.settle key history (.error e)).1 = .requeue delay ∧ Policy.shortest ≤ delay := by
  intro c
  have hpolicy : c.retryPolicy.Positive := settings.positive_retryPolicy
  refine ⟨readFrom_ofSettings hload, ?_, ?_⟩
  · exact waits_handle (Settings.shortest_le_clamped _) hpolicy client m now streaks s
  · exact fun key history e => ⟨rfl, hpolicy.shortest_le_delay _⟩

def zeroEnvironment : Environment :=
  [("INVALID_SPEC_BACKOFF_SECS", "0"), ("RETRY_BACKOFF_COEFFICIENT", "0"),
    ("RETRY_INITIAL_INTERVAL_SECS", "0"), ("RETRY_MAXIMUM_INTERVAL_SECS", "0")]

/-- Neither the run interval nor the configured backoff asks for any wait at all. -/
theorem zeroEnvironment_waits :
    let settings : Settings := ⟨"0.0.0.0", 3302, "", 0, 0, 0, 0, ""⟩
    let cleaner := { Cycle.nightly with spec := { Cycle.nightlySpec with runInterval := "0s" } }
    let k := Cluster.start (some cleaner) []
    let handled := (((ofSettings settings).handle .blank Cycle.pastOne []).run Cluster.client k).value
    Settings.load zeroEnvironment = .ok settings ∧ handled.action = .requeue Policy.shortest ∧
      Policy.shortest.nanos = 1_000_000_000 := by
  intro settings cleaner k handled
  have hload : Settings.load zeroEnvironment = .ok settings := by decide
  obtain ⟨-, hwaits, -⟩ := handle_never_spins hload Cluster.client .blank Cycle.pastOne [] k
  have hresult : handled.result =
      .ok ⟨some Policy.shortest, .invalidSpec .runIntervalTooShort⟩ := by decide
  have hwait : cleaner.spec.ownInterval?.getD (ofSettings settings).backoff = Policy.shortest := by
    decide
  rcases hwaits.found _ hresult with hmissing | ⟨found, hfound, haction⟩
  · cases hmissing
  · cases hfound
    exact ⟨hload, haction.trans (congrArg Action.requeue hwait), rfl⟩

end Controller

end CronSweep
