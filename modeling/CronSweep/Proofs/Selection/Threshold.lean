import CronSweep.Proofs.Instant.Span
import CronSweep.Proofs.Selection.Stuck

namespace CronSweep

theorem Instant.elapsed_eq_nanos {start now : Instant} (hs : ¬start.IsLeap) (hn : ¬now.IsLeap) :
    elapsed start now = now.nanos - start.nanos := by
  rw [elapsed_of_not_isLeap hs hn, nanos, nanos]
  omega

theorem Instant.lt_iff_nanos_lt {a b : Instant} (ha : ¬a.IsLeap) (hb : ¬b.IsLeap) :
    a < b ↔ a.nanos < b.nanos := by
  rw [IsLeap] at ha hb
  rw [lt_def, nanos, nanos]
  omega

namespace Selection

/-- Started strictly more than the threshold ago, in exact nanoseconds. -/
def Overruns (threshold : Duration) (now : Instant) (e : Execution) : Prop :=
  ∃ start, e.start = some start ∧ (threshold.nanos : Int) < now.nanos - start.nanos

instance (threshold : Duration) (now : Instant) (e : Execution) :
    Decidable (Overruns threshold now e) :=
  decidable_of_iff ((e.start.any fun start =>
      decide ((threshold.nanos : Int) < now.nanos - start.nanos)) = true) <| by
    rw [Overruns]
    cases e.start <;> simp

/-- The stuck executions found by comparing spans kept in words. Nothing is found where the threshold
has no such span. -/
def stuckByWords (threshold : Duration) (now : Instant) (es : List Execution) : List Execution :=
  match Span.ofDuration? threshold with
  | none => []
  | some limit => es.filter fun e => e.start.any fun start => decide (limit < .between start now)

theorem lt_between_iff {threshold : Duration} {limit : Span} {start now : Instant}
    (h : Span.ofDuration? threshold = some limit) :
    limit < .between start now ↔ (threshold.nanos : Int) < now.nanos - start.nanos := by
  rw [Span.lt_iff_nanos_lt, Span.nanos_ofDuration h, Span.nanos_between]

theorem nanos_sub_le_longestSpan (start now : Instant) : now.nanos - start.nanos ≤ longestSpan := by
  have hs := start.earliest_le
  have hn := now.le_latest
  have hnano := now.nano_lt
  rw [Instant.nanos, Instant.nanos, longestSpan]
  omega

/-- Where words cannot say the threshold no execution is past it. -/
theorem stuckByWords_eq_filter (threshold : Duration) (now : Instant) (es : List Execution) :
    stuckByWords threshold now es = es.filter (Overruns threshold now ·) := by
  rw [stuckByWords]
  split
  · next hlong =>
      rw [Span.ofDuration?_eq_none_iff] at hlong
      apply Eq.symm
      apply List.filter_eq_nil_iff.mpr
      rintro e - hover
      obtain ⟨start, -, hlt⟩ := of_decide_eq_true hover
      have hle := nanos_sub_le_longestSpan start now
      omega
  · next limit hlimit =>
      congr 1
      funext e
      rw [Bool.eq_iff_iff, decide_eq_true_eq, Overruns]
      cases e.start with
      | none => simp
      | some start => simp [lt_between_iff hlimit]

theorem isStuck_iff_overruns {threshold : Duration} {now : Instant} (hnow : ¬now.IsLeap)
    {e : Execution} (he : ∀ start, e.start = some start → ¬start.IsLeap) :
    isStuck threshold now e = true ↔ Overruns threshold now e := by
  rw [isStuck_iff, Overruns]
  constructor
  · rintro ⟨start, hstart, hlt⟩
    rw [Instant.elapsed_eq_nanos (he start hstart) hnow] at hlt
    exact ⟨start, hstart, hlt⟩
  · rintro ⟨start, hstart, hlt⟩
    rw [← Instant.elapsed_eq_nanos (he start hstart) hnow] at hlt
    exact ⟨start, hstart, hlt⟩

theorem Overruns.anti {threshold shorter : Duration} (h : shorter ≤ threshold) {now : Instant}
    {e : Execution} (he : Overruns threshold now e) : Overruns shorter now e := by
  obtain ⟨start, hstart, hlt⟩ := he
  rw [Duration.le_def] at h
  exact ⟨start, hstart, by omega⟩

variable {now : Instant} (hnow : ¬now.IsLeap) {es : List Execution}
  (hes : ∀ e ∈ es, ∀ start, e.start = some start → ¬start.IsLeap)
include hnow hes

theorem stuck_eq_filter_overruns (threshold : Duration) :
    stuck threshold now es = es.filter (Overruns threshold now ·) := by
  rw [stuck_eq_filter]
  apply List.filter_congr
  intro e he
  rw [Bool.eq_iff_iff, decide_eq_true_eq]
  exact isStuck_iff_overruns hnow (hes e he)

/-- Away from leap seconds the stuck executions are, in their order, those that started strictly more
than the threshold ago, counted in exact nanoseconds, however long the threshold is. They are found by
words that could wrap, and no difference exceeds a threshold that words cannot say. None of them starts
later, and with time or with a shorter threshold there are only more of them. -/
theorem stuck_exact (threshold : Duration) :
    stuck threshold now es = es.filter (Overruns threshold now ·) ∧
    stuck threshold now es = stuckByWords threshold now es ∧
    (Span.ofDuration? threshold = none →
      ∀ start : Instant, now.nanos - start.nanos ≤ threshold.nanos) ∧
    (∀ e ∈ es, ∀ start, e.start = some start → now ≤ start → e ∉ stuck threshold now es) ∧
    (∀ later, now ≤ later → ¬later.IsLeap → stuck threshold now es ⊆ stuck threshold later es) ∧
    ∀ shorter, shorter ≤ threshold → stuck threshold now es ⊆ stuck shorter now es := by
  have hexact := stuck_eq_filter_overruns hnow hes
  refine ⟨hexact threshold, ?_, ?_, ?_, ?_, ?_⟩
  · rw [hexact, stuckByWords_eq_filter]
  · intro hlong start
    rw [Span.ofDuration?_eq_none_iff] at hlong
    have hle := nanos_sub_le_longestSpan start now
    omega
  · intro e he start hstart hfuture hstuck
    rw [hexact, List.mem_filter, decide_eq_true_eq] at hstuck
    obtain ⟨-, start', hstart', hlt⟩ := hstuck
    cases hstart.symm.trans hstart'
    have hbefore : start < now := by
      rw [Instant.lt_iff_nanos_lt (hes e he start hstart) hnow]
      omega
    rw [Instant.lt_def] at hbefore
    rw [Instant.le_def] at hfuture
    omega
  · intro later hlater hleap e he
    rw [stuck_eq_filter, List.mem_filter] at he ⊢
    exact ⟨he.1, isStuck_mono (hes e he.1) hnow hleap hlater he.2⟩
  · intro shorter hshorter e he
    rw [hexact, List.mem_filter, decide_eq_true_eq] at he ⊢
    exact ⟨he.1, he.2.anti hshorter⟩

omit hnow hes

def dawn : Instant := ⟨-8334601228800, 0, .inl (by decide), by decide, by decide⟩
def eve : Instant := ⟨8210266876798, 999_999_999, .inl (by decide), by decide, by decide⟩
def dusk : Instant := ⟨8210266876799, 999_999_999, .inl (by decide), by decide, by decide⟩

def runSince (name : String) (start : Option Instant) : Execution :=
  ⟨"batch", name, none, [], start, 1, 0, 0⟩

def longRuns : List Execution :=
  [runSince "new" (some dusk), runSince "old" (some dawn), runSince "unstarted" none]

/-- One nanosecond less than from the first instant to just before the last. -/
def widest : Duration := ⟨16_544_868_105_598_999_999_998, by decide⟩

/-- Over all of time the run is stuck that exceeds the threshold by a nanosecond, and with the greatest
duration for a threshold none is. -/
theorem longRuns_stuck :
    ¬eve.IsLeap ∧ (∀ e ∈ longRuns, ∀ start, e.start = some start → ¬start.IsLeap) ∧
      stuck widest eve longRuns = [runSince "old" (some dawn)] ∧
      stuckByWords widest eve longRuns = [runSince "old" (some dawn)] ∧
      (eve ≤ dusk ∧ runSince "new" (some dusk) ∉ stuck widest eve longRuns) ∧
      (¬dusk.IsLeap ∧ runSince "old" (some dawn) ∈ stuck widest dusk longRuns) ∧
      (.zero ≤ widest ∧ runSince "old" (some dawn) ∈ stuck .zero eve longRuns) ∧
      Span.ofDuration? .greatest = none ∧ stuck .greatest eve longRuns = [] ∧
      eve.nanos - dawn.nanos ≤ Duration.greatest.nanos := by
  have heve : ¬eve.IsLeap := by decide
  have hdusk : ¬dusk.IsLeap := by decide
  have hruns : ∀ e ∈ longRuns, ∀ start, e.start = some start → ¬start.IsLeap := by
    simp only [longRuns, runSince, List.forall_mem_cons, Option.some.injEq, forall_eq', reduceCtorEq,
      false_implies, implies_true, List.not_mem_nil, and_true]
    exact ⟨hdusk, by decide⟩
  have hlater : eve ≤ dusk := by decide
  have hshorter : Duration.zero ≤ widest := by decide
  have hlong : Span.ofDuration? .greatest = none :=
    Span.ofDuration?_eq_none_iff.mpr (by decide)
  obtain ⟨hstuck, hwords, -, hnew, hmore, hfewer⟩ := stuck_exact heve hruns widest
  obtain ⟨hnone, -, hgreatest, -⟩ := stuck_exact heve hruns .greatest
  have hone : stuck widest eve longRuns = [runSince "old" (some dawn)] :=
    hstuck.trans (by decide)
  have hold : runSince "old" (some dawn) ∈ stuck widest eve longRuns := by
    rw [hone]
    exact List.mem_singleton_self _
  exact ⟨heve, hruns, hone, hwords.symm.trans hone,
    ⟨hlater, hnew _ List.mem_cons_self dusk rfl hlater⟩, ⟨hdusk, hmore dusk hlater hdusk hold⟩,
    ⟨hshorter, hfewer .zero hshorter hold⟩, hlong, hnone.trans (by decide), hgreatest hlong dawn⟩

end Selection

end CronSweep
