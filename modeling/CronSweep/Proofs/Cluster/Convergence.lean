import CronSweep.Proofs.Cluster.History
import CronSweep.Proofs.Cluster.Swept
import CronSweep.Proofs.Policy.Checked

namespace CronSweep

theorem eq_filter_of_sublist {α : Type} [DecidableEq α] {s l : List α} (h : s.Sublist l)
    (hl : l.Nodup) : s = l.filter (· ∈ s) := by
  induction h with
  | slnil => rfl
  | cons a h ih =>
      obtain ⟨ha, hl⟩ := List.nodup_cons.mp hl
      rw [List.filter_cons_of_neg (by simpa using fun hs => ha (h.subset hs)), ← ih hl]
  | @cons_cons s l a h ih =>
      obtain ⟨ha, hl⟩ := List.nodup_cons.mp hl
      rw [List.filter_cons_of_pos (by simp)]
      apply congrArg (a :: ·)
      apply (ih hl).trans
      apply List.filter_congr
      intro b hb
      have hne : b ≠ a := fun hba => ha (hba ▸ hb)
      simp [hne]

theorem eq_of_sublist_of_mem_iff {α : Type} [DecidableEq α] {s t l : List α} (hs : s.Sublist l)
    (ht : t.Sublist l) (hl : l.Nodup) (h : ∀ a, a ∈ s ↔ a ∈ t) : s = t := by
  rw [eq_filter_of_sublist hs hl, eq_filter_of_sublist ht hl]
  apply List.filter_congr
  intro a _
  exact decide_eq_decide.mpr (h a)

namespace Cluster

def grow (k : Cluster) (es : List Execution) : Cluster :=
  { k with executions := k.executions ++ es }

def StuckMono (k : Cluster) (a b : Instant) : Prop :=
  ∀ p threshold, k.policy? = some p → p.stuckAfter = some threshold →
    ∀ e ∈ k.executions, Selection.phase e = .active →
      Selection.isStuck threshold a e = true → Selection.isStuck threshold b e = true

/-- The cluster has what is left of `total` after deletions that are due at `now`. -/
structure Partial (total : Cluster) (now : Instant) (k : Cluster) : Prop where
  spec : k.spec? = total.spec?
  sublist : k.executions.Sublist total.executions
  condemned : ∀ e ∈ total.executions, e ∉ k.executions → total.Condemns now e

variable {k total : Cluster} {now t : Instant} {e : Execution}

theorem policy?_congr (h : k.spec? = total.spec?) : k.policy? = total.policy? :=
  congrArg (Option.bind · _) h

theorem Distinct.sublist (h : total.Distinct) (hk : k.executions.Sublist total.executions) :
    k.Distinct :=
  List.Nodup.sublist (hk.map _) h

theorem Condemns.mono (hspec : k.spec? = total.spec?)
    (hk : k.executions.Sublist total.executions) (hstuck : total.StuckMono t now)
    (h : k.Condemns t e) : total.Condemns now e := by
  obtain ⟨p, hp, he, hcondemned⟩ := h
  have hp' : total.policy? = some p := policy?_congr hspec ▸ hp
  have hlisting : (k.inNamespace p.namespace_).Sublist (total.inNamespace p.namespace_) :=
    hk.filter _
  have hmem := hlisting.subset he
  have hstuck' (threshold : Duration) (hthreshold : p.stuckAfter = some threshold) :=
    hstuck p threshold hp' hthreshold e (mem_inNamespace.mp hmem).1
  exact ⟨p, hp', hmem, hcondemned.mono hlisting hstuck'⟩

theorem StuckMono.sublist (h : total.StuckMono t now) (hspec : k.spec? = total.spec?)
    (hk : k.executions.Sublist total.executions) : k.StuckMono t now :=
  fun p threshold hp hthreshold e he =>
    h p threshold (policy?_congr hspec ▸ hp) hthreshold e (hk.subset he)

theorem stuckMono_refl (k : Cluster) (now : Instant) : k.StuckMono now now :=
  fun _ _ _ _ _ _ _ h => h

namespace Partial

theorem refl (k : Cluster) (now : Instant) : Partial k now k where
  spec := rfl
  sublist := .refl _
  condemned _ he hgone := absurd he hgone

theorem distinct (h : Partial total now k) (hdistinct : total.Distinct) : k.Distinct :=
  hdistinct.sublist h.sublist

theorem add (h : Partial total now k) (es : List Execution) :
    Partial (total.grow es) now (k.grow es) where
  spec := h.spec
  sublist := h.sublist.append (.refl es)
  condemned e he hgone := by
    obtain ⟨hk, hes⟩ := not_or.mp (List.mem_append.not.mp hgone)
    have htotal := (List.mem_append.mp he).resolve_right hes
    have hgrown : (total.grow es).spec? = total.spec? := rfl
    exact (h.condemned e htotal hk).mono hgrown.symm (List.sublist_append_left _ _)
      ((total.grow es).stuckMono_refl now)

theorem cycle (h : Partial total now k) (hdistinct : total.Distinct)
    (hstuck : total.StuckMono t now) (faults : Faults) (backoff : Duration)
    (namespace_ name : String) :
    Partial total now (k.cycle faults backoff namespace_ name t).state := by
  have heffect := k.effect_cycle faults backoff namespace_ name t
  constructor
  · exact heffect.spec?.trans h.spec
  · exact heffect.sublist.trans h.sublist
  · intro e he hgone
    by_cases hk : e ∈ k.executions
    · have hcondemned : k.Condemns t e :=
        heffect.condemns_of_not_mem (h.distinct hdistinct) hk hgone
      exact hcondemned.mono h.spec h.sublist hstuck
    · exact h.condemned e he hk

theorem condemns_iff (h : Partial total now k) (hdistinct : total.Distinct)
    (he : e ∈ k.executions) : k.Condemns now e ↔ total.Condemns now e := by
  refine ⟨fun hk => hk.mono h.spec h.sublist (total.stuckMono_refl now), ?_⟩
  rintro ⟨p, hp, hmem, hcondemned⟩
  have hmem' := mem_inNamespace.mpr ⟨he, (mem_inNamespace.mp hmem).2⟩
  refine ⟨p, policy?_congr h.spec ▸ hp, hmem',
    hcondemned.of_kept (hdistinct.names p.namespace_) ?_ hmem⟩
  -- What is gone was due, so it takes nothing from the window of kept executions before `e`.
  intro w hw hspared
  obtain ⟨hwtotal, hnamespace⟩ := mem_inNamespace.mp hw
  refine mem_inNamespace.mpr ⟨?_, hnamespace⟩
  by_contra hgone
  obtain ⟨q, hq, -, hcondemned'⟩ := h.condemned w hwtotal hgone
  cases hp.symm.trans hq
  exact hspared hcondemned'

theorem step (h : Partial total now k) (hdistinct : total.Distinct) {s : Step}
    (hs : s.Keeps total.spec?) (hstuck : ∀ t, s.instant? = some t → total.StuckMono t now) :
    Partial (total.grow s.added) now (k.step s) := by
  have hgrow : total.grow [] = total := by rw [grow, List.append_nil]
  cases s with
  | cycle faults backoff namespace_ name t =>
      rw [Step.added, hgrow]
      exact h.cycle hdistinct (hstuck t rfl) faults backoff namespace_ name
  | add es => exact h.add es
  | remove gone => cases hs
  | edit spec metadata version =>
      rw [Step.added, hgrow]
      have hspec : k.spec? = some spec := h.spec.trans hs
      have hedited : (k.step (.edit spec metadata version)).spec? = some spec := by
        obtain ⟨c, hc, -⟩ := Option.map_eq_some_iff.mp hspec
        rw [Cluster.step, spec?, hc]
        rfl
      exact ⟨hedited.trans (Eq.symm hs), h.sublist, h.condemned⟩

theorem after (h : Partial total now k) {steps : List Step}
    (hsteps : ∀ s ∈ steps, s.Keeps total.spec?) (hdistinct : (total.grow (added steps)).Distinct)
    (hstuck : ∀ t ∈ instants steps, (total.grow (added steps)).StuckMono t now) :
    Partial (total.grow (added steps)) now (k.after steps) := by
  -- Every step adds to the total, so the induction is for all totals.
  induction steps generalizing total k with
  | nil =>
      rw [added, List.flatMap_nil, grow, List.append_nil]
      exact h
  | cons s steps ih =>
      have hgrow : total.grow (added (s :: steps)) = (total.grow s.added).grow (added steps) := by
        simp only [grow, added, List.flatMap_cons, List.append_assoc]
      have hsublist : total.executions.Sublist (total.grow (added (s :: steps))).executions :=
        List.sublist_append_left _ _
      have hstep : Partial (total.grow s.added) now (k.step s) := by
        apply h.step (hdistinct.sublist hsublist) (hsteps s List.mem_cons_self)
        intro t ht
        have ht' : t ∈ instants (s :: steps) := List.mem_filterMap.mpr ⟨s, List.mem_cons_self, ht⟩
        exact (hstuck t ht').sublist rfl hsublist
      rw [hgrow] at hdistinct hstuck ⊢
      apply ih hstep (fun s hs => hsteps s (List.mem_cons_of_mem _ hs)) hdistinct
      intro t ht
      obtain ⟨s', hs', ht⟩ := List.mem_filterMap.mp ht
      exact hstuck t (List.mem_filterMap.mpr ⟨s', List.mem_cons_of_mem _ hs', ht⟩)

end Partial

theorem mem_executions_step {s : Step} (hs : s.CleansAt now) (hdistinct : k.Distinct) :
    e ∈ (k.step s).executions ↔ e ∈ k.executions ∧ ¬k.Condemns now e := by
  cases s with
  | cycle faults backoff namespace_ name t =>
      obtain ⟨rfl, hfetch, hlist, hdelete⟩ := hs
      have heffect := k.effect_cycle faults backoff namespace_ name t
      exact heffect.mem_executions_iff hdistinct hfetch hlist fun a _ => hdelete a.name
  | add | remove | edit => cases hs

theorem executions_step_sublist {s : Step} (hs : s.CleansAt now) :
    (k.step s).executions.Sublist k.executions := by
  cases s with
  | cycle faults backoff namespace_ name t =>
      exact (k.effect_cycle faults backoff namespace_ name t).sublist
  | add | remove | edit => cases hs

theorem Partial.executions_step (h : Partial total now k) (hdistinct : total.Distinct)
    {s s' : Step} (hs : s.CleansAt now) (hs' : s'.CleansAt now) :
    (k.step s).executions = (total.step s').executions := by
  apply eq_of_sublist_of_mem_iff ((executions_step_sublist hs).trans h.sublist)
    (executions_step_sublist hs') hdistinct.of_map
  intro e
  rw [mem_executions_step hs (h.distinct hdistinct), mem_executions_step hs' hdistinct]
  constructor
  · rintro ⟨hk, hspared⟩
    exact ⟨h.sublist.subset hk, fun hdue => hspared ((h.condemns_iff hdistinct hk).mpr hdue)⟩
  · rintro ⟨htotal, hspared⟩
    have hk : e ∈ k.executions := by
      by_contra hgone
      exact hspared (h.condemned e htotal hgone)
    exact ⟨hk, fun hdue => hspared ((h.condemns_iff hdistinct hk).mp hdue)⟩

structure Orderly (k : Cluster) (steps : List Step) (now : Instant) : Prop where
  keeps : ∀ s ∈ steps, s.Keeps k.spec?
  distinct : (k.grow (added steps)).Distinct
  not_later : ∀ t ∈ instants steps, t ≤ now

def LeapFree (k : Cluster) (steps : List Step) (now : Instant) : Prop :=
  ∀ c, k.cleaner = some c → c.spec.cleanupStuck.enabled = true →
    (∀ t ∈ now :: instants steps, ¬t.IsLeap) ∧
      ∀ e ∈ k.executions ++ added steps, Selection.phase e = .active →
        ∀ start ∈ e.start, ¬start.IsLeap

/-- The history followed by a clean cycle comes to what one clean cycle after all additions comes
to, and what that cycle keeps is at no point of the history gone. -/
def Converges (k : Cluster) (steps : List Step) (now : Instant) : Prop :=
  ∀ last once : Step, last.CleansAt now → once.CleansAt now →
    let kept := (k.after [.add (added steps), once]).executions
    (k.after (steps ++ [last])).executions = kept ∧
      ∀ earlier, earlier <+: steps → ∀ e ∈ k.executions ++ added earlier, e ∈ kept →
        e ∈ (k.after earlier).executions

theorem LeapFree.stuckMono {steps : List Step} (h : k.LeapFree steps now)
    (ht : t ∈ instants steps) (hle : t ≤ now) : (k.grow (added steps)).StuckMono t now := by
  intro p threshold hp hthreshold e he hactive hstuck
  have hpolicy : k.policy? = some p := hp
  obtain ⟨c, hc, hvalid⟩ := policy?_eq_some_iff.mp hpolicy
  have henabled : c.spec.cleanupStuck.enabled = true := by
    obtain ⟨-, -, -, -, -, -, -, hread⟩ := Policy.ofSpec?_eq_ok_iff.mp hvalid
    rw [Policy.stuckAfter?_eq_ok_iff, hthreshold] at hread
    by_contra hoff
    rw [if_neg hoff] at hread
    cases hread
  obtain ⟨hinstants, hstarts⟩ := h c hc henabled
  exact Selection.isStuck_mono (hstarts e he hactive) (hinstants t (List.mem_cons_of_mem _ ht))
    (hinstants now List.mem_cons_self) hle hstuck

/-- Faults and repetition change nothing about what is deleted in the end. -/
theorem converges {steps : List Step} (horderly : k.Orderly steps now)
    (hleap : k.LeapFree steps now) : k.Converges steps now := by
  obtain ⟨hsteps, hdistinct, hinstants⟩ := horderly
  intro last once hlast honce kept
  have hstuck (t : Instant) (ht : t ∈ instants steps) : (k.grow (added steps)).StuckMono t now :=
    hleap.stuckMono ht (hinstants t ht)
  constructor
  · have hrun := (Partial.refl k now).after hsteps hdistinct hstuck
    rw [after, List.foldl_append]
    exact hrun.executions_step hdistinct hlast honce
  · rintro earlier ⟨rest, rfl⟩ e he hkept
    have hadded : added (earlier ++ rest) = added earlier ++ added rest := List.flatMap_append
    have hsublist : (k.grow (added earlier)).executions.Sublist
        (k.grow (added (earlier ++ rest))).executions := by
      rw [hadded]
      exact (List.sublist_append_left _ _).append_left _
    have hrun : Partial (k.grow (added earlier)) now (k.after earlier) := by
      apply (Partial.refl k now).after (fun s hs => hsteps s (List.mem_append_left _ hs))
        (hdistinct.sublist hsublist)
      intro t ht
      have ht' : t ∈ instants (earlier ++ rest) := by
        rw [instants, List.filterMap_append]
        exact List.mem_append_left _ ht
      exact (hstuck t ht').sublist rfl hsublist
    have hspec : (k.grow (added earlier)).spec? = (k.grow (added (earlier ++ rest))).spec? := rfl
    by_contra hgone
    have hdue := (hrun.condemned e he hgone).mono hspec hsublist (stuckMono_refl _ now)
    exact ((mem_executions_step honce hdistinct).mp hkept).2 hdue

theorem nightly_converges :
    let k := start (some Cycle.nightly) [Cycle.nightlyRun "a" 10 1 0 0]
    k.Orderly nightlySteps Cycle.pastOne ∧ k.LeapFree nightlySteps Cycle.pastOne ∧
      k.Converges nightlySteps Cycle.pastOne := by
  intro k
  have horderly : k.Orderly nightlySteps Cycle.pastOne := by
    constructor
    · simp [nightlySteps, Step.Keeps]
    · rw [Distinct]
      decide
    · decide
  have hleap : k.LeapFree nightlySteps Cycle.pastOne := fun _ _ _ => by decide
  exact ⟨horderly, hleap, converges horderly hleap⟩

def cycleAt (now : Instant) : Step := .cycle Faults.none .zero "ops" "sweep" now

theorem cleansAt_cycleAt (now : Instant) : (cycleAt now).CleansAt now :=
  ⟨rfl, rfl, rfl, fun _ => rfl⟩

theorem orderly_cycleAt (hdistinct : k.Distinct) (hle : t ≤ now) :
    k.Orderly [cycleAt t] now := by
  constructor
  · intro s hs
    rw [List.mem_singleton.mp hs]
    trivial
  · have hgrow : k.grow (added [cycleAt t]) = k.grow [] := rfl
    rwa [hgrow, grow, List.append_nil]
  · intro t' ht'
    rw [List.mem_singleton.mp ht']
    exact hle

def lone (stuckAfter : String) (run : Execution) : Cluster :=
  let spec := { Cycle.nightlySpec with cleanupStuck := ⟨true, stuckAfter⟩ }
  Cluster.start (some { Cycle.nightly with spec }) [run]

theorem distinct_lone (stuckAfter : String) (run : Execution) : (lone stuckAfter run).Distinct :=
  List.nodup_singleton _

theorem not_converges_of_ne
    (h : (k.after ([cycleAt t] ++ [cycleAt now])).executions ≠
      (k.after [.add (added [cycleAt t]), cycleAt now]).executions) :
    ¬k.Converges [cycleAt t] now := by
  intro hconverges
  obtain ⟨hequal, -⟩ :=
    hconverges (cycleAt now) (cycleAt now) (cleansAt_cycleAt now) (cleansAt_cycleAt now)
  exact h hequal

def noonLeap : Instant := ⟨43259, 1_500_000_000, .inr (by decide), by decide, by decide⟩
def dayEnd : Instant := ⟨86399, 900_000_000, .inl (by decide), by decide, by decide⟩
def nextDay : Instant := ⟨86400, 0, .inl (by decide), by decide, by decide⟩
def minuteLeap : Instant := ⟨3659, 1_500_000_000, .inr (by decide), by decide, by decide⟩
def nextMinute : Instant := ⟨3660, 0, .inl (by decide), by decide, by decide⟩

def leapRun : Execution := { Cycle.nightlyRun "a" 0 1 0 0 with start := some noonLeap }

/-- Time can run backwards between leap seconds and the rest: the leap second of a start counts up
to midnight only, and the leap second of a cycle is gone right after it. What is stuck early is then
not stuck late. -/
theorem leap_seconds_not_converges :
    let noon := lone "11h59m" leapRun
    let minute := lone "1h50s" (Cycle.nightlyRun "a" 10 1 0 0)
    noon.Orderly [cycleAt dayEnd] nextDay ∧
      (noon.after [cycleAt dayEnd, cycleAt nextDay]).executions = [] ∧
      (noon.after [cycleAt nextDay]).executions = [leapRun] ∧
      ¬noon.Converges [cycleAt dayEnd] nextDay ∧
      minute.Orderly [cycleAt minuteLeap] nextMinute ∧
      ¬minute.Converges [cycleAt minuteLeap] nextMinute := by
  intro noon minute
  have hnoon : noon.Orderly [cycleAt dayEnd] nextDay :=
    orderly_cycleAt (distinct_lone _ _) (by decide)
  have hminute : minute.Orderly [cycleAt minuteLeap] nextMinute :=
    orderly_cycleAt (distinct_lone _ _) (by decide)
  refine ⟨hnoon, by decide, by decide, ?_, hminute, ?_⟩
  · apply not_converges_of_ne
    decide
  · apply not_converges_of_ne
    decide

end Cluster

end CronSweep
