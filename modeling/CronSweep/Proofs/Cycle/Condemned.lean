import CronSweep.Proofs.Cycle.Run
import CronSweep.Proofs.Selection.Retention
import CronSweep.Proofs.Selection.Stuck
import Mathlib.Data.List.Perm.Subperm

namespace CronSweep.Policy

open Selection

def group (p : Policy) (phase : Phase) (listing : List Execution) : List Execution :=
  inPhase phase (ownedBy p.cronJobName listing)

/-- How many executions of a phase are kept. Of those that have not ended all are. -/
def retained (p : Policy) : Phase → Option Nat
  | .succeeded => some p.retainSuccessful
  | .failed => some p.retainFailed
  | .active | .unclassified => none

def Condemns (p : Policy) (now : Instant) (listing : List Execution) (e : Execution) : Prop :=
  e.isOwnedBy Execution.cronJobKind p.cronJobName = true ∧
    ((phase e = .active ∧ ∃ threshold, p.stuckAfter = some threshold ∧
        isStuck threshold now e = true) ∨
      ∃ n, p.retained (phase e) = some n ∧ n ≤ (p.group (phase e) listing).countP (Before · e))

variable {p : Policy} {now : Instant} {listing : List Execution} {e : Execution}

theorem mem_group {q : Phase} :
    e ∈ p.group q listing ↔
      e ∈ listing ∧ e.isOwnedBy Execution.cronJobKind p.cronJobName = true ∧ phase e = q := by
  simp only [group, inPhase, ownedBy, List.mem_filter, decide_eq_true_eq, and_assoc]

theorem group_sublist (q : Phase) {listing' : List Execution} (h : listing.Sublist listing') :
    (p.group q listing).Sublist (p.group q listing') :=
  (h.filter _).filter _

theorem group_eq_filter {q : Phase} (P : Execution → Prop) [DecidablePred P]
    (hP : ∀ e, P e ↔ e.isOwnedBy Execution.cronJobKind p.cronJobName = true ∧ phase e = q)
    (listing : List Execution) : p.group q listing = listing.filter (P ·) := by
  rw [group, inPhase, ownedBy, List.filter_filter]
  congr 1
  funext e
  simp [hP, Bool.and_comm]

theorem nodup_group (q : Phase) (h : (listing.map (·.name)).Nodup) :
    ((p.group q listing).map (·.name)).Nodup :=
  h.sublist ((List.filter_sublist.trans List.filter_sublist).map _)

theorem mem_select_stuck :
    e ∈ (Cycle.select p now listing).stuck ↔
      e ∈ p.group .active listing ∧
        ∃ threshold, p.stuckAfter = some threshold ∧ isStuck threshold now e = true := by
  rw [Cycle.select, group]
  cases p.stuckAfter with
  | none => simp
  | some threshold => simp [stuck_eq_filter]

/-- Only runs of the cron job that count as active or ended are ever selected. -/
theorem of_mem_select_all (h : e ∈ (Cycle.select p now listing).all) :
    e ∈ listing ∧ e.isOwnedBy Execution.cronJobKind p.cronJobName = true ∧
      phase e ≠ .unclassified := by
  rw [Cycle.Selected.all, List.mem_append, List.mem_append] at h
  rcases h with (h | h) | h
  · obtain ⟨he, howned, hphase⟩ := mem_group.mp (mem_select_stuck.mp h).1
    exact ⟨he, howned, by simp [hphase]⟩
  · obtain ⟨he, howned, hphase⟩ := (mem_group (q := .succeeded)).mp (mem_of_mem_excess h)
    exact ⟨he, howned, by simp [hphase]⟩
  · obtain ⟨he, howned, hphase⟩ := (mem_group (q := .failed)).mp (mem_of_mem_excess h)
    exact ⟨he, howned, by simp [hphase]⟩

theorem mem_select_all (h : (listing.map (·.name)).Nodup) :
    e ∈ (Cycle.select p now listing).all ↔ e ∈ listing ∧ p.Condemns now listing e := by
  have hexcess (q : Phase) (n : Nat) : e ∈ excess n (p.group q listing) ↔
      e ∈ p.group q listing ∧ n ≤ (p.group q listing).countP (Before · e) :=
    mem_excess_iff (nodup_group q h)
  have hs : (Cycle.select p now listing).excessSucceeded =
      excess p.retainSuccessful (p.group .succeeded listing) := rfl
  have hf : (Cycle.select p now listing).excessFailed =
      excess p.retainFailed (p.group .failed listing) := rfl
  rw [Cycle.Selected.all, List.mem_append, List.mem_append, mem_select_stuck, hs, hf, hexcess,
    hexcess]
  simp only [mem_group, Condemns]
  cases phase e <;> simp [retained, and_assoc]

theorem Condemns.mono {now' : Instant} {listing' : List Execution}
    (hlisting : listing.Sublist listing')
    (hstuck : ∀ threshold, p.stuckAfter = some threshold → phase e = .active →
      isStuck threshold now e = true → isStuck threshold now' e = true)
    (h : p.Condemns now listing e) : p.Condemns now' listing' e := by
  obtain ⟨howned, ⟨hactive, threshold, hp, he⟩ | ⟨n, hn, hcount⟩⟩ := h
  · exact ⟨howned, .inl ⟨hactive, threshold, hp, hstuck threshold hp hactive he⟩⟩
  · exact ⟨howned, .inr ⟨n, hn, hcount.trans (group_sublist (phase e) hlisting).countP_le⟩⟩

theorem condemns_iff_mem_excess (hnames : (listing.map (·.name)).Nodup) {q : Phase} {n : Nat}
    (hn : p.retained q = some n) (he : e ∈ p.group q listing) :
    p.Condemns now listing e ↔ e ∈ excess n (p.group q listing) := by
  obtain ⟨hmem, howned, rfl⟩ := mem_group.mp he
  rw [mem_excess_iff (nodup_group _ hnames)]
  constructor
  · rintro ⟨-, ⟨hactive, -⟩ | ⟨m, hm, hcount⟩⟩
    · rw [hactive] at hn
      cases hn
    · cases hn.symm.trans hm
      exact ⟨he, hcount⟩
  · rintro ⟨-, hcount⟩
    exact ⟨howned, .inr ⟨n, hn, hcount⟩⟩

/-- What is kept of a listing is enough to condemn the rest. -/
theorem Condemns.of_kept {listing' : List Execution} (hnames : (listing'.map (·.name)).Nodup)
    (hkept : ∀ w ∈ listing', ¬p.Condemns now listing' w → w ∈ listing) (he : e ∈ listing')
    (h : p.Condemns now listing' e) : p.Condemns now listing e := by
  obtain ⟨howned, hstuck | ⟨n, hn, hcount⟩⟩ := h
  · exact ⟨howned, .inl hstuck⟩
  · refine ⟨howned, .inr ⟨n, hn, ?_⟩⟩
    have hgroup := nodup_group (phase e) hnames (p := p)
    obtain ⟨kept, hnodup, hlength, hwindow⟩ :=
      exists_window hgroup ((mem_excess_iff hgroup).mpr ⟨mem_group.mpr ⟨he, howned, rfl⟩, hcount⟩)
    have hsubset : kept ⊆ (p.group (phase e) listing).filter (Before · e) := by
      intro w hw
      obtain ⟨hmem, hbefore, hsafe⟩ := hwindow w hw
      obtain ⟨hw', hwowned, hphase⟩ := mem_group.mp hmem
      have hspared : ¬p.Condemns now listing' w :=
        mt (condemns_iff_mem_excess hnames hn hmem).mp hsafe
      exact List.mem_filter.mpr
        ⟨mem_group.mpr ⟨hkept w hw' hspared, hwowned, hphase⟩, decide_eq_true hbefore⟩
    rw [← hlength, List.countP_eq_length_filter]
    exact (hnodup.subperm hsubset).length_le

theorem group_filter (q : Phase) (keep : Execution → Bool) :
    p.group q (listing.filter keep) = (p.group q listing).filter keep := by
  simp only [group, inPhase, ownedBy, List.filter_filter]
  apply List.filter_congr
  intro e _
  rw [Bool.and_comm (keep e), Bool.and_assoc]

end CronSweep.Policy
