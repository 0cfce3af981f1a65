import CronSweep.Proofs.Selection.Retention

namespace CronSweep.Selection

/-- A sort gives up on a comparison that does not order what is to be sorted. -/
def sort? (le : Execution → Execution → Bool) (es : List Execution) : Option (List Execution) :=
  if (∀ a ∈ es, ∀ b ∈ es, le a b = true ∨ le b a = true) ∧
      ∀ a ∈ es, ∀ b ∈ es, ∀ c ∈ es, le a b = true → le b c = true → le a c = true then
    some (es.mergeSort le)
  else none

def splitOff? (n : Nat) (es : List Execution) : Option (List Execution) :=
  if n ≤ es.length then some (es.drop n) else none

def excess? (n : Nat) (es : List Execution) : Option (List Execution) :=
  if es.length ≤ n then some [] else (sort? precedes es).bind (splitOff? n)

theorem sort?_precedes (es : List Execution) : sort? precedes es = some (newestFirst es) :=
  if_pos ⟨fun a _ b _ => Bool.or_eq_true_iff.mp (precedes_total a b),
    fun a _ b _ c _ => precedes_trans a b c⟩

theorem excess?_eq_some (n : Nat) (es : List Execution) : excess? n es = some (excess n es) := by
  rw [excess?, excess]
  split
  · rfl
  · next h =>
      have hn : n ≤ (newestFirst es).length := by
        rw [(newestFirst_perm es).length_eq]
        omega
      rw [sort?_precedes, Option.bind_some, splitOff?, if_pos hn]

/-- A group falls into executions that are kept, as many as there may be, and others that are gone,
none of them newer than one that is kept. -/
structure Divides (n : Nat) (group kept gone : List Execution) : Prop where
  perm : (kept ++ gone).Perm group
  length_kept : kept.length = min group.length n
  length_gone : gone.length = group.length - n
  ordered : gone.Pairwise fun a b => ¬Before b a
  newest : ∀ k ∈ kept, ∀ g ∈ gone, ¬Before g k
  started : ∀ k ∈ kept, ∀ g ∈ gone, g.start.isSome = true → k.start.isSome = true

theorem isSome_start_of_not_before {a b : Execution} (h : ¬Before a b)
    (ha : a.start.isSome = true) : b.start.isSome = true := by
  rw [Before] at h
  cases hs : a.start with
  | none => simp [hs] at ha
  | some s =>
      cases ht : b.start with
      | none => simp [hs, ht] at h
      | some t => rfl

theorem divides_excess (n : Nat) (es : List Execution) :
    Divides n es ((newestFirst es).take n) (excess n es) := by
  have hperm := newestFirst_perm es
  have hsorted := newestFirst_pairwise es
  rw [excess_eq_drop]
  have hnewest : ∀ k ∈ (newestFirst es).take n, ∀ g ∈ (newestFirst es).drop n, ¬Before g k :=
    fun k hk g hg => hsorted.rel_of_mem_take_of_mem_drop hk hg
  refine ⟨?_, ?_, ?_, hsorted.drop, hnewest, fun k hk g hg => ?_⟩
  · rwa [List.take_append_drop]
  · rw [List.length_take, hperm.length_eq, Nat.min_comm]
  · rw [List.length_drop, hperm.length_eq]
  · exact isSome_start_of_not_before (hnewest k hk g hg)

theorem excess_add (n k : Nat) (es : List Execution) :
    excess (n + k) es = (excess n es).drop k := by
  rw [excess_eq_drop, excess_eq_drop, List.drop_drop]

/-- Executions that can be told apart by start and name have one order only. -/
theorem newestFirst_congr {es fs : List Execution}
    (h : (es.map fun e => (e.start, e.name)).Nodup) (hperm : fs.Perm es) :
    newestFirst fs = newestFirst es := by
  have hfs := newestFirst_perm fs
  have hes := newestFirst_perm es
  apply List.Perm.eq_of_pairwise _ (newestFirst_pairwise fs) (newestFirst_pairwise es)
    (hfs.trans (hperm.trans hes.symm))
  intro a b ha hb hba hab
  rcases before_trichotomy a b with hlt | ⟨hstart, hname⟩ | hlt
  · exact absurd hlt hab
  · exact List.inj_on_of_nodup_map h (hperm.mem_iff.mp (hfs.mem_iff.mp ha)) (hes.mem_iff.mp hb)
      (Prod.ext hstart hname)
  · exact absurd hlt hba

/-- Beyond the newest of a group are its oldest ones, in the order of retention: with more retained
fewer of them, with the newest alone none, and the same ones in whatever order the group comes
unless it has executions of one start and name. -/
theorem excess_beyond_newest (n : Nat) (es : List Execution) :
    excess? n es = some (excess n es) ∧
    (∃ kept, Divides n es kept (excess n es) ∧ excess n kept = []) ∧
    (∀ k, excess (n + k) es = (excess n es).drop k) ∧
    ∀ fs, fs.Perm es → (es.map fun e => (e.start, e.name)).Nodup → excess n fs = excess n es := by
  have hdivides := divides_excess n es
  refine ⟨excess?_eq_some n es, ⟨_, hdivides, ?_⟩, fun k => excess_add n k es, ?_⟩
  · apply excess_eq_nil
    rw [hdivides.length_kept]
    exact Nat.min_le_right _ _
  · intro fs hperm h
    rw [excess_eq_drop, excess_eq_drop, newestFirst_congr h hperm]

def runFrom (start : Option Instant) (name : String) : Execution :=
  ⟨"batch", name, none, [], start, 0, 1, 0⟩

/-- Three runs of one second and two without a start, in the order of retention. -/
def tiedRuns : List Execution :=
  ["a", "b", "c"].map (runFrom (Instant.ofParts? 10 0)) ++ ["y", "z"].map (runFrom none)

theorem tiedRuns_reversed :
    tiedRuns.reverse.Perm tiedRuns ∧ (tiedRuns.map fun e => (e.start, e.name)).Nodup ∧
      (excess 1 tiedRuns.reverse).map (·.name) = ["b", "c", "y", "z"] := by
  have hperm : tiedRuns.reverse.Perm tiedRuns := List.reverse_perm tiedRuns
  have hnodup : (tiedRuns.map fun e => (e.start, e.name)).Nodup := by decide
  obtain ⟨-, -, -, hany⟩ := excess_beyond_newest 1 tiedRuns
  have hsorted : newestFirst tiedRuns = tiedRuns := List.mergeSort_of_pairwise (by decide)
  refine ⟨hperm, hnodup, ?_⟩
  rw [hany _ hperm hnodup, excess_eq_drop, hsorted]
  decide

end CronSweep.Selection
