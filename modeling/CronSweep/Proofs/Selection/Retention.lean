import CronSweep.Proofs.Selection.Order
import Mathlib.Data.List.Nodup

namespace CronSweep.Selection

/-- In a list sorted by a strict order a member is in the tail from position `n` on exactly if at
least `n` members come before it. -/
theorem mem_drop_iff_le_countP {α : Type} {R : α → α → Prop} [DecidableRel R]
    (hR : ∀ {a b}, R a b → ¬R b a) {l : List α} (hl : l.Pairwise R) {x : α} (hx : x ∈ l) (n : Nat) :
    x ∈ l.drop n ↔ n ≤ l.countP (R · x) := by
  induction l generalizing n with
  | nil => simp at hx
  | cons a l ih =>
      obtain ⟨ha, hl⟩ := List.pairwise_cons.mp hl
      have hirrefl : ¬R a a := fun h => hR h h
      cases n with
      | zero => simpa using hx
      | succ n =>
          rw [List.drop_succ_cons]
          rcases List.mem_cons.mp hx with rfl | hx
          · have hzero : l.countP (R · x) = 0 := by
              rw [List.countP_eq_zero]
              intro y hy
              simpa using hR (ha y hy)
            have hdrop : x ∉ l.drop n := fun h => hirrefl (ha x (List.mem_of_mem_drop h))
            simp [hzero, hirrefl, hdrop]
          · rw [ih hl hx, List.countP_cons, if_pos (by simpa using ha x hx)]
            omega

/-- `sorted` holds a group newest first, and what is tied as the group has it. -/
structure NewestFirst (group sorted : List Execution) : Prop where
  perm : sorted.Perm group
  ordered : sorted.Pairwise fun a b => ¬Before b a
  stable : ∀ a b, ¬Before b a → [a, b].Sublist group → [a, b].Sublist sorted

theorem newestFirst_perm (es : List Execution) : (newestFirst es).Perm es :=
  List.mergeSort_perm _ _

theorem newestFirst_pairwise (es : List Execution) :
    (newestFirst es).Pairwise fun a b => ¬Before b a :=
  (List.pairwise_mergeSort precedes_trans precedes_total es).imp fun h => (precedes_iff _ _).mp h

theorem newestFirst_newestFirst (es : List Execution) : NewestFirst es (newestFirst es) where
  perm := newestFirst_perm es
  ordered := newestFirst_pairwise es
  stable a b hab := List.pair_sublist_mergeSort precedes_trans precedes_total
    ((precedes_iff a b).mpr hab)

theorem excess_eq_drop (n : Nat) (es : List Execution) :
    excess n es = (newestFirst es).drop n := by
  rw [excess]
  split
  · next h =>
      rw [List.drop_of_length_le]
      rwa [(newestFirst_perm es).length_eq]
  · rfl

theorem mem_of_mem_excess {n : Nat} {es : List Execution} {e : Execution} (h : e ∈ excess n es) :
    e ∈ es := by
  rw [excess_eq_drop] at h
  exact (newestFirst_perm es).mem_iff.mp (List.mem_of_mem_drop h)

theorem excess_eq_nil {n : Nat} {es : List Execution} (h : es.length ≤ n) : excess n es = [] :=
  if_pos h

/-- Without what is in excess no more are left than are kept. -/
theorem length_filter_le {n : Nat} {es : List Execution} {keep : Execution → Bool}
    (h : ∀ e ∈ excess n es, keep e = false) : (es.filter keep).length ≤ n := by
  rw [excess_eq_drop] at h
  have hdrop : ((newestFirst es).drop n).filter keep = [] :=
    List.filter_eq_nil_iff.mpr fun e he => by simp [h e he]
  rw [← ((newestFirst_perm es).filter keep).length_eq, ← List.take_append_drop n (newestFirst es),
    List.filter_append, hdrop, List.append_nil]
  exact (List.length_filter_le _ _).trans (List.length_take_le _ _)

/-- Of the executions `old` the `n` newest are left. -/
structure KeepsNewest (n : Nat) (old new : List Execution) : Prop where
  sublist : new.Sublist old
  length : new.length = min n old.length
  newest : ∀ e ∈ new, ∀ gone ∈ old, gone ∉ new → Before e gone

variable {es : List Execution} (h : (es.map (·.name)).Nodup)
include h

theorem newestFirst_pairwise_before : (newestFirst es).Pairwise Before := by
  have hnames : (newestFirst es).Pairwise fun a b => a.name ≠ b.name :=
    List.pairwise_map.mp (((newestFirst_perm es).map _).nodup_iff.mpr h)
  apply ((newestFirst_pairwise es).and hnames).imp
  rintro a b ⟨hba, hne⟩
  rcases before_trichotomy a b with hab | ⟨-, hname⟩ | hba'
  · exact hab
  · exact absurd hname hne
  · exact absurd hba' hba

/-- An execution is in excess exactly if as many as are kept come before it. -/
theorem mem_excess_iff {n : Nat} {e : Execution} :
    e ∈ excess n es ↔ e ∈ es ∧ n ≤ es.countP (Before · e) := by
  have hperm := newestFirst_perm es
  rw [excess_eq_drop, ← hperm.mem_iff, ← hperm.countP_eq]
  constructor
  · intro he
    have hmem := List.mem_of_mem_drop he
    exact ⟨hmem,
      (mem_drop_iff_le_countP before_asymm (newestFirst_pairwise_before h) hmem n).mp he⟩
  · rintro ⟨hmem, hn⟩
    exact (mem_drop_iff_le_countP before_asymm (newestFirst_pairwise_before h) hmem n).mpr hn

/-- What is in excess has the whole window of kept executions before it. -/
theorem exists_window {n : Nat} {e : Execution} (he : e ∈ excess n es) :
    ∃ kept : List Execution, kept.Nodup ∧ kept.length = n ∧
      ∀ w ∈ kept, w ∈ es ∧ Before w e ∧ w ∉ excess n es := by
  have hsorted := newestFirst_pairwise_before h
  rw [excess_eq_drop] at he ⊢
  refine ⟨(newestFirst es).take n, ?_, ?_, fun w hw =>
    ⟨?_, hsorted.rel_of_mem_take_of_mem_drop hw he, fun hw' => ?_⟩⟩
  · apply List.nodup_iff_pairwise_ne.mpr
    apply hsorted.take.imp
    rintro a b hab rfl
    exact before_irrefl a hab
  · have hpos := List.length_pos_of_mem he
    rw [List.length_drop] at hpos
    rw [List.length_take]
    omega
  · exact (newestFirst_perm es).mem_iff.mp (List.mem_of_mem_take hw)
  · exact before_irrefl w (hsorted.rel_of_mem_take_of_mem_drop hw hw')

theorem keepsNewest {n : Nat} {new : List Execution} (hnew : new.Sublist es)
    (hmem : ∀ e ∈ es, e ∈ new ↔ e ∉ excess n es) : KeepsNewest n es new := by
  have hperm := newestFirst_perm es
  have hsorted := newestFirst_pairwise_before h
  have hnodup : (newestFirst es).Nodup := hperm.nodup_iff.mpr h.of_map
  have hkept (e : Execution) : e ∈ new ↔ e ∈ (newestFirst es).take n := by
    constructor
    · intro he
      have hes := hperm.mem_iff.mpr (hnew.subset he)
      rw [← List.take_append_drop n (newestFirst es)] at hes
      apply (List.mem_append.mp hes).resolve_right
      intro hdrop
      exact (hmem e (hnew.subset he)).mp he (excess_eq_drop n es ▸ hdrop)
    · intro he
      have hes := hperm.mem_iff.mp (List.mem_of_mem_take he)
      apply (hmem e hes).mpr
      intro hexcess
      exact List.disjoint_take_drop hnodup (Nat.le_refl n) he (excess_eq_drop n es ▸ hexcess)
  refine ⟨hnew, ?_, fun e he gone hgone hlost => ?_⟩
  · have hlength := ((List.perm_ext_iff_of_nodup (h.of_map.sublist hnew)
      (hnodup.sublist (List.take_sublist ..))).mpr hkept).length_eq
    rw [hlength, List.length_take, hperm.length_eq]
  · apply hsorted.rel_of_mem_take_of_mem_drop ((hkept e).mp he)
    rw [← excess_eq_drop]
    exact not_not.mp fun hkeep => hlost ((hmem gone hgone).mpr hkeep)

end CronSweep.Selection
