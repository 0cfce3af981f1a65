import CronSweep.Schema
import Mathlib.Data.String.Basic

namespace CronSweep

namespace Json

theorem get?_nil (key : String) : (obj []).get? key = none := rfl

/-- Of equal keys the last one counts. -/
theorem get?_cons (name : String) (v : Json) (ms : List (String × Json)) (key : String) :
    (obj ((name, v) :: ms)).get? key =
      ((obj ms).get? key).or (if name = key then some v else none) := by
  by_cases hname : name = key
  · simp only [get?, List.filter_cons, hname, beq_self_eq_true, if_true, List.getLast?_cons]
    cases (ms.filter fun m => m.1 == key).getLast? <;> rfl
  · simp [get?, hname]

theorem get?_eq_none_iff {ms : List (String × Json)} {key : String} :
    (obj ms).get? key = none ↔ ∀ m ∈ ms, m.1 ≠ key := by
  simp [get?]

theorem mem_of_get? {ms : List (String × Json)} {key : String} {v : Json}
    (h : (obj ms).get? key = some v) : (key, v) ∈ ms := by
  obtain ⟨m, hlast, rfl⟩ := Option.map_eq_some_iff.mp h
  obtain ⟨hm, hkey⟩ := List.mem_filter.mp (List.mem_of_getLast? hlast)
  rw [← beq_iff_eq.mp hkey]
  exact hm

def Ascending (ms : List (String × Json)) : Prop := ms.Pairwise fun m n => m.1 < n.1

theorem mem_putMember {key : String} {v : Json} {ms : List (String × Json)} {m : String × Json}
    (h : m ∈ putMember key v ms) : m = (key, v) ∨ m ∈ ms := by
  induction ms with
  | nil => exact .inl (List.mem_singleton.mp h)
  | cons n ms ih =>
      rw [putMember] at h
      split_ifs at h with hlt heq
      · exact List.mem_cons.mp h
      · exact (List.mem_cons.mp h).imp_right (List.mem_cons_of_mem n)
      · rcases List.mem_cons.mp h with rfl | h
        · exact .inr List.mem_cons_self
        · exact (ih h).imp_right (List.mem_cons_of_mem n)

theorem ascending_putMember {key : String} {v : Json} {ms : List (String × Json)}
    (h : Ascending ms) : Ascending (putMember key v ms) := by
  induction ms with
  | nil => exact List.pairwise_singleton _ _
  | cons m ms ih =>
      obtain ⟨hm, hms⟩ := List.pairwise_cons.mp h
      rw [putMember]
      split_ifs with hlt heq
      · refine List.pairwise_cons.mpr ⟨fun n hn => ?_, h⟩
        rcases List.mem_cons.mp hn with rfl | hn
        · exact hlt
        · exact hlt.trans (hm n hn)
      · exact List.pairwise_cons.mpr ⟨fun n hn => heq ▸ hm n hn, hms⟩
      · refine List.pairwise_cons.mpr ⟨fun n hn => ?_, ih hms⟩
        rcases mem_putMember hn with rfl | hn
        · exact lt_of_le_of_ne (not_lt.mp hlt) (Ne.symm heq)
        · exact hm n hn

theorem get?_putMember {key : String} {v : Json} {ms : List (String × Json)} (h : Ascending ms)
    (other : String) :
    (obj (putMember key v ms)).get? other = if key = other then some v else (obj ms).get? other := by
  induction ms with
  | nil => simp [putMember, get?_cons, get?_nil]
  | cons m ms ih =>
      obtain ⟨hm, hms⟩ := List.pairwise_cons.mp h
      have hafter : ∀ {k}, k ≤ m.1 → (obj ms).get? k = none := fun hk =>
        get?_eq_none_iff.mpr fun n hn => (hk.trans_lt (hm n hn)).ne'
      rw [putMember]
      by_cases hother : key = other
      · subst hother
        rw [if_pos rfl]
        split_ifs with hlt heq
        · rw [get?_cons, get?_cons, hafter hlt.le, if_neg hlt.ne', if_pos rfl]
          rfl
        · rw [get?_cons, hafter heq.le, if_pos rfl]
          rfl
        · rw [get?_cons, ih hms, if_pos rfl]
          rfl
      · rw [if_neg hother]
        split_ifs with hlt heq
        · rw [get?_cons, if_neg hother, Option.or_none]
        · rw [get?_cons, get?_cons, if_neg hother, if_neg (heq ▸ hother)]
        · rw [get?_cons, ih hms, if_neg hother, ← get?_cons]

theorem get?_foldl_putMember {sorted : List (String × Json)} (h : Ascending sorted)
    (ms : List (String × Json)) (key : String) :
    (obj (ms.foldl (fun sorted m => putMember m.1 m.2 sorted) sorted)).get? key =
      ((obj ms).get? key).or ((obj sorted).get? key) := by
  induction ms generalizing sorted with
  | nil => rfl
  | cons m ms ih =>
      rw [List.foldl_cons, ih (ascending_putMember h), get?_putMember h, get?_cons, Option.or_assoc]
      by_cases hkey : m.1 = key <;> simp [hkey]

end Json

/-- To sort the members of an object changes none of its values. -/
theorem Schema.get?_sortedObject (ms : List (String × Json)) (key : String) :
    (sortedObject ms).get? key = (Json.obj ms).get? key := by
  rw [sortedObject, Json.get?_foldl_putMember List.Pairwise.nil, Json.get?_nil, Option.or_none]

end CronSweep
