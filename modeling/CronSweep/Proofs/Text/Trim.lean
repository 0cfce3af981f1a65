import CronSweep.Text.Basic
import Mathlib.Data.List.Basic
import Mathlib.Data.List.TakeWhile

namespace CronSweep.Text

theorem trimStart_append {front cs : List Char} (h : ∀ c ∈ front, isBlank c = true) :
    trimStart (front ++ cs) = trimStart cs :=
  List.dropWhile_append_of_pos h

theorem trimStart_eq_self {cs : List Char} (h : ∀ c ∈ cs.head?, isBlank c = false) :
    trimStart cs = cs := by
  cases cs with
  | nil => rfl
  | cons c cs => rw [trimStart, List.dropWhile_cons_of_neg (by simp [h c rfl])]

/-- Blanks around a text without any are all that trimming takes away. -/
theorem trim_append {front cs back : List Char} (hne : cs ≠ [])
    (hcs : ∀ c ∈ cs, isBlank c = false) (hfront : ∀ c ∈ front, isBlank c = true)
    (hback : ∀ c ∈ back, isBlank c = true) : trim (front ++ cs ++ back) = cs := by
  have hhead : ∀ c ∈ (cs ++ back).head?, isBlank c = false := by
    intro c hc
    rw [List.head?_append_of_ne_nil _ hne] at hc
    exact hcs c (List.mem_of_mem_head? hc)
  have hlast : ∀ c ∈ cs.reverse.head?, isBlank c = false := by
    intro c hc
    exact hcs c (List.mem_reverse.mp (List.mem_of_mem_head? hc))
  rw [trim, List.append_assoc, trimStart_append hfront, trimStart_eq_self hhead,
    List.reverse_append, trimStart_append (by simpa using hback), trimStart_eq_self hlast,
    List.reverse_reverse]

theorem exists_trimStart (cs : List Char) :
    ∃ front, cs = front ++ trimStart cs ∧ ∀ c ∈ front, isBlank c = true :=
  ⟨cs.takeWhile isBlank, List.takeWhile_append_dropWhile.symm, fun _ => List.mem_takeWhile_imp⟩

theorem exists_trim (cs : List Char) :
    ∃ front back, cs = front ++ trim cs ++ back ∧ (∀ c ∈ front, isBlank c = true) ∧
      ∀ c ∈ back, isBlank c = true := by
  obtain ⟨front, hcs, hfront⟩ := exists_trimStart cs
  obtain ⟨back, hrest, hback⟩ := exists_trimStart (trimStart cs).reverse
  refine ⟨front, back.reverse, ?_, hfront, by simpa using hback⟩
  have hend := congrArg List.reverse hrest
  rw [List.reverse_reverse, List.reverse_append] at hend
  rw [trim, List.append_assoc, ← hend]
  exact hcs

/-- Trimming leaves nothing of blanks, and something of all else. -/
theorem trim_eq_nil_iff {cs : List Char} : trim cs = [] ↔ ∀ c ∈ cs, isBlank c = true := by
  constructor
  · intro hnil
    obtain ⟨front, back, hcs, hfront, hback⟩ := exists_trim cs
    rw [hcs, hnil, List.append_nil]
    exact List.forall_mem_append.mpr ⟨hfront, hback⟩
  · intro hblank
    have hstart : trimStart cs = [] := List.dropWhile_eq_nil_iff.mpr hblank
    rw [trim, hstart]
    rfl

end CronSweep.Text
