import CronSweep.Json.Decode
import Mathlib.Data.List.Forall2
import Mathlib.Data.List.Nodup

namespace CronSweep

theorem exists_mem_of_forall₂ {α β : Type} {R : α → β → Prop} {xs : List α} {ys : List β}
    (h : List.Forall₂ R xs ys) {y : β} (hy : y ∈ ys) : ∃ x ∈ xs, R x y := by
  induction h with
  | nil => cases hy
  | @cons x y' xs ys hxy h ih =>
      rcases List.mem_cons.mp hy with rfl | hy
      · exact ⟨x, List.mem_cons_self, hxy⟩
      · obtain ⟨x', hx', hxy'⟩ := ih hy
        exact ⟨x', List.mem_cons_of_mem x hx', hxy'⟩

namespace Json

theorem members?_eq_some_iff {j : Json} {ms : List (String × Json)} :
    j.members? = some ms ↔ j = .obj ms := by
  cases j <;> simp [members?]

theorem mapM_eq_some_iff {α β : Type} {f : α → Option β} {xs : List α} {ys : List β} :
    xs.mapM f = some ys ↔ List.Forall₂ (fun x y => f x = some y) xs ys := by
  induction xs generalizing ys with
  | nil => simp [eq_comm]
  | cons x xs ih =>
      simp only [List.mapM_cons, Option.bind_eq_bind, Option.bind_eq_some_iff, ih]
      cases ys <;> simp

theorem list?_eq_some_iff {α : Type} {decode : Json → Option α} {j : Json} {xs : List α} :
    list? decode j = some xs ↔
      ∃ items, j = .arr items ∧ List.Forall₂ (fun i x => decode i = some x) items xs := by
  cases j with
  | arr items => simp [list?, mapM_eq_some_iff]
  | null | bool | int | real | str | obj | unusable => simp [list?]

theorem nullable_eq_some_some_iff {α : Type} {decode : Json → Option α} {j : Json} {a : α} :
    nullable decode j = some (some a) ↔ j ≠ .null ∧ decode j = some a := by
  cases j <;> simp [nullable]

def Lacks (names : List String) (ms : List (String × Json)) : Prop := ∀ m ∈ ms, m.1 ∉ names

def Holds (names : List String) (ms : List (String × Json)) (v : Json) : Prop :=
  ∃ front name back, ms = front ++ (name, v) :: back ∧ name ∈ names ∧ Lacks names front ∧
    Lacks names back

theorem Holds.mem {names : List String} {ms : List (String × Json)} {v : Json}
    (h : Holds names ms v) : ∃ name ∈ names, (name, v) ∈ ms := by
  obtain ⟨front, name, back, rfl, hname, -, -⟩ := h
  exact ⟨name, hname, by simp⟩

theorem Holds.eq_of_mem {names : List String} {ms : List (String × Json)} {v : Json}
    (h : Holds names ms v) : ∃ name, ∀ m ∈ ms, m.1 ∈ names → m = (name, v) := by
  obtain ⟨front, name, back, rfl, -, hfront, hback⟩ := h
  refine ⟨name, fun m hm hnames => ?_⟩
  rcases List.mem_append.mp hm with hm | hm
  · cases hfront m hm hnames
  · rcases List.mem_cons.mp hm with rfl | hm
    · rfl
    · cases hback m hm hnames

theorem holds_of_nodup {ms : List (String × Json)} (hnodup : (ms.map (·.1)).Nodup)
    {names : List String} {name : String} {v : Json} (hm : (name, v) ∈ ms) (hname : name ∈ names)
    (honly : ∀ m ∈ ms, m.1 ∈ names → m.1 = name) : Holds names ms v := by
  obtain ⟨front, back, rfl⟩ := List.append_of_mem hm
  rw [List.map_append, List.map_cons, List.nodup_middle, ← List.map_append] at hnodup
  have hnew : ∀ m ∈ front ++ back, m.1 ≠ name := fun m hm heq =>
    (List.nodup_cons.mp hnodup).1 (List.mem_map.mpr ⟨m, hm, heq⟩)
  refine ⟨front, name, back, rfl, hname, fun m hm hnames => ?_, fun m hm hnames => ?_⟩
  · exact hnew m (List.mem_append_left back hm) (honly m (List.mem_append_left _ hm) hnames)
  · exact hnew m (List.mem_append_right front hm)
      (honly m (List.mem_append_right _ (List.mem_cons_of_mem _ hm)) hnames)

/-- Under two of its names a field is repeated. -/
theorem not_holds_of_aliases {names : List String} {ms : List (String × Json)}
    {name other : String} {u v w : Json} (hne : name ≠ other) (hname : name ∈ names)
    (hother : other ∈ names) (hv : (name, v) ∈ ms) (hw : (other, w) ∈ ms) :
    ¬Holds names ms u := by
  intro h
  obtain ⟨found, hfound⟩ := h.eq_of_mem
  have hname' := congrArg Prod.fst (hfound _ hv hname)
  have hother' := congrArg Prod.fst (hfound _ hw hother)
  exact hne (hname'.trans hother'.symm)

namespace Slot

variable {names : List String} {ms : List (String × Json)}

theorem filter_eq_nil_iff : (ms.filter fun m => names.contains m.1) = [] ↔ Lacks names ms := by
  simp [Lacks]

theorem ofMembers_eq_missing_iff : ofMembers names ms = .missing ↔ Lacks names ms := by
  rw [← filter_eq_nil_iff, ofMembers]
  generalize (ms.filter fun m => names.contains m.1) = found
  rcases found with _ | ⟨m, _ | ⟨m', found⟩⟩ <;> simp

theorem ofMembers_eq_filled_iff {v : Json} : ofMembers names ms = .filled v ↔ Holds names ms v := by
  have hsingle : ofMembers names ms = .filled v ↔
      ∃ name, (ms.filter fun m => names.contains m.1) = [(name, v)] := by
    rw [ofMembers]
    generalize (ms.filter fun m => names.contains m.1) = found
    rcases found with _ | ⟨m, _ | ⟨m', found⟩⟩ <;> simp [Prod.ext_iff]
  rw [hsingle]
  simp only [List.filter_eq_cons_iff, filter_eq_nil_iff]
  constructor
  · rintro ⟨name, front, back, rfl, hfront, hname, hback⟩
    exact ⟨front, name, back, rfl, by simpa using hname, by simpa [Lacks] using hfront, hback⟩
  · rintro ⟨front, name, back, rfl, hname, hfront, hback⟩
    exact ⟨name, front, back, rfl, by simpa [Lacks] using hfront, by simpa using hname, hback⟩

theorem required_eq_some_iff {α : Type} {s : Slot} {decode : Json → Option α} {a : α} :
    s.required decode = some a ↔ ∃ v, s = .filled v ∧ decode v = some a := by
  cases s <;> simp [required]

theorem withDefault_eq_some_iff {α : Type} {s : Slot} {default a : α} {decode : Json → Option α} :
    s.withDefault default decode = some a ↔
      (s = .missing ∧ a = default) ∨ ∃ v, s = .filled v ∧ decode v = some a := by
  cases s <;> simp [withDefault, eq_comm]

end Slot

end Json

end CronSweep
