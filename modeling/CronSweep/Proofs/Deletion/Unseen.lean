import CronSweep.Deletion
import CronSweep.Proofs.Plan.Run

namespace CronSweep

/-- The executions of a list that no request has gone out for, each namespace and name once. -/
def unseen : List Execution → Seen → List Execution
  | [], _ => []
  | e :: es, seen =>
      if seen.contains e.key then unseen es seen else e :: unseen es (e.key :: seen)

theorem unseen_of_mem {e : Execution} {seen : Seen} (h : e.key ∈ seen) (es : List Execution) :
    unseen (e :: es) seen = unseen es seen :=
  if_pos (List.contains_iff_mem.mpr h)

theorem unseen_of_not_mem {e : Execution} {seen : Seen} (h : e.key ∉ seen) (es : List Execution) :
    unseen (e :: es) seen = e :: unseen es (e.key :: seen) :=
  if_neg (mt List.contains_iff_mem.mp h)

def sameKey (a b : Execution) : Bool := a.key == b.key

theorem unseen_eq_eraseDupsBy (es : List Execution) (seen : Seen) :
    unseen es seen = (es.filter (·.key ∉ seen)).eraseDupsBy sameKey := by
  induction es generalizing seen with
  | nil => rfl
  | cons e es ih =>
      by_cases he : e.key ∈ seen
      · rw [unseen_of_mem he, ih, List.filter_cons_of_neg (by simpa using he)]
      · rw [unseen_of_not_mem he, ih, List.filter_cons_of_pos (by simpa using he),
          List.eraseDupsBy_cons, List.filter_filter]
        congr 3
        funext a
        simp [sameKey]

theorem mem_of_mem_unseen {es : List Execution} {seen : Seen} {e : Execution}
    (h : e ∈ unseen es seen) : e ∈ es := by
  induction es generalizing seen with
  | nil => exact h
  | cons a es ih =>
      by_cases ha : a.key ∈ seen
      · rw [unseen_of_mem ha] at h
        exact List.mem_cons_of_mem a (ih h)
      · rw [unseen_of_not_mem ha] at h
        rcases List.mem_cons.mp h with rfl | h
        · exact List.mem_cons_self
        · exact List.mem_cons_of_mem a (ih h)

theorem key_mem_unseen {es : List Execution} (seen : Seen) {e : Execution} (h : e ∈ es) :
    e.key ∈ seen ∨ e.key ∈ (unseen es seen).map (·.key) := by
  induction es generalizing seen with
  | nil => cases h
  | cons a es ih =>
      by_cases ha : a.key ∈ seen
      · rw [unseen_of_mem ha]
        rcases List.mem_cons.mp h with rfl | h
        · exact .inl ha
        · exact ih seen h
      · rw [unseen_of_not_mem ha]
        rcases List.mem_cons.mp h with rfl | h
        · exact .inr List.mem_cons_self
        · rcases ih (a.key :: seen) h with hseen | hnew
          · rcases List.mem_cons.mp hseen with heq | hseen
            · exact .inr (by simp [heq])
            · exact .inl hseen
          · exact .inr (List.mem_cons_of_mem _ hnew)

theorem mem_unseen_nil_iff {es : List Execution} {e : Execution}
    (h : ∀ a ∈ es, ∀ b ∈ es, a.key = b.key → a = b) : e ∈ unseen es [] ↔ e ∈ es := by
  constructor
  · exact mem_of_mem_unseen
  · intro he
    rcases key_mem_unseen [] he with hseen | hasked
    · cases hseen
    · obtain ⟨a, ha, hkey⟩ := List.mem_map.mp hasked
      exact h a (mem_of_mem_unseen ha) e he hkey ▸ ha

theorem key_not_mem_of_mem_unseen {es : List Execution} {seen : Seen} {e : Execution}
    (h : e ∈ unseen es seen) : e.key ∉ seen := by
  induction es generalizing seen with
  | nil => cases h
  | cons a es ih =>
      by_cases ha : a.key ∈ seen
      · rw [unseen_of_mem ha] at h
        exact ih h
      · rw [unseen_of_not_mem ha] at h
        rcases List.mem_cons.mp h with rfl | h
        · exact ha
        · exact fun hseen => ih h (List.mem_cons_of_mem _ hseen)

theorem nodup_keys_unseen (es : List Execution) (seen : Seen) :
    ((unseen es seen).map (·.key)).Nodup := by
  induction es generalizing seen with
  | nil => exact List.nodup_nil
  | cons a es ih =>
      by_cases ha : a.key ∈ seen
      · rw [unseen_of_mem ha]
        exact ih seen
      · rw [unseen_of_not_mem ha, List.map_cons, List.nodup_cons]
        refine ⟨?_, ih _⟩
        intro hmem
        obtain ⟨e, he, hkey⟩ := List.mem_map.mp hmem
        exact key_not_mem_of_mem_unseen he (hkey ▸ List.mem_cons_self)

/-- Of several executions with a key the first is asked for. -/
theorem find?_of_mem_unseen {es : List Execution} {seen : Seen} {e : Execution}
    (h : e ∈ unseen es seen) : es.find? (·.key = e.key) = some e := by
  induction es generalizing seen with
  | nil => cases h
  | cons a es ih =>
      by_cases ha : a.key ∈ seen
      · rw [unseen_of_mem ha] at h
        have hne : a.key ≠ e.key := fun heq => key_not_mem_of_mem_unseen h (heq ▸ ha)
        rw [List.find?_cons_of_neg (by simpa using hne)]
        exact ih h
      · rw [unseen_of_not_mem ha] at h
        rcases List.mem_cons.mp h with rfl | h
        · exact List.find?_cons_of_pos (decide_eq_true rfl)
        · have hne : a.key ≠ e.key :=
            fun heq => key_not_mem_of_mem_unseen h (heq ▸ List.mem_cons_self)
          rw [List.find?_cons_of_neg (by simpa using hne)]
          exact ih h

theorem unseen_append (es fs : List Execution) (seen : Seen) :
    unseen (es ++ fs) seen =
      unseen es seen ++ unseen fs (((unseen es seen).map (·.key)).reverse ++ seen) := by
  induction es generalizing seen with
  | nil => rfl
  | cons e es ih =>
      rw [List.cons_append]
      by_cases he : e.key ∈ seen
      · rw [unseen_of_mem he, unseen_of_mem he, ih]
      · rw [unseen_of_not_mem he, unseen_of_not_mem he, ih]
        simp

def Outcome.record (o : Outcome) (name : String) : Except ClientError Unit → Outcome
  | .ok () => o.addDeleted
  | .error .notFound => o
  | .error error => o.addFailure ⟨name, error⟩

def deletionSamples (category : Category) : Except ClientError Unit → List Sample
  | .ok () => [.deleted category]
  | .error .notFound => []
  | .error _ => [.deleteFailed category]

theorem deleted_record_le (o : Outcome) (name : String) (answer : Except ClientError Unit) :
    (o.record name answer).deleted ≤ o.deleted + 1 := by
  rcases answer with error | -
  · cases error <;> exact Nat.le_succ _
  · exact Nat.le_refl _

variable {σ : Type} (client : Client σ)

/-- One request: its answer is counted in front of what comes of the rest. -/
theorem run_deleteAll_cons {category : Category} {e : Execution} {es : List Execution}
    {seen : Seen} {s t : σ} {answer : Except ClientError Unit} (he : e.key ∉ seen)
    (h : client (.delete e) s = (answer, t)) :
    (deleteAll category (e :: es) seen).run client s =
      let rest := (deleteAll category es (e.key :: seen)).run client t
      ⟨(rest.value.1.record e.name answer, rest.value.2), rest.state, .delete e :: rest.calls,
        deletionSamples category answer ++ rest.samples⟩ := by
  rw [deleteAll, if_neg he, Plan.run_ask client h]
  rcases answer with error | -
  · cases error <;> simp [Plan.run, Plan.run_bind, Outcome.record, deletionSamples]
  · simp [Plan.run, Plan.run_bind, Outcome.record, deletionSamples]

theorem calls_deleteAll (category : Category) (es : List Execution) (seen : Seen) (s : σ) :
    ((deleteAll category es seen).run client s).calls = (unseen es seen).map .delete := by
  induction es generalizing seen s with
  | nil => rfl
  | cons e es ih =>
      by_cases he : e.key ∈ seen
      · rw [deleteAll, if_pos he, unseen_of_mem he, ih]
      · rcases h : client (.delete e) s with ⟨answer, t⟩
        rw [run_deleteAll_cons client he h, unseen_of_not_mem he, List.map_cons,
          ← ih (e.key :: seen) t]

theorem seen_deleteAll (category : Category) (es : List Execution) (seen : Seen) (s : σ) :
    ((deleteAll category es seen).run client s).value.2 =
      ((unseen es seen).map (·.key)).reverse ++ seen := by
  induction es generalizing seen s with
  | nil => rfl
  | cons e es ih =>
      by_cases he : e.key ∈ seen
      · rw [deleteAll, if_pos he, unseen_of_mem he, ih]
      · rcases h : client (.delete e) s with ⟨answer, t⟩
        rw [run_deleteAll_cons client he h, unseen_of_not_mem he, List.map_cons, List.reverse_cons,
          List.append_assoc, List.singleton_append, ← ih (e.key :: seen) t]

theorem deleted_deleteAll_le (category : Category) (es : List Execution) (seen : Seen) (s : σ) :
    ((deleteAll category es seen).run client s).value.1.deleted ≤ (unseen es seen).length := by
  induction es generalizing seen s with
  | nil => exact Nat.le_refl 0
  | cons e es ih =>
      by_cases he : e.key ∈ seen
      · rw [deleteAll, if_pos he, unseen_of_mem he]
        exact ih seen s
      · rcases h : client (.delete e) s with ⟨answer, t⟩
        rw [run_deleteAll_cons client he h, unseen_of_not_mem he, List.length_cons]
        exact Nat.le_trans (deleted_record_le ..) (Nat.succ_le_succ (ih (e.key :: seen) t))

end CronSweep
