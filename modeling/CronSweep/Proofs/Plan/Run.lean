import CronSweep.Plan

namespace CronSweep

def Call.deleted? : Call → Option Execution
  | .delete e => some e
  | _ => none

def Run.deletions {σ α : Type} (r : Run σ α) : List Execution := r.calls.filterMap Call.deleted?

theorem filterMap_deleted_map_delete (es : List Execution) :
    (es.map Call.delete).filterMap Call.deleted? = es := by
  rw [List.filterMap_map]
  exact List.filterMap_some

namespace Plan

variable {α β σ ε : Type} (client : Client σ)

theorem run_ask {call : Call} {answer : call.Answer} {s t : σ} (h : client call s = (answer, t))
    (next : call.Answer → Plan α) :
    (ask call next).run client s =
      { (next answer).run client t with calls := call :: ((next answer).run client t).calls } := by
  simp only [run, h]

theorem value_bind (p : Plan α) (f : α → Plan β) (s : σ) :
    ((p.bind f).run client s).value =
      ((f (p.run client s).value).run client (p.run client s).state).value := by
  rw [run_bind]

theorem state_bind (p : Plan α) (f : α → Plan β) (s : σ) :
    ((p.bind f).run client s).state =
      ((f (p.run client s).value).run client (p.run client s).state).state := by
  rw [run_bind]

theorem calls_bind (p : Plan α) (f : α → Plan β) (s : σ) :
    ((p.bind f).run client s).calls = (p.run client s).calls ++
      ((f (p.run client s).value).run client (p.run client s).state).calls := by
  rw [run_bind]

/-- What every call keeps, whatever is asked, the whole run keeps. -/
theorem state_run_of_forall {client : Client σ} {P : σ → Prop}
    (h : ∀ call s, P s → P (client call s).2) (p : Plan α) {s : σ} (hs : P s) :
    P (p.run client s).state := by
  induction p generalizing s with
  | done a => exact hs
  | ask call next ih => exact ih _ (h call s hs)
  | count sample next ih => exact ih hs

variable {p : Plan (Except ε α)} {s : σ}

theorem run_andThen_ok {a : α} (h : (p.run client s).value = .ok a)
    (f : α → Plan (Except ε β)) :
    (p.andThen f).run client s =
      { (f a).run client (p.run client s).state with
        calls := (p.run client s).calls ++ ((f a).run client (p.run client s).state).calls
        samples := (p.run client s).samples ++
          ((f a).run client (p.run client s).state).samples } := by
  rw [andThen, run_bind, h]

theorem run_andThen_error {e : ε} (h : (p.run client s).value = .error e)
    (f : α → Plan (Except ε β)) :
    (p.andThen f).run client s = { p.run client s with value := .error e } := by
  rw [andThen, run_bind, h]
  simp [run]

theorem value_andThen_ok {f : α → Plan (Except ε β)} {b : β}
    (h : ((p.andThen f).run client s).value = .ok b) :
    ∃ a, (p.run client s).value = .ok a ∧
      ((f a).run client (p.run client s).state).value = .ok b := by
  cases ha : (p.run client s).value with
  | error e =>
      rw [run_andThen_error client ha] at h
      cases h
  | ok a =>
      rw [run_andThen_ok client ha] at h
      exact ⟨a, rfl, h⟩

theorem deletions_andThen (f : α → Plan (Except ε β))
    (hf : ∀ a t, ((f a).run client t).deletions = []) :
    ((p.andThen f).run client s).deletions = (p.run client s).deletions := by
  cases h : (p.run client s).value with
  | error e => rw [run_andThen_error client h]; rfl
  | ok a =>
      rw [run_andThen_ok client h, Run.deletions, List.filterMap_append]
      change _ ++ ((f a).run client (p.run client s).state).deletions = _
      rw [hf, List.append_nil, Run.deletions]

theorem deletions_bind (q : Plan α) (f : α → Plan β)
    (hf : ∀ a t, ((f a).run client t).deletions = []) :
    ((q.bind f).run client s).deletions = (q.run client s).deletions := by
  rw [Run.deletions, calls_bind, List.filterMap_append]
  change _ ++ ((f (q.run client s).value).run client (q.run client s).state).deletions = _
  rw [hf, List.append_nil, Run.deletions]

end Plan

end CronSweep
