import CronSweep.Proofs.Plan.Log

namespace CronSweep

structure Advance (σ α : Type) where
  rest : Plan α
  log : List Exchange
  state : σ

namespace Plan

variable {α σ : Type}

def upcoming : Plan α → Option Call
  | .done _ => none
  | .ask call _ => some call
  | .count _ next => next.upcoming

def result? : Plan α → Option α
  | .done a => some a
  | .ask _ _ => none
  | .count _ next => next.result?

def advance (client : Client σ) : Plan α → σ → Advance σ α
  | .done a, s => ⟨.done a, [], s⟩
  | .ask call next, s => ⟨next (client call s).1, [⟨call, (client call s).1⟩], (client call s).2⟩
  | .count _ next, s => next.advance client s

variable {p : Plan α}

theorem advance_of_upcoming_none (client : Client σ) (s : σ) (h : p.upcoming = none) :
    (p.advance client s).log = [] ∧ (p.advance client s).state = s := by
  induction p with
  | done a => exact ⟨rfl, rfl⟩
  | ask call next => cases h
  | count sample next ih => exact ih h

theorem advance_of_upcoming (client : Client σ) (s : σ) {call : Call}
    (h : p.upcoming = some call) :
    (p.advance client s).log = [⟨call, (client call s).1⟩] ∧
      (p.advance client s).state = (client call s).2 := by
  induction p with
  | done a => cases h
  | ask call' next =>
      cases h
      exact ⟨rfl, rfl⟩
  | count sample next ih => exact ih h

/-- However the rest of a plan ends, the plan ends so from where it was before the call. -/
theorem ends_of_ends_advance {client : Client σ} {s : σ} {log : List Exchange} {a : α}
    (h : (p.advance client s).rest.Ends log a) : p.Ends ((p.advance client s).log ++ log) a := by
  induction p with
  | done => exact h
  | ask call next => exact .ask _ h
  | count sample next ih => exact .count (ih h)

theorem exists_ends_of_upcoming {call : Call} (h : p.upcoming = some call) (answer : call.Answer) :
    ∃ log a, p.Ends (⟨call, answer⟩ :: log) a := by
  induction p with
  | done a => cases h
  | ask call' next =>
      cases h
      obtain ⟨log, a, hlog⟩ := (next answer).exists_ends
      exact ⟨log, a, .ask answer hlog⟩
  | count sample next ih =>
      obtain ⟨log, a, hlog⟩ := ih h
      exact ⟨log, a, .count hlog⟩

theorem result?_of_ends_nil {a : α} (h : p.Ends [] a) : p.result? = some a := by
  induction p with
  | done b =>
      obtain ⟨-, rfl⟩ := ends_done_iff.mp h
      rfl
  | ask call next =>
      obtain ⟨answer, rest, hlog, -⟩ := ends_ask_iff.mp h
      cases hlog
  | count sample next ih => exact ih (ends_count_iff.mp h)

end Plan

end CronSweep
