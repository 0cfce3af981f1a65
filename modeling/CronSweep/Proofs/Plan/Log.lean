import CronSweep.Proofs.Plan.Run

namespace CronSweep

namespace Call

def isDelete : Call → Bool
  | .delete _ => true
  | .fetch _ _ | .list _ | .updateStatus _ _ | .publish _ _ => false

def isPublish : Call → Bool
  | .publish _ _ => true
  | .fetch _ _ | .list _ | .delete _ | .updateStatus _ _ => false

theorem isPublish_of_isDelete {call : Call} (h : call.isDelete = true) :
    call.isPublish = false := by
  cases call with
  | delete => rfl
  | fetch | list | updateStatus | publish => cases h

/-- Any call can be refused. -/
theorem nonempty_answer (call : Call) : Nonempty call.Answer := by
  cases call <;> exact ⟨.error .notFound⟩

end Call

structure Exchange where
  call : Call
  answer : call.Answer

namespace Plan

variable {α β σ : Type}

def log (client : Client σ) : Plan α → σ → List Exchange
  | .done _, _ => []
  | .ask call next, s =>
      ⟨call, (client call s).1⟩ :: (next (client call s).1).log client (client call s).2
  | .count _ next, s => next.log client s

/-- A plan can be followed to its end by these exchanges, whoever answers. -/
inductive Ends : Plan α → List Exchange → α → Prop
  | done (a : α) : Ends (.done a) [] a
  | ask {call : Call} {next : call.Answer → Plan α} (answer : call.Answer) {log : List Exchange}
      {a : α} (h : Ends (next answer) log a) : Ends (.ask call next) (⟨call, answer⟩ :: log) a
  | count {sample : Sample} {next : Plan α} {log : List Exchange} {a : α} (h : Ends next log a) :
      Ends (.count sample next) log a

theorem ends_log (client : Client σ) (p : Plan α) (s : σ) :
    p.Ends (p.log client s) (p.run client s).value := by
  induction p generalizing s with
  | done a => exact .done a
  | ask call next ih => exact .ask _ (ih _ _)
  | count sample next ih => exact .count (ih s)

theorem calls_log (client : Client σ) (p : Plan α) (s : σ) :
    (p.log client s).map (·.call) = (p.run client s).calls := by
  induction p generalizing s with
  | done a => rfl
  | ask call next ih => exact congrArg (call :: ·) (ih _ _)
  | count sample next ih => exact ih s

theorem log_bind (client : Client σ) (p : Plan α) (f : α → Plan β) (s : σ) :
    (p.bind f).log client s =
      p.log client s ++ (f (p.run client s).value).log client (p.run client s).state := by
  induction p generalizing s with
  | done a => rfl
  | ask call next ih => exact congrArg (_ :: ·) (ih _ _)
  | count sample next ih => exact ih s

theorem exists_ends (p : Plan α) : ∃ log a, p.Ends log a := by
  induction p with
  | done a => exact ⟨[], a, .done a⟩
  | ask call next ih =>
      obtain ⟨answer⟩ := call.nonempty_answer
      obtain ⟨log, a, h⟩ := ih answer
      exact ⟨_, a, .ask answer h⟩
  | count sample next ih =>
      obtain ⟨log, a, h⟩ := ih
      exact ⟨log, a, .count h⟩

variable {p : Plan α} {log : List Exchange}

@[simp] theorem ends_done_iff {a b : α} : (Plan.done a).Ends log b ↔ log = [] ∧ b = a := by
  constructor
  · intro h
    cases h
    exact ⟨rfl, rfl⟩
  · rintro ⟨rfl, rfl⟩
    exact .done b

@[simp] theorem ends_ask_iff {call : Call} {next : call.Answer → Plan α} {a : α} :
    (ask call next).Ends log a ↔
      ∃ answer rest, log = ⟨call, answer⟩ :: rest ∧ (next answer).Ends rest a := by
  constructor
  · intro h
    cases h with
    | ask answer h => exact ⟨answer, _, rfl, h⟩
  · rintro ⟨answer, rest, rfl, h⟩
    exact .ask answer h

@[simp] theorem ends_count_iff {sample : Sample} {a : α} :
    (count sample p).Ends log a ↔ p.Ends log a := by
  constructor
  · intro h
    cases h with
    | count h => exact h
  · exact .count

theorem ends_bind_iff {f : α → Plan β} {b : β} :
    (p.bind f).Ends log b ↔
      ∃ front a rest, log = front ++ rest ∧ p.Ends front a ∧ (f a).Ends rest b := by
  induction p generalizing log with
  | done a =>
      constructor
      · exact fun h => ⟨[], a, log, rfl, .done a, h⟩
      · rintro ⟨front, a', rest, rfl, h, hf⟩
        obtain ⟨rfl, rfl⟩ := ends_done_iff.mp h
        exact hf
  | ask call next ih =>
      rw [bind, ends_ask_iff]
      constructor
      · rintro ⟨answer, tail, rfl, h⟩
        obtain ⟨front, a, rest, rfl, hfront, hrest⟩ := (ih answer).mp h
        exact ⟨_ :: front, a, rest, rfl, .ask answer hfront, hrest⟩
      · rintro ⟨front, a, rest, rfl, h, hrest⟩
        obtain ⟨answer, tail, rfl, hfront⟩ := ends_ask_iff.mp h
        exact ⟨answer, tail ++ rest, rfl, (ih answer).mpr ⟨tail, a, rest, rfl, hfront, hrest⟩⟩
  | count sample next ih => simp only [bind, ends_count_iff, ih]

theorem ends_bind_done_iff {g : α → β} {b : β} :
    (p.bind fun a => .done (g a)).Ends log b ↔ ∃ a, p.Ends log a ∧ b = g a := by
  rw [ends_bind_iff]
  constructor
  · rintro ⟨front, a, rest, rfl, h, hb⟩
    obtain ⟨rfl, rfl⟩ := ends_done_iff.mp hb
    exact ⟨a, by rwa [List.append_nil], rfl⟩
  · rintro ⟨a, h, rfl⟩
    exact ⟨log, a, [], (List.append_nil log).symm, h, .done _⟩

theorem Ends.andThen_cases {ε : Type} {q : Plan (Except ε α)} {f : α → Plan (Except ε β)}
    {result : Except ε β} (h : (q.andThen f).Ends log result) :
    (∃ e, result = .error e ∧ q.Ends log (.error e)) ∨
      ∃ front a rest, log = front ++ rest ∧ q.Ends front (.ok a) ∧ (f a).Ends rest result := by
  obtain ⟨front, r, rest, rfl, hfront, hrest⟩ := ends_bind_iff.mp h
  cases r with
  | ok a => exact .inr ⟨front, a, rest, rfl, hfront, hrest⟩
  | error e =>
      obtain ⟨rfl, rfl⟩ := ends_done_iff.mp hrest
      exact .inl ⟨e, rfl, by rwa [List.append_nil]⟩

end Plan

end CronSweep
