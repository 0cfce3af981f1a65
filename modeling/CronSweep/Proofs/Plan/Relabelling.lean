import CronSweep.Proofs.Plan.Log

namespace CronSweep

/-- A client takes a relabelled call in a changed state as it takes the call, and leaves the state
that goes with it. -/
def Client.Respects {σ : Type} (client : Client σ) (f : Exchange → Exchange) (g : σ → σ) : Prop :=
  ∀ call s, client (f ⟨call, (client call s).1⟩).call (g s) =
    ((f ⟨call, (client call s).1⟩).answer, g (client call s).2)

namespace Plan

variable {α β σ : Type} {f : Exchange → Exchange}

/-- One plan asks what the other asks, relabelled, and goes on alike after relabelled answers. -/
inductive Alike (f : Exchange → Exchange) : Plan α → Plan α → Prop
  | done (a : α) : Alike f (.done a) (.done a)
  | ask {call call' : Call} {next : call.Answer → Plan α} {next' : call'.Answer → Plan α}
      (hcall : ∀ answer, (f ⟨call, answer⟩).call = call')
      (h : ∀ answer answer', f ⟨call, answer⟩ = ⟨call', answer'⟩ →
        Alike f (next answer) (next' answer')) :
      Alike f (.ask call next) (.ask call' next')
  | count (sample : Sample) {p p' : Plan α} (h : Alike f p p') :
      Alike f (.count sample p) (.count sample p')

theorem Alike.bind {p p' : Plan α} (hp : Alike f p p') {g g' : α → Plan β}
    (hg : ∀ a, Alike f (g a) (g' a)) : Alike f (p.bind g) (p'.bind g') := by
  induction hp with
  | done a => exact hg a
  | ask hcall _ ih => exact .ask hcall ih
  | count sample _ ih => exact .count sample ih

theorem Alike.andThen {ε : Type} {p p' : Plan (Except ε α)} (hp : Alike f p p')
    {g g' : α → Plan (Except ε β)} (hg : ∀ a, Alike f (g a) (g' a)) :
    Alike f (p.andThen g) (p'.andThen g') := by
  apply hp.bind
  intro a
  cases a with
  | error e => exact .done _
  | ok a => exact hg a

/-- A plan none of whose exchanges has another label. -/
theorem Alike.refl {p : Plan α} (h : ∀ log a, p.Ends log a → ∀ x ∈ log, f x = x) :
    Alike f p p := by
  induction p with
  | done a => exact .done a
  | ask call next ih =>
      have hsame (answer : call.Answer) : f ⟨call, answer⟩ = ⟨call, answer⟩ := by
        obtain ⟨log, a, hlog⟩ := exists_ends (next answer)
        exact h _ a (.ask answer hlog) _ List.mem_cons_self
      refine .ask (fun answer => by rw [hsame]) fun answer answer' hanswer => ?_
      cases (hsame answer).symm.trans hanswer
      exact ih answer fun log a hlog x hx => h _ a (.ask answer hlog) x (List.mem_cons_of_mem _ hx)
  | count sample next ih => exact .count sample (ih fun log a hlog => h log a (.count hlog))

structure Mirrors (client : Client σ) (f : Exchange → Exchange) (g : σ → σ) (p p' : Plan α)
    (s : σ) : Prop where
  value : (p'.run client (g s)).value = (p.run client s).value
  state : (p'.run client (g s)).state = g (p.run client s).state
  samples : (p'.run client (g s)).samples = (p.run client s).samples
  log : p'.log client (g s) = (p.log client s).map f

theorem Alike.mirrors {client : Client σ} {g : σ → σ} (hclient : client.Respects f g)
    {p p' : Plan α} (h : Alike f p p') (s : σ) : Mirrors client f g p p' s := by
  induction h generalizing s with
  | done a => exact ⟨rfl, rfl, rfl, rfl⟩
  | @ask call call' next next' hcall _ ih =>
      have hanswer := hclient call s
      cases hx : f ⟨call, (client call s).1⟩ with
      | mk asked answer' =>
          have hasked := hcall (client call s).1
          rw [hx] at hanswer hasked
          cases hasked
          obtain ⟨hvalue, hstate, hsamples, hlog⟩ := ih _ answer' hx (client call s).2
          simp only at hanswer
          refine ⟨?_, ?_, ?_, ?_⟩
          · simp only [run, hanswer, hvalue]
          · simp only [run, hanswer, hstate]
          · simp only [run, hanswer, hsamples]
          · simp only [Plan.log, hanswer, hlog, List.map_cons, hx]
  | count sample _ ih =>
      obtain ⟨hvalue, hstate, hsamples, hlog⟩ := ih s
      exact ⟨hvalue, hstate, congrArg (sample :: ·) hsamples, hlog⟩

end Plan

end CronSweep
