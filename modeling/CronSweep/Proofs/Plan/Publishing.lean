import CronSweep.Proofs.Plan.Log

namespace CronSweep

def Client.publishing {σ : Type} (client : Client σ)
    (publish : Cleaner → Event → σ → Except ClientError Unit × σ) : Client σ
  | .publish c e, s => publish c e s
  | .fetch namespace_ name, s => client (.fetch namespace_ name) s
  | .list namespace_, s => client (.list namespace_) s
  | .delete e, s => client (.delete e) s
  | .updateStatus c status, s => client (.updateStatus c status) s

/-- All that a run shows but the state that it leaves. -/
structure Run.Same {σ α : Type} (r r' : Run σ α) : Prop where
  value : r.value = r'.value
  calls : r.calls = r'.calls
  samples : r.samples = r'.samples

namespace Plan

variable {α β σ : Type}

def Silent (p : Plan α) : Prop := ∀ log a, p.Ends log a → ∀ x ∈ log, x.call.isPublish = false

theorem silent_done (a : α) : (done a).Silent := by
  intro _ b h x hx
  obtain ⟨rfl, -⟩ := ends_done_iff.mp h
  cases hx

theorem silent_ask {call : Call} (hcall : call.isPublish = false) {next : call.Answer → Plan α}
    (hnext : ∀ answer, (next answer).Silent) : (ask call next).Silent := by
  intro log a h x hx
  obtain ⟨answer, rest, rfl, hrest⟩ := ends_ask_iff.mp h
  rcases List.mem_cons.mp hx with rfl | hx
  · exact hcall
  · exact hnext answer rest a hrest x hx

theorem Silent.call {call : Call} {next : call.Answer → Plan α} (h : (ask call next).Silent) :
    call.isPublish = false := by
  obtain ⟨log, a, hlog⟩ := exists_ends (ask call next)
  obtain ⟨answer, rest, rfl, -⟩ := ends_ask_iff.mp hlog
  exact h _ a hlog _ List.mem_cons_self

theorem Silent.next {call : Call} {next : call.Answer → Plan α} (h : (ask call next).Silent)
    (answer : call.Answer) : (next answer).Silent :=
  fun _ a hlog x hx => h _ a (.ask answer hlog) x (List.mem_cons_of_mem _ hx)

variable {client : Client σ} {publish : Cleaner → Event → σ → Except ClientError Unit × σ}

theorem Silent.run_publishing {p : Plan α} (h : p.Silent) (s : σ) :
    p.run (client.publishing publish) s = p.run client s := by
  induction p generalizing s with
  | done a => rfl
  | ask call next ih =>
      have hanswer : client.publishing publish call s = client call s := by
        cases call with
        | publish => cases h.call
        | fetch | list | delete | updateStatus => rfl
      simp only [run, hanswer, fun answer => ih answer (h.next answer)]
  | count sample next ih => simp only [run, ih fun log a hlog => h log a (.count hlog)]

theorem same_bind {p : Plan α} (hp : p.Silent) {f : α → Plan β}
    (hf : ∀ a s, ((f a).run (client.publishing publish) s).Same ((f a).run client s)) (s : σ) :
    ((p.bind f).run (client.publishing publish) s).Same ((p.bind f).run client s) := by
  rw [run_bind, run_bind, hp.run_publishing]
  obtain ⟨hvalue, hcalls, hsamples⟩ := hf (p.run client s).value (p.run client s).state
  exact ⟨hvalue, congrArg (_ ++ ·) hcalls, congrArg (_ ++ ·) hsamples⟩

theorem same_andThen {ε : Type} {p : Plan (Except ε α)} (hp : p.Silent)
    {f : α → Plan (Except ε β)}
    (hf : ∀ a s, ((f a).run (client.publishing publish) s).Same ((f a).run client s)) (s : σ) :
    ((p.andThen f).run (client.publishing publish) s).Same ((p.andThen f).run client s) := by
  apply same_bind hp
  intro a s
  cases a with
  | error e => exact ⟨rfl, rfl, rfl⟩
  | ok a => exact hf a s

end Plan

end CronSweep
