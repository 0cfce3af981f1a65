import CronSweep.Proofs.Race.Interleaving

namespace CronSweep

theorem Cycle.Computed.jobsDeleted {now : Instant} {c : Cleaner} {deleted : Nat} {s : Status}
    (h : Computed now c deleted s) :
    s.jobsDeleted = saturatingAdd (c.status.getD .initial).jobsDeleted deleted := by
  cases h with
  | invalid e hp hdeleted =>
      rw [hdeleted, saturatingAdd_zero]
      rfl
  | completed p d hp hd =>
      rw [← hd]
      change (d.applyTo (c.status.getD .initial) now).jobsDeleted = _
      rw [Deletions.applyTo]
      split
      · next hzero => rw [hzero, saturatingAdd_zero]
      · rfl

namespace Ongoing

variable {σ : Type} {client : Client σ} {o o' : Ongoing} {s s' : σ}

theorem sound_begun (backoff : Duration) (namespace_ name : String) (now : Instant) :
    (begun backoff namespace_ name now).Sound :=
  fun _ _ hends => Cycle.protocol_of_ends hends

theorem Sound.advance (h : o.Sound) (hstep : o.advance client s = (o', s')) : o'.Sound := by
  cases hstep
  intro log result hends
  change Cycle.Protocol _ _ _ _ (o.log ++ (o.rest.advance client s).log ++ log) result
  rw [List.append_assoc]
  exact h _ result (Plan.ends_of_ends_advance hends)

theorem log_advance {call : Call} (hcall : o.rest.upcoming = some call)
    (hstep : o.advance client s = (o', s')) :
    o'.log = o.log ++ [⟨call, (client call s).1⟩] ∧ s' = (client call s).2 := by
  cases hstep
  obtain ⟨hlog, hstate⟩ := Plan.advance_of_upcoming client s hcall
  exact ⟨congrArg (o.log ++ ·) hlog, hstate⟩

theorem advance_cases (hstep : o.advance client s = (o', s')) :
    (o'.log = o.log ∧ s' = s) ∨
      ∃ call, o.rest.upcoming = some call ∧ o'.log = o.log ++ [⟨call, (client call s).1⟩] ∧
        s' = (client call s).2 := by
  cases hcall : o.rest.upcoming with
  | none =>
      cases hstep
      obtain ⟨hlog, hstate⟩ := Plan.advance_of_upcoming_none client s hcall
      refine .inl ⟨?_, hstate⟩
      rw [hlog, List.append_nil]
  | some call => exact .inr ⟨call, rfl, log_advance hcall hstep⟩

/-- What a cycle is about to write has been computed from what it has read and deleted. -/
theorem Sound.writtenAt (h : o.Sound) {c : Cleaner} {status : Status}
    (hcall : o.rest.upcoming = some (.updateStatus c status)) (answer : Except ClientError Unit) :
    ∃ after result, Cycle.WrittenAt o.namespace_ o.name o.now c status answer o.log after result := by
  obtain ⟨log, result, hends⟩ := Plan.exists_ends_of_upcoming hcall answer
  exact ⟨log, result, (h _ result hends).writtenAt⟩

theorem Sound.isPublish_of_landed (h : o.Sound) (hlanded : o.landed = true) {call : Call}
    (hcall : o.rest.upcoming = some call) : call.isPublish = true := by
  obtain ⟨x, hx, hwrote⟩ := List.any_eq_true.mp hlanded
  obtain ⟨c, status, rfl⟩ := Exchange.wrote_iff.mp hwrote
  obtain ⟨before, between, hlog⟩ := List.append_of_mem hx
  -- The protocol speaks of whole logs, so the cycle is followed from here to some end.
  obtain ⟨answer⟩ := call.nonempty_answer
  obtain ⟨log, result, hends⟩ := Plan.exists_ends_of_upcoming hcall answer
  have hprotocol := h _ result hends
  rw [hlog, List.append_assoc, List.cons_append] at hprotocol
  exact hprotocol.writtenAt.published ⟨call, answer⟩ (by simp)

/-- The status write of a cycle lands, and it was made from what is stored right before it. -/
structure Lands {version : Nat → String} (o o' : Ongoing) (k k' : Store version) (s : Status) :
    Prop where
  upcoming : o.rest.upcoming = some (.updateStatus k.cleaner s)
  read : o.Read k.cleaner
  computed : Cycle.Computed o.now k.cleaner o.deleted s
  before : o.landed = false
  after : o'.landed = true
  stored : k' = k.put { k.cleaner with status := some s }

end Ongoing

namespace Store

variable {version : Nat → String} {k : Store version} {c : Cleaner}

/-- The cleaner has been stored, and it still is unless there is a later edition. -/
def Seen (k : Store version) (c : Cleaner) : Prop :=
  ∃ n ≤ k.edition, c.metadata.resourceVersion = some (version n) ∧ (n = k.edition → c = k.cleaner)

theorem seen_cleaner (k : Store version) : k.Seen k.cleaner :=
  ⟨k.edition, le_rfl, k.current, fun _ => rfl⟩

theorem Seen.put (h : k.Seen c) (c' : Cleaner) : (k.put c').Seen c := by
  obtain ⟨n, hn, hversion, -⟩ := h
  have hlt : n < (k.put c').edition := Nat.lt_succ_of_le hn
  exact ⟨n, hlt.le, hversion, fun heq => absurd heq hlt.ne⟩

theorem Seen.eq_cleaner (h : k.Seen c) (hinj : Function.Injective version)
    (hc : c.metadata.resourceVersion = k.cleaner.metadata.resourceVersion) : c = k.cleaner := by
  obtain ⟨n, -, hversion, hlatest⟩ := h
  rw [hversion, k.current, Option.some.injEq] at hc
  exact hlatest (hinj hc)

end Store

namespace Exchange

theorem deleted_of_isPublish {x : Exchange} (h : x.call.isPublish = true) : x.deleted = false := by
  obtain ⟨call, answer⟩ := x
  cases call with
  | publish => rfl
  | fetch | list | delete | updateStatus => cases h

theorem deleted_of_wrote {x : Exchange} (h : x.wrote = true) : x.deleted = false := by
  obtain ⟨c, s, rfl⟩ := wrote_iff.mp h
  rfl

theorem wrote_of_not_isUpdate {x : Exchange} (h : x.call.isUpdate = false) : x.wrote = false := by
  rw [Bool.eq_false_iff]
  intro hwrote
  obtain ⟨c, s, rfl⟩ := wrote_iff.mp hwrote
  cases h

end Exchange

namespace Ongoing

variable {version : Nat → String} {answers : Answers} {k k' : Store version} {o o' : Ongoing}

theorem landed_of_log {x : Exchange} (h : o'.log = o.log ++ [x]) :
    o'.landed = (o.landed || x.wrote) := by
  simp [landed, h]

theorem deleted_of_log {x : Exchange} (h : o'.log = o.log ++ [x]) (hx : x.deleted = false) :
    o'.deleted = o.deleted := by
  simp [deleted, h, hx]

theorem Sound.read_iff (h : o.Sound) {c' : Cleaner} {s : Status}
    (hcall : o.rest.upcoming = some (.updateStatus c' s)) (c : Cleaner) : o.Read c ↔ c = c' := by
  obtain ⟨_, _, hwritten⟩ := h.writtenAt hcall (.ok ())
  exact hwritten.fetched c

theorem Sound.not_landed (h : o.Sound) {c : Cleaner} {s : Status}
    (hcall : o.rest.upcoming = some (.updateStatus c s)) : o.landed = false := by
  obtain ⟨_, _, hwritten⟩ := h.writtenAt hcall (.ok ())
  rw [landed, List.any_eq_false]
  intro x hx
  rw [Exchange.wrote_of_not_isUpdate (hwritten.first x hx)]
  exact Bool.false_ne_true

/-- A call of a cycle leaves the store and the credit alone, or its status write lands. -/
theorem Sound.advance_store (h : o.Sound) (hinj : Function.Injective version)
    (hseen : ∀ c, o.Read c → k.Seen c)
    (hstep : o.advance (Store.client answers) k = (o', k')) :
    (k' = k ∧ o'.landed = o.landed ∧ o'.credit = o.credit) ∨
      (∃ s, o.Lands o' k k' s) ∧ o'.credit = o.credit + o.deleted := by
  rcases advance_cases hstep with ⟨hlog, rfl⟩ | ⟨call, hcall, hlog, rfl⟩
  · have hlanded : o'.landed = o.landed := by rw [landed, landed, hlog]
    exact .inl ⟨rfl, hlanded, by rw [credit, credit, hlanded, deleted, deleted, hlog]⟩
  · have hlanded := landed_of_log hlog
    rcases Store.client_cases answers call k with
      ⟨hwrote, hk'⟩ | ⟨c, s, rfl, hversion, hwrote, hk'⟩
    · rw [hwrote, Bool.or_false] at hlanded
      refine .inl ⟨hk', hlanded, ?_⟩
      cases ho : o.landed with
      | false => simp [credit, hlanded, ho]
      | true =>
          have hpublish := h.isPublish_of_landed ho hcall
          rw [credit, credit, hlanded, deleted_of_log hlog (Exchange.deleted_of_isPublish hpublish)]
    · rw [hwrote, Bool.or_true] at hlanded
      have hbefore := h.not_landed hcall
      obtain ⟨_, _, hwritten⟩ := h.writtenAt hcall (.ok ())
      have hread : o.Read c := (h.read_iff hcall c).mpr rfl
      obtain rfl := (hseen c hread).eq_cleaner hinj hversion
      refine .inr ⟨⟨s, hcall, hread, hwritten.computed, hbefore, hlanded, hk'⟩, ?_⟩
      simp [credit, hbefore, hlanded, deleted_of_log hlog (Exchange.deleted_of_wrote hwrote)]

theorem read_advance (hstep : o.advance (Store.client answers) k = (o', k')) {c : Cleaner}
    (h : o'.Read c) : o.Read c ∨ c = k.cleaner ∧ k' = k := by
  obtain ⟨hnamespace, hname⟩ : o'.namespace_ = o.namespace_ ∧ o'.name = o.name := by
    cases hstep
    exact ⟨rfl, rfl⟩
  rw [Read, hnamespace, hname] at h
  rcases advance_cases hstep with ⟨hlog, -⟩ | ⟨call, -, hlog, rfl⟩
  · rw [hlog] at h
    exact .inl h
  · rw [hlog, List.mem_append, List.mem_singleton] at h
    rcases h with h | h
    · exact .inl h
    · injection h with hcall hanswer
      subst hcall
      have hc := Store.client_fetch (eq_of_heq hanswer).symm
      rcases Store.client_cases answers (.fetch o.namespace_ o.name) k with
        ⟨-, hk'⟩ | ⟨_, _, hcall, -⟩
      · exact .inr ⟨hc, hk'⟩
      · cases hcall

/-- A cycle that tries to write what it made of an older edition breaks off with the conflict. -/
theorem Sound.conflict (h : o.Sound) {c : Cleaner} {s : Status}
    (hcall : o.rest.upcoming = some (.updateStatus c s))
    (hstale : c.metadata.resourceVersion ≠ k.cleaner.metadata.resourceVersion)
    (hstep : o.advance (Store.client answers) k = (o', k')) :
    k' = k ∧ o'.rest.result? =
      some (.error (.statusWrite (.conflict "the object has been modified"))) := by
  obtain ⟨hlog, rfl⟩ := log_advance hcall hstep
  rw [Store.client_of_stale hstale] at hlog ⊢
  refine ⟨rfl, ?_⟩
  -- There is some end from here, and after a refused write the protocol leaves only one.
  obtain ⟨log, result, hends⟩ := o'.rest.exists_ends
  have hprotocol := h.advance hstep log result hends
  rw [hlog, List.append_assoc, List.singleton_append] at hprotocol
  obtain ⟨rfl, rfl⟩ := hprotocol.writtenAt.refused _ rfl
  exact Plan.result?_of_ends_nil hends

end Ongoing

end CronSweep
