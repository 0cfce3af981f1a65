import CronSweep.Proofs.Cycle.Write
import CronSweep.Proofs.Status.Verdict

namespace CronSweep

/-- The status of a cleaner does not say yet what a cycle has come to. -/
inductive Cleaner.Outdated (c : Cleaner) (v : Verdict) : Prop
  | noStatus (h : c.status = none)
  | notReady (s) (h : c.status = some s) (hs : s.condition? Cycle.readyType = none)
  | differs (s ready) (h : c.status = some s) (hs : s.condition? Cycle.readyType = some ready)
      (hv : ready.status ≠ v.status ∨ ready.reason ≠ v.reason ∨ ready.message ≠ v.message ∨
        ready.observedGeneration ≠ v.observedGeneration)

theorem Verdict.ne_iff {v w : Verdict} :
    v ≠ w ↔ v.status ≠ w.status ∨ v.reason ≠ w.reason ∨ v.message ≠ w.message ∨
      v.observedGeneration ≠ w.observedGeneration := by
  cases v
  cases w
  simp only [ne_eq, mk.injEq]
  tauto

theorem Cleaner.outdated_iff {c : Cleaner} {v : Verdict} :
    c.Outdated v ↔
      (c.status.bind (·.condition? Cycle.readyType)).map (·.verdict) ≠ some v := by
  constructor
  · intro h
    cases h with
    | noStatus h => simp [h]
    | notReady s h hs => simp [h, hs]
    | differs s ready h hs hv =>
        have hne : ready.verdict ≠ v := Verdict.ne_iff.mpr hv
        simpa [h, hs] using hne
  · intro h
    cases hc : c.status with
    | none => exact .noStatus hc
    | some s =>
        cases hs : s.condition? Cycle.readyType with
        | none => exact .notReady s hc hs
        | some ready =>
            have hne : ready.verdict ≠ v := by simpa [hc, hs] using h
            exact .differs s ready hc hs (Verdict.ne_iff.mp hne)

namespace Cycle

def dueVerdict (c : Cleaner) : Verdict :=
  match Policy.ofSpec? c.spec with
  | .ok _ => completedVerdict c
  | .error e => invalidVerdict c e

structure Reaches (namespace_ name : String) (c : Cleaner) (log : List Exchange) : Prop where
  fetched : log.head? = some ⟨.fetch namespace_ name, .ok (some c)⟩
  listed : ∀ p, Policy.ofSpec? c.spec = .ok p →
    ∃ listing, ⟨.list c.spec.namespace_, .ok listing⟩ ∈ log

theorem status_ne_some_iff_outdated (c : Cleaner) (v : Verdict) (now : Instant) :
    c.status ≠ some ((c.status.getD .initial).setCondition (v.since now)) ↔ c.Outdated v := by
  rw [Cleaner.outdated_iff, not_iff_not]
  cases hc : c.status with
  | none => simp
  | some s =>
      have hset :
          s.setCondition (v.since now) = s ↔ (v.since now).set s.conditions = s.conditions := by
        cases s
        simp [Status.setCondition]
      rw [Option.getD_some, Option.some.injEq, eq_comm, hset, Condition.set_eq_self_iff]
      rfl

theorem Settling.update_iff {c : Cleaner} {s : Status} {events : Bool → List Event}
    {report : Report} {log : List Exchange} {result : Except CycleError Report}
    (h : Settling c s events report log result) :
    (∃ x ∈ log, x.call.isUpdate = true) ↔ c.status ≠ some s := by
  cases h with
  | unwritten hs hevents =>
      refine iff_of_false ?_ (not_not_intro hs)
      rintro ⟨x, hx, hupdate⟩
      rw [Call.isUpdate_of_isPublish (isPublish_of_calls hevents x hx)] at hupdate
      cases hupdate
  | written hs hevents => exact iff_of_true ⟨_, List.mem_cons_self, rfl⟩ hs
  | refused e hs => exact iff_of_true ⟨_, List.mem_cons_self, rfl⟩ hs

/-- An event that only a write calls for is published where the write is taken. -/
theorem Settling.publish_iff {c : Cleaner} {s : Status} {event : Event} {report : Report}
    {log : List Exchange} {result : Except CycleError Report}
    (h : Settling c s (fun written => if written then [event] else []) report log result) :
    (∃ x ∈ log, x.call = .publish c event) ↔ ∃ s, ⟨.updateStatus c s, .ok ()⟩ ∈ log := by
  cases h with
  | unwritten hs hevents =>
      rw [List.map_eq_nil_iff.mp hevents]
      simp
  | @written rest hs hevents =>
      have hmem : Call.publish c event ∈ rest.map (·.call) := by simp [hevents]
      obtain ⟨x, hx, hcall⟩ := List.mem_map.mp hmem
      exact iff_of_true ⟨x, List.mem_cons_of_mem _ hx, hcall⟩ ⟨s, List.mem_cons_self⟩
  | refused e hs =>
      have hne (s' : Status) : (⟨.updateStatus c s', .ok ()⟩ : Exchange) ≠
          ⟨.updateStatus c s, .error e⟩ := nofun
      simp [hne]

theorem completedStatus_of_total_eq_zero {c : Cleaner} {d : Deletions} (hd : d.total = 0)
    (now : Instant) :
    completedStatus c d now =
      (c.status.getD .initial).setCondition ((completedVerdict c).since now) := by
  rw [completedStatus, Deletions.applyTo, if_pos hd]
  rfl

theorem exists_update_append_iff {front log : List Exchange}
    (hfront : ∀ x ∈ front, x.call.isUpdate = false) :
    (∃ x ∈ front ++ log, x.call.isUpdate = true) ↔ ∃ x ∈ log, x.call.isUpdate = true := by
  constructor
  · rintro ⟨x, hx, hupdate⟩
    rcases List.mem_append.mp hx with hx | hx
    · rw [hfront x hx] at hupdate
      cases hupdate
    · exact ⟨x, hx, hupdate⟩
  · rintro ⟨x, hx, hupdate⟩
    exact ⟨x, List.mem_append_right _ hx, hupdate⟩

variable {backoff : Duration} {namespace_ name : String} {now : Instant} {log : List Exchange}
  {result : Except CycleError Report} {c : Cleaner}

theorem Protocol.update_iff (h : Protocol backoff namespace_ name now log result)
    (hreach : Reaches namespace_ name c log) (hnone : ∀ x ∈ log, x.deleted = false) :
    (∃ x ∈ log, x.call.isUpdate = true) ↔ c.Outdated (dueVerdict c) := by
  have hfetched := hreach.fetched
  cases h with
  | unfetched | missing => cases hfetched
  | @invalid c' e rest _ hp h =>
      cases hfetched
      let front : List Exchange := [⟨.fetch namespace_ name, .ok (some c)⟩]
      have hfront : ∀ x ∈ front, x.call.isUpdate = false := by simp [front, Call.isUpdate]
      have hdue : dueVerdict c = invalidVerdict c e := by rw [dueVerdict, hp]
      rw [hdue, ← status_ne_some_iff_outdated c _ now]
      exact (exists_update_append_iff hfront).trans h.update_iff
  | unlisted c' p e hp =>
      cases hfetched
      obtain ⟨listing, hlisting⟩ := hreach.listed p hp
      rcases List.mem_cons.mp hlisting with hfetch | hlist
      · cases hfetch
      · cases List.mem_singleton.mp hlist
  | @cleaned c' p listing d deletes rest _ hp hd h =>
      cases hfetched
      have hzero : d.total = 0 := by
        rw [hd.total, List.countP_eq_zero]
        exact fun x hx => Bool.not_eq_true _ ▸ hnone x (by simp [hx])
      let front : List Exchange := ⟨.fetch namespace_ name, .ok (some c)⟩ ::
        ⟨.list c.spec.namespace_, .ok listing⟩ :: deletes
      have hfront : ∀ x ∈ front, x.call.isUpdate = false := by
        simp only [front, List.mem_cons, forall_eq_or_imp]
        exact ⟨rfl, rfl, fun x hx => Call.isUpdate_of_isDelete (hd.calls x hx)⟩
      rw [completedStatus_of_total_eq_zero hzero] at h
      have hdue : dueVerdict c = completedVerdict c := by rw [dueVerdict, hp]
      rw [hdue, ← status_ne_some_iff_outdated c _ now]
      exact (exists_update_append_iff hfront).trans h.update_iff

theorem Protocol.publish_iff (h : Protocol backoff namespace_ name now log result)
    (hfetched : log.head? = some ⟨.fetch namespace_ name, .ok (some c)⟩) {e : SpecError}
    (hp : Policy.ofSpec? c.spec = .error e) :
    (∃ x ∈ log, x.call = .publish c (invalidEvent e)) ↔
      ∃ s, ⟨.updateStatus c s, .ok ()⟩ ∈ log := by
  cases h with
  | unfetched | missing => cases hfetched
  | invalid c' e' hp' h =>
      cases hfetched
      cases hp'.symm.trans hp
      have hupdate (s : Status) : (⟨.updateStatus c s, .ok ()⟩ : Exchange) ≠
          ⟨.fetch namespace_ name, .ok (some c)⟩ := nofun
      simpa [hupdate] using h.publish_iff
  | unlisted c' p e' hp' | cleaned c' p listing d hp' hd h =>
      cases hfetched
      cases hp'.symm.trans hp

/-- A cycle with an invalid spec either only reads the cleaner or writes and tells. -/
theorem Protocol.calls_of_invalid (h : Protocol backoff namespace_ name now log result)
    (hfetched : log.head? = some ⟨.fetch namespace_ name, .ok (some c)⟩) {e : SpecError}
    (hp : Policy.ofSpec? c.spec = .error e) (hresult : ∀ e, result ≠ .error (.statusWrite e)) :
    (log.map (·.call) = [.fetch namespace_ name] ∧ ¬c.Outdated (invalidVerdict c e)) ∨
      ∃ s event, log.map (·.call) =
        [.fetch namespace_ name, .updateStatus c s, .publish c event] ∧
        c.Outdated (invalidVerdict c e) := by
  cases h with
  | unfetched | missing => cases hfetched
  | invalid c' e' hp' h =>
      cases hfetched
      cases hp'.symm.trans hp
      rw [← status_ne_some_iff_outdated c _ now]
      cases h with
      | unwritten hs hevents =>
          exact .inl ⟨congrArg (_ :: ·) hevents, not_not_intro hs⟩
      | written hs hevents =>
          exact .inr ⟨_, _, congrArg (_ :: _ :: ·) hevents, hs⟩
      | refused e hs => cases hresult e rfl
  | unlisted c' p e' hp' | cleaned c' p listing d hp' hd h =>
      cases hfetched
      cases hp'.symm.trans hp

end Cycle

end CronSweep
