import CronSweep.Proofs.Cycle.Protocol

namespace CronSweep

theorem eq_of_append_cons_eq_of_unique {α : Type} {p : α → Bool} {front back pre post : List α}
    {x y : α} (hfront : ∀ z ∈ front, p z = false) (hback : ∀ z ∈ back, p z = false)
    (hx : p x = true) (h : pre ++ x :: post = front ++ y :: back) :
    pre = front ∧ x = y ∧ post = back := by
  have hnot {zs : List α} (hzs : ∀ z ∈ zs, p z = false) (hmem : x ∈ zs) : False := by
    rw [hzs x hmem] at hx
    cases hx
  rcases List.append_eq_append_iff.mp h with ⟨_ | ⟨z, zs⟩, hzs, htail⟩ | ⟨_ | ⟨z, zs⟩, hzs, htail⟩
  · cases htail
    exact ⟨by rw [hzs, List.append_nil], rfl, rfl⟩
  · cases htail
    exact (hnot hfront (by simp [hzs])).elim
  · cases htail
    exact ⟨by rw [hzs, List.append_nil], rfl, rfl⟩
  · cases htail
    exact (hnot hback (by simp)).elim

namespace Call

def isUpdate : Call → Bool
  | .updateStatus _ _ => true
  | .fetch _ _ | .list _ | .delete _ | .publish _ _ => false

theorem isUpdate_of_isDelete {call : Call} (h : call.isDelete = true) : call.isUpdate = false := by
  cases call with
  | delete => rfl
  | fetch | list | updateStatus | publish => cases h

theorem isUpdate_of_isPublish {call : Call} (h : call.isPublish = true) : call.isUpdate = false := by
  cases call with
  | publish => rfl
  | fetch | list | delete | updateStatus => cases h

end Call

namespace Cycle

/-- The status that a cycle makes of what it has read, when so many deletions have succeeded. -/
inductive Computed (now : Instant) (c : Cleaner) (deleted : Nat) : Status → Prop
  | completed (p d) (hp : Policy.ofSpec? c.spec = .ok p) (hd : d.total = deleted) :
      Computed now c deleted (completedStatus c d now)
  | invalid (e) (hp : Policy.ofSpec? c.spec = .error e) (hdeleted : deleted = 0) :
      Computed now c deleted (invalidStatus c e now)

structure WrittenAt (namespace_ name : String) (now : Instant) (c : Cleaner) (s : Status)
    (answer : Except ClientError Unit) (before after : List Exchange)
    (result : Except CycleError Report) : Prop where
  fetched : ∀ c', ⟨.fetch namespace_ name, .ok (some c')⟩ ∈ before ↔ c' = c
  computed : Computed now c (before.countP (·.deleted)) s
  first : ∀ x ∈ before, x.call.isUpdate = false
  published : ∀ x ∈ after, x.call.isPublish = true
  refused : ∀ e, answer = .error e → after = [] ∧ result = .error (.statusWrite e)

variable {backoff : Duration} {namespace_ name : String} {now : Instant}

theorem fetched_inj {c c' : Cleaner} :
    (⟨.fetch namespace_ name, .ok (some c')⟩ : Exchange) = ⟨.fetch namespace_ name, .ok (some c)⟩ ↔
      c' = c := by
  constructor
  · rintro ⟨⟩
    rfl
  · rintro rfl
    rfl

theorem isPublish_of_calls {c : Cleaner} {events : List Event} {log : List Exchange}
    (h : log.map (·.call) = events.map (.publish c)) : ∀ x ∈ log, x.call.isPublish = true := by
  intro x hx
  have hcall : x.call ∈ events.map (.publish c) := h ▸ List.mem_map_of_mem hx
  obtain ⟨event, -, hevent⟩ := List.mem_map.mp hcall
  rw [← hevent]
  rfl

theorem Settling.write_cases {c : Cleaner} {s : Status} {events : Bool → List Event}
    {report : Report} {log : List Exchange} {result : Except CycleError Report}
    (h : Settling c s events report log result) :
    (∀ x ∈ log, x.call.isPublish = true) ∨
      ∃ answer after, log = ⟨.updateStatus c s, answer⟩ :: after ∧
        (∀ x ∈ after, x.call.isPublish = true) ∧
        ∀ e, answer = .error e → after = [] ∧ result = .error (.statusWrite e) := by
  cases h with
  | unwritten hs hevents => exact .inl (isPublish_of_calls hevents)
  | written hs hevents =>
      refine .inr ⟨_, _, rfl, isPublish_of_calls hevents, ?_⟩
      rintro e ⟨⟩
  | refused e hs =>
      refine .inr ⟨_, _, rfl, List.forall_mem_nil _, ?_⟩
      rintro e ⟨⟩
      exact ⟨rfl, rfl⟩

theorem Settling.written_cases {c : Cleaner} {s : Status} {events : Bool → List Event}
    {report : Report} {front log : List Exchange} {result : Except CycleError Report}
    (h : Settling c s events report log result)
    (hfetched : ∀ c', ⟨.fetch namespace_ name, .ok (some c')⟩ ∈ front ↔ c' = c)
    (hcomputed : Computed now c (front.countP (·.deleted)) s)
    (hfront : ∀ x ∈ front, x.call.isUpdate = false) :
    (∀ x ∈ front ++ log, x.call.isUpdate = false) ∨
      ∃ c s answer before after, front ++ log = before ++ ⟨.updateStatus c s, answer⟩ :: after ∧
        WrittenAt namespace_ name now c s answer before after result := by
  rcases h.write_cases with hpublish | ⟨answer, after, rfl, hafter, hrefused⟩
  · refine .inl fun x hx => ?_
    rcases List.mem_append.mp hx with hx | hx
    · exact hfront x hx
    · exact Call.isUpdate_of_isPublish (hpublish x hx)
  · exact .inr ⟨c, s, answer, front, after, rfl, hfetched, hcomputed, hfront, hafter, hrefused⟩

theorem Protocol.written_cases {log : List Exchange} {result : Except CycleError Report}
    (h : Protocol backoff namespace_ name now log result) :
    (∀ x ∈ log, x.call.isUpdate = false) ∨
      ∃ c s answer before after, log = before ++ ⟨.updateStatus c s, answer⟩ :: after ∧
        WrittenAt namespace_ name now c s answer before after result := by
  cases h with
  | unfetched | missing | unlisted => exact .inl (by simp [Call.isUpdate])
  | invalid c e hp h =>
      let front : List Exchange := [⟨.fetch namespace_ name, .ok (some c)⟩]
      have hfetched (c') : ⟨.fetch namespace_ name, .ok (some c')⟩ ∈ front ↔ c' = c := by
        rw [List.mem_singleton, fetched_inj]
      exact h.written_cases hfetched (.invalid e hp rfl) (by simp [front, Call.isUpdate])
  | @cleaned c p listing d deletes _ _ hp hd h =>
      let front : List Exchange := ⟨.fetch namespace_ name, .ok (some c)⟩ ::
        ⟨.list c.spec.namespace_, .ok listing⟩ :: deletes
      have hfetched (c') : ⟨.fetch namespace_ name, .ok (some c')⟩ ∈ front ↔ c' = c := by
        have hnot : (⟨.fetch namespace_ name, .ok (some c')⟩ : Exchange) ∉ deletes :=
          fun hmem => Bool.false_ne_true (hd.calls _ hmem)
        rw [List.mem_cons, List.mem_cons, fetched_inj]
        exact or_iff_left (not_or.mpr ⟨nofun, hnot⟩)
      have hdeleted : d.total = front.countP (·.deleted) := hd.total
      apply h.written_cases hfetched (.completed p d hp hdeleted)
      simp only [front, List.mem_cons, forall_eq_or_imp]
      exact ⟨rfl, rfl, fun x hx => Call.isUpdate_of_isDelete (hd.calls x hx)⟩

theorem Protocol.writtenAt {before after : List Exchange} {c : Cleaner} {s : Status}
    {answer : Except ClientError Unit} {result : Except CycleError Report}
    (h : Protocol backoff namespace_ name now
      (before ++ ⟨.updateStatus c s, answer⟩ :: after) result) :
    WrittenAt namespace_ name now c s answer before after result := by
  rcases h.written_cases with hnone | ⟨c', s', answer', before', after', hlog, hwritten⟩
  · cases hnone _ (List.mem_append_right _ List.mem_cons_self)
  · obtain ⟨rfl, hwrite, rfl⟩ := eq_of_append_cons_eq_of_unique hwritten.first
      (fun x hx => Call.isUpdate_of_isPublish (hwritten.published x hx)) rfl hlog
    cases hwrite
    exact hwritten

end Cycle

end CronSweep
