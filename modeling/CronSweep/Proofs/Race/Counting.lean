import CronSweep.Proofs.Race.Landing

namespace CronSweep

theorem sum_map_set {α : Type} (f : α → Nat) {xs : List α} {i : Nat} {a : α} (h : xs[i]? = some a)
    (b : α) : ((xs.set i b).map f).sum + f a = (xs.map f).sum + f b := by
  induction xs generalizing i with
  | nil => cases h
  | cons x xs ih =>
      cases i with
      | zero =>
          cases h
          simp only [List.set_cons_zero, List.map_cons, List.sum_cons]
          omega
      | succ i =>
          have hrest := ih (i := i) h
          simp only [List.set_cons_succ, List.map_cons, List.sum_cons]
          omega

def Store.jobsDeleted {version : Nat → String} (k : Store version) : UInt64 :=
  (k.cleaner.status.getD .initial).jobsDeleted

namespace Race

variable {version : Nat → String} {initial : Nat} {k : Race version}

def credited (k : Race version) : Nat := (k.cycles.map Ongoing.credit).sum

/-- What a cycle has read is not the stored cleaner any more, or nothing has been stored since. -/
structure Inv (initial : Nat) (k : Race version) : Prop where
  sound : ∀ o ∈ k.cycles, o.Sound
  seen : ∀ o ∈ k.cycles, ∀ c, o.Read c → k.store.Seen c
  counter : k.store.jobsDeleted.toNat = min (2 ^ 64 - 1) (initial + k.credited)

theorem inv_start (c : Cleaner) :
    (start c : Race version).Inv (c.status.getD .initial).jobsDeleted.toNat := by
  refine ⟨List.forall_mem_nil _, List.forall_mem_nil _, ?_⟩
  have hbound := (c.status.getD .initial).jobsDeleted.toNat_lt
  change (c.status.getD .initial).jobsDeleted.toNat = min _ (_ + 0)
  omega

theorem Inv.launch (h : k.Inv initial) (backoff : Duration) (namespace_ name : String)
    (now : Instant) : (k.step (.launch backoff namespace_ name now)).Inv initial := by
  let o := Ongoing.begun backoff namespace_ name now
  have hcredit : credited { k with cycles := k.cycles ++ [o] } = k.credited := by
    simp only [credited, List.map_append, List.sum_append]
    rfl
  refine ⟨?_, ?_, ?_⟩
  · exact List.forall_mem_append.mpr
      ⟨h.sound, List.forall_mem_singleton.mpr (Ongoing.sound_begun backoff namespace_ name now)⟩
  · refine List.forall_mem_append.mpr ⟨h.seen, List.forall_mem_singleton.mpr fun c hread => ?_⟩
    cases hread
  · exact h.counter.trans (congrArg (fun n => min (2 ^ 64 - 1) (initial + n)) hcredit.symm)

theorem Inv.edit (h : k.Inv initial) (spec : Spec) (metadata : Metadata) :
    (k.step (.edit spec metadata)).Inv initial :=
  ⟨h.sound, fun o ho c hread => (h.seen o ho c hread).put _, h.counter⟩

theorem Inv.call (h : k.Inv initial) (hinj : Function.Injective version) {i : Nat}
    {o o' : Ongoing} (ho : k.cycles[i]? = some o) {answers : Answers} {store : Store version}
    (hstep : o.advance (Store.client answers) k.store = (o', store)) :
    (⟨store, k.cycles.set i o'⟩ : Race version).Inv initial := by
  have hmem : o ∈ k.cycles := List.mem_of_getElem? ho
  have hsum := sum_map_set Ongoing.credit ho o'
  have hcounter := h.counter
  have hadvance := (h.sound o hmem).advance_store hinj (h.seen o hmem) hstep
  -- A write that lands makes another edition, which leaves what others have seen merely older.
  have hkept : ∀ c, k.store.Seen c → store.Seen c := by
    rcases hadvance with ⟨rfl, -⟩ | ⟨⟨s, hlands⟩, -⟩
    · exact fun _ hc => hc
    · rw [hlands.stored]
      exact fun _ hc => hc.put _
  refine ⟨?_, ?_, ?_⟩
  · intro o₁ ho₁
    rcases List.mem_or_eq_of_mem_set ho₁ with ho₁ | rfl
    · exact h.sound o₁ ho₁
    · exact (h.sound o hmem).advance hstep
  · intro o₁ ho₁ c hread
    rcases List.mem_or_eq_of_mem_set ho₁ with ho₁ | rfl
    · exact hkept c (h.seen o₁ ho₁ c hread)
    · rcases Ongoing.read_advance hstep hread with hread | ⟨rfl, -⟩
      · exact hkept c (h.seen o hmem c hread)
      · exact hkept _ k.store.seen_cleaner
  · rcases hadvance with ⟨rfl, -, hcredit⟩ | ⟨⟨s, hlands⟩, hcredit⟩
    · simp only [credited] at hcounter ⊢
      omega
    · have hjobs : store.jobsDeleted = saturatingAdd k.store.jobsDeleted o.deleted := by
        rw [hlands.stored]
        exact hlands.computed.jobsDeleted
      rw [hjobs, toNat_saturatingAdd]
      simp only [credited] at hcounter ⊢
      omega

theorem Inv.step (h : k.Inv initial) (hinj : Function.Injective version) (m : Move) :
    (k.step m).Inv initial := by
  cases m with
  | launch backoff namespace_ name now => exact h.launch backoff namespace_ name now
  | edit spec metadata => exact h.edit spec metadata
  | call i answers =>
      rw [Race.step]
      cases ho : k.cycles[i]? with
      | none => exact h
      | some o => exact h.call hinj ho rfl

theorem Inv.after (h : k.Inv initial) (hinj : Function.Injective version)
    (moves : List Move) : (k.after moves).Inv initial := by
  induction moves generalizing k with
  | nil => exact h
  | cons m moves ih => exact ih (h.step hinj m)

/-- At any point of any race the counter accounts for the cycles whose writes have landed. A write
lands only on what it was made from, and one that comes too late changes nothing. -/
theorem no_lost_update (hinj : Function.Injective version) (c : Cleaner) (moves : List Move) :
    let k := (start c : Race version).after moves
    k.store.jobsDeleted.toNat =
        min (2 ^ 64 - 1) ((c.status.getD .initial).jobsDeleted.toNat + k.credited) ∧
      ∀ i o answers, k.cycles[i]? = some o →
        let k' := k.step (.call i answers)
        ∃ o', k'.cycles[i]? = some o' ∧
          ((k'.store = k.store ∧ o'.landed = o.landed) ∨
            ∃ s, o.Lands o' k.store k'.store s) ∧
          ∀ c' s, o.rest.upcoming = some (.updateStatus c' s) → (∀ read, o.Read read ↔ read = c') ∧
            (c'.metadata.resourceVersion ≠ k.store.cleaner.metadata.resourceVersion →
              k'.store = k.store ∧ o'.rest.result? =
                some (.error (.statusWrite (.conflict "the object has been modified")))) := by
  intro k
  have hk : k.Inv _ := (inv_start c).after hinj moves
  refine ⟨hk.counter, fun i o answers ho => ?_⟩
  have hmem : o ∈ k.cycles := List.mem_of_getElem? ho
  have hsound := hk.sound o hmem
  obtain ⟨o', store, hstep⟩ : ∃ o' store, o.advance (Store.client answers) k.store =
    (o', store) := ⟨_, _, rfl⟩
  have hk' : k.step (.call i answers) = ⟨store, k.cycles.set i o'⟩ := by
    simp only [Race.step, ho, hstep]
  intro k'
  simp only [k', hk']
  refine ⟨o', ?_, ?_, ?_⟩
  · obtain ⟨hi, -⟩ := List.getElem?_eq_some_iff.mp ho
    exact List.getElem?_set_self hi
  · rcases hsound.advance_store hinj (hk.seen o hmem) hstep with
      ⟨hstore, hlanded, -⟩ | ⟨hlands, -⟩
    · exact .inl ⟨hstore, hlanded⟩
    · exact .inr hlands
  · intro c' s hcall
    exact ⟨hsound.read_iff hcall, fun hstale => hsound.conflict hcall hstale hstep⟩

theorem toString_injective : Function.Injective (toString : Nat → String) := by
  intro m n h
  have hdigits : Nat.toDigits 10 m = Nat.toDigits 10 n := by
    simpa using congrArg String.toList h
  rw [← Nat.ofDigitChars_ten_toDigits (n := m), hdigits, Nat.ofDigitChars_ten_toDigits]

def willing (listing : List Execution) : Answers
  | .fetch _ _ => .ok none
  | .list _ => .ok listing
  | .delete _ | .updateStatus _ _ | .publish _ _ => .ok ()

def carried? : Call → Option String
  | .updateStatus c _ => c.metadata.resourceVersion
  | .fetch _ _ | .list _ | .delete _ | .publish _ _ => none

theorem carried?_eq_some {call : Call} {version : String} (h : carried? call = some version) :
    ∃ c s, call = .updateStatus c s ∧ c.metadata.resourceVersion = some version := by
  cases call with
  | updateStatus c s => exact ⟨c, s, rfl, h⟩
  | fetch | list | delete | publish => cases h

/-- Two cycles read the same edition and delete a run each; only the first to write is counted. -/
theorem nightly_race :
    let listing := [Cycle.nightlyRun "a" 10 1 0 0]
    let call (i : Nat) : Move := .call i (willing listing)
    let launch : Move := .launch .zero "ops" "sweep" Cycle.pastOne
    let moves := [launch, launch, call 0, call 1, call 0, call 1, call 0, call 1, call 0]
    let k := (start Cycle.nightly : Race toString).after moves
    let k' := k.step (call 1)
    Function.Injective (toString : Nat → String) ∧ k.store.jobsDeleted.toNat = 1 ∧
      k.cycles.map Ongoing.deleted = [1, 1] ∧ k'.store = k.store ∧
      (k'.cycles[1]?.bind (·.rest.result?)) =
        some (.error (.statusWrite (.conflict "the object has been modified"))) := by
  intro listing call launch moves k k'
  have hcredited : k.credited = 1 := by decide +kernel
  have hdeleted : k.cycles.map Ongoing.deleted = [1, 1] := by decide +kernel
  have hstored : k.store.cleaner.metadata.resourceVersion = some "2" := by decide +kernel
  have hupcoming : (k.cycles[1]?.bind (·.rest.upcoming)).bind carried? = some "1" := by
    decide +kernel
  have hrace := no_lost_update toString_injective Cycle.nightly moves
  rw [show (start Cycle.nightly : Race toString).after moves = k from rfl] at hrace
  obtain ⟨hcounter, hcalls⟩ := hrace
  rw [Option.bind_eq_some_iff] at hupcoming
  obtain ⟨_, hupcoming, hcarried⟩ := hupcoming
  obtain ⟨o, ho, hupcoming⟩ := Option.bind_eq_some_iff.mp hupcoming
  obtain ⟨c, s, rfl, hc⟩ := carried?_eq_some hcarried
  have hstale : c.metadata.resourceVersion ≠ k.store.cleaner.metadata.resourceVersion := by
    rw [hc, hstored]
    decide
  obtain ⟨o', ho', -, hwrite⟩ := hcalls 1 o (willing listing) ho
  obtain ⟨hstore, hresult⟩ := (hwrite c s hupcoming).2 hstale
  refine ⟨toString_injective, ?_, hdeleted, hstore, ?_⟩
  · rw [hcounter, hcredited]
    rfl
  · exact Option.bind_eq_some_iff.mpr ⟨o', ho', hresult⟩

end Race

end CronSweep
