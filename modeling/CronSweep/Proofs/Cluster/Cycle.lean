import CronSweep.Cluster
import CronSweep.Proofs.Cycle.Condemned

namespace CronSweep

def Cleaner.stamped (c : Cleaner) (s : Status) (version : Option String) : Cleaner :=
  { c with status := some s, metadata := { c.metadata with resourceVersion := version } }

def Faults.accepted (f : Faults) (es : List Execution) : List Execution :=
  es.filter fun e => (f.delete e.name).isNone

namespace Cluster

open CronSweep.Cycle

def inNamespace (k : Cluster) (namespace_ : String) : List Execution :=
  k.executions.filter (·.namespace_ == namespace_)

def without (k : Cluster) (keys : List (String × String)) : Cluster :=
  { k with executions := k.executions.filter (!keys.contains ·.key) }

def asked (k : Cluster) (p : Policy) (now : Instant) : List Execution :=
  unseen (select p now (k.inNamespace p.namespace_)).all []

def swept (k : Cluster) (p : Policy) (now : Instant) : Cluster :=
  k.without ((k.faults.accepted (k.asked p now)).map (·.key))

inductive Settled (k : Cluster) (c : Cleaner) (s : Status) (report : Report) :
    Except CycleError Report → Cluster → Prop
  | written (v n) : Settled k c s report (.ok report)
      { k with cleaner := some (c.stamped s v), version := n }
  | unwritten (e n) : Settled k c s report (.error (.statusWrite e)) { k with version := n }

/-- What a cycle can come to, and the cluster it then leaves behind. -/
inductive Effect (k : Cluster) (backoff : Duration) (now : Instant) :
    Except CycleError Report → Cluster → Prop
  | fetchRefused (e) (hfetch : k.faults.fetch = some e) : Effect k backoff now (.error (.fetch e)) k
  | missing (hfetch : k.faults.fetch = none) (hk : k.cleaner = none) :
      Effect k backoff now (.ok ⟨none, .missing⟩) k
  | invalid (c e) {r k'} (hfetch : k.faults.fetch = none) (hk : k.cleaner = some c)
      (hp : Policy.ofSpec? c.spec = .error e)
      (h : Settled k c (invalidStatus c e now)
        ⟨some (match Policy.runInterval? c.spec with | .ok d => d | .error _ => backoff),
          .invalidSpec e⟩ r k') : Effect k backoff now r k'
  | listRefused (c p e) (hfetch : k.faults.fetch = none) (hk : k.cleaner = some c)
      (hp : Policy.ofSpec? c.spec = .ok p) (hlist : k.faults.list = some e) :
      Effect k backoff now (.error (.list p.namespace_ e)) k
  | swept (c p d) {r k'} (hfetch : k.faults.fetch = none) (hk : k.cleaner = some c)
      (hp : Policy.ofSpec? c.spec = .ok p) (hlist : k.faults.list = none)
      (h : Settled (k.swept p now) c (completedStatus c d now) ⟨some p.runInterval, .completed d⟩
        r k') : Effect k backoff now r k'

theorem mem_without {k : Cluster} {keys : List (String × String)} {e : Execution} :
    e ∈ (k.without keys).executions ↔ e ∈ k.executions ∧ e.key ∉ keys := by
  simp [without]

theorem without_without (k : Cluster) (as bs : List (String × String)) :
    (k.without as).without bs = k.without (as ++ bs) := by
  simp only [without, List.filter_filter, List.contains_append, Bool.not_or, Bool.and_comm]

theorem without_nil (k : Cluster) : k.without [] = k := by
  simp [without]

theorem deleteExecution_eq_without (k : Cluster) (e : Execution) :
    k.deleteExecution e = k.without [e.key] := by
  simp [deleteExecution, without, bne, beq_eq_decide]

theorem accepted_append (f : Faults) (es fs : List Execution) :
    f.accepted (es ++ fs) = f.accepted es ++ f.accepted fs :=
  List.filter_append _ _

theorem state_deleteAll (category : Category) (es : List Execution) (seen : Seen) (k : Cluster) :
    ((deleteAll category es seen).run client k).state =
      k.without ((k.faults.accepted (unseen es seen)).map (·.key)) := by
  induction es generalizing seen k with
  | nil => exact (without_nil k).symm
  | cons e es ih =>
      by_cases he : e.key ∈ seen
      · rw [deleteAll, if_pos he, unseen_of_mem he, ih]
      · rw [unseen_of_not_mem he]
        cases hfault : k.faults.delete e.name with
        | some error =>
            have h : client (.delete e) k = (.error error, k) := by simp [client, hfault]
            rw [run_deleteAll_cons client he h]
            simp only [ih, Faults.accepted, List.filter_cons, hfault, Option.isNone_some,
              Bool.false_eq_true, if_false]
        | none =>
            have h : client (.delete e) k = (.ok (), k.without [e.key]) := by
              simp [client, hfault, deleteExecution_eq_without]
            rw [run_deleteAll_cons client he h]
            simp only [ih, without_without, Faults.accepted, List.filter_cons, hfault,
              Option.isNone_none, if_true, List.map_cons, List.singleton_append]
            rfl

theorem state_deleteSelected (sel : Selected) (k : Cluster) :
    ((deleteSelected sel).run client k).state =
      k.without ((k.faults.accepted (unseen sel.all [])).map (·.key)) := by
  simp only [deleteSelected, Plan.state_bind, Plan.run, state_deleteAll, seen_deleteAll,
    without_without, Selected.all, unseen_append, accepted_append, List.map_append,
    List.append_assoc, List.append_nil]
  rfl

theorem state_publishAll (c : Cleaner) (es : List Event) (k : Cluster) :
    ((publishAll c es).run client k).state = k := by
  induction es with
  | nil => rfl
  | cons e es ih => exact ih

theorem run_publishAll_done {α : Type} (c : Cleaner) (es : List Event) (a : α) (k : Cluster) :
    (((publishAll c es).bind fun _ => .done a).run client k).value = a ∧
      (((publishAll c es).bind fun _ => .done a).run client k).state = k :=
  ⟨by rw [Plan.value_bind]; rfl, by rw [Plan.state_bind]; exact state_publishAll c es k⟩

theorem client_fetch {k : Cluster} (h : k.faults.fetch = none) (namespace_ name : String) :
    client (.fetch namespace_ name) k = (.ok k.cleaner, k) := by
  simp only [client, h, refuse, Option.elim_none]

theorem client_list {k : Cluster} (h : k.faults.list = none) (namespace_ : String) :
    client (.list namespace_) k = (.ok (k.inNamespace namespace_), k) := by
  simp only [client, h, refuse, Option.elim_none, inNamespace]

theorem client_updateStatus {k : Cluster} {c : Cleaner} (hk : k.cleaner = some c) (s : Status) :
    (∃ v n, client (.updateStatus c s) k =
      (.ok (), { k with cleaner := some (c.stamped s v), version := n })) ∨
    ∃ e n, client (.updateStatus c s) k = (.error e, { k with version := n }) := by
  cases hfault : k.faults.updateStatus with
  | some e => exact .inr ⟨e, k.version, by simp only [client, hfault]⟩
  | none =>
      simp only [client, hfault, Cluster.writeStatus]
      cases k.faults.concurrentEdit with
      | false =>
          simp only [Bool.false_eq_true, if_false]
          split
          · exact .inl ⟨some (toString (k.version + 1)), k.version + 1, by rw [hk]; rfl⟩
          · exact .inr ⟨_, k.version, rfl⟩
      | true =>
          simp only [if_true]
          split
          · exact .inl ⟨some (toString (k.version + 2)), k.version + 2, by rw [hk]; rfl⟩
          · exact .inr ⟨_, k.version + 1, rfl⟩

theorem settled_writeStatus {k : Cluster} {c : Cleaner} (hk : k.cleaner = some c) (s : Status)
    (report : Report) (events : Bool → List Event) :
    let r := ((Cycle.writeStatus c s).andThen fun written =>
      (publishAll c (events written)).bind fun _ => .done (.ok report)).run client k
    Settled k c s report r.value r.state := by
  intro r
  have hrun (written : Bool) (k : Cluster) :=
    run_publishAll_done c (events written) (.ok report : Except CycleError Report) k
  by_cases hs : c.status = some s
  · -- The status is not written, and writing it would have changed nothing.
    have hsame : c.stamped s c.metadata.resourceVersion = c := by rw [Cleaner.stamped, ← hs]
    have hwritten : Settled k c s report _ _ := .written c.metadata.resourceVersion k.version
    rw [hsame, ← hk] at hwritten
    have hwrite := run_writeStatus_same client hs k
    simpa only [r, Plan.run_andThen_ok client (congrArg Run.value hwrite), hwrite, hrun] using
      hwritten
  · rcases client_updateStatus hk s with ⟨v, n, hupdate⟩ | ⟨e, n, hupdate⟩
    · have hwrite := run_writeStatus_new client hs hupdate
      simpa only [r, Plan.run_andThen_ok client (congrArg Run.value hwrite), hwrite, hrun] using
        Settled.written v n
    · have hwrite := run_writeStatus_new client hs hupdate
      simpa only [r, Plan.run_andThen_error client (congrArg Run.value hwrite), hwrite] using
        Settled.unwritten e n

theorem settled_complete {k : Cluster} {c : Cleaner} (hk : k.cleaner = some c) (p : Policy)
    (now : Instant) (hlist : k.faults.list = none) :
    ∃ d, Settled (k.swept p now) c (completedStatus c d now) ⟨some p.runInterval, .completed d⟩
      ((complete c p now).run client k).value ((complete c p now).run client k).state := by
  have hclean := run_clean_ok client now (client_list hlist p.namespace_)
  have hswept : ((clean p now).run client k).state = k.swept p now := by
    rw [hclean]
    exact state_deleteSelected _ k
  have hcleaner : (k.swept p now).cleaner = some c := hk
  refine ⟨((deleteSelected (select p now (k.inNamespace p.namespace_))).run client k).value, ?_⟩
  rw [complete, Plan.run_andThen_ok client (congrArg Run.value hclean), hswept]
  exact settled_writeStatus hcleaner _ _ _

theorem effect_reconcile (k : Cluster) (backoff : Duration) (namespace_ name : String)
    (now : Instant) :
    let r := (reconcile backoff namespace_ name now).run client k
    Effect k (clampBackoff backoff) now r.value r.state := by
  intro r
  have hr : Effect k (clampBackoff backoff) now r.value r.state ↔
      Effect k (clampBackoff backoff) now
        ((course (clampBackoff backoff) namespace_ name now).run client k).value
        ((course (clampBackoff backoff) namespace_ name now).run client k).state := by
    simp only [r, run_reconcile]
  rw [hr]
  cases hfetch : k.faults.fetch with
  | some e =>
      have h : client (.fetch namespace_ name) k = (.error e, k) := by
        simp only [client, hfetch, refuse, Option.elim_some]
      rw [run_course_fetch_error client h]
      exact .fetchRefused e hfetch
  | none =>
      have h := client_fetch hfetch namespace_ name
      cases hk : k.cleaner with
      | none =>
          rw [hk] at h
          rw [run_course_missing client h]
          exact .missing hfetch hk
      | some c =>
          rw [hk] at h
          cases hp : Policy.ofSpec? c.spec with
          | error e =>
              rw [run_course_invalid client h hp]
              exact .invalid c e hfetch hk hp (settled_writeStatus hk _ _ _)
          | ok p =>
              rw [run_course_valid client h hp]
              cases hlist : k.faults.list with
              | some e =>
                  have hanswer : client (.list p.namespace_) k = (.error e, k) := by
                    simp only [client, hlist, refuse, Option.elim_some]
                  have hclean := run_clean_error client now hanswer
                  rw [complete, Plan.run_andThen_error client (congrArg Run.value hclean), hclean]
                  exact .listRefused c p e hfetch hk hp hlist
              | none =>
                  obtain ⟨d, hd⟩ := settled_complete hk p now hlist
                  exact .swept c p d hfetch hk hp hlist hd

theorem deletions_reconcile {k : Cluster} {c : Cleaner} {p : Policy}
    (hfetch : k.faults.fetch = none) (hk : k.cleaner = some c) (hp : Policy.ofSpec? c.spec = .ok p)
    (hlist : k.faults.list = none) (backoff : Duration) (namespace_ name : String) (now : Instant) :
    ((reconcile backoff namespace_ name now).run client k).deletions = k.asked p now := by
  have hfetched := client_fetch hfetch namespace_ name
  rw [hk] at hfetched
  exact Cycle.deletions_reconcile client hfetched hp (client_list hlist p.namespace_)

theorem Effect.completed {k k' : Cluster} {backoff : Duration} {now : Instant}
    {wait : Option Duration} {d : Deletions}
    (h : Effect k backoff now (.ok ⟨wait, .completed d⟩) k') :
    ∃ c p v n, k.faults.fetch = none ∧ k.cleaner = some c ∧ Policy.ofSpec? c.spec = .ok p ∧
      k.faults.list = none ∧ wait = some p.runInterval ∧
      k' = { k.swept p now with
        cleaner := some (c.stamped (completedStatus c d now) v), version := n } := by
  cases h with
  | invalid c e hfetch hk hp h => cases h
  | swept c p d' hfetch hk hp hlist h =>
      cases h with
      | written v n => exact ⟨c, p, v, n, hfetch, hk, hp, hlist, rfl, rfl⟩

theorem Effect.fetch_eq_none_of_statusWrite {k k' : Cluster} {backoff : Duration} {now : Instant}
    {e : ClientError} (h : Effect k backoff now (.error (.statusWrite e)) k') :
    k.faults.fetch = none := by
  cases h with
  | invalid c e' hfetch hk hp h => exact hfetch
  | swept c p d hfetch hk hp hlist h => exact hfetch

end Cluster

end CronSweep
