import CronSweep.Proofs.Cluster.Accounting
import CronSweep.Proofs.Cycle.Write
import CronSweep.Proofs.Plan.Advance

namespace CronSweep

/-- The cleaner as it is stored. Every change of it makes another edition, with a version of its
own. -/
structure Store (version : Nat → String) where
  cleaner : Cleaner
  edition : Nat
  current : cleaner.metadata.resourceVersion = some (version edition)

/-- What the cluster says to each call, as far as that is not settled by the store. -/
abbrev Answers := (call : Call) → call.Answer

namespace Store

variable {version : Nat → String}

def ofEdition (c : Cleaner) (edition : Nat) : Store version :=
  ⟨{ c with metadata := { c.metadata with resourceVersion := version edition } }, edition, rfl⟩

def put (k : Store version) (c : Cleaner) : Store version := ofEdition c (k.edition + 1)

/-- The store alone decides about status writes that come from another edition; any other call can
be refused. -/
def client (answers : Answers) : Client (Store version)
  | .fetch namespace_ name, k =>
      match answers (.fetch namespace_ name) with
      | .ok _ => (.ok (some k.cleaner), k)
      | .error e => (.error e, k)
  | .updateStatus c s, k =>
      if c.metadata.resourceVersion = k.cleaner.metadata.resourceVersion then
        match answers (.updateStatus c s) with
        | .ok () => (.ok (), k.put { k.cleaner with status := some s })
        | .error e => (.error e, k)
      else (.error (.conflict "the object has been modified"), k)
  | .list namespace_, k => (answers (.list namespace_), k)
  | .delete e, k => (answers (.delete e), k)
  | .publish c e, k => (answers (.publish c e), k)

variable {answers : Answers} {k : Store version}

theorem client_fetch {namespace_ name : String} {c : Cleaner}
    (h : (client answers (.fetch namespace_ name) k).1 = .ok (some c)) : c = k.cleaner := by
  simp only [client] at h
  split at h <;> cases h
  rfl

theorem client_of_stale {c : Cleaner}
    (h : c.metadata.resourceVersion ≠ k.cleaner.metadata.resourceVersion) (s : Status) :
    client answers (.updateStatus c s) k =
      (.error (.conflict "the object has been modified"), k) := by
  simp only [client, if_neg h]

end Store

def Exchange.wrote : Exchange → Bool
  | ⟨.updateStatus _ _, .ok ()⟩ => true
  | _ => false

theorem Exchange.wrote_iff {x : Exchange} :
    x.wrote = true ↔ ∃ c s, x = ⟨.updateStatus c s, .ok ()⟩ := by
  constructor
  · intro h
    obtain ⟨call, answer⟩ := x
    cases call with
    | fetch | list | delete | publish => cases h
    | updateStatus c s =>
        rcases answer with e | ⟨⟩
        · cases h
        · exact ⟨c, s, rfl⟩
  · rintro ⟨c, s, rfl⟩
    rfl

/-- The store changes only by a status write that is taken, and with every such write. -/
theorem Store.client_cases {version : Nat → String} (answers : Answers) (call : Call)
    (k : Store version) :
    ((⟨call, (client answers call k).1⟩ : Exchange).wrote = false ∧
        (client answers call k).2 = k) ∨
      ∃ c s, call = .updateStatus c s ∧
        c.metadata.resourceVersion = k.cleaner.metadata.resourceVersion ∧
        (⟨call, (client answers call k).1⟩ : Exchange).wrote = true ∧
        (client answers call k).2 = k.put { k.cleaner with status := some s } := by
  cases call with
  | list | delete | publish => exact .inl ⟨rfl, rfl⟩
  | fetch namespace_ name =>
      refine .inl ⟨rfl, ?_⟩
      simp only [client]
      split <;> rfl
  | updateStatus c s =>
      by_cases hversion : c.metadata.resourceVersion = k.cleaner.metadata.resourceVersion
      · simp only [client, if_pos hversion]
        rcases answers (.updateStatus c s) with e | ⟨⟩
        · exact .inl ⟨rfl, rfl⟩
        · exact .inr ⟨c, s, rfl, hversion, rfl, rfl⟩
      · rw [client_of_stale hversion]
        exact .inl ⟨rfl, rfl⟩

structure Cluster.Keeps (k : Cluster) (store : Store toString) : Prop where
  cleaner : k.cleaner = some store.cleaner
  version : k.version = store.edition

/-- Where no fault of status writes is set, the cluster in memory is such a store. -/
theorem Cluster.Keeps.client {k : Cluster} {store : Store toString} (h : k.Keeps store)
    (hedit : k.faults.concurrentEdit = false) (hfault : k.faults.updateStatus = none)
    (call : Call) :
    let answers : Answers := fun call => (Cluster.client call k).1
    (Store.client answers call store).1 = (Cluster.client call k).1 ∧
      (Cluster.client call k).2.Keeps (Store.client answers call store).2 := by
  cases call with
  | list | publish => exact ⟨rfl, h⟩
  | fetch namespace_ name =>
      cases hfetch : k.faults.fetch with
      | some e =>
          simp only [Store.client, Cluster.client, refuse, hfetch]
          exact ⟨rfl, h⟩
      | none =>
          simp only [Store.client, Cluster.client, refuse, hfetch, h.cleaner]
          exact ⟨rfl, h⟩
  | delete e =>
      cases hdelete : k.faults.delete e.name with
      | some error =>
          simp only [Store.client, Cluster.client, hdelete]
          exact ⟨rfl, h⟩
      | none =>
          simp only [Store.client, Cluster.client, hdelete]
          exact ⟨rfl, h.cleaner, h.version⟩
  | updateStatus c s =>
      simp only [Store.client, Cluster.client, hfault, writeStatus, hedit, h.version,
        store.current]
      by_cases hc : c.metadata.resourceVersion = some (toString store.edition)
      · simp only [hc, if_true, Bool.false_eq_true, if_false, h.version, h.cleaner]
        exact ⟨rfl, rfl, rfl⟩
      · simp only [hc, if_false, Bool.false_eq_true, h.version]
        exact ⟨rfl, h⟩

/-- A cycle that has been begun, with the exchanges so far and what is still to do. -/
structure Ongoing where
  backoff : Duration
  namespace_ : String
  name : String
  now : Instant
  log : List Exchange
  rest : Plan (Except CycleError Report)

namespace Ongoing

def begun (backoff : Duration) (namespace_ name : String) (now : Instant) : Ongoing :=
  ⟨backoff, namespace_, name, now, [], Cycle.reconcile backoff namespace_ name now⟩

def advance {σ : Type} (client : Client σ) (o : Ongoing) (s : σ) : Ongoing × σ :=
  let a := o.rest.advance client s
  ({ o with log := o.log ++ a.log, rest := a.rest }, a.state)

def Read (o : Ongoing) (c : Cleaner) : Prop := ⟨.fetch o.namespace_ o.name, .ok (some c)⟩ ∈ o.log

def deleted (o : Ongoing) : Nat := o.log.countP (·.deleted)

def landed (o : Ongoing) : Bool := o.log.any (·.wrote)

/-- What the cycle has deleted, once its status write has landed. -/
def credit (o : Ongoing) : Nat := if o.landed then o.deleted else 0

/-- However the cycle goes on, it will have kept to the protocol. -/
def Sound (o : Ongoing) : Prop := ∀ log result, o.rest.Ends log result →
  Cycle.Protocol (Cycle.clampBackoff o.backoff) o.namespace_ o.name o.now (o.log ++ log) result

end Ongoing

/-- Any number of cycles for one cleaner, each somewhere on its way. -/
structure Race (version : Nat → String) where
  store : Store version
  cycles : List Ongoing

namespace Race

inductive Move
  | launch (backoff : Duration) (namespace_ name : String) (now : Instant)
  /-- Somebody else changes the cleaner, all but its status. -/
  | edit (spec : Spec) (metadata : Metadata)
  /-- The next call of a cycle is answered. -/
  | call (i : Nat) (answers : Answers)

variable {version : Nat → String}

def start (c : Cleaner) : Race version := ⟨.ofEdition c 1, []⟩

def step (k : Race version) : Move → Race version
  | .launch backoff namespace_ name now =>
      { k with cycles := k.cycles ++ [.begun backoff namespace_ name now] }
  | .edit spec metadata => { k with store := k.store.put ⟨metadata, spec, k.store.cleaner.status⟩ }
  | .call i answers =>
      match k.cycles[i]? with
      | some o =>
          let (o, store) := o.advance (Store.client answers) k.store
          ⟨store, k.cycles.set i o⟩
      | none => k

def after (k : Race version) (moves : List Move) : Race version := moves.foldl step k

end Race

end CronSweep
