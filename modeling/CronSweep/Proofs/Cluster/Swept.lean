import CronSweep.Proofs.Cluster.Cycle
import Mathlib.Data.List.Nodup

namespace CronSweep.Cluster

def Distinct (k : Cluster) : Prop := (k.executions.map (·.key)).Nodup

def spec? (k : Cluster) : Option Spec := k.cleaner.map (·.spec)

def policy? (k : Cluster) : Option Policy :=
  k.spec?.bind fun spec => (Policy.ofSpec? spec).toOption

def Condemns (k : Cluster) (now : Instant) (e : Execution) : Prop :=
  ∃ p, k.policy? = some p ∧ e ∈ k.inNamespace p.namespace_ ∧
    p.Condemns now (k.inNamespace p.namespace_) e

theorem policy?_eq_some_iff {k : Cluster} {p : Policy} :
    k.policy? = some p ↔ ∃ c, k.cleaner = some c ∧ Policy.ofSpec? c.spec = .ok p := by
  rw [policy?, spec?]
  cases k.cleaner with
  | none => simp
  | some c => cases h : Policy.ofSpec? c.spec <;> simp [h, Except.toOption]

theorem mem_inNamespace {k : Cluster} {namespace_ : String} {e : Execution} :
    e ∈ k.inNamespace namespace_ ↔ e ∈ k.executions ∧ e.namespace_ = namespace_ := by
  simp only [inNamespace, List.mem_filter, beq_iff_eq]

variable {k : Cluster} {now : Instant} {p : Policy} {e : Execution}

theorem condemns_iff_of_cleaner {c : Cleaner} (hk : k.cleaner = some c) (hp : Policy.ofSpec? c.spec = .ok p) :
    k.Condemns now e ↔
      e ∈ k.inNamespace p.namespace_ ∧ p.Condemns now (k.inNamespace p.namespace_) e := by
  have hpolicy := policy?_eq_some_iff.mpr ⟨c, hk, hp⟩
  constructor
  · rintro ⟨q, hq, h⟩
    cases hpolicy.symm.trans hq
    exact h
  · exact fun h => ⟨p, hpolicy, h⟩

theorem Distinct.eq_of_key (h : k.Distinct) {a b : Execution} (ha : a ∈ k.executions)
    (hb : b ∈ k.executions) (hkey : a.key = b.key) : a = b :=
  List.inj_on_of_nodup_map h ha hb hkey

theorem Distinct.names (h : k.Distinct) (namespace_ : String) :
    ((k.inNamespace namespace_).map (·.name)).Nodup := by
  apply List.Nodup.map_on _ (h.of_map.filter _)
  intro a ha b hb hname
  obtain ⟨ha, hnsa⟩ := mem_inNamespace.mp ha
  obtain ⟨hb, hnsb⟩ := mem_inNamespace.mp hb
  exact h.eq_of_key ha hb (Prod.ext (hnsa.trans hnsb.symm) hname)

theorem mem_asked (h : k.Distinct) :
    e ∈ k.asked p now ↔
      e ∈ k.inNamespace p.namespace_ ∧ p.Condemns now (k.inNamespace p.namespace_) e := by
  have hall (a : Execution) : a ∈ (Cycle.select p now (k.inNamespace p.namespace_)).all ↔
      a ∈ k.inNamespace p.namespace_ ∧ p.Condemns now (k.inNamespace p.namespace_) a :=
    Policy.mem_select_all (h.names p.namespace_)
  rw [asked, mem_unseen_nil_iff, hall]
  intro a ha b hb hkey
  exact h.eq_of_key (mem_inNamespace.mp ((hall a).mp ha).1).1
    (mem_inNamespace.mp ((hall b).mp hb).1).1 hkey

theorem mem_swept (h : k.Distinct) :
    e ∈ (k.swept p now).executions ↔
      e ∈ k.executions ∧ ¬(e ∈ k.asked p now ∧ k.faults.delete e.name = none) := by
  have hkey (he : e ∈ k.executions) :
      e.key ∈ (k.faults.accepted (k.asked p now)).map (·.key) ↔
        e ∈ k.faults.accepted (k.asked p now) := by
    constructor
    · intro hkey
      obtain ⟨a, ha, hae⟩ := List.mem_map.mp hkey
      have hasked := ((mem_asked h).mp (List.mem_of_mem_filter ha)).1
      exact h.eq_of_key (mem_inNamespace.mp hasked).1 he hae ▸ ha
    · exact List.mem_map_of_mem
  rw [swept, mem_without]
  apply and_congr_right
  intro he
  rw [hkey he, Faults.accepted, List.mem_filter, Option.isNone_iff_eq_none]

namespace Effect

variable {backoff : Duration} {r : Except CycleError Report} {k' : Cluster}

theorem executions (h : Effect k backoff now r k') :
    k'.executions = k.executions ∨
      ∃ p, k.policy? = some p ∧ k'.executions = (k.swept p now).executions := by
  cases h with
  | fetchRefused | missing | listRefused => exact .inl rfl
  | invalid c e hfetch hk hp h => cases h <;> exact .inl rfl
  | swept c p d hfetch hk hp hlist h =>
      have hpolicy := policy?_eq_some_iff.mpr ⟨c, hk, hp⟩
      cases h <;> exact .inr ⟨p, hpolicy, rfl⟩

theorem executions_of_reachable (h : Effect k backoff now r k') (hfetch : k.faults.fetch = none)
    (hlist : k.faults.list = none) (hp : k.policy? = some p) :
    k'.executions = (k.swept p now).executions := by
  cases h with
  | fetchRefused e hrefused => cases hfetch.symm.trans hrefused
  | missing _ hk =>
      obtain ⟨c, hc, -⟩ := policy?_eq_some_iff.mp hp
      cases hk.symm.trans hc
  | listRefused c p e _ _ _ hrefused => cases hlist.symm.trans hrefused
  | invalid c e _ hk hinvalid =>
      obtain ⟨c', hc, hvalid⟩ := policy?_eq_some_iff.mp hp
      cases hk.symm.trans hc
      cases hinvalid.symm.trans hvalid
  | swept c q d _ hk hq _ h =>
      cases hp.symm.trans (policy?_eq_some_iff.mpr ⟨c, hk, hq⟩)
      cases h <;> rfl

theorem spec? (h : Effect k backoff now r k') : k'.spec? = k.spec? := by
  cases h with
  | fetchRefused | missing | listRefused => rfl
  | invalid c e _ hk _ h | swept c p d _ hk _ _ h =>
      cases h with
      | unwritten => rfl
      | written => exact (congrArg (Option.map (·.spec)) hk).symm

theorem sublist (h : Effect k backoff now r k') : k'.executions.Sublist k.executions := by
  rcases h.executions with h | ⟨p, -, h⟩ <;> rw [h]
  exact List.filter_sublist

/-- Only what is condemned goes. -/
theorem condemns_of_not_mem (h : Effect k backoff now r k') (hdistinct : k.Distinct)
    (he : e ∈ k.executions) (hgone : e ∉ k'.executions) : k.Condemns now e := by
  rcases h.executions with h | ⟨p, hp, h⟩
  · exact absurd (h ▸ he) hgone
  · rw [h, mem_swept hdistinct] at hgone
    obtain ⟨hasked, -⟩ := not_not.mp fun hn => hgone ⟨he, hn⟩
    exact ⟨p, hp, (mem_asked hdistinct).mp hasked⟩

theorem mem_executions_iff (h : Effect k backoff now r k') (hdistinct : k.Distinct)
    (hfetch : k.faults.fetch = none) (hlist : k.faults.list = none)
    (hdelete : ∀ a, k.Condemns now a → k.faults.delete a.name = none) :
    e ∈ k'.executions ↔ e ∈ k.executions ∧ ¬k.Condemns now e := by
  constructor
  · intro he
    apply And.intro (h.sublist.subset he)
    rintro ⟨p, hp, hcondemned⟩
    rw [h.executions_of_reachable hfetch hlist hp, mem_swept hdistinct] at he
    exact he.2 ⟨(mem_asked hdistinct).mpr hcondemned, hdelete e ⟨p, hp, hcondemned⟩⟩
  · rintro ⟨he, hsafe⟩
    by_contra hgone
    exact hsafe (h.condemns_of_not_mem hdistinct he hgone)

end Effect

end CronSweep.Cluster
