import CronSweep.Json.Printer
import CronSweep.Proofs.Api.Sending
import CronSweep.Proofs.Cycle.Decision
import CronSweep.Proofs.Policy.Checked
import CronSweep.Proofs.Wire.Listing
import Mathlib.Data.List.TakeWhile

namespace CronSweep.Api

def Reply.Gives {α : Type} (reply : Reply) (decode : Json → Option α) (a : α) : Prop :=
  ∃ status body j, reply = .response status body ∧ isRefusal status = false ∧
    Json.parse body = some j ∧ decode j = some a

def Reply.Lists (reply : Reply) (job : Wire.Job) : Prop :=
  ∃ status body ms items item, reply = .response status body ∧ isRefusal status = false ∧
    Json.parse body = some (.obj ms) ∧ ("items", .arr items) ∈ ms ∧ item ∈ items ∧
    Wire.Job.ofJson? item = some job

theorem Reply.Gives.lists {reply : Reply} {jobs : List Wire.Job} (h : reply.Gives Wire.jobs? jobs)
    {job : Wire.Job} (hjob : job ∈ jobs) : reply.Lists job := by
  obtain ⟨status, body, j, hreply, hstatus, hparse, hjobs⟩ := h
  obtain ⟨ms, items, item, rfl, hmem, hitem, hjson⟩ := Wire.exists_item_of_jobs? hjobs hjob
  exact ⟨status, body, ms, items, item, hreply, hstatus, hparse, hmem, hitem, hjson⟩

theorem gives_of_read {α : Type} {reply : Reply} {decode : Json → Option α} {a : α}
    (h : read decode reply.accepted = .ok a) : reply.Gives decode a := by
  cases reply with
  | lost reason => cases h
  | response status body =>
      rw [Reply.accepted] at h
      cases hstatus : isRefusal status with
      | true => simp [hstatus, read] at h
      | false =>
          cases hdecode : (Json.parse body).bind decode with
          | none => simp [hstatus, read, hdecode] at h
          | some a' =>
              simp only [hstatus, Bool.false_eq_true, if_false, read, hdecode] at h
              cases h
              obtain ⟨j, hparse, hj⟩ := Option.bind_eq_some_iff.mp hdecode
              exact ⟨status, body, j, rfl, hstatus, hparse, hj⟩

variable {r : Reporter} {stamp : Instant} {x y : Exchange}

/-- A call is answered by the next reply, or else as if there had been none. -/
theorem client_cases {call : Call} {a : call.Answer} (h : client r stamp call x = (a, y)) :
    (∃ failure, a = answer call (.error failure)) ∨
      ∃ reply, x.replies = reply :: y.replies ∧ a = answer call reply.accepted := by
  rw [client] at h
  cases htarget : Http.Target.toSend? (request r stamp call).path with
  | error e =>
      simp only [htarget] at h
      cases h
      exact .inl ⟨_, rfl⟩
  | ok t =>
      simp only [htarget, Exchange.send] at h
      cases hreplies : x.replies with
      | nil =>
          simp only [hreplies] at h
          cases h
          exact .inl ⟨_, rfl⟩
      | cons reply replies =>
          simp only [hreplies] at h
          cases h
          exact .inr ⟨reply, rfl, rfl⟩

theorem fetched_ne_ok_some (failure : Failure) (c : Cleaner) :
    fetched (.error failure) ≠ .ok (some c) := by
  rw [fetched]
  split <;> nofun

theorem gives_of_fetch {namespace_ name : String} {c : Cleaner}
    (h : client r stamp (.fetch namespace_ name) x = (.ok (some c), y)) :
    ∃ reply, x.replies = reply :: y.replies ∧ reply.Gives Cleaner.ofJson? c := by
  rcases client_cases h with ⟨failure, hfailure⟩ | ⟨reply, hreply, hanswer⟩
  · cases fetched_ne_ok_some failure c hfailure.symm
  · refine ⟨reply, hreply, gives_of_read ?_⟩
    rw [answer] at hanswer
    cases hread : read Cleaner.ofJson? reply.accepted with
    | error failure =>
        rw [hread] at hanswer
        cases fetched_ne_ok_some failure c hanswer.symm
    | ok c' =>
        rw [hread] at hanswer
        cases hanswer
        rfl

theorem gives_of_list {namespace_ : String} {listing : List Execution}
    (h : client r stamp (.list namespace_) x = (.ok listing, y)) :
    ∃ reply jobs, x.replies = reply :: y.replies ∧ reply.Gives Wire.jobs? jobs ∧
      listing = jobs.map Wire.Job.execution := by
  rcases client_cases h with ⟨failure, hfailure⟩ | ⟨reply, hreply, hanswer⟩
  · cases hfailure
  · rw [answer] at hanswer
    cases hread : read Wire.jobs? reply.accepted with
    | error failure =>
        rw [hread] at hanswer
        cases hanswer
    | ok jobs =>
        rw [hread] at hanswer
        cases hanswer
        exact ⟨reply, jobs, hreply, gives_of_read hread, rfl⟩

def Request.precondition? (q : Request) : Option String :=
  ((q.body.bind (·.get? "preconditions")).bind (·.get? "uid")).bind Json.text?

def deletionBody : Option String → Json
  | some uid => .obj [("preconditions", .obj [("uid", .str uid)]),
      ("propagationPolicy", .str "Background")]
  | none => .obj [("propagationPolicy", .str "Background")]

theorem precondition?_of_body {q : Request} {uid : Option String}
    (h : q.body = some (deletionBody uid)) : q.precondition? = uid := by
  rw [Request.precondition?, h]
  cases uid <;> rfl

/-- A server that removes no job under a precondition for another one. -/
def Honours (removes : Request → String → Prop) : Prop :=
  ∀ q uid want, removes q uid → q.precondition? = some want → want = uid

structure Deletes (selected : List Execution) (q : Request) (e : Execution) : Prop where
  first : selected.find? (·.key = e.key) = some e
  /-- As far as a path is sent: up to a hash mark and without a question mark at its end. -/
  path : let sent := (jobPath e.namespace_ e.name).toList.takeWhile (· != '#')
    sent = q.path.toList ∨ sent = q.path.toList ++ ['?']
  plain : (∀ c ∈ (e.namespace_ ++ e.name).toList, c ≠ '#' ∧ c ≠ '?') →
    q.path = jobPath e.namespace_ e.name
  body : q.body = some (deletionBody e.uid)
  spares : ∀ removes, Honours removes → ∀ uid, removes q uid → e.uid = none ∨ e.uid = some uid

theorem forall₂_filterMap {α β : Type} {R : β → α → Prop} {f : α → Option β} {as : List α}
    (h : ∀ a ∈ as, ∀ b, f a = some b → R b a) :
    List.Forall₂ R (as.filterMap f) (as.filter (f · |>.isSome)) := by
  induction as with
  | nil => exact .nil
  | cons a as ih =>
      obtain ⟨ha, has⟩ := List.forall_mem_cons.mp h
      cases hf : f a with
      | none =>
          rw [List.filterMap_cons_none hf, List.filter_cons_of_neg (by simp [hf])]
          exact ih has
      | some b =>
          rw [List.filterMap_cons_some hf, List.filter_cons_of_pos (by simp [hf])]
          exact .cons (ha b hf) (ih has)

theorem toList_jobPath (namespace_ name : String) :
    (jobPath namespace_ name).toList = "/apis/batch/v1/namespaces/".toList ++ namespace_.toList ++
      "/jobs".toList ++ "/".toList ++ name.toList :=
  -- Rewriting would compare the texts with one another by computing them.
  calc (jobPath namespace_ name).toList
    _ = (jobsPath namespace_ ++ "/").toList ++ name.toList := String.toList_append
    _ = (jobsPath namespace_).toList ++ "/".toList ++ name.toList :=
        congrArg (· ++ name.toList) String.toList_append
    _ = ("/apis/batch/v1/namespaces/" ++ namespace_).toList ++ "/jobs".toList ++ "/".toList ++
          name.toList := congrArg (· ++ "/".toList ++ name.toList) String.toList_append
    _ = _ := congrArg (· ++ "/jobs".toList ++ "/".toList ++ name.toList) String.toList_append

theorem plain_jobPath {namespace_ name : String}
    (h : ∀ c ∈ (namespace_ ++ name).toList, c ≠ '#' ∧ c ≠ '?') :
    ∀ c ∈ (jobPath namespace_ name).toList, c ≠ '#' ∧ c ≠ '?' := by
  have hfixed : ∀ c ∈ "/apis/batch/v1/namespaces/".toList ++ "/jobs".toList ++ "/".toList,
      c ≠ '#' ∧ c ≠ '?' := by simp
  intro c hc
  rw [String.toList_append] at h
  rw [toList_jobPath] at hc
  simp only [List.mem_append] at hc h hfixed
  rcases hc with (((hc | hc) | hc) | hc) | hc
  · exact hfixed c (.inl (.inl hc))
  · exact h c (.inl hc)
  · exact hfixed c (.inl (.inr hc))
  · exact hfixed c (.inr hc)
  · exact h c (.inr hc)

theorem path_eq_jobPath {namespace_ name path : String}
    (h : let sent := (jobPath namespace_ name).toList.takeWhile (· != '#')
      sent = path.toList ∨ sent = path.toList ++ ['?'])
    (hplain : ∀ c ∈ (namespace_ ++ name).toList, c ≠ '#' ∧ c ≠ '?') :
    path = jobPath namespace_ name := by
  have hpath := plain_jobPath hplain
  have hwhole : (jobPath namespace_ name).toList.takeWhile (· != '#') =
      (jobPath namespace_ name).toList :=
    List.takeWhile_eq_self_iff.mpr fun c hc => by simpa using (hpath c hc).1
  rw [hwhole] at h
  rcases h with h | h
  · exact String.toList_inj.mp h.symm
  · exact absurd rfl (hpath '?' (by simp [h])).2

theorem deletes_of_sent? {selected : List Execution} {e : Execution}
    (he : e ∈ unseen selected []) {q : Request} (h : sent? r stamp (.delete e) = some q) :
    Deletes selected q e := by
  obtain ⟨t, ht, rfl⟩ := Option.map_eq_some_iff.mp h
  have htarget : Http.Target.toSend? (jobPath e.namespace_ e.name) = .ok t := by
    cases htarget : Http.Target.toSend? (request r stamp (.delete e)).path with
    | error e => simp [htarget, Except.toOption] at ht
    | ok t' =>
        rw [htarget] at ht
        cases ht
        exact htarget
  have hpath := Http.Target.text_of_toSend? htarget
  have hbody : some (deletion e) = some (deletionBody e.uid) := by
    rw [deletion]
    cases e.uid <;> rfl
  refine ⟨find?_of_mem_unseen he, hpath, path_eq_jobPath hpath, hbody, ?_⟩
  intro removes hremoves uid hremoved
  cases huid : e.uid with
  | none => exact .inl rfl
  | some want =>
      rw [huid] at hbody
      exact .inr (congrArg some (hremoves _ uid want hremoved (precondition?_of_body hbody)))

/-- Whatever a server answers, a cycle deletes runs of its cron job that have just been listed, each
at most once and only as long as the job is the one that was listed. -/
theorem deletes_pinned (r : Reporter) (stamp : Instant) (backoff : Duration)
    (namespace_ name : String) (now : Instant) (replies : List Reply) :
    let run := (Cycle.reconcile backoff namespace_ name now).run (client r stamp) (.start replies)
    let deletes := run.state.requests.filter (·.method = .delete)
    deletes = [] ∨ ∃ c p fetched listed later jobs asked,
      replies = fetched :: listed :: later ∧ fetched.Gives Cleaner.ofJson? c ∧
      Policy.ofSpec? c.spec = .ok p ∧ listed.Gives Wire.jobs? jobs ∧
      List.Forall₂ (Deletes (Cycle.select p now (jobs.map Wire.Job.execution)).all) deletes asked ∧
      (asked.map (·.key)).Nodup ∧
      ∀ e ∈ asked, ∃ job, listed.Lists job ∧ job.RunOf c.spec.cronJobName ∧ e = job.execution := by
  intro run deletes
  have hdeletes : deletes = run.deletions.filterMap fun e => sent? r stamp (.delete e) :=
    deletes_run r stamp _ replies
  rcases Cycle.deletions_reconcile_cases (client r stamp) backoff namespace_ name now
    (.start replies) with hnone | ⟨c, p, listing, x, y, hfetch, hp, hlist, hasked⟩
  · rw [show run.deletions = [] from hnone] at hdeletes
    exact .inl hdeletes
  · rw [show run.deletions = _ from hasked] at hdeletes
    obtain ⟨fetched, hfetched, hc⟩ := gives_of_fetch hfetch
    obtain ⟨listed, jobs, hlisted, hjobs, rfl⟩ := gives_of_list hlist
    obtain ⟨-, -, -, hcronJob, -⟩ := Policy.ofSpec?_eq_ok_iff.mp hp
    let selected := (Cycle.select p now (jobs.map Wire.Job.execution)).all
    have hall : List.Forall₂ (Deletes selected) deletes
        ((unseen selected []).filter fun e => (sent? r stamp (.delete e)).isSome) := by
      rw [hdeletes]
      exact forall₂_filterMap fun e he q hq => deletes_of_sent? he hq
    refine .inr ⟨c, p, fetched, listed, y.replies, jobs, _, ?_, hc, hp, hjobs, hall, ?_, ?_⟩
    · rw [← hlisted, ← hfetched]
      rfl
    · exact (nodup_keys_unseen _ []).sublist (List.filter_sublist.map _)
    · intro e he
      obtain ⟨hmem, howned, hphase⟩ :=
        Policy.of_mem_select_all (mem_of_mem_unseen (List.mem_of_mem_filter he))
      obtain ⟨job, hjob, rfl⟩ := List.mem_map.mp hmem
      rw [hcronJob] at howned
      exact ⟨job, hjobs.lists hjob, Wire.Job.runOf_of_execution howned hphase, rfl⟩

def sweepReply : Reply :=
  .response 200 (Json.obj [("metadata", .obj []), ("spec", .arr [.str "batch", .str "nightly",
    .arr [.int 1, .int 0], .arr [], .str "5m"])]).compact

def failedListing (name : String) (uid : Option String) : String :=
  let owner : Json := .obj [("kind", .str "CronJob"), ("name", .str "nightly")]
  let metadata : Json := .obj ([("name", .str name), ("namespace", .str "batch"),
    ("ownerReferences", .arr [owner])] ++ Json.optional "uid" .str uid)
  (Json.obj [("metadata", .obj []),
    ("items", .arr [.obj [("metadata", metadata), ("status", .obj [("failed", .int 1)])]])]).compact

def sweepRun (replies : List Reply) : Run Exchange (Except CycleError Report) :=
  (Cycle.reconcile .zero "ops" "sweep" Cycle.pastOne).run (client ⟨"sweeper", none⟩ Cycle.pastOne)
    (.start replies)

/-- A job of the same name that is not the listed one stays. -/
theorem nightly_delete_pinned :
    let listed : Reply := .response 200 (failedListing "a" (some "1"))
    let deletes := (sweepRun [sweepReply, listed]).state.requests.filter (·.method = .delete)
    deletes.map (·.path) = ["/apis/batch/v1/namespaces/batch/jobs/a"] ∧
      ∀ removes, Honours removes → ∀ q ∈ deletes, ¬removes q "2" := by
  intro listed deletes
  have hdeletes : deletes.map (fun q => (q.path, q.precondition?)) =
      [("/apis/batch/v1/namespaces/batch/jobs/a", some "1")] := by decide +kernel
  have hpaths := congrArg (List.map Prod.fst) hdeletes
  refine ⟨by simpa using hpaths, ?_⟩
  intro removes hremoves q hq hremoved
  rcases deletes_pinned ⟨"sweeper", none⟩ Cycle.pastOne .zero "ops" "sweep" Cycle.pastOne
    [sweepReply, listed] with
    hnone | ⟨c, p, fetched, reply, later, jobs, asked, -, -, -, -, hall, -, -⟩
  · rw [show deletes = [] from hnone] at hq
    cases hq
  · obtain ⟨e, -, he⟩ := exists_mem_of_forall₂ hall.flip hq
    have hq' := List.mem_map_of_mem (f := fun q => (q.path, q.precondition?)) hq
    rw [hdeletes, List.mem_singleton] at hq'
    have huid : some "1" = e.uid :=
      (congrArg Prod.snd hq').symm.trans (precondition?_of_body he.body)
    have hspared := he.spares removes hremoves "2" hremoved
    rw [← huid] at hspared
    revert hspared
    decide

/-- A hash mark in a name ends the path, and without a uid nothing keeps a server from removing
another job. -/
theorem hash_not_in_path :
    let listed : Reply := .response 200 (failedListing "a#b" none)
    let deletes := (sweepRun [sweepReply, listed]).state.requests.filter (·.method = .delete)
    (¬∀ q ∈ deletes, ∃ jobs, listed.Gives Wire.jobs? jobs ∧ ∃ job ∈ jobs,
      q.path = jobPath (job.metadata.namespace_.getD "") (job.metadata.name.getD "")) ∧
    ∀ uid, ∃ removes, Honours removes ∧ ∃ q ∈ deletes, removes q uid := by
  intro listed deletes
  have hdeletes : deletes.map (fun q => (q.path, q.precondition?)) =
      [("/apis/batch/v1/namespaces/batch/jobs/a", none)] := by decide +kernel
  have hnames : ((Json.parse (failedListing "a#b" none)).bind Wire.jobs?).map (List.map fun job =>
      (job.metadata.namespace_.getD "", job.metadata.name.getD "")) = some [("batch", "a#b")] := by
    decide +kernel
  obtain ⟨q, hq, hpath⟩ : ∃ q ∈ deletes,
      (q.path, q.precondition?) = ("/apis/batch/v1/namespaces/batch/jobs/a", none) := by
    rw [← List.mem_map, hdeletes]
    exact List.mem_singleton_self _
  constructor
  · intro hall
    obtain ⟨jobs, ⟨status, body, j, hreply, -, hparse, hjobs⟩, job, hjob, hq'⟩ := hall q hq
    obtain ⟨-, rfl⟩ := Reply.response.inj hreply
    rw [hparse, Option.bind_some, hjobs] at hnames
    have hname := List.mem_map_of_mem (f := fun job : Wire.Job =>
      (job.metadata.namespace_.getD "", job.metadata.name.getD "")) hjob
    rw [Option.some.inj hnames, List.mem_singleton] at hname
    obtain ⟨hnamespace, hname⟩ := Prod.mk.inj hname
    obtain ⟨hsent, -⟩ := Prod.mk.inj hpath
    rw [hnamespace, hname, hsent] at hq'
    revert hq'
    decide +kernel
  · intro uid
    refine ⟨fun q uid => ∀ want, q.precondition? = some want → want = uid,
      fun q uid want hremoves => hremoves want, q, hq, ?_⟩
    intro want hwant
    have hnone : q.precondition? = none := congrArg Prod.snd hpath
    rw [hnone] at hwant
    cases hwant

end CronSweep.Api
