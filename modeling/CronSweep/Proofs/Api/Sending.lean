import CronSweep.Api.Client
import CronSweep.Proofs.Plan.Run

namespace CronSweep

namespace Http.Target

/-- A path is sent up to its first hash mark, and a question mark only where a query follows. -/
theorem text_of_toSend? {path : String} {t : Target} (h : toSend? path = .ok t) :
    path.toList.takeWhile (· != '#') = t.text.toList ∨
      path.toList.takeWhile (· != '#') = t.text.toList ++ ['?'] := by
  rw [toSend?] at h
  split at h
  · cases h
  · rw [ofPath?] at h
    generalize path.toList.takeWhile (· != '#') = cs at h ⊢
    split at h
    · cases h
      have hsplit := List.takeWhile_append_dropWhile (p := (· != '?')) (l := cs)
      rw [text]
      dsimp only
      cases hrest : cs.dropWhile (· != '?') with
      | nil =>
          rw [hrest, List.append_nil] at hsplit
          exact .inl (by simp [hsplit])
      | cons c rest =>
          have hc : c = '?' := by
            have hnot := List.head_dropWhile_not (l := cs) (· != '?') (by simp [hrest])
            simpa [hrest] using hnot
          rw [hrest, hc] at hsplit
          cases rest with
          | nil => exact .inr (by simp [hsplit])
          | cons d rest => exact .inl (by simp [hsplit])
    · cases h

end Http.Target

namespace Api

def sent? (r : Reporter) (now : Instant) (call : Call) : Option Request :=
  (Http.Target.toSend? (request r now call).path).toOption.map fun t =>
    { request r now call with path := t.text }

variable (r : Reporter) (now : Instant)

theorem requests_client (call : Call) (x : Exchange) :
    (client r now call x).2.requests = x.requests ++ (sent? r now call).toList := by
  rw [client, sent?]
  cases Http.Target.toSend? (request r now call).path with
  | error e => simp [Except.toOption]
  | ok t =>
      simp only [Exchange.send]
      cases x.replies <;> rfl

theorem requests_run {α : Type} (p : Plan α) (x : Exchange) :
    (p.run (client r now) x).state.requests =
      x.requests ++ (p.run (client r now) x).calls.filterMap (sent? r now) := by
  induction p generalizing x with
  | done a => exact (List.append_nil _).symm
  | ask call next ih =>
      simp only [Plan.run]
      rw [ih, requests_client, List.append_assoc, List.filterMap_cons]
      cases sent? r now call <;> rfl
  | count sample next ih => exact ih x

theorem method_of_sent? {call : Call} {q : Request} (h : sent? r now call = some q) :
    q.method = (request r now call).method := by
  obtain ⟨t, -, rfl⟩ := Option.map_eq_some_iff.mp h
  rfl

theorem filter_sent? (calls : List Call) :
    (calls.filterMap (sent? r now)).filter (·.method = .delete) =
      (calls.filterMap Call.deleted?).filterMap fun e => sent? r now (.delete e) := by
  induction calls with
  | nil => rfl
  | cons call calls ih =>
      cases hsent : sent? r now call with
      | none =>
          rw [List.filterMap_cons_none hsent, ih]
          cases call with
          | delete e => simp [Call.deleted?, hsent]
          | fetch | list | updateStatus | publish => rfl
      | some q =>
          have hmethod := method_of_sent? r now hsent
          rw [List.filterMap_cons_some hsent, List.filter_cons, ih, hmethod]
          cases call with
          | delete e => simp [Call.deleted?, hsent, request]
          | fetch | list | updateStatus | publish => rfl

/-- The DELETE requests of a run are those for the deletions it calls for. -/
theorem deletes_run {α : Type} (p : Plan α) (replies : List Reply) :
    (p.run (client r now) (.start replies)).state.requests.filter (·.method = .delete) =
      (p.run (client r now) (.start replies)).deletions.filterMap
        fun e => sent? r now (.delete e) := by
  rw [requests_run, Run.deletions, ← filter_sent?]
  rfl

end Api

end CronSweep
