import CronSweep.Proofs.Api.Deletes
import CronSweep.Proofs.Cycle.Protocol

namespace CronSweep

theorem ClientError.ofCode_eq_notFound_iff {code : UInt16} {message : String} :
    ofCode code message = .notFound ↔ code = 404 := by
  rw [ofCode]
  by_cases hnotFound : code = 404
  · simp [hnotFound]
  · by_cases hconflict : code = 409 <;> simp [hnotFound, hconflict]

namespace Cycle

variable (backoff : Duration) (namespace_ name : String) (now : Instant)

variable {backoff namespace_ name now} in
/-- Only the answer to the fetch makes a cycle end with a missing cleaner or for want of one. -/
theorem Protocol.result_of_fetched {fetched : Except ClientError (Option Cleaner)}
    {log : List Exchange} {result : Except CycleError Report}
    (h : Protocol backoff namespace_ name now (⟨.fetch namespace_ name, fetched⟩ :: log) result) :
    (result = .ok ⟨none, .missing⟩ ↔ fetched = .ok none) ∧
      ∀ e, result = .error (.fetch e) ↔ fetched = .error e := by
  cases h with
  | unfetched e => simp
  | missing => simp
  | invalid c e hp h => cases h <;> simp
  | unlisted c p e hp => simp
  | cleaned c p listing d hp hd h => cases h <;> simp

theorem value_reconcile_iff {σ : Type} (client : Client σ) (s : σ) :
    let result := ((reconcile backoff namespace_ name now).run client s).value
    let fetched := (client (.fetch namespace_ name) s).1
    (result = .ok ⟨none, .missing⟩ ↔ fetched = .ok none) ∧
      ∀ e, result = .error (.fetch e) ↔ fetched = .error e :=
  (protocol_of_ends ((reconcile backoff namespace_ name now).ends_log client s)).result_of_fetched

end Cycle

namespace Api

section

variable {status : Nat} {body : String} (h : isRefusal status = true)
include h

theorem accepted_of_isRefusal :
    (Reply.response status body).accepted = .error (.refused (refusal status body)) := by
  rw [Reply.accepted, if_pos h]

theorem answer_fetch_eq_none_iff (namespace_ name : String) :
    answer (.fetch namespace_ name) (Reply.response status body).accepted = .ok none ↔
      (refusal status body).reason = "NotFound" := by
  rw [accepted_of_isRefusal h]
  change fetched (.error _) = _ ↔ _
  by_cases hreason : (refusal status body).reason = "NotFound" <;>
    simp [fetched, Failure.isAbsence, hreason]

theorem answer_fetch_eq_notFound_iff (namespace_ name : String) :
    answer (.fetch namespace_ name) (Reply.response status body).accepted = .error .notFound ↔
      (refusal status body).code = 404 ∧ (refusal status body).reason ≠ "NotFound" := by
  rw [accepted_of_isRefusal h]
  change fetched (.error _) = _ ↔ _
  by_cases hreason : (refusal status body).reason = "NotFound" <;>
    simp [fetched, Failure.isAbsence, Failure.error, hreason, ClientError.ofCode_eq_notFound_iff]

/-- What is asked for by any other call is not there by the code alone. -/
theorem finish_eq_notFound_iff {α β : Type} (f : α → β) (decode : Json → Option α) :
    finish f (read decode (Reply.response status body).accepted) = .error .notFound ↔
      (refusal status body).code = 404 := by
  rw [accepted_of_isRefusal h]
  change Except.error (ClientError.ofCode _ _) = _ ↔ _
  rw [Except.error.injEq, ClientError.ofCode_eq_notFound_iff]

end

/-- A body that tells of no refusal leaves the status, and a reason of its own. -/
theorem refusal_of_unreadable {status : Nat} {body : String}
    (h : (Json.parse body).bind Wire.Refusal.ofJson? = none) :
    (refusal status body).code = .ofNat status ∧ (refusal status body).reason ≠ "NotFound" := by
  rw [refusal, h]
  refine ⟨rfl, ?_⟩
  change "Failed to parse error data" ≠ "NotFound"
  decide

theorem client_cons (r : Reporter) (stamp : Instant) (call : Call) (reply : Reply)
    (later : List Reply) {t : Http.Target}
    (h : Http.Target.toSend? (request r stamp call).path = .ok t) :
    (client r stamp call (.start (reply :: later))).1 = answer call reply.accepted := by
  rw [client]
  simp only [h]
  rfl

/-- That a cleaner is not there is told by the reason of a refusal, that anything else is not there
by its code. A code alone makes a cycle fail for want of the cleaner that is missing, as a page that
tells of no refusal at all does with the status 404. -/
theorem absence_by_reason {status : Nat} (h : isRefusal status = true) (body : String)
    {namespace_ name : String} {t : Http.Target}
    (ht : Http.Target.toSend? (cleanerPath namespace_ name) = .ok t) (e : Execution) (c : Cleaner)
    (s : Status) (r : Reporter) (stamp : Instant) (backoff : Duration) (now : Instant)
    (later : List Reply) :
    let reply : Reply := .response status body
    let refused := refusal status body
    let result := ((Cycle.reconcile backoff namespace_ name now).run (client r stamp)
      (.start (reply :: later))).value
    (answer (.fetch namespace_ name) reply.accepted = .ok none ↔ refused.reason = "NotFound") ∧
      (answer (.delete e) reply.accepted = .error .notFound ↔ refused.code = 404) ∧
      (answer (.updateStatus c s) reply.accepted = .error .notFound ↔ refused.code = 404) ∧
      (result = .ok ⟨none, .missing⟩ ↔ refused.reason = "NotFound") ∧
      (result = .error (.fetch .notFound) ↔ refused.code = 404 ∧ refused.reason ≠ "NotFound") ∧
      ((Json.parse body).bind Wire.Refusal.ofJson? = none →
        refused.code = .ofNat status ∧ refused.reason ≠ "NotFound") := by
  intro reply refused result
  obtain ⟨hmissing, hfailed⟩ := Cycle.value_reconcile_iff backoff namespace_ name now
    (client r stamp) (.start (reply :: later))
  rw [client_cons r stamp (.fetch namespace_ name) reply later ht] at hmissing hfailed
  exact ⟨answer_fetch_eq_none_iff h namespace_ name, finish_eq_notFound_iff h id Wire.deletion?,
    finish_eq_notFound_iff h (fun _ => ()) Cleaner.ofJson?,
    hmissing.trans (answer_fetch_eq_none_iff h namespace_ name),
    (hfailed .notFound).trans (answer_fetch_eq_notFound_iff h namespace_ name),
    refusal_of_unreadable⟩

theorem sweepPath_sent : ∃ t, Http.Target.toSend? (cleanerPath "ops" "sweep") = .ok t := by
  have hpath : (Http.Target.toSend? (cleanerPath "ops" "sweep")).toOption.isSome := by
    decide +kernel
  cases hsend : Http.Target.toSend? (cleanerPath "ops" "sweep") with
  | ok t => exact ⟨t, rfl⟩
  | error e => simp [hsend, Except.toOption] at hpath

/-- A page of a proxy in front of the server. -/
theorem page_not_found_fails_sweep :
    let reply : Reply := .response 404 "404 page not found"
    isRefusal 404 = true ∧ (∃ t, Http.Target.toSend? (cleanerPath "ops" "sweep") = .ok t) ∧
      (sweepRun [reply]).value = .error (.fetch .notFound) := by
  intro reply
  obtain ⟨t, ht⟩ := sweepPath_sent
  have hrefused : isRefusal 404 = true := by decide
  have hunreadable : (Json.parse "404 page not found").bind Wire.Refusal.ofJson? = none := by
    decide +kernel
  obtain ⟨-, -, -, -, hfailed, hrefusal⟩ := absence_by_reason hrefused "404 page not found" ht
    (Cycle.nightlyRun "a" 10 1 0 0) Cycle.nightly .initial ⟨"sweeper", none⟩ Cycle.pastOne .zero
    Cycle.pastOne []
  exact ⟨hrefused, ⟨t, ht⟩, hfailed.mpr (hrefusal hunreadable)⟩

def goneBody : String :=
  (Json.obj [("status", .str "Failure"), ("message", .str "gone"), ("code", .int 404)]).compact

theorem gone_ends_no_sweep :
    let reply : Reply := .response 404 goneBody
    answer (.delete (Cycle.nightlyRun "a" 10 1 0 0)) reply.accepted = .error .notFound ∧
      answer (.fetch "ops" "sweep") reply.accepted ≠ .ok none ∧
      (sweepRun [reply]).value = .error (.fetch .notFound) := by
  intro reply
  have hrefused : isRefusal 404 = true := by decide
  have hcode : (refusal 404 goneBody).code = 404 := by decide +kernel
  have hreason : (refusal 404 goneBody).reason ≠ "NotFound" := by decide +kernel
  have hfetch : answer (.fetch "ops" "sweep") reply.accepted = .error .notFound :=
    (answer_fetch_eq_notFound_iff hrefused "ops" "sweep").mpr ⟨hcode, hreason⟩
  refine ⟨(finish_eq_notFound_iff hrefused id Wire.deletion?).mpr hcode, ?_, ?_⟩
  · rw [hfetch]
    nofun
  · obtain ⟨-, hfailed⟩ := Cycle.value_reconcile_iff .zero "ops" "sweep" Cycle.pastOne
      (client ⟨"sweeper", none⟩ Cycle.pastOne) (.start [reply])
    obtain ⟨t, ht⟩ := sweepPath_sent
    rw [client_cons _ _ (.fetch "ops" "sweep") reply [] ht] at hfailed
    exact (hfailed .notFound).mpr hfetch

end Api

end CronSweep
