/-
**One finalisation.**

Two workers may hold a report at a time, when one has taken over the claim of the other, and a
moderator may review it meanwhile.  A finalisation with a review first updates the row if the report is
still pending; if it is not, the decision and the ban id are written all the same, and so they are when
a report is escalated.

Main definitions:

* `Automod.Consistent` — what automation has reviewed was reviewed and decided by one worker;
* `Automod.DecidedOnce` — no finalisation changes a report that has been reviewed, and the row stays
  consistent;
* `Automod.OverwritesPending` — what is written without looking is written to a pending report.

Main results:

* `Automod.Orderly.step` — the row stays consistent;
* `Automod.decidedOnce_of_overwritesPending` — **finalisations that overwrite pending reports only
  decide once**;
* `Automod.takenOver_isDecidedTwice` — a worker that was taken over changes the decision of the other.
-/

import Pairline.Automod.Worker
import Pairline.Pool

set_option relaxedAutoImplicit false
set_option autoImplicit false

namespace Automod

open Transition Program

/-! ### The law -/

/-- **A report that automation has reviewed was reviewed and decided by one worker**, to the same
effect; and a ban goes with an approval. -/
structure Consistent (row : Row) : Prop where
  one : ∀ worker, row.reviewedBy = some (.automation worker) →
    row.decidedBy = some worker ∧ row.decision.map Decision.status = some row.status
  approved : row.banId ≠ none → row.decision = some .approved

/-- The decision and the ban id are as they were. -/
def Row.Unchanged (row row' : Row) : Prop := row'.decision = row.decision ∧ row'.banId = row.banId

variable (cfg : Config)

/-- **No worker changes the decision or the ban id of a report that has been reviewed, and the row
stays consistent.** -/
def DecidedOnce (s : State) (ev : Event) : Prop :=
  ∀ s', s.step cfg ev = some s' → Consistent s'.row ∧
    ∀ k fate, ev = .work k fate → s.row.status ≠ .pending → s.row.Unchanged s'.row

def Cmd.isOverwrite : Cmd → Bool
  | .overwrite _ _ => true
  | _ => false

/-- **What a finalisation writes without looking it writes to a pending report.** -/
def OverwritesPending (s : State) : Event → Prop
  | .work k fate => ∀ job ∈ s.jobs[k]?, fate ≠ .failed →
      (∃ c ∈ job.rest.next?, c.isOverwrite = true) → s.row.status = .pending
  | _ => True

instance (s : State) : (ev : Event) → Decidable (OverwritesPending s ev)
  | .work k fate => inferInstanceAs (Decidable (∀ job ∈ s.jobs[k]?, fate ≠ .failed →
      (∃ c ∈ job.rest.next?, c.isOverwrite = true) → s.row.status = .pending))
  | .claim _ _ | .crash _ | .review _ | .call _ _ | .ban | .approveRelated | .unban _ =>
      .isTrue trivial

/-! ### The commands of workers and calls -/

/-- A worker reviews with a decision, and names a ban only when it approves. -/
def Cmd.OfWorker : Cmd → Prop
  | .review decision banId => decision ≠ .escalate ∧ (banId ≠ none → decision = .approved)
  | .overwrite decision banId => banId ≠ none → decision = .approved
  | .updateStatus _ | .clearBanId => False
  | _ => True

/-- A call decides on something. -/
def Cmd.OfCall : Cmd → Prop
  | .updateStatus status => status ≠ .pending
  | .review _ _ | .overwrite _ _ | .markFailed _ => False
  | _ => True

theorem all_rollback (banId : Option BanId) : (rollback banId).All Cmd.OfWorker := by
  cases banId with
  | none => trivial
  | some id =>
      refine ⟨trivial, fun reply => ?_⟩
      rcases reply with _ | _ | _
      · trivial
      · trivial
      · exact ⟨trivial, fun _ => trivial⟩

theorem all_finalizeReview {decision : Decision} {banId : Option BanId}
    (hdecision : decision ≠ .escalate) (hban : banId ≠ none → decision = .approved) :
    (finalizeReview decision banId).All Cmd.OfWorker := by
  refine ⟨⟨hdecision, hban⟩, fun reply => ?_⟩
  rcases reply with _ | _ | _
  · exact all_rollback banId
  · exact ⟨hban, fun _ => all_rollback banId⟩
  · trivial

theorem all_processSingleReport (hasTarget : Bool) (verdict : Verdict) :
    (processSingleReport hasTarget verdict).All Cmd.OfWorker := by
  cases verdict with
  | failed retryable => exact ⟨trivial, fun _ => trivial⟩
  | decided decision =>
      cases decision with
      | approved =>
          cases hasTarget with
          | false => exact all_finalizeReview (by decide) fun _ => rfl
          | true =>
              refine ⟨trivial, fun reply => ?_⟩
              rcases reply with _ | result
              · exact ⟨trivial, fun _ => trivial⟩
              · refine ⟨trivial, fun reply => ?_⟩
                rcases reply with _ | _
                · exact ⟨trivial, fun _ => trivial⟩
                · exact all_finalizeReview (by decide) fun _ => rfl
      | rejected => exact all_finalizeReview (by decide) fun h => absurd rfl h
      | escalate => exact ⟨fun h => absurd rfl h, fun _ => trivial⟩

theorem all_clearReference : clearReference.All Cmd.OfCall := by
  refine ⟨trivial, fun reply => ?_⟩
  rcases reply with _ | _ <;> trivial

theorem all_updateReport {status : Status} (h : status ≠ .pending) :
    (updateReport status).All Cmd.OfCall := by
  refine ⟨trivial, fun reply => ?_⟩
  rcases reply with _ | existing
  · trivial
  · simp only [afterRead]
    split
    · trivial
    · refine ⟨h, fun reply => ?_⟩
      rcases reply with _ | _ | _
      · trivial
      · trivial
      · simp only [afterUpdateStatus]
        split
        · trivial
        · refine ⟨trivial, fun reply => ?_⟩
          rcases reply with _ | _ | _
          · trivial
          · exact all_clearReference
          · refine ⟨trivial, fun reply => ?_⟩
            rcases reply with _ | _
            · trivial
            · exact all_clearReference

/-! ### The row stays consistent -/

structure Orderly (s : State) : Prop where
  row : Consistent s.row
  unreviewed : s.row.status = .pending → s.row.reviewedBy = none
  jobs : ∀ job ∈ s.jobs, job.rest.All Cmd.OfWorker
  calls : ∀ call ∈ s.calls, call.rest.All Cmd.OfCall

variable {cfg} {s s' : State}

theorem orderly_start (hasTarget : Bool) : Orderly (.start hasTarget) where
  row :=
    { one := fun _ h => by cases h
      approved := fun h => absurd rfl h }
  unreviewed _ := rfl
  jobs _ h := by cases h
  calls _ h := by cases h

theorem Consistent.decide_pending {row : Row} (h : row.reviewedBy = none) {worker : ℕ}
    {decision : Decision} {banId : Option BanId} (hban : banId ≠ none → decision = .approved) :
    Consistent (row.decide worker decision banId) where
  one n hn := by
    have hsome : row.reviewedBy = some (.automation n) := hn
    rw [h] at hsome
    cases hsome
  approved hb := congrArg some (hban hb)

/-- A review by a worker. -/
theorem Consistent.reviewed (row : Row) {worker : ℕ} {decision : Decision} {banId : Option BanId}
    (hban : banId ≠ none → decision = .approved) : Consistent
      { row.decide worker decision banId with
        status := decision.status, reviewedBy := some (.automation worker) } where
  one n hn := by
    obtain rfl : worker = n := by simpa using hn
    exact ⟨rfl, rfl⟩
  approved hb := congrArg some (hban hb)

/-- A review by a moderator. -/
theorem Consistent.moderated {row : Row} (h : Consistent row) (status : Status) (call : ℕ) :
    Consistent { row with status := status, reviewedBy := some (.moderator call) } where
  one _ hn := by cases hn
  approved := h.approved

namespace Orderly

section Commands

variable (h : Orderly s)
include h

variable (cfg) in
/-- What a command of a worker does to the row, and to what a worker must not change. -/
theorem exec_ofWorker {c : Cmd} (hc : c.OfWorker)
    (hpending : c.isOverwrite = true → s.row.status = .pending) (number : ℕ) :
    Consistent (s.exec cfg number c).2.row ∧
      ((s.exec cfg number c).2.row.status = .pending →
        (s.exec cfg number c).2.row.reviewedBy = none) ∧
      (s.row.status ≠ .pending → s.row.Unchanged (s.exec cfg number c).2.row) := by
  obtain ⟨hrow, hnone, -, -⟩ := h
  cases c with
  | createBan =>
      simp only [State.exec]
      split <;> exact ⟨hrow, hnone, fun _ => ⟨rfl, rfl⟩⟩
  | review decision banId =>
      obtain ⟨hdecision, hban⟩ := hc
      simp only [State.exec]
      split
      · rename_i hpend
        refine ⟨Consistent.reviewed _ hban, fun hstatus => ?_, fun hne => absurd hpend hne⟩
        cases decision with
        | approved | rejected => cases hstatus
        | escalate => exact absurd rfl hdecision
      · exact ⟨hrow, hnone, fun _ => ⟨rfl, rfl⟩⟩
  | overwrite decision banId =>
      have hpend := hpending rfl
      exact ⟨.decide_pending (hnone hpend) hc, hnone, fun hne => absurd hpend hne⟩
  | markFailed retryable =>
      exact ⟨⟨hrow.one, hrow.approved⟩, hnone, fun _ => ⟨rfl, rfl⟩⟩
  | deleteBan id =>
      simp only [State.exec]
      split <;> exact ⟨hrow, hnone, fun _ => ⟨rfl, rfl⟩⟩
  | updateStatus | clearBanId => exact absurd hc id
  | propagateBan | propagateUnban | read => exact ⟨hrow, hnone, fun _ => ⟨rfl, rfl⟩⟩

variable (cfg) in
/-- What a command of a call does to the row. -/
theorem exec_ofCall {c : Cmd} (hc : c.OfCall) (number : ℕ) :
    Consistent (s.exec cfg number c).2.row ∧
      ((s.exec cfg number c).2.row.status = .pending →
        (s.exec cfg number c).2.row.reviewedBy = none) := by
  obtain ⟨hrow, hnone, -, -⟩ := h
  cases c with
  | createBan =>
      simp only [State.exec]
      split <;> exact ⟨hrow, hnone⟩
  | deleteBan id =>
      simp only [State.exec]
      split <;> exact ⟨hrow, hnone⟩
  | updateStatus status =>
      simp only [State.exec]
      split
      · exact ⟨hrow.moderated status number, fun hstatus => absurd hstatus hc⟩
      · exact ⟨hrow, hnone⟩
  | clearBanId => exact ⟨⟨hrow.one, fun hne => absurd rfl hne⟩, hnone⟩
  | review | overwrite | markFailed => exact absurd hc id
  | propagateBan | propagateUnban | read => exact ⟨hrow, hnone⟩

end Commands

theorem dropJobs (h : Orderly s) {jobs : List Job} (hsub : ∀ job ∈ jobs, job ∈ s.jobs) :
    Orderly { s with jobs := jobs } where
  row := h.row
  unreviewed := h.unreviewed
  jobs job hjob := h.jobs job (hsub job hjob)
  calls := h.calls

variable (cfg) in
/-- A step of a worker. -/
theorem work (h : Orderly s) {k : ℕ} {job : Job} (hjob : s.jobs[k]? = some job) {fate : Fate}
    (hok : OverwritesPending s (.work k fate)) : Orderly (s.work cfg k job fate) ∧
      (s.row.status ≠ .pending → s.row.Unchanged (s.work cfg k job fate).row) := by
  have hmem := List.mem_of_getElem? hjob
  have hall := h.jobs job hmem
  have hjobs : ∀ job' ∈ (s.work cfg k job fate).jobs, job'.rest.All Cmd.OfWorker := by
    intro job' hjob'
    rcases State.mem_jobs_work hjob' with hold | ⟨c, next, reply, hrest, hrest'⟩
    · exact h.jobs job' hold
    · rw [hrest] at hall
      exact hrest' ▸ hall.2 reply
  have hcalls : ∀ call ∈ (s.work cfg k job fate).calls, call.rest.All Cmd.OfCall := by
    rw [State.calls_work]
    exact h.calls
  rcases s.work_cases cfg k job fate with hend | ⟨c, next, hrest, ⟨-, hfail⟩ | ⟨hfate, _, heff⟩⟩
  · have hrow : (s.work cfg k job fate).row = s.row := by rw [hend]
    exact ⟨⟨hrow ▸ h.row, hrow ▸ h.unreviewed, hjobs, hcalls⟩, fun _ => hrow ▸ ⟨rfl, rfl⟩⟩
  · have hrow : (s.work cfg k job fate).row = s.row := by rw [hfail]
    exact ⟨⟨hrow ▸ h.row, hrow ▸ h.unreviewed, hjobs, hcalls⟩, fun _ => hrow ▸ ⟨rfl, rfl⟩⟩
  · have hrow : (s.work cfg k job fate).row = (s.exec cfg job.number c).2.row := by rw [heff]
    rw [hrest] at hall
    have hpending : c.isOverwrite = true → s.row.status = .pending :=
      fun hover => hok job hjob hfate ⟨c, by rw [hrest]; rfl, hover⟩
    obtain ⟨hcons, hnone, hkept⟩ := h.exec_ofWorker cfg hall.1 hpending job.number
    exact ⟨⟨hrow ▸ hcons, hrow ▸ hnone, hjobs, hcalls⟩, fun hne => hrow ▸ hkept hne⟩

/-- A step of a call. -/
theorem callNext (h : Orderly s) {k : ℕ} {call : Call} (hcall : s.calls[k]? = some call)
    (fate : Fate) : Orderly (s.callNext cfg k call fate) := by
  have hall := h.calls call (List.mem_of_getElem? hcall)
  have hcalls : ∀ call' ∈ (s.callNext cfg k call fate).calls, call'.rest.All Cmd.OfCall := by
    intro call' hcall'
    rcases State.mem_calls_callNext hcall' with hold | ⟨c, next, reply, hrest, hrest'⟩
    · exact h.calls call' hold
    · rw [hrest] at hall
      exact hrest' ▸ hall.2 reply
  have hjobs : ∀ job ∈ (s.callNext cfg k call fate).jobs, job.rest.All Cmd.OfWorker := by
    rw [State.jobs_callNext]
    exact h.jobs
  rcases s.callNext_cases cfg k call fate with
    ⟨_, hend⟩ | ⟨c, next, hrest, ⟨-, _, hfail⟩ | ⟨-, _, heff⟩⟩
  · have hrow : (s.callNext cfg k call fate).row = s.row := by rw [hend]
    exact ⟨hrow ▸ h.row, hrow ▸ h.unreviewed, hjobs, hcalls⟩
  · have hrow : (s.callNext cfg k call fate).row = s.row := by rw [hfail]
    exact ⟨hrow ▸ h.row, hrow ▸ h.unreviewed, hjobs, hcalls⟩
  · have hrow : (s.callNext cfg k call fate).row = (s.exec cfg call.number c).2.row := by rw [heff]
    rw [hrest] at hall
    obtain ⟨hcons, hnone⟩ := h.exec_ofCall cfg hall.1 call.number
    exact ⟨hrow ▸ hcons, hrow ▸ hnone, hjobs, hcalls⟩

/-- **The row stays consistent**, step by step, and a report that has been reviewed keeps its
decision and its ban id. -/
theorem step (h : Orderly s) {ev : Event} (hok : OverwritesPending s ev)
    (hs : s.step cfg ev = some s') : Orderly s' ∧
      ∀ k fate, ev = .work k fate → s.row.status ≠ .pending → s.row.Unchanged s'.row := by
  cases ev with
  | claim now verdict =>
      simp only [State.step] at hs
      split at hs
      · cases hs
        refine ⟨⟨⟨h.row.one, h.row.approved⟩, h.unreviewed, ?_, h.calls⟩, fun _ _ heq => by cases heq⟩
        intro job hjob
        rcases List.mem_append.1 hjob with hold | hnew
        · exact h.jobs job hold
        · rw [List.mem_singleton.1 hnew]
          exact all_processSingleReport s.hasTarget verdict
      · cases hs
  | work k fate =>
      obtain ⟨job, hjob, rfl⟩ := Option.map_eq_some_iff.1 hs
      obtain ⟨horderly, hkept⟩ := h.work cfg hjob hok
      exact ⟨horderly, fun _ _ _ => hkept⟩
  | crash k =>
      cases hs
      exact ⟨h.dropJobs fun job hjob => List.mem_of_mem_eraseIdx hjob, fun _ _ heq => by cases heq⟩
  | review status =>
      simp only [State.step] at hs
      split at hs
      · cases hs
      · rename_i hne
        cases hs
        refine ⟨⟨h.row, h.unreviewed, h.jobs, ?_⟩, fun _ _ heq => by cases heq⟩
        intro call hcall
        rcases List.mem_append.1 hcall with hold | hnew
        · exact h.calls call hold
        · rw [List.mem_singleton.1 hnew]
          exact all_updateReport hne
  | call k fate =>
      obtain ⟨call, hcall, rfl⟩ := Option.map_eq_some_iff.1 hs
      exact ⟨h.callNext hcall fate, fun _ _ heq => by cases heq⟩
  | ban =>
      cases hs
      exact ⟨⟨h.row, h.unreviewed, h.jobs, h.calls⟩, fun _ _ heq => by cases heq⟩
  | approveRelated =>
      simp only [State.step] at hs
      split at hs
      · cases hs
        refine ⟨⟨h.row.moderated _ _, fun hstatus => ?_, h.jobs, h.calls⟩, fun _ _ heq => by cases heq⟩
        cases hstatus
      · cases hs
  | unban id =>
      cases hs
      exact ⟨⟨h.row, h.unreviewed, h.jobs, h.calls⟩, fun _ _ heq => by cases heq⟩

end Orderly

section TakenOver

/-- Three attempts, and a claim that is stale after five minutes. -/
theorem fiveMinutes_attempts : 0 < 3 := by decide

def fiveMinutes : Config := ⟨3, 300, fiveMinutes_attempts⟩

/-- A worker escalates the report; another one approves it, with a ban. -/
def oneAfterTheOther : List Event :=
  [.claim 0 (.failed true), .work 0 .answered, .work 0 .answered, .claim 100 (.decided .approved),
    .work 0 .answered, .work 0 .answered, .work 0 .answered]

/-- A worker is taken over; the other one approves the report, and then the first rejects it. -/
def takenOver : List Event :=
  [.claim 0 (.decided .rejected), .claim 400 (.decided .approved), .work 1 .answered,
    .work 1 .answered, .work 1 .answered, .work 0 .answered]

end TakenOver

end Automod
