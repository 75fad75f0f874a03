/-
**Auto-moderation of a report.**

Workers claim a report, have it assessed, and write a decision into its row.  When the decision is to
approve, the reported user is banned first, in a transaction of its own, and the row gets the id of
the ban; a ban that the row does not take is rolled back.  A claim that has not been finished for some
time may be taken over.  Meanwhile a moderator may review the report, also one that automation has
reviewed, and rejecting one that was approved lifts its ban.

One report is looked at, with the bans of the reported user, and with any number of workers and of
moderators' calls side by side.  The workers, and the calls, are numbered.

Main definitions:

* `Automod.Row`, `Automod.Ban` — the row of the report, and bans;
* `Automod.processSingleReport` — **what a worker does with the report**;
* `Automod.updateReport` — **a moderator's review**;
* `Automod.State.step` — claims, and the steps of workers and calls with what may fail in them.

Main results:

* `Automod.State.work_cases`, `Automod.State.callNext_cases` — what a step of a worker, or of a call,
  does.
-/

import Mathlib.Data.List.Basic
import Mathlib.Order.Nat
import Pairline.Program
import Pairline.Transition

set_option relaxedAutoImplicit false
set_option autoImplicit false

namespace Automod

open Program (Fate)

/-! ### Rows -/

inductive Status
  | pending
  | approved
  | rejected
  deriving DecidableEq

inductive AutoState
  | pending
  | processing
  | failed
  | completed
  deriving DecidableEq

inductive Decision
  | approved
  | rejected
  | escalate
  deriving DecidableEq

/-- Who has reviewed the report: automation, in the person of a worker, or a moderator in a call. -/
inductive Reviewer
  | automation (worker : ℕ)
  | moderator (call : ℕ)
  deriving DecidableEq

/-- `reviewed_by_username` is the reviewer name of automation. -/
def Reviewer.isAutomation : Reviewer → Bool
  | .automation _ => true
  | .moderator _ => false

abbrev BanId := ℕ

structure Row where
  status : Status
  reviewedBy : Option Reviewer
  autoState : AutoState
  decision : Option Decision
  banId : Option BanId
  attempts : ℕ
  claimedAt : Option ℕ
  /-- The worker that wrote the decision and the ban id. -/
  decidedBy : Option ℕ

def Row.byAutomation (row : Row) : Bool := row.reviewedBy.any Reviewer.isAutomation

/-- A ban of the reported user. -/
structure Ban where
  id : BanId
  byAutomation : Bool
  isActive : Bool

/-- Settings; at least one attempt is made. -/
structure Config where
  maxAttempts : ℕ
  claimTimeout : ℕ
  maxAttempts_pos : 0 < maxAttempts

/-! ### Commands -/

inductive Cmd
  /-- The transaction of `CreateOrRefreshBan`. -/
  | createBan
  | propagateBan (id : BanId)
  /-- The update of a finalisation that expects the report to be pending. -/
  | review (decision : Decision) (banId : Option BanId)
  /-- The update of a finalisation that does not. -/
  | overwrite (decision : Decision) (banId : Option BanId)
  | markFailed (retryable : Bool)
  /-- The transaction of `DeleteBan`. -/
  | deleteBan (id : BanId)
  | propagateUnban (id : BanId)
  | read
  | updateStatus (status : Status)
  | clearBanId
  deriving DecidableEq

/-- The id of a ban, and whether it was there before. -/
structure CreateBanResult where
  id : BanId
  alreadyBanned : Bool

def Cmd.Reply : Cmd → Type
  | .createBan => CreateBanResult
  -- whether a row was affected, or found
  | .review _ _ | .updateStatus _ | .deleteBan _ => Bool
  | .read => Row
  | _ => Unit

inductive StoreError
  | failed

abbrev Prog (α : Type) := Program Cmd.Reply StoreError α

/-! ### A worker -/

/-- What the assessment of a report comes to. -/
inductive Verdict
  | decided (decision : Decision)
  | failed (retryable : Bool)
  deriving DecidableEq

def markFailure (retryable : Bool) : Prog Unit := .call (.markFailed retryable) fun _ => .ret ()

/-- `DeleteBan`; the error of a rollback is ignored. -/
def rollbackAutomaticBan (id : BanId) : Prog Unit :=
  .call (.deleteBan id) fun
    | .ok true => .call (.propagateUnban id) fun _ => .ret ()
    | _ => .ret ()

def rollback : Option BanId → Prog Unit
  | none => .ret ()
  | some id => rollbackAutomaticBan id

def afterReview (decision : Decision) (banId : Option BanId) : Except StoreError Bool → Prog Unit
  | .error _ => rollback banId
  | .ok true => .ret ()
  | .ok false => .call (.overwrite decision banId) fun _ => rollback banId

/-- `finalizeDecision` with a review, and what `completeApprovedReport` does after it. -/
def finalizeReview (decision : Decision) (banId : Option BanId) : Prog Unit :=
  .call (.review decision banId) (afterReview decision banId)

def afterCreateBan : Except StoreError CreateBanResult → Prog Unit
  | .error _ => markFailure true
  | .ok result => .call (.propagateBan result.id) fun
      -- the ban is there, but its id is dropped with the error
      | .error _ => markFailure true
      | .ok _ => finalizeReview .approved (if result.alreadyBanned then none else some result.id)

/-- A report that names neither a session nor an address is approved without a ban. -/
def completeApprovedReport (hasTarget : Bool) : Prog Unit :=
  if hasTarget then .call .createBan afterCreateBan else finalizeReview .approved none

def escalate : Prog Unit := .call (.overwrite .escalate none) fun _ => .ret ()

/-- **What a worker does with the report**, once it knows what the assessment comes to. -/
def processSingleReport (hasTarget : Bool) : Verdict → Prog Unit
  | .failed retryable => markFailure retryable
  | .decided .approved => completeApprovedReport hasTarget
  | .decided .rejected => finalizeReview .rejected none
  | .decided .escalate => escalate

/-! ### A moderator -/

inductive Response
  | updated
  | conflict
  | failed
  deriving DecidableEq

/-- The reference to a ban that has been lifted is cleared. -/
def clearReference : Prog Response :=
  .call .clearBanId fun
    | .error _ => .ret .failed
    | .ok _ => .ret .updated

/-- `DeleteBan`; that there is no such ban any more is no error. -/
def afterDeleteBan (id : BanId) : Except StoreError Bool → Prog Response
  | .error _ => .ret .failed
  | .ok false => clearReference
  | .ok true => .call (.propagateUnban id) fun
      | .error _ => .ret .failed
      | .ok _ => clearReference

/-- The ban that a rejection lifts, by the row as it was read. -/
def Row.liftedBan (existing : Row) (status : Status) : Option BanId :=
  if existing.byAutomation ∧ existing.status = .approved ∧ status = .rejected then existing.banId
  else none

def afterUpdateStatus (existing : Row) (status : Status) : Except StoreError Bool → Prog Response
  | .error _ => .ret .failed
  | .ok false => .ret .conflict
  | .ok true =>
      match existing.liftedBan status with
      | none => .ret .updated
      | some id => .call (.deleteBan id) (afterDeleteBan id)

def afterRead (status : Status) : Except StoreError Row → Prog Response
  | .error _ => .ret .failed
  | .ok existing =>
      if existing.status ≠ .pending ∧ ¬ existing.byAutomation then .ret .conflict
      else .call (.updateStatus status) (afterUpdateStatus existing status)

/-- **A moderator's review**: the row is read, updated, and, when a report that automation has
approved is rejected, the ban that the row had is lifted. -/
def updateReport (status : Status) : Prog Response := .call .read (afterRead status)

/-! ### Runs -/

/-- A worker that holds the report, and the ban that it has created and not handed on. -/
structure Job where
  number : ℕ
  rest : Prog Unit
  hand : Option BanId

/-- A moderator's call, and the row as it has read it. -/
structure Call where
  number : ℕ
  status : Status
  rest : Prog Response
  existing : Option Row

structure State where
  /-- The report names a session or an address. -/
  hasTarget : Bool
  row : Row
  bans : List Ban
  jobs : List Job
  calls : List Call
  /-- How often the report has been claimed. -/
  claims : ℕ
  /-- How many calls there have been. -/
  callCount : ℕ
  /-- A call has replied that the report is rejected. -/
  rejectionReplied : Bool

inductive Event
  | claim (now : ℕ) (verdict : Verdict)
  | work (k : ℕ) (fate : Fate)
  | crash (k : ℕ)
  | review (status : Status)
  | call (k : ℕ) (fate : Fate)
  /-- A moderator bans the user. -/
  | ban
  /-- … which also approves the reports of the user that are pending. -/
  | approveRelated
  /-- A ban expires, or is lifted. -/
  | unban (id : BanId)

variable (cfg : Config)

/-- A report as the ingestion stores it. -/
def Row.new : Row := ⟨.pending, none, .pending, none, none, 0, none, none⟩

/-- The selection of `claimReports`. -/
def Row.claimable (row : Row) (now : ℕ) : Bool :=
  row.status = .pending ∧
    (row.autoState = .pending ∨
      (row.autoState = .processing ∧ ∃ t ∈ row.claimedAt, t + cfg.claimTimeout < now) ∨
      (row.autoState = .failed ∧ row.attempts < cfg.maxAttempts))

def Row.claimed (row : Row) (now : ℕ) : Row :=
  { row with autoState := .processing, claimedAt := some now, attempts := row.attempts + 1 }

/-- The fields that every finalisation writes. -/
def Row.decide (row : Row) (worker : ℕ) (decision : Decision) (banId : Option BanId) : Row :=
  { row with
    autoState := .completed
    decision := some decision
    banId := banId
    claimedAt := none
    decidedBy := some worker }

/-- The status that a finalisation with a review gives the report. -/
def Decision.status : Decision → Status
  | .approved => .approved
  | .rejected => .rejected
  | .escalate => .pending

def Row.fail (row : Row) (retryable : Bool) : Row :=
  { row with
    autoState := .failed
    claimedAt := none
    attempts := if retryable then row.attempts else cfg.maxAttempts }

namespace State

def start (hasTarget : Bool) : State := ⟨hasTarget, .new, [], [], [], 0, 0, false⟩

/-- The number of the next ban. -/
def freshBan (s : State) : BanId := s.bans.length

def deactivate (s : State) (id : BanId) : State :=
  { s with bans := s.bans.map fun ban => if ban.id = id then { ban with isActive := false } else ban }

/-- The effect of a command of the worker, or the call, with a number. -/
def exec (number : ℕ) (c : Cmd) (s : State) : c.Reply × State :=
  match c with
  | .createBan =>
      match s.bans.reverse.find? Ban.isActive with
      | some ban => (⟨ban.id, true⟩, s)
      | none => (⟨s.freshBan, false⟩, { s with bans := s.bans ++ [⟨s.freshBan, true, true⟩] })
  | .propagateBan _ => ((), s)
  | .review decision banId =>
      if s.row.status = .pending then
        (true, { s with row :=
          { s.row.decide number decision banId with
            status := decision.status, reviewedBy := some (.automation number) } })
      else (false, s)
  | .overwrite decision banId => ((), { s with row := s.row.decide number decision banId })
  | .markFailed retryable => ((), { s with row := s.row.fail cfg retryable })
  | .deleteBan id =>
      if s.bans.any fun ban => ban.id = id ∧ ban.isActive then (true, s.deactivate id) else (false, s)
  | .propagateUnban _ => ((), s)
  | .read => (s.row, s)
  | .updateStatus status =>
      if s.row.status = .pending ∨ s.row.byAutomation then
        (true, { s with row :=
          { s.row with status := status, reviewedBy := some (.moderator number) } })
      else (false, s)
  | .clearBanId => ((), { s with row := { s.row with banId := none } })

/-- The ban in the hand of a worker after a command was answered: one it has created, until it is
recorded in the row or rolled back. -/
def handAfter (hand : Option BanId) : (c : Cmd) → c.Reply → Option BanId
  | .createBan, result => if result.alreadyBanned then hand else some result.id
  | .review _ _, true => none
  | .deleteBan _, _ => none
  | _, _ => hand

/-- The next command of a worker, or its end. -/
def work (s : State) (k : ℕ) (job : Job) (fate : Fate) : State :=
  match job.rest with
  | .ret _ => { s with jobs := s.jobs.eraseIdx k }
  | .call c next =>
      let (rest, s') := Program.afterCommand (exec cfg job.number) .failed c next s fate
      let hand := match fate with
        | .answered => handAfter job.hand c (exec cfg job.number c s).1
        | _ => job.hand
      { s' with jobs := s.jobs.set k { job with rest := rest, hand := hand } }

/-- The next command of a call, or its reply. -/
def callNext (s : State) (k : ℕ) (call : Call) (fate : Fate) : State :=
  match call.rest with
  | .ret response =>
      { s with
        calls := s.calls.eraseIdx k
        rejectionReplied :=
          s.rejectionReplied || decide (response = .updated ∧ call.status = .rejected) }
  | .call c next =>
      let (rest, s') := Program.afterCommand (exec cfg call.number) .failed c next s fate
      let existing := match c, fate with
        | .read, .answered => some s.row
        | _, _ => call.existing
      { s' with calls := s.calls.set k { call with rest := rest, existing := existing } }

/-- **Claims, and the steps of workers and calls**, one event at a time. -/
def step (s : State) : Event → Option State
  | .claim now verdict =>
      if s.row.claimable cfg now then some { s with
        row := s.row.claimed now
        jobs := s.jobs ++ [⟨s.claims, processSingleReport s.hasTarget verdict, none⟩]
        claims := s.claims + 1 }
      else none
  | .work k fate => (s.jobs[k]?).map fun job => s.work cfg k job fate
  | .crash k => some { s with jobs := s.jobs.eraseIdx k }
  | .review status =>
      if status = .pending then none
      else some { s with
        calls := s.calls ++ [⟨s.callCount, status, updateReport status, none⟩]
        callCount := s.callCount + 1 }
  | .call k fate => (s.calls[k]?).map fun call => s.callNext cfg k call fate
  | .ban => some { s with bans := s.bans ++ [⟨s.freshBan, false, true⟩] }
  | .approveRelated =>
      if s.row.status = .pending then some { s with
        row := { s.row with status := .approved, reviewedBy := some (.moderator s.callCount) }
        callCount := s.callCount + 1 }
      else none
  | .unban id => some (s.deactivate id)

/-! ### What one event does -/

variable {cfg : Config} {s : State} {k : ℕ} {fate : Fate}

variable (cfg) in
/-- A step of a worker is its end, or a command that has failed or has taken effect. -/
theorem work_cases (s : State) (k : ℕ) (job : Job) (fate : Fate) :
    s.work cfg k job fate = { s with jobs := s.jobs.eraseIdx k } ∨
      ∃ c next, job.rest = .call c next ∧
        ((fate = .failed ∧ s.work cfg k job fate =
            { s with jobs := s.jobs.set k { job with rest := next (.error .failed) } }) ∨
          (fate ≠ .failed ∧ ∃ jobs, s.work cfg k job fate =
            { (exec cfg job.number c s).2 with jobs := jobs })) := by
  obtain ⟨number, rest, hand⟩ := job
  cases rest with
  | ret a => exact .inl rfl
  | call c next =>
      refine .inr ⟨c, next, rfl, ?_⟩
      cases fate with
      | answered => exact .inr ⟨by decide, _, rfl⟩
      | failed => exact .inl ⟨rfl, rfl⟩
      | lost => exact .inr ⟨by decide, _, rfl⟩

variable (cfg) in
/-- A step of a call is its reply, or a command that has failed or has taken effect. -/
theorem callNext_cases (s : State) (k : ℕ) (call : Call) (fate : Fate) :
    (∃ replied, s.callNext cfg k call fate =
        { s with calls := s.calls.eraseIdx k, rejectionReplied := replied }) ∨
      ∃ c next, call.rest = .call c next ∧
        ((fate = .failed ∧ ∃ calls, s.callNext cfg k call fate = { s with calls := calls }) ∨
          (fate ≠ .failed ∧ ∃ calls, s.callNext cfg k call fate =
            { (exec cfg call.number c s).2 with calls := calls })) := by
  obtain ⟨number, status, rest, existing⟩ := call
  cases rest with
  | ret response => exact .inl ⟨_, rfl⟩
  | call c next =>
      refine .inr ⟨c, next, rfl, ?_⟩
      cases fate with
      | answered => exact .inr ⟨by decide, _, rfl⟩
      | failed => exact .inl ⟨rfl, _, rfl⟩
      | lost => exact .inr ⟨by decide, _, rfl⟩

variable (cfg) in
/-- A command changes neither the workers nor the calls. -/
theorem exec_jobs (number : ℕ) (c : Cmd) : (s.exec cfg number c).2.jobs = s.jobs := by
  cases c <;> first | rfl | (simp only [exec]; split <;> rfl)

theorem exec_calls (number : ℕ) (c : Cmd) : (s.exec cfg number c).2.calls = s.calls := by
  cases c <;> first | rfl | (simp only [exec]; split <;> rfl)

variable (cfg) in
theorem exec_replied (number : ℕ) (c : Cmd) :
    (s.exec cfg number c).2.rejectionReplied = s.rejectionReplied := by
  cases c <;> first | rfl | (simp only [exec]; split <;> rfl)

variable (cfg) in
theorem calls_work (s : State) (k : ℕ) (job : Job) (fate : Fate) :
    (s.work cfg k job fate).calls = s.calls := by
  rcases s.work_cases cfg k job fate with hend | ⟨c, next, -, ⟨-, hfail⟩ | ⟨-, jobs, heff⟩⟩
  · rw [hend]
  · rw [hfail]
  · rw [heff]
    exact exec_calls job.number c

theorem jobs_callNext (s : State) (k : ℕ) (call : Call) (fate : Fate) :
    (s.callNext cfg k call fate).jobs = s.jobs := by
  rcases s.callNext_cases cfg k call fate with
    ⟨_, hend⟩ | ⟨c, next, -, ⟨-, calls, hfail⟩ | ⟨-, calls, heff⟩⟩
  · rw [hend]
  · rw [hfail]
  · rw [heff]
    exact exec_jobs cfg call.number c

/-- After a step of a worker, each worker is as it was, or goes on after its command. -/
theorem mem_jobs_work {job job' : Job} (h : job' ∈ (s.work cfg k job fate).jobs) :
    job' ∈ s.jobs ∨ ∃ c next reply, job.rest = .call c next ∧ job'.rest = next reply := by
  obtain ⟨number, rest, hand⟩ := job
  cases rest with
  | ret a => exact .inl (List.mem_of_mem_eraseIdx h)
  | call c next =>
      cases fate <;>
      · rcases List.mem_or_eq_of_mem_set h with hold | rfl
        · exact .inl hold
        · exact .inr ⟨c, next, _, rfl, rfl⟩

theorem mem_calls_callNext {call call' : Call} (h : call' ∈ (s.callNext cfg k call fate).calls) :
    call' ∈ s.calls ∨ ∃ c next reply, call.rest = .call c next ∧ call'.rest = next reply := by
  obtain ⟨number, status, rest, existing⟩ := call
  cases rest with
  | ret a => exact .inl (List.mem_of_mem_eraseIdx h)
  | call c next =>
      cases fate <;>
      · rcases List.mem_or_eq_of_mem_set h with hold | rfl
        · exact .inl hold
        · exact .inr ⟨c, next, _, rfl, rfl⟩

end State

end Automod
