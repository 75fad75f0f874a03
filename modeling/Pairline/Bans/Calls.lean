/-
**The calls that create and delete bans, side by side.**

Each call is a transaction with the commands in Redis after it.  A transaction takes the advisory
locks of its targets one after another, waits while another transaction holds one, and keeps them
until it commits or is rolled back; a statement sees the rows that have been committed when it runs
and what its own transaction wrote.  The advisory lock of a text is the lock of its hash; here
different texts have different locks.

Commits are numbered, and it is recorded for each target which commit was the last to change it and
whose command wrote its key last.  No call reads the numbers.

Main definitions:

* `Bans.Call`, `Bans.Phase`, `Bans.Board` — calls, where they stand, and what they work on;
* `Bans.Board.step` — **a statement, a commit or a command of one call**.

Main results:

* `Bans.proceed_cases`, `Bans.step_cases` — what a call does next, and what one event does.
-/

import Pairline.Bans.Store
import Pairline.Transition

set_option relaxedAutoImplicit false
set_option autoImplicit false

namespace Bans

open Whitespace (trim)

/-! ### Calls -/

/-- What a transaction is about, once that is known. -/
inductive Task
  | create (request : Request)
  | delete (ban : Ban)

/-- What a transaction has done when it is to be committed. -/
inductive Outcome
  | created (ban : Ban)
  | existing (ban : Ban)
  | deleted (ban : Ban) (remainingSessionBan remainingIPBan : Option Ban)

/-- The ban that a call answers with. -/
def Outcome.ban : Outcome → Ban
  | .created ban => ban
  | .existing ban => ban
  | .deleted ban _ _ => ban

/-- The rows after the commit. -/
def Outcome.apply (rows : List Ban) : Outcome → List Ban
  | .created ban => rows ++ [ban]
  | .existing _ => rows
  | .deleted ban _ _ => deactivate rows ban.id

/-- The commands that follow the commit. -/
def Outcome.propagation : Outcome → List Instr
  | .created ban => propagateBan ban
  | .existing ban => propagateBan ban
  | .deleted ban remainingSessionBan remainingIPBan =>
      propagateUnban ban remainingSessionBan remainingIPBan

inductive Phase
  | opening (banIdentifier : String)
  | locking (task : Task) (keys : List String)
  | absent (request : Request)
  | updated (ban : Ban)
  | lookedUp (ban : Ban) (remainingSessionBan : Option Ban)
  | ready (outcome : Outcome)
  | propagating (number : ℕ) (ttl : Option Time) (instrs : List Instr)
  | failed

/-- A call: when it began, the locks that it holds, and where it stands. -/
structure Call where
  now : Time
  held : List String
  phase : Phase

inductive Work
  | create (request : Request)
  | delete (banIdentifier : String)

/-- Where a call begins. -/
def Work.phase : Work → Phase
  | .create request =>
      .locking (.create request) (lockBanTargets request.sessionId request.ipAddress)
  | .delete banIdentifier => .opening banIdentifier

/-- **The database, Redis and the calls.** -/
structure Board where
  now : Time
  rows : List Ban
  redis : Redis
  calls : List Call
  commits : ℕ
  /-- The last commit that changed a target. -/
  changed : Target → ℕ
  /-- The commit whose command wrote the key of a target last. -/
  written : Target → ℕ

inductive CallEvent
  | start (work : Work)
  | advance (i : ℕ) (id : String)
  | abort (i : ℕ)
  | tick (d : ℕ)

/-! ### Steps -/

/-- The row that a transaction has inserted and not committed. -/
def Call.inserted (call : Call) : Option Ban :=
  match call.phase with
  | .ready (.created ban) => some ban
  | _ => none

/-- A call that has not come to its end. -/
def Call.inProgress (call : Call) : Bool :=
  match call.phase with
  | .propagating _ _ [] => false
  | .failed => false
  | _ => true

/-- The key that a command writes or deletes. -/
def Instr.writes : Instr → Option Target
  | .set target _ => some target
  | .del target => some target
  | _ => none

/-- The ban of a target that remains when another is lifted. -/
def remainingBan (rows : List Ban) (ban : Ban) (target : Target) (now : Time) : Option Ban :=
  if target ∈ ban.targets then latestActiveBan (deactivate rows ban.id) target now else none

namespace Board

variable (b : Board)

def setCall (i : ℕ) (call : Call) : Board := { b with calls := b.calls.set i call }

/-- Another call holds the lock. -/
def takenByOther (i : ℕ) (key : String) : Bool :=
  (b.calls.eraseIdx i).any fun call => key ∈ call.held

/-- No row has the id, and none is about to. -/
def unusedId (id : String) : Bool :=
  b.rows.all (fun ban => ban.id ≠ id) && b.calls.all fun call => call.inserted.all fun ban => ban.id ≠ id

/-- A statement of a transaction. -/
def statement (i : ℕ) (call : Call) (id : String) : Option Call :=
  match call.phase with
  | .opening banIdentifier =>
      match findBan b.rows banIdentifier with
      | some ban => some { call with
          phase := .locking (.delete ban) (lockBanTargets ban.sessionId ban.ipAddress) }
      | none => some { call with phase := .failed }
  | .locking task (key :: keys) =>
      if b.takenByOther i key then none
      else some { call with held := key :: call.held, phase := .locking task keys }
  | .locking (.create request) [] =>
      match newest (activeBanLookup b.rows request call.now) with
      | some ban => some { call with phase := .ready (.existing ban) }
      | none => some { call with phase := .absent request }
  | .absent request =>
      if b.unusedId id then
        some { call with phase := .ready (.created (newBan request id call.now)) }
      else none
  | .locking (.delete ban) [] => some { call with phase := .updated ban }
  | .updated ban =>
      some { call with
        phase := .lookedUp ban (remainingBan b.rows ban (.session ban.sessionId) call.now) }
  | .lookedUp ban remainingSessionBan =>
      some { call with
        phase := .ready (.deleted ban remainingSessionBan
          (remainingBan b.rows ban (.ip ban.ipAddress) call.now)) }
  | _ => none

/-- The commit, which gives the locks back. -/
def commit (i : ℕ) (call : Call) (outcome : Outcome) : Board :=
  { b with
    rows := outcome.apply b.rows
    calls := b.calls.set i { call with
      held := []
      phase := .propagating (b.commits + 1) none outcome.propagation }
    commits := b.commits + 1
    changed := fun target =>
      if target ∈ outcome.ban.targets then b.commits + 1 else b.changed target }

/-- A command in Redis. -/
def send (i : ℕ) (call : Call) (number : ℕ) (ttl : Option Time) (instr : Instr)
    (instrs : List Instr) : Board :=
  { b with
    redis := (b.redis.exec b.now ttl instr).1
    calls := b.calls.set i { call with
      phase := .propagating number (b.redis.exec b.now ttl instr).2 instrs }
    written := fun target => if instr.writes = some target then number else b.written target }

/-- **A call goes on.** -/
def proceed (i : ℕ) (call : Call) (id : String) : Option Board :=
  match call.phase with
  | .ready outcome => some (b.commit i call outcome)
  | .propagating number ttl (instr :: instrs) => some (b.send i call number ttl instr instrs)
  | _ => (b.statement i call id).map (b.setCall i)

/-- **One event**: a call begins, goes on or fails, or time passes. -/
def step (b : Board) : CallEvent → Option Board
  | .start work => some { b with calls := b.calls ++ [⟨b.now, [], work.phase⟩] }
  | .advance i id => (b.calls[i]?).bind fun call => b.proceed i call id
  | .abort i => (b.calls[i]?).map fun call => b.setCall i { call with held := [], phase := .failed }
  | .tick d => some { b with now := b.now + d }

end Board

/-- A database without bans, before any call. -/
def emptyBoard (now : Time) : Board where
  now := now
  rows := []
  redis := ⟨fun _ => none, fun _ => false, []⟩
  calls := []
  commits := 0
  changed _ := 0
  written _ := 0

/-! ### What a step does -/

variable {b b' : Board} {i : ℕ} {call : Call} {id : String}

/-- **What the steps of a call are.** -/
theorem proceed_cases (h : b.proceed i call id = some b') :
    (∃ outcome, call.phase = .ready outcome ∧ b' = b.commit i call outcome) ∨
    (∃ number ttl instr instrs, call.phase = .propagating number ttl (instr :: instrs) ∧
      b' = b.send i call number ttl instr instrs) ∨
    ∃ call', b.statement i call id = some call' ∧ b' = b.setCall i call' := by
  unfold Board.proceed at h
  split at h
  next outcome hphase => exact .inl ⟨outcome, hphase, (Option.some_inj.1 h).symm⟩
  next number ttl instr instrs hphase =>
      exact .inr (.inl ⟨number, ttl, instr, instrs, hphase, (Option.some_inj.1 h).symm⟩)
  next =>
      obtain ⟨call', hcall, hb⟩ := Option.map_eq_some_iff.1 h
      exact .inr (.inr ⟨call', hcall, hb.symm⟩)

/-- **What one event does.** -/
theorem step_cases {ev : CallEvent} (h : b.step ev = some b') :
    (∃ work, ev = .start work ∧
      b' = { b with calls := b.calls ++ [⟨b.now, [], work.phase⟩] }) ∨
    (∃ i id call, ev = .advance i id ∧ b.calls[i]? = some call ∧ b.proceed i call id = some b') ∨
    (∃ i call, ev = .abort i ∧ b.calls[i]? = some call ∧
      b' = b.setCall i { call with held := [], phase := .failed }) ∨
    ∃ d : ℕ, ev = .tick d ∧ b' = { b with now := b.now + d } := by
  cases ev with
  | start work => exact .inl ⟨work, rfl, (Option.some_inj.1 h).symm⟩
  | advance i id =>
      obtain ⟨call, hget, hproceed⟩ := Option.bind_eq_some_iff.1 h
      exact .inr (.inl ⟨i, id, call, rfl, hget, hproceed⟩)
  | abort i =>
      obtain ⟨call, hget, hb⟩ := Option.map_eq_some_iff.1 h
      exact .inr (.inr (.inl ⟨i, call, rfl, hget, hb.symm⟩))
  | tick d => exact .inr (.inr (.inr ⟨d, rfl, (Option.some_inj.1 h).symm⟩))

end Bans
