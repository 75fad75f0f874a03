/-
**Who holds a reservation, and who gives it back.**

The start of a bot takes a slot and asks the supervisor of its node for a worker; when none comes up,
the start gives the slot back, and otherwise `terminate` of the worker does.  The workers are
permanent children: whatever a worker ends with, its supervisor runs `init` again, which needs no
slot.  A worker that comes up again has none if the first one has terminated, and a worker that was
killed keeps its slot for good unless it comes up again.

Main definitions:

* `Bots.Job`, `Bots.Workers` — starts with their reservations, workers and supervisors;
* `Bots.Workers.step` — starts, exits and restarts;
* `Bots.ReservationOwnership` — the law, in all schedules whose steps meet a condition;
* `Bots.Accountable` — a restart brings up exactly the workers that have kept their reservation.

Main results:

* `Bots.accounted_step_iff` — **a step keeps the accounts exactly when it is accountable**;
* `Bots.restart_without_reservation` — a worker comes up again after it has given back its slot;
* `Bots.reservationOwnership_of_accountable` — **otherwise every worker holds its reservation, and it
  is released once**.
-/

import Pairline.Bots.Slots
import Pairline.Transition

set_option relaxedAutoImplicit false
set_option autoImplicit false

namespace Bots

open ExpiringCounter Transition

/-! ### Starts, workers and supervisors -/

abbrev Node := ℕ

/-- How far a start has come: the supervisor is still to be asked, the worker runs, it has exited and
its supervisor has not heard of it yet, and nothing is left of it. -/
inductive Phase
  | starting
  | running
  | exited
  | ended
  deriving DecidableEq

/-- **A start that has taken a reservation**, and how often the reservation was released. -/
structure Job where
  node : Node
  definition : Definition
  humanSessionId : String
  phase : Phase
  released : ℕ

structure Workers where
  /-- The clock in milliseconds. -/
  now : ℕ
  counters : Counters String
  /-- The sessions that wait and have no partner. -/
  waiting : String → Bool
  jobs : List Job
  /-- The restarts that a supervisor remembers, in seconds. -/
  restarts : Node → List ℕ

def noWorkers : Workers where
  now := 0
  counters _ := none
  waiting _ := false
  jobs := []
  restarts _ := []

/-- How `init` of a worker fares, apart from the session that it is to be paired with. -/
inductive InitCourse
  | crashes
  | locked
  | goesOn

inductive InitResult
  | ok
  | ignore
  | error
  deriving DecidableEq

/-- How a worker exits.  A timeout or a disconnect stops it, and a callback may raise; in both cases
`terminate` runs.  It does not run when the worker is killed, as the workers trap no exits. -/
inductive Exit
  | stop
  | crash
  | kill

def Exit.terminates : Exit → Bool
  | .kill => false
  | _ => true

inductive WorkerEvent
  /-- Time passes, in milliseconds. -/
  | tick (d : ℕ)
  /-- A session begins to wait, or does not wait any more. -/
  | session (sid : String) (waiting : Bool)
  /-- A start takes a slot, if there is one. -/
  | reserve (node : Node) (definition : Definition) (settings : Settings) (sid : String)
  /-- `start_child` for a start that has a slot. -/
  | startChild (i : ℕ) (course : InitCourse)
  | exit (i : ℕ) (exit : Exit)
  /-- The supervisor hears of an exit, or tries a restart again. -/
  | restart (i : ℕ) (course : InitCourse)

def maxRestarts : ℕ := 3

def maxSeconds : ℕ := 5

/-- `add_restart`: the restarts of the last seconds, with one more. -/
def addRestart (restarts : List ℕ) (now : ℕ) : List ℕ :=
  (now :: restarts).filter fun t => now ≤ t + maxSeconds

namespace Workers

variable (w : Workers)

/-- The end of `init`: the worker is paired with a session that waits, or there is no worker. -/
def init (job : Job) : InitCourse → InitResult
  | .crashes => .error
  | .locked => .ignore
  | .goesOn => if w.waiting job.humanSessionId then .ok else .ignore

/-- The session of a worker that has come up waits no longer. -/
def matched (job : Job) : Workers :=
  { w with waiting := Function.update w.waiting job.humanSessionId false }

def setJob (i : ℕ) (job : Job) : Workers := { w with jobs := w.jobs.set i job }

/-- `release_definition_slot` for a job. -/
def release (i : ℕ) (job : Job) : Workers :=
  { w with
    counters := releaseDefinitionSlot job.definition w.counters
    jobs := w.jobs.set i { job with released := job.released + 1 } }

/-- `start_child`; when no worker comes up, the start gives its slot back. -/
def startChild (i : ℕ) (job : Job) (course : InitCourse) : Workers :=
  match w.init job course with
  | .ok => (w.matched job).setJob i { job with phase := .running }
  | _ => w.release i { job with phase := .ended }

def exitChild (i : ℕ) (job : Job) (exit : Exit) : Workers :=
  if exit.terminates then w.release i { job with phase := .exited }
  else w.setJob i { job with phase := .exited }

/-- The supervisor of a node has restarted too often: it ends all its children at once. -/
def shutDown (node : Node) : Workers :=
  { w with
    restarts := Function.update w.restarts node []
    jobs := w.jobs.map fun job =>
      if job.node = node ∧ (job.phase = .running ∨ job.phase = .exited) then
        { job with phase := .ended }
      else job }

/-- The supervisor of a node has no restarts left. -/
def Exhausted (node : Node) : Prop :=
  maxRestarts < (addRestart (w.restarts node) (w.now / 1000)).length

instance (node : Node) : Decidable (w.Exhausted node) := inferInstanceAs (Decidable (_ < _))

/-- `restart_child`. -/
def restartChild (i : ℕ) (job : Job) (course : InitCourse) : Workers :=
  if w.Exhausted job.node then w.shutDown job.node
  else
    let restarts := addRestart (w.restarts job.node) (w.now / 1000)
    let w' := { w with restarts := Function.update w.restarts job.node restarts }
    match w.init job course with
    | .ok => (w'.matched job).setJob i { job with phase := .running }
    | .ignore => w'.setJob i { job with phase := .ended }
    | .error => w'

/-- **One event.** -/
def step : WorkerEvent → Option Workers
  | .tick d => some { w with now := w.now + d, counters := purge (w.now + d) w.counters }
  | .session sid waiting => some { w with waiting := Function.update w.waiting sid waiting }
  | .reserve node definition settings sid =>
      match reserveDefinitionSlot w.now definition settings w.counters with
      | (.ok, counters) =>
          some { w with
            counters := counters
            jobs := w.jobs ++ [⟨node, definition, sid, .starting, 0⟩] }
      | (_, counters) => some { w with counters := counters }
  | .startChild i course =>
      match w.jobs[i]? with
      | some job => if job.phase = .starting then some (w.startChild i job course) else none
      | none => none
  | .exit i exit =>
      match w.jobs[i]? with
      | some job => if job.phase = .running then some (w.exitChild i job exit) else none
      | none => none
  | .restart i course =>
      match w.jobs[i]? with
      | some job => if job.phase = .exited then some (w.restartChild i job course) else none
      | none => none

end Workers

/-! ### The law -/

/-- **The account of a start**: while its worker runs its reservation is held, it is released at most
once, and it has been released when nothing is left of the worker. -/
structure Job.Accounted (job : Job) : Prop where
  held : job.phase = .running → job.released = 0
  once : job.released ≤ 1
  ended : job.phase = .ended → job.released = 1

/-- **Bot reservation ownership**, in the schedules whose steps meet `ok`: at any time every running
worker holds the reservation of its start, and each reservation is released once, when its worker has
ended. -/
def ReservationOwnership (ok : Workers → WorkerEvent → Prop) : Prop :=
  ∀ events w, Run Workers.step ok noWorkers events w → ∀ job ∈ w.jobs, job.Accounted

/-- **A restart brings up exactly the workers that have kept their reservation**, and a supervisor has
restarts left unless all its children have given theirs back. -/
def Accountable (w : Workers) : WorkerEvent → Prop
  | .restart i course => ∀ job ∈ w.jobs[i]?,
      (w.Exhausted job.node → ∀ other ∈ w.jobs, other.node = job.node →
        other.phase = .running ∨ other.phase = .exited → other.released = 1) ∧
      (¬ w.Exhausted job.node → (w.init job course = .ok → job.released = 0) ∧
        (w.init job course = .ignore → job.released = 1))
  | _ => True

instance (w : Workers) (ev : WorkerEvent) : Decidable (Accountable w ev) := by
  cases ev <;> unfold Accountable <;> infer_instance

/-! ### The accounts -/

/-- The account of a start, and of what it has not come to yet. -/
structure Job.Kept (job : Job) : Prop extends job.Accounted where
  starting : job.phase = .starting → job.released = 0

namespace Workers

variable {w w' : Workers} {i : ℕ} {job : Job}

/-- Every account is kept. -/
def Kept (w : Workers) : Prop := ∀ job ∈ w.jobs, job.Kept

theorem Kept.get (h : w.Kept) (hget : w.jobs[i]? = some job) : job.Kept :=
  h job (List.mem_of_getElem? hget)

/-- One account changes, and the others are kept. -/
theorem kept_set_iff (h : w.Kept) (hget : w.jobs[i]? = some job) {job' : Job} :
    (∀ other ∈ w.jobs.set i job', other.Kept) ↔ job'.Kept := by
  obtain ⟨hi, -⟩ := List.getElem?_eq_some_iff.1 hget
  constructor
  · exact fun hall => hall job' (List.mem_set hi job')
  · intro hjob' other hother
    rcases List.mem_or_eq_of_mem_set hother with hmem | rfl
    · exact h other hmem
    · exact hjob'

theorem kept_reserve (h : w.Kept) {node : Node} {definition : Definition} {settings : Settings}
    {sid : String} (hs : w.step (.reserve node definition settings sid) = some w') : w'.Kept := by
  simp only [step] at hs
  split at hs
  · obtain rfl := Option.some_inj.1 hs
    intro job hjob
    rcases List.mem_append.1 hjob with hjob | hjob
    · exact h job hjob
    · obtain rfl := List.mem_singleton.1 hjob
      exact ⟨⟨nofun, Nat.zero_le 1, nofun⟩, fun _ => rfl⟩
  · obtain rfl := Option.some_inj.1 hs
    exact h

/-- A start that comes to nothing gives its slot back. -/
theorem kept_startChild (h : w.Kept) (hget : w.jobs[i]? = some job) (hphase : job.phase = .starting)
    (course : InitCourse) : (w.startChild i job course).Kept := by
  have hnone := (h.get hget).starting hphase
  unfold startChild
  split
  · refine (kept_set_iff h hget).2 ⟨⟨fun _ => hnone, (h.get hget).once, nofun⟩, nofun⟩
  · refine (kept_set_iff h hget).2 ⟨⟨nofun, ?_, fun _ => ?_⟩, nofun⟩
    · change job.released + 1 ≤ 1
      omega
    · change job.released + 1 = 1
      omega

/-- A worker that terminates releases what it held. -/
theorem kept_exitChild (h : w.Kept) (hget : w.jobs[i]? = some job) (hphase : job.phase = .running)
    (exit : Exit) : (w.exitChild i job exit).Kept := by
  have hnone := (h.get hget).held hphase
  unfold exitChild
  split
  · refine (kept_set_iff h hget).2 ⟨⟨nofun, ?_, nofun⟩, nofun⟩
    change job.released + 1 ≤ 1
    omega
  · exact (kept_set_iff h hget).2 ⟨⟨nofun, (h.get hget).once, nofun⟩, nofun⟩

/-- A supervisor that ends its children must not take a reservation with them. -/
theorem kept_shutDown_iff (h : w.Kept) (node : Node) :
    (w.shutDown node).Kept ↔ ∀ job ∈ w.jobs, job.node = node →
      job.phase = .running ∨ job.phase = .exited → job.released = 1 := by
  constructor
  · intro hall job hjob hnode hphase
    have hended := hall { job with phase := .ended } (List.mem_map.2 ⟨job, hjob, if_pos ⟨hnode, hphase⟩⟩)
    exact hended.ended rfl
  · intro hone other hother
    obtain ⟨job, hjob, rfl⟩ := List.mem_map.1 hother
    split
    next hits =>
        exact ⟨⟨nofun, (h job hjob).once, fun _ => hone job hjob hits.1 hits.2⟩, nofun⟩
    next => exact h job hjob

/-- **A restart keeps the accounts exactly when it is accountable.** -/
theorem kept_restartChild_iff (h : w.Kept) (hget : w.jobs[i]? = some job)
    (course : InitCourse) :
    (w.restartChild i job course).Kept ↔ Accountable w (.restart i course) := by
  have hthis : Accountable w (.restart i course) ↔
      (w.Exhausted job.node → ∀ other ∈ w.jobs, other.node = job.node →
        other.phase = .running ∨ other.phase = .exited → other.released = 1) ∧
      (¬ w.Exhausted job.node → (w.init job course = .ok → job.released = 0) ∧
        (w.init job course = .ignore → job.released = 1)) := by
    simp only [Accountable, hget, Option.mem_some_iff, forall_eq']
  rw [hthis, restartChild]
  split_ifs with hlimit
  · rw [kept_shutDown_iff h]
    exact ⟨fun hall => ⟨fun _ => hall, fun hleft => absurd hlimit hleft⟩, fun hall => hall.1 hlimit⟩
  · dsimp only
    cases hinit : w.init job course with
    | ok =>
        refine (kept_set_iff h hget).trans ⟨fun hkept => ?_, fun hboth => ?_⟩
        · exact ⟨fun hno => absurd hno hlimit, fun _ => ⟨fun _ => hkept.held rfl, nofun⟩⟩
        · exact ⟨⟨fun _ => (hboth.2 hlimit).1 rfl, (h.get hget).once, nofun⟩, nofun⟩
    | ignore =>
        refine (kept_set_iff h hget).trans ⟨fun hkept => ?_, fun hboth => ?_⟩
        · exact ⟨fun hno => absurd hno hlimit, fun _ => ⟨nofun, fun _ => hkept.ended rfl⟩⟩
        · exact ⟨⟨nofun, (h.get hget).once, fun _ => (hboth.2 hlimit).2 rfl⟩, nofun⟩
    | error => exact iff_of_true h ⟨fun hno => absurd hno hlimit, fun _ => ⟨nofun, nofun⟩⟩

end Workers

/-- **A step keeps the accounts exactly when it is accountable.** -/
theorem accounted_step_iff {w w' : Workers} {ev : WorkerEvent} (h : w.Kept)
    (hs : w.step ev = some w') : w'.Kept ↔ Accountable w ev := by
  cases ev with
  | tick d =>
      obtain rfl := Option.some_inj.1 hs
      exact iff_of_true h trivial
  | session sid waiting =>
      obtain rfl := Option.some_inj.1 hs
      exact iff_of_true h trivial
  | reserve node definition settings sid => exact iff_of_true (Workers.kept_reserve h hs) trivial
  | startChild i course =>
      simp only [Workers.step] at hs
      split at hs
      next job hget =>
          obtain ⟨hphase, rfl⟩ := Option.ite_none_right_eq_some.1 hs |>.imp id Option.some_inj.1
          exact iff_of_true (Workers.kept_startChild h hget hphase course) trivial
      next => cases hs
  | exit i exit =>
      simp only [Workers.step] at hs
      split at hs
      next job hget =>
          obtain ⟨hphase, rfl⟩ := Option.ite_none_right_eq_some.1 hs |>.imp id Option.some_inj.1
          exact iff_of_true (Workers.kept_exitChild h hget hphase exit) trivial
      next => cases hs
  | restart i course =>
      simp only [Workers.step] at hs
      split at hs
      next job hget =>
          obtain ⟨-, rfl⟩ := Option.ite_none_right_eq_some.1 hs |>.imp id Option.some_inj.1
          exact Workers.kept_restartChild_iff h hget course
      next => cases hs

/-! ### The exception and the law -/

/-- A definition with one slot. -/
def oneSlot : Definition where
  id := some (.string "bot-1")
  botCount := none
  sessionTTLSeconds := none

/-- The human skips: the worker is told of it and stops, but the human waits again by then. -/
def skippedBot : List WorkerEvent :=
  [.session "h" true, .reserve 0 oneSlot { maxConcurrentRuns := none } "h", .startChild 0 .goesOn,
    .session "h" true, .exit 0 .stop, .restart 0 .goesOn]

/-- **A worker comes up again after it has given back its slot.** -/
theorem restart_without_reservation : ¬ ReservationOwnership Always := by
  intro h
  have hagain : (exec Workers.step noWorkers skippedBot).any (fun w => w.jobs.any fun job =>
      job.phase = .running && job.released = 1) = true := by decide +kernel
  obtain ⟨w, hexec, hw⟩ := Option.any_eq_true _ _ |>.1 hagain
  obtain ⟨job, hjob, hrunning⟩ := List.any_eq_true.1 hw
  simp only [Bool.and_eq_true, decide_eq_true_eq] at hrunning
  have hzero := (h skippedBot w (run_of_exec hexec) job hjob).held hrunning.1
  omega

/-- **When restarts bring up exactly the workers that have kept their reservation, every worker holds
its reservation and it is released once.** -/
theorem reservationOwnership_of_accountable (events : List WorkerEvent) (w : Workers)
    (hrun : Run Workers.step Accountable noWorkers events w) : ∀ job ∈ w.jobs, job.Accounted := by
  intro job hjob
  have hkept : w.Kept := hrun.invariant
    (fun _ _ _ h hok hs => (accounted_step_iff h hs).2 hok) fun _ h => absurd h List.not_mem_nil
  exact (hkept job hjob).toAccounted

/-- The session of the human is gone when the supervisor tries again. -/
def finishedBot : List WorkerEvent :=
  [.session "h" true, .reserve 0 oneSlot { maxConcurrentRuns := none } "h", .startChild 0 .goesOn,
    .tick 300000, .exit 0 .stop, .restart 0 .goesOn]

theorem finishedBot_released : ∃ w, execWhere Workers.step Accountable noWorkers finishedBot = some w ∧
    ∀ job ∈ w.jobs, job.phase = .ended ∧ job.released = 1 := by
  have hall : (execWhere Workers.step Accountable noWorkers finishedBot).any (fun w =>
      w.jobs.all fun job => job.phase = .ended) = true := by decide +kernel
  obtain ⟨w, hexec, hended⟩ := Option.any_eq_true _ _ |>.1 hall
  have haccounts := reservationOwnership_of_accountable finishedBot w (run_of_execWhere hexec)
  refine ⟨w, hexec, fun job hjob => ?_⟩
  have hphase : job.phase = .ended := by simpa using List.all_eq_true.1 hended job hjob
  exact ⟨hphase, (haccounts job hjob).ended hphase⟩

end Bots
