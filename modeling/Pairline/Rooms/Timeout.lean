/-
**Clean-ups that look first and act later.**

The matchmaker times out a session that has waited too long, and the reaper takes sessions that do
not wait out of the queues.  Both read a status, do something else, and then act on what they read,
without the lock of the session.  Meanwhile the session may be matched, or put into a queue again.

It is recorded how much had happened when a status was read, and when a session was put into a queue.
No clean-up reads it.

Main definitions:

* `Rooms.TimeoutBranch`, `Rooms.QueuePass` — a session that is timed out, and a page of a queue;
* `Rooms.CleanUps.step` — **clean-ups, and commands of anybody else in between**;
* `Rooms.CleansSafely` — a session that is timed out has not been matched since it was read, and no
  newer entry of a queue is removed;
* `Rooms.Undisturbing` — no session is matched or queued while a clean-up is about to act on it.

Main results:

* `Rooms.sound_step` — what clean-ups know;
* `Rooms.cleansSafely_of_undisturbing` — **undisturbed clean-ups are safe**;
* `Rooms.matchedSession_timesOut` — a session that has just been matched is timed out.
-/

import Pairline.Rooms.Postconditions

set_option relaxedAutoImplicit false
set_option autoImplicit false

namespace Rooms

open Transition
open Matchmaker (SessionId)
open Sessions (Runtime Session)

/-! ### Clean-ups -/

/-- Where the branch for an expired session stands. -/
inductive TimeoutPhase
  | reading
  | assigning
  | leaving
  | writing
  | notifying
  | done
  deriving DecidableEq

structure TimeoutBranch where
  pid : Pid
  sid : SessionId
  phase : TimeoutPhase
  /-- How much had happened when the status was read. -/
  readAt : ℕ

/-- Where the pass over a page of a queue stands: the sessions to be read, or to be removed. -/
inductive PassPhase
  | reading (sids : List SessionId)
  | removing (sids : List SessionId)
  | done

structure QueuePass where
  pid : Pid
  phase : PassPhase
  /-- How often sessions had been put into queues when the statuses were read. -/
  readAt : ℕ

section Steps

variable (rt : Runtime)

/-- The timeout of `do_matching`.  Whether a bot is assigned to the session, and what that does to
the store, is up to others. -/
def TimeoutBranch.proceed (b : TimeoutBranch) (x : World) (matched : Bool) (s : RoomStore) :
    Option (TimeoutBranch × RoomStore) :=
  match b.phase with
  | .reading =>
      match (exec rt x ⟨b.pid, .getSession b.sid⟩ s).1 with
      | some (session : Session) =>
          if session.status = .waiting then
            some ({ b with phase := .assigning, readAt := s.history.length }, s)
          else some ({ b with phase := .done }, s)
      | none => some ({ b with phase := .done }, s)
  | .assigning => some ({ b with phase := if matched then .done else .leaving }, s)
  | .leaving => some ({ b with phase := .writing }, (exec rt x ⟨b.pid, .leaveQueue b.sid⟩ s).2)
  | .writing =>
      match exec rt x ⟨b.pid, .updateSession b.sid { status := some .disconnecting }⟩ s with
      | (some (_ : Session), s') => some ({ b with phase := .notifying }, s')
      | (none, s') => some ({ b with phase := .done }, s')
  | .notifying =>
      some ({ b with phase := .done }, (exec rt x ⟨b.pid, .send b.sid .routerTimeout⟩ s).2)
  | .done => none

/-- The session is there, and waits. -/
def waits (s : RoomStore) (sid : SessionId) : Bool :=
  (s.find sid).any fun session => session.status = .waiting

/-- `reap_stale_queue_entries` for a page of a queue; what is left of a page goes on after a failed
removal. -/
def QueuePass.proceed (p : QueuePass) (x : World) (joins : ℕ) (s : RoomStore) :
    Option (QueuePass × RoomStore) :=
  match p.phase with
  | .reading sids => some ({ p with
      phase := .removing (sids.filter fun sid => !waits s sid)
      readAt := joins }, s)
  | .removing (sid :: sids) =>
      some ({ p with phase := .removing sids }, (exec rt x ⟨p.pid, .leaveQueue sid⟩ s).2)
  | .removing [] => some ({ p with phase := .done }, s)
  | .done => none

def QueuePass.fail (p : QueuePass) : QueuePass :=
  match p.phase with
  | .removing (_ :: sids) => { p with phase := .removing sids }
  | _ => { p with phase := .done }

/-- **The rooms and the clean-ups.** -/
structure CleanUps where
  rooms : RoomStore
  /-- How often sessions have been put into queues. -/
  joins : ℕ
  /-- When a session was last put into a queue. -/
  joined : SessionId → String → ℕ
  branches : List TimeoutBranch
  passes : List QueuePass

inductive CleanUpEvent
  | command (x : World) (c : RoomCmd)
  | timeOut (pid : Pid) (sid : SessionId)
  | branch (i : ℕ) (x : World) (matched : Bool)
  | branchFails (i : ℕ)
  | reap (pid : Pid) (sids : List SessionId)
  | pass (i : ℕ) (x : World)
  | passFails (i : ℕ)

namespace CleanUps

variable (s : CleanUps)

/-- A command of somebody else. -/
def command (x : World) (c : RoomCmd) : CleanUps :=
  match c.op with
  | .enqueueQueueKeys sid queueKeys => { s with
      rooms := (exec rt x c s.rooms).2
      joins := s.joins + 1
      joined := fun other queueKey =>
        if other = sid ∧ queueKey ∈ queueKeys then s.joins + 1 else s.joined other queueKey }
  | _ => { s with rooms := (exec rt x c s.rooms).2 }

/-- **One event**: a command of somebody else, or a clean-up begins, goes on, or fails. -/
def step (s : CleanUps) : CleanUpEvent → Option CleanUps
  | .command x c => some (s.command rt x c)
  | .timeOut pid sid => some { s with branches := s.branches ++ [⟨pid, sid, .reading, 0⟩] }
  | .branch i x matched => do
      let b ← s.branches[i]?
      let (b', rooms) ← b.proceed rt x matched s.rooms
      return { s with rooms := rooms, branches := s.branches.set i b' }
  | .branchFails i => (s.branches[i]?).map fun b =>
      { s with branches := s.branches.set i { b with phase := .done } }
  | .reap pid sids => some { s with passes := s.passes ++ [⟨pid, .reading sids, 0⟩] }
  | .pass i x => do
      let p ← s.passes[i]?
      let (p', rooms) ← p.proceed rt x s.joins s.rooms
      return { s with rooms := rooms, passes := s.passes.set i p' }
  | .passFails i => (s.passes[i]?).map fun p => { s with passes := s.passes.set i p.fail }

end CleanUps

end Steps

/-- Rooms in any state, before any clean-up. -/
def beforeCleanUps (rooms : RoomStore) : CleanUps := ⟨rooms, 0, fun _ _ => 0, [], []⟩

/-! ### The law -/

/-- The session is one of two that are matched. -/
def Happening.pairs (sid : SessionId) : Happening → Bool
  | .matched sid1 sid2 _ => sid1 = sid || sid2 = sid
  | _ => false

/-- **The session has been matched since so much had happened.** -/
def MatchedSince (s : RoomStore) (sid : SessionId) (n : ℕ) : Prop :=
  ∃ happening ∈ s.history.drop n, happening.pairs sid = true

/-- The branch is about to write the record, or to tell the channel. -/
def TimeoutBranch.acts (b : TimeoutBranch) : Bool := b.phase = .writing || b.phase = .notifying

/-- The sessions that a pass is going to remove. -/
def QueuePass.toRemove (p : QueuePass) : List SessionId :=
  match p.phase with
  | .removing sids => sids
  | _ => []

/-- **A clean-up that acts is safe**: the session that is timed out has not been matched since its
status was read, and an entry that is removed from a queue is not newer than the status. -/
def CleansSafely (rt : Runtime) (s : CleanUps) : CleanUpEvent → Prop
  | .branch i _ _ => ∀ b ∈ s.branches[i]?, b.acts = true → ¬ MatchedSince s.rooms b.sid b.readAt
  | .pass i x => ∀ p ∈ s.passes[i]?, ∀ sid ∈ p.toRemove.head?, ∀ queueKey ∈ s.rooms.queues sid,
      queueKey ∉ (exec rt x ⟨p.pid, .leaveQueue sid⟩ s.rooms).2.queues sid →
        s.joined sid queueKey ≤ p.readAt
  | _ => True

/-- The command matches the session, or puts it into queues. -/
def RoomOp.pairs (sid : SessionId) : RoomOp → Bool
  | .pairScript session1 session2 => session1.id = sid || session2.id = sid
  | _ => false

def RoomOp.enqueues (sid : SessionId) : RoomOp → Bool
  | .enqueueQueueKeys other _ => other = sid
  | _ => false

/-- The branch has found no bot for its session, and has not come to its end. -/
def TimeoutBranch.isLate (b : TimeoutBranch) : Bool := b.phase = .leaving || b.acts

/-- **A step that does not disturb the clean-ups**: nobody matches a session for which a branch has
found no bot, and while the branch looked for one nobody else has; nobody puts a session into a
queue that a pass is going to remove. -/
def Undisturbing (s : CleanUps) : CleanUpEvent → Prop
  | .command _ c =>
      (∀ b ∈ s.branches, b.isLate = true → c.op.pairs b.sid = false) ∧
        ∀ p ∈ s.passes, ∀ sid ∈ p.toRemove, c.op.enqueues sid = false
  | .branch i _ matched => ∀ b ∈ s.branches[i]?, b.phase = .assigning → matched = false →
      ¬ MatchedSince s.rooms b.sid b.readAt
  | _ => True

/-! ### Commands and what has happened -/

section Commands

variable {rt : Runtime} {x : World} {c : RoomCmd} {s : RoomStore} {sid : SessionId} {n : ℕ}

/-- What a command adds to what has happened. -/
theorem history_exec (rt : Runtime) (x : World) (c : RoomCmd) (s : RoomStore) :
    (exec rt x c s).2.history = s.history ∨ ∃ happening,
      (exec rt x c s).2.history = s.history ++ [happening] ∧
        ∀ sid, happening.pairs sid = true → c.op.pairs sid = true := by
  obtain ⟨pid, op⟩ := c
  cases op with
  | persistSession session => exact .inr ⟨_, rfl, by simp [Happening.pairs]⟩
  | updateSession sid updates =>
      simp only [exec]
      split
      · exact .inl rfl
      · dsimp only
        split
        · exact .inr ⟨_, rfl, by simp [Happening.pairs]⟩
        · exact .inl rfl
  | refreshSession sid =>
      simp only [exec]
      split <;> exact .inl rfl
  | pairScript session1 session2 => exact .inr ⟨_, rfl, fun _ h => h⟩
  | emergencyDisconnectScript sid =>
      simp only [exec]
      split <;> exact .inl rfl
  | lock sid =>
      simp only [exec]
      split_ifs <;> exact .inl rfl
  | unlock sid =>
      simp only [exec]
      split <;> exact .inl rfl
  | send sid message => exact .inr ⟨_, rfl, by simp [Happening.pairs]⟩
  | getSession _ => exact .inl rfl
  | resetPairScript _ _ => exact .inl rfl
  | deleteSession _ => exact .inl rfl
  | getSessionRoute _ => exact .inl rfl
  | enqueueQueueKeys _ _ => exact .inl rfl
  | leaveQueue _ => exact .inl rfl
  | register _ => exact .inl rfl
  | unregister _ => exact .inl rfl

theorem length_history_exec (rt : Runtime) (x : World) (c : RoomCmd) (s : RoomStore) :
    s.history.length ≤ (exec rt x c s).2.history.length := by
  rcases history_exec rt x c s with h | ⟨happening, h, -⟩
  · rw [h]
  · simp [h]

/-- **A session is matched by a command that matches it.** -/
theorem matchedSince_exec (hle : n ≤ s.history.length)
    (h : MatchedSince (exec rt x c s).2 sid n) : MatchedSince s sid n ∨ c.op.pairs sid = true := by
  obtain ⟨happening, hmem, hpairs⟩ := h
  rcases history_exec rt x c s with hsame | ⟨added, hadded, himp⟩
  · rw [hsame] at hmem
    exact .inl ⟨happening, hmem, hpairs⟩
  · rw [hadded, List.drop_append_of_le_length hle] at hmem
    rcases List.mem_append.1 hmem with hmem | hmem
    · exact .inl ⟨happening, hmem, hpairs⟩
    · obtain rfl := List.mem_singleton.1 hmem
      exact .inr (himp sid hpairs)

theorem not_matchedSince_length (s : RoomStore) (sid : SessionId) :
    ¬ MatchedSince s sid s.history.length := by
  rintro ⟨happening, hmem, -⟩
  simp at hmem

end Commands

/-! ### What clean-ups know -/

/-- **What a branch knows**: once it has found no bot, its session has not been matched since it was
read. -/
structure TimeoutBranch.Fresh (b : TimeoutBranch) (s : RoomStore) : Prop where
  bounded : b.readAt ≤ s.history.length
  late : b.isLate = true → ¬ MatchedSince s b.sid b.readAt

/-- **What a pass knows**: the sessions that it is going to remove have not been put into a queue
since they were read. -/
def QueuePass.Fresh (p : QueuePass) (joined : SessionId → String → ℕ) : Prop :=
  ∀ sid ∈ p.toRemove, ∀ queueKey, joined sid queueKey ≤ p.readAt

structure CleanUps.Sound (s : CleanUps) : Prop where
  joined : ∀ sid queueKey, s.joined sid queueKey ≤ s.joins
  branches : ∀ b ∈ s.branches, b.Fresh s.rooms
  passes : ∀ p ∈ s.passes, p.Fresh s.joined

section Sound

variable {rt : Runtime} {x : World} {c : RoomCmd} {s s' : CleanUps} {rooms rooms' : RoomStore}
  {b b' : TimeoutBranch} {p p' : QueuePass} {joined : SessionId → String → ℕ} {joins : ℕ}

/-- A command that does not match the session of a branch. -/
theorem TimeoutBranch.Fresh.exec (h : b.Fresh rooms) (hc : b.isLate = true → c.op.pairs b.sid = false) :
    b.Fresh (exec rt x c rooms).2 := by
  refine ⟨h.bounded.trans (length_history_exec rt x c rooms), fun hlate hmatched => ?_⟩
  rcases matchedSince_exec h.bounded hmatched with hbefore | hpairs
  · exact h.late hlate hbefore
  · rw [hc hlate] at hpairs
    cases hpairs

/-- The commands of clean-ups match nobody. -/
theorem TimeoutBranch.Fresh.exec_of_not_pairs (h : b.Fresh rooms) (hc : ∀ sid, c.op.pairs sid = false) :
    b.Fresh (Rooms.exec rt x c rooms).2 :=
  h.exec fun _ => hc b.sid

/-- **A step of a branch**, for the branch itself and for the others. -/
theorem fresh_branch {matched : Bool} (h : b.Fresh rooms)
    (hok : b.phase = .assigning → matched = false → ¬ MatchedSince rooms b.sid b.readAt)
    (hs : b.proceed rt x matched rooms = some (b', rooms')) :
    b'.Fresh rooms' ∧ ∀ other : TimeoutBranch, other.Fresh rooms → other.Fresh rooms' := by
  unfold TimeoutBranch.proceed at hs
  split at hs
  case h_1 hphase =>
      split at hs
      · split at hs
        all_goals
          obtain ⟨rfl, rfl⟩ := Prod.mk.inj (Option.some_inj.1 hs)
        · exact ⟨⟨le_rfl, nofun⟩, fun _ hother => hother⟩
        · exact ⟨⟨h.bounded, nofun⟩, fun _ hother => hother⟩
      · obtain ⟨rfl, rfl⟩ := Prod.mk.inj (Option.some_inj.1 hs)
        exact ⟨⟨h.bounded, nofun⟩, fun _ hother => hother⟩
  case h_2 hphase =>
      obtain ⟨rfl, rfl⟩ := Prod.mk.inj (Option.some_inj.1 hs)
      refine ⟨⟨h.bounded, fun hlate => ?_⟩, fun _ hother => hother⟩
      cases matched with
      | false => exact hok hphase rfl
      | true => cases hlate
  case h_3 hphase =>
      obtain ⟨rfl, rfl⟩ := Prod.mk.inj (Option.some_inj.1 hs)
      have hlate : b.isLate = true := by simp [TimeoutBranch.isLate, hphase]
      have hkeep : ∀ other : TimeoutBranch, other.Fresh rooms →
          other.Fresh (exec rt x ⟨b.pid, .leaveQueue b.sid⟩ rooms).2 :=
        fun other hother => hother.exec_of_not_pairs fun _ => rfl
      exact ⟨⟨(hkeep b h).bounded, fun _ => (hkeep b h).late hlate⟩, hkeep⟩
  case h_4 hphase =>
      have hlate : b.isLate = true := by simp [TimeoutBranch.isLate, TimeoutBranch.acts, hphase]
      have hkeep : ∀ other : TimeoutBranch, other.Fresh rooms → other.Fresh
          (exec rt x ⟨b.pid, .updateSession b.sid { status := some .disconnecting }⟩ rooms).2 :=
        fun other hother => hother.exec_of_not_pairs fun _ => rfl
      split at hs
      next session store hexec =>
          obtain ⟨rfl, rfl⟩ := Prod.mk.inj (Option.some_inj.1 hs)
          rw [hexec] at hkeep
          exact ⟨⟨(hkeep b h).bounded, fun _ => (hkeep b h).late hlate⟩, hkeep⟩
      next store hexec =>
          obtain ⟨rfl, rfl⟩ := Prod.mk.inj (Option.some_inj.1 hs)
          rw [hexec] at hkeep
          exact ⟨⟨(hkeep b h).bounded, nofun⟩, hkeep⟩
  case h_5 hphase =>
      obtain ⟨rfl, rfl⟩ := Prod.mk.inj (Option.some_inj.1 hs)
      have hkeep : ∀ other : TimeoutBranch, other.Fresh rooms →
          other.Fresh (exec rt x ⟨b.pid, .send b.sid .routerTimeout⟩ rooms).2 :=
        fun other hother => hother.exec_of_not_pairs fun _ => rfl
      exact ⟨⟨(hkeep b h).bounded, nofun⟩, hkeep⟩
  case h_6 => cases hs

/-- **A step of a pass.** -/
theorem fresh_pass (hjoined : ∀ sid queueKey, joined sid queueKey ≤ joins) (h : p.Fresh joined)
    (hs : p.proceed rt x joins rooms = some (p', rooms')) :
    p'.Fresh joined ∧ ∀ b : TimeoutBranch, b.Fresh rooms → b.Fresh rooms' := by
  unfold QueuePass.proceed at hs
  split at hs
  case h_1 sids hphase =>
      obtain ⟨rfl, rfl⟩ := Prod.mk.inj (Option.some_inj.1 hs)
      exact ⟨fun sid _ queueKey => hjoined sid queueKey, fun _ hb => hb⟩
  case h_2 sid sids hphase =>
      obtain ⟨rfl, rfl⟩ := Prod.mk.inj (Option.some_inj.1 hs)
      refine ⟨fun other hother queueKey => h other ?_ queueKey,
        fun b hb => hb.exec_of_not_pairs fun _ => rfl⟩
      simp only [QueuePass.toRemove, hphase]
      exact List.mem_cons_of_mem _ hother
  case h_3 hphase =>
      obtain ⟨rfl, rfl⟩ := Prod.mk.inj (Option.some_inj.1 hs)
      exact ⟨fun sid hsid => absurd hsid List.not_mem_nil, fun _ hb => hb⟩
  case h_4 => cases hs

theorem fresh_fail (h : p.Fresh joined) : p.fail.Fresh joined := by
  unfold QueuePass.fail
  split
  next sid sids hphase =>
      intro other hother queueKey
      refine h other ?_ queueKey
      simp only [QueuePass.toRemove, hphase]
      exact List.mem_cons_of_mem _ hother
  next => exact fun sid hsid => absurd hsid List.not_mem_nil

/-- **A command of somebody else that does not disturb.** -/
theorem sound_command (h : s.Sound)
    (hpairs : ∀ b ∈ s.branches, b.isLate = true → c.op.pairs b.sid = false)
    (henqueues : ∀ p ∈ s.passes, ∀ sid ∈ p.toRemove, c.op.enqueues sid = false) :
    (s.command rt x c).Sound := by
  have hbranches : ∀ b ∈ s.branches, b.Fresh (exec rt x c s.rooms).2 :=
    fun b hb => (h.branches b hb).exec (hpairs b hb)
  unfold CleanUps.command
  split
  next sid queueKeys hop =>
      refine ⟨fun other queueKey => ?_, hbranches, fun p hp other hother queueKey => ?_⟩
      · dsimp only
        split
        · exact le_rfl
        · exact (h.joined other queueKey).trans (Nat.le_succ _)
      · have hne := henqueues p hp other hother
        rw [hop] at hne
        simp only [RoomOp.enqueues, decide_eq_false_iff_not] at hne
        have hold := h.passes p hp other hother queueKey
        simpa only [if_neg fun hnew : other = sid ∧ queueKey ∈ queueKeys => hne hnew.1.symm] using hold
  next => exact ⟨h.joined, hbranches, h.passes⟩

/-- **What clean-ups know stays true.** -/
theorem sound_step {ev : CleanUpEvent} (h : s.Sound) (hok : Undisturbing s ev)
    (hs : s.step rt ev = some s') : s'.Sound := by
  cases ev with
  | command x c =>
      obtain rfl := Option.some_inj.1 hs
      exact sound_command h hok.1 hok.2
  | timeOut pid sid =>
      obtain rfl := Option.some_inj.1 hs
      refine ⟨h.joined, fun b hb => ?_, h.passes⟩
      rcases List.mem_append.1 hb with hb | hb
      · exact h.branches b hb
      · obtain rfl := List.mem_singleton.1 hb
        exact ⟨Nat.zero_le _, nofun⟩
  | branch i x matched =>
      simp only [CleanUps.step, Option.bind_eq_bind, Option.bind_eq_some_iff, Prod.exists] at hs
      obtain ⟨b, hget, b', rooms, hproceed, hsome⟩ := hs
      obtain rfl := Option.some_inj.1 hsome
      obtain ⟨hself, hothers⟩ :=
        fresh_branch (h.branches b (List.mem_of_getElem? hget)) (hok b hget) hproceed
      refine ⟨h.joined, fun other hother => ?_, h.passes⟩
      rcases List.mem_or_eq_of_mem_set hother with hother | rfl
      · exact hothers other (h.branches other hother)
      · exact hself
  | branchFails i =>
      obtain ⟨b, hget, rfl⟩ := Option.map_eq_some_iff.1 hs
      refine ⟨h.joined, fun other hother => ?_, h.passes⟩
      rcases List.mem_or_eq_of_mem_set hother with hother | rfl
      · exact h.branches other hother
      · exact ⟨(h.branches b (List.mem_of_getElem? hget)).bounded, nofun⟩
  | reap pid sids =>
      obtain rfl := Option.some_inj.1 hs
      refine ⟨h.joined, h.branches, fun p hp => ?_⟩
      rcases List.mem_append.1 hp with hp | hp
      · exact h.passes p hp
      · obtain rfl := List.mem_singleton.1 hp
        exact fun sid hsid => absurd hsid List.not_mem_nil
  | pass i x =>
      simp only [CleanUps.step, Option.bind_eq_bind, Option.bind_eq_some_iff, Prod.exists] at hs
      obtain ⟨p, hget, p', rooms, hproceed, hsome⟩ := hs
      obtain rfl := Option.some_inj.1 hsome
      obtain ⟨hself, hbranches⟩ :=
        fresh_pass h.joined (h.passes p (List.mem_of_getElem? hget)) hproceed
      refine ⟨h.joined, fun b hb => hbranches b (h.branches b hb), fun other hother => ?_⟩
      rcases List.mem_or_eq_of_mem_set hother with hother | rfl
      · exact h.passes other hother
      · exact hself
  | passFails i =>
      obtain ⟨p, hget, rfl⟩ := Option.map_eq_some_iff.1 hs
      refine ⟨h.joined, h.branches, fun other hother => ?_⟩
      rcases List.mem_or_eq_of_mem_set hother with hother | rfl
      · exact h.passes other hother
      · exact fresh_fail (h.passes p (List.mem_of_getElem? hget))

/-- What clean-ups know makes them safe. -/
theorem CleanUps.Sound.cleansSafely (h : s.Sound) (ev : CleanUpEvent) : CleansSafely rt s ev := by
  cases ev with
  | branch i x matched =>
      intro b hget hacts
      exact (h.branches b (List.mem_of_getElem? hget)).late (by simp [TimeoutBranch.isLate, hacts])
  | pass i x =>
      intro p hget sid hhead queueKey _ _
      exact h.passes p (List.mem_of_getElem? hget) sid (List.mem_of_mem_head? hhead) queueKey
  | _ => trivial

end Sound

/-! ### Runs -/

theorem sound_beforeCleanUps (rooms : RoomStore) : (beforeCleanUps rooms).Sound :=
  ⟨fun _ _ => le_rfl, fun _ hb => absurd hb List.not_mem_nil, fun _ hp => absurd hp List.not_mem_nil⟩

/-- **Clean-ups that are not disturbed are safe**, in every run. -/
theorem cleansSafely_of_undisturbing (rt : Runtime) (rooms : RoomStore) (l : List CleanUpEvent)
    (s : CleanUps) (hrun : Run (CleanUps.step rt) Undisturbing (beforeCleanUps rooms) l s) :
    Run (CleanUps.step rt) (CleansSafely rt) (beforeCleanUps rooms) l s := by
  have hstep : ∀ (s : CleanUps) (ev : CleanUpEvent) (s' : CleanUps), s.Sound → Undisturbing s ev →
      s.step rt ev = some s' → CleansSafely rt s ev ∧ s'.Sound :=
    fun _ ev _ h hok hs => ⟨h.cleansSafely ev, sound_step h hok hs⟩
  exact hrun.exchange hstep (sound_beforeCleanUps rooms)

/-! ### Two sessions -/

section Example

instance (s : RoomStore) (sid : SessionId) (n : ℕ) : Decidable (MatchedSince s sid n) := by
  unfold MatchedSince
  infer_instance

instance (rt : Runtime) (s : CleanUps) (ev : CleanUpEvent) : Decidable (CleansSafely rt s ev) := by
  cases ev <;> unfold CleansSafely <;> infer_instance

instance (s : CleanUps) (ev : CleanUpEvent) : Decidable (Undisturbing s ev) := by
  cases ev <;> unfold Undisturbing <;> infer_instance

def cleanUpWorld : World := ⟨60, "8"⟩

def waitingOf (sid : SessionId) : Session := { Sessions.waitingSession with id := sid }

/-- Two sessions that wait. -/
def twoWaiting : CleanUps := beforeCleanUps (roomsOf fun sid =>
  if sid = "a" ∨ sid = "b" then some (waitingOf sid) else none)

/-- The first of them is timed out up to the write; no bot is assigned to it. -/
def timedOut : List CleanUpEvent :=
  [.timeOut 1 "a", .branch 0 cleanUpWorld false, .branch 0 cleanUpWorld false,
    .branch 0 cleanUpWorld false]

/-- The two are matched. -/
def matchedMeanwhile : List CleanUpEvent :=
  [.command cleanUpWorld ⟨2, .lock "a"⟩, .command cleanUpWorld ⟨2, .lock "b"⟩,
    .command cleanUpWorld ⟨2, .getSession "a"⟩, .command cleanUpWorld ⟨2, .getSession "b"⟩,
    .command cleanUpWorld ⟨2, .pairScript (waitingOf "a") (waitingOf "b")⟩]

/-- **A session is timed out and another is reaped**, undisturbed. -/
theorem timedOut_safely : ∃ s, Run (CleanUps.step Sessions.asciiRuntime)
    (CleansSafely Sessions.asciiRuntime) twoWaiting
    (timedOut ++ [.reap 3 ["c"], .pass 0 cleanUpWorld, .branch 0 cleanUpWorld false,
      .branch 0 cleanUpWorld false, .pass 0 cleanUpWorld]) s := by
  obtain ⟨s, hrun, -⟩ : ∃ s, Run (CleanUps.step Sessions.asciiRuntime) Undisturbing twoWaiting
      (timedOut ++ [.reap 3 ["c"], .pass 0 cleanUpWorld, .branch 0 cleanUpWorld false,
        .branch 0 cleanUpWorld false, .pass 0 cleanUpWorld]) s ∧ true = true :=
    exists_run_of_execWhere (by decide +kernel)
  exact ⟨s, cleansSafely_of_undisturbing _ _ _ s hrun⟩

/-- **A session that has just been matched is timed out.** -/
theorem matchedSession_timesOut : ¬ ∀ (rt : Runtime) (rooms : RoomStore) (l : List CleanUpEvent)
    (s : CleanUps), Run (CleanUps.step rt) Always (beforeCleanUps rooms) l s →
      Run (CleanUps.step rt) (CleansSafely rt) (beforeCleanUps rooms) l s := by
  intro h
  obtain ⟨s, hrun, -⟩ : ∃ s, Run (CleanUps.step Sessions.asciiRuntime) Always twoWaiting
      (timedOut ++ matchedMeanwhile ++ [.branch 0 cleanUpWorld false]) s ∧
      decide ((s.rooms.find "a").map Session.status = some .disconnecting) = true :=
    exists_run_of_execWhere (by decide +kernel)
  have hsafe := execWhere_of_run (h _ _ _ s hrun)
  have hnone : (execWhere (CleanUps.step Sessions.asciiRuntime)
      (CleansSafely Sessions.asciiRuntime) twoWaiting
      (timedOut ++ matchedMeanwhile ++ [.branch 0 cleanUpWorld false])).isSome = false := by
    decide +kernel
  rw [twoWaiting, hsafe] at hnone
  cases hnone

end Example

end Rooms
