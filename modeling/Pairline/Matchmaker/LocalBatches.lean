/-
**Local match requests.**

A session that has joined its queues asks the matchmaker of its node to try the queues soon.  The
matchmaker keeps the keys that are asked for, and hands all of them to a batch, a process of its own;
there is one batch at a time.  A message to itself makes it start the next one.

Main definitions:

* `Matchmaker.LocalBatches.State` — the keys that are pending, the batch, and the batches so far;
* `Matchmaker.LocalBatches.handle`, `Matchmaker.LocalBatches.step` — the handlers, and what may happen;
* `Matchmaker.LocalBatches.Awake` — **if keys are pending, something will start a batch**;
* `Matchmaker.LocalBatches.BatchLaw` — the law.

Main results:

* `Matchmaker.LocalBatches.handled_cases` — what the handling of a message does;
* `Matchmaker.LocalBatches.awake_of_run` — **the matchmaker is awake in every state that is reached**;
* `Matchmaker.LocalBatches.batchLaw` — **the law holds**.
-/

import Mathlib.Data.Finset.Card
import Pairline.Monitors
import Pairline.Transition

set_option relaxedAutoImplicit false
set_option autoImplicit false

namespace Matchmaker.LocalBatches

open Monitors (Inbox Message)
open Transition

/-! ### The matchmaker -/

/-- What comes into the mailbox, the messages of monitors apart; others do not matter here. -/
inductive Request
  | scheduleLocalMatchAttempts (queueKeys : List String)
  | runLocalMatchBatch
  | other
  deriving DecidableEq

/-- **The keys that are pending and the batch that runs**, and the keys of all batches so far; a batch
is known by the reference of its monitor. -/
structure State where
  pendingLocalMatchKeys : Finset String
  localMatchBatchRef : Option ℕ
  inbox : Inbox Unit Request
  batches : List (ℕ × Finset String)

/-- The state after `init`. -/
def init : State := ⟨∅, none, .empty, []⟩

/-- `send(self(), @local_match_batch_message)`. -/
def wake (state : State) : State := { state with inbox := state.inbox.send .runLocalMatchBatch }

def handleSchedule (state : State) (queueKeys : List String) : State :=
  let pendingLocalMatchKeys := queueKeys.foldl (fun acc key => insert key acc)
    state.pendingLocalMatchKeys
  let woken := if state.localMatchBatchRef.isNone ∧ pendingLocalMatchKeys.card > 0 then wake state
    else state
  { woken with pendingLocalMatchKeys := pendingLocalMatchKeys }

def handleRun (state : State) : State :=
  if state.localMatchBatchRef.isSome then state
  else if state.pendingLocalMatchKeys = ∅ then state
  else
    { pendingLocalMatchKeys := ∅
      localMatchBatchRef := some state.inbox.nextRef
      inbox := (state.inbox.monitor ()).2
      batches := state.batches ++ [(state.inbox.nextRef, state.pendingLocalMatchKeys)] }

/-- The batch has ended or crashed; the messages of other monitors are left to other handlers. -/
def handleDown (state : State) (ref : ℕ) : State :=
  if state.localMatchBatchRef = some ref then
    let woken := if state.pendingLocalMatchKeys.card > 0 then wake state else state
    { woken with localMatchBatchRef := none }
  else state

/-- **A message is handled.** -/
def handle (state : State) : Message Unit Request → State
  | .info (.scheduleLocalMatchAttempts queueKeys) => handleSchedule state queueKeys
  | .info .runLocalMatchBatch => handleRun state
  | .info .other => state
  | .down ref _ => handleDown state ref

/-- What may happen. -/
inductive Event
  /-- A request comes, or any other message. -/
  | request (r : Request)
  /-- Another task is monitored. -/
  | monitored
  /-- The batch, or another process that is monitored, ends or crashes. -/
  | ended (ref : ℕ)
  /-- The next message is handled. -/
  | handled

/-- **An event**: `none` when it cannot happen. -/
def step (state : State) : Event → Option State
  | .request r => some { state with inbox := state.inbox.send r }
  | .monitored => some { state with inbox := (state.inbox.monitor ()).2 }
  | .ended ref => (state.inbox.fire ref).map fun inbox => { state with inbox := inbox }
  | .handled => state.inbox.receive.map fun next => handle { state with inbox := next.2 } next.1

/-! ### The law -/

/-- **If keys are pending and no batch runs, a message waits that will start one; and the end of a batch
that runs will be told.** -/
structure Awake (state : State) : Prop where
  run : state.pendingLocalMatchKeys ≠ ∅ → state.localMatchBatchRef = none →
    .info .runLocalMatchBatch ∈ state.inbox.mailbox
  told : ∀ ref, state.localMatchBatchRef = some ref → (ref, ()) ∈ state.inbox.pending
  fresh : state.inbox.Fresh

/-- **No request is lost**: while keys are pending and no batch runs, a message waits that will start
one; a batch that runs is monitored, or its end waits in the mailbox; a key that is asked for is
pending; and a key that is pending no more has been handed to a batch. -/
structure BatchLaw : Prop where
  run : ∀ events state, Run step Always init events state → state.pendingLocalMatchKeys ≠ ∅ →
    state.localMatchBatchRef = none → .info .runLocalMatchBatch ∈ state.inbox.mailbox
  told : ∀ events state, Run step Always init events state → ∀ ref,
    state.localMatchBatchRef = some ref →
      (ref, ()) ∈ state.inbox.monitors ∨ .down ref () ∈ state.inbox.mailbox
  asked : ∀ events state, Run step Always init events state → ∀ queueKeys inbox,
    state.inbox.receive = some (.info (.scheduleLocalMatchAttempts queueKeys), inbox) →
      ∀ state', step state .handled = some state' → ∀ key ∈ queueKeys,
        key ∈ state'.pendingLocalMatchKeys
  handed : ∀ events state, Run step Always init events state → ∀ event state',
    step state event = some state' → ∀ key ∈ state.pendingLocalMatchKeys,
      key ∈ state'.pendingLocalMatchKeys ∨ ∃ ref keys, state'.batches = state.batches ++ [(ref, keys)] ∧
        state'.localMatchBatchRef = some ref ∧ key ∈ keys

/-! ### What the handlers do -/

section Handlers

variable {state : State}

theorem mem_foldl_insert {queueKeys : List String} {keys : Finset String} {key : String} :
    key ∈ queueKeys.foldl (fun acc key => insert key acc) keys ↔ key ∈ keys ∨ key ∈ queueKeys := by
  induction queueKeys generalizing keys with
  | nil => simp
  | cons k queueKeys ih =>
      rw [List.foldl_cons, ih, Finset.mem_insert, List.mem_cons]
      tauto

theorem Awake.of_inbox (h : Awake state) {inbox : Inbox Unit Request}
    (hrun : .info .runLocalMatchBatch ∈ state.inbox.mailbox → .info .runLocalMatchBatch ∈ inbox.mailbox)
    (hpending : ∀ m, m ∈ state.inbox.pending → m ∈ inbox.pending) (hfresh : inbox.Fresh) :
    Awake { state with inbox := inbox } where
  run hkeys hnone := hrun (h.run hkeys hnone)
  told ref href := hpending _ (h.told ref href)
  fresh := hfresh

/-- A message in the mailbox that is not the next one waits on. -/
theorem mem_mailbox_of_receive {b b' : Inbox Unit Request} {m m' : Message Unit Request}
    (h : b.receive = some (m, b')) (hm : m' ∈ b.mailbox) : m' = m ∨ m' ∈ b'.mailbox := by
  unfold Inbox.receive at h
  split at h
  · cases h
  · next m'' rest hmailbox =>
      cases h
      rw [hmailbox] at hm
      exact List.mem_cons.1 hm

theorem wake_run (state : State) : .info .runLocalMatchBatch ∈ (wake state).inbox.mailbox :=
  List.mem_append_right _ List.mem_cons_self

/-- After a request, the matchmaker is awake. -/
theorem awake_handleSchedule (queueKeys : List String)
    (htold : ∀ ref, state.localMatchBatchRef = some ref → (ref, ()) ∈ state.inbox.pending)
    (hfresh : state.inbox.Fresh) : Awake (handleSchedule state queueKeys) := by
  unfold handleSchedule
  dsimp only
  split_ifs with hwake
  · refine ⟨fun _ _ => wake_run state, fun ref href => ?_, hfresh.send _⟩
    rw [Option.isNone_iff_eq_none] at hwake
    cases hwake.1.symm.trans href
  · refine ⟨fun hkeys hnone => absurd ⟨?_, Finset.card_pos.2 (Finset.nonempty_iff_ne_empty.2 hkeys)⟩
      hwake, htold, hfresh⟩
    exact Option.isNone_iff_eq_none.2 hnone

/-- After a message to itself, either a batch runs or no keys are pending. -/
theorem awake_handleRun
    (htold : ∀ ref, state.localMatchBatchRef = some ref → (ref, ()) ∈ state.inbox.pending)
    (hfresh : state.inbox.Fresh) : Awake (handleRun state) := by
  unfold handleRun
  split_ifs with hbatch hkeys
  · refine ⟨fun _ hnone => ?_, htold, hfresh⟩
    rw [hnone] at hbatch
    cases hbatch
  · exact ⟨fun hne => absurd hkeys hne, htold, hfresh⟩
  · refine ⟨fun hne => absurd rfl hne, fun ref href => ?_, hfresh.monitor ()⟩
    cases href
    exact (state.inbox.pending_monitor ()).mem_iff.2 List.mem_cons_self

/-- After the end of a batch, the next one is to start if keys are pending. -/
theorem awake_handleDown {ref : ℕ}
    (hrun : state.pendingLocalMatchKeys ≠ ∅ → state.localMatchBatchRef = none →
      .info .runLocalMatchBatch ∈ state.inbox.mailbox)
    (htold : ∀ ref', state.localMatchBatchRef = some ref' → ref' ≠ ref →
      (ref', ()) ∈ state.inbox.pending)
    (hfresh : state.inbox.Fresh) : Awake (handleDown state ref) := by
  unfold handleDown
  split_ifs with hbatch hkeys
  · exact ⟨fun _ _ => wake_run state, nofun, hfresh.send _⟩
  · refine ⟨fun hne => ?_, nofun, hfresh⟩
    exact absurd (Finset.card_pos.2 (Finset.nonempty_iff_ne_empty.2 hne)) hkeys
  · refine ⟨hrun, fun ref' href' => htold ref' href' ?_, hfresh⟩
    rintro rfl
    exact hbatch href'

/-- **The handling of a message keeps the matchmaker awake.** -/
theorem Awake.handle (h : Awake state) {m : Message Unit Request} {inbox : Inbox Unit Request}
    (hreceive : state.inbox.receive = some (m, inbox)) :
    Awake (handle { state with inbox := inbox } m) := by
  have hfresh := h.fresh.receive hreceive
  have hmem := fun m' => (Inbox.pending_receive hreceive).mem_iff (a := m')
  cases m with
  | info r =>
      have htold : ∀ ref, state.localMatchBatchRef = some ref → (ref, ()) ∈ inbox.pending :=
        fun ref href => (hmem _).1 (h.told ref href)
      cases r with
      | scheduleLocalMatchAttempts queueKeys => exact awake_handleSchedule queueKeys htold hfresh
      | runLocalMatchBatch => exact awake_handleRun htold hfresh
      | other =>
          refine ⟨fun hkeys hnone => ?_, htold, hfresh⟩
          rcases mem_mailbox_of_receive hreceive (h.run hkeys hnone) with heq | hwaits
          · cases heq
          · exact hwaits
  | down ref pid =>
      refine awake_handleDown (fun hkeys hnone => ?_) (fun ref' href' hne => ?_) hfresh
      · rcases mem_mailbox_of_receive hreceive (h.run hkeys hnone) with heq | hwaits
        · cases heq
        · exact hwaits
      · rcases List.mem_cons.1 ((hmem _).1 (h.told ref' href')) with heq | hwaits
        · cases heq
          exact absurd rfl hne
        · exact hwaits

/-- **A key that is pending stays so, or is handed to the batch that starts.** -/
theorem pending_handle (m : Message Unit Request) {key : String}
    (hkey : key ∈ state.pendingLocalMatchKeys) :
    key ∈ (LocalBatches.handle state m).pendingLocalMatchKeys ∨ ∃ ref keys,
      (LocalBatches.handle state m).batches = state.batches ++ [(ref, keys)] ∧
        (LocalBatches.handle state m).localMatchBatchRef = some ref ∧ key ∈ keys := by
  rcases m with ⟨ref, pid⟩ | (queueKeys | _ | _)
  · left
    simp only [LocalBatches.handle, handleDown]
    split_ifs <;> exact hkey
  · exact .inl (mem_foldl_insert.2 (.inl hkey))
  · simp only [LocalBatches.handle, handleRun]
    split_ifs with hbatch hkeys
    · exact .inl hkey
    · exact .inl hkey
    · exact .inr ⟨_, _, rfl, rfl, hkey⟩
  · exact .inl hkey

end Handlers

/-! ### Runs -/

section Runs

variable {state state' : State}

/-- **What every event keeps.** -/
theorem Awake.step (h : Awake state) {event : Event}
    (hstep : step state event = some state') : Awake state' := by
  cases event with
  | request r =>
      cases hstep
      exact h.of_inbox (List.mem_append_left _) (fun m hm => by rwa [Inbox.pending_send])
        (h.fresh.send r)
  | monitored =>
      cases hstep
      exact h.of_inbox id
        (fun m hm => (state.inbox.pending_monitor ()).mem_iff.2 (List.mem_cons_of_mem _ hm))
        (h.fresh.monitor ())
  | ended ref =>
      obtain ⟨inbox, hfire, rfl⟩ := Option.map_eq_some_iff.1 hstep
      refine h.of_inbox (fun hrun => ?_) (fun m => (Inbox.pending_fire h.fresh hfire).mem_iff.2)
        (h.fresh.fire hfire)
      obtain ⟨m, -, rfl⟩ := Option.map_eq_some_iff.1 hfire
      exact List.mem_append_left _ hrun
  | handled =>
      obtain ⟨⟨m, inbox⟩, hreceive, rfl⟩ := Option.map_eq_some_iff.1 hstep
      exact h.handle hreceive

theorem awake_init : Awake init := ⟨fun hne => absurd rfl hne, nofun, Inbox.fresh_empty⟩

/-- **The matchmaker is awake in every state that is reached.** -/
theorem awake_of_run {events : List Event} (hrun : Run step Always init events state) : Awake state :=
  hrun.invariant (fun _ _ _ h _ hstep => h.step hstep) awake_init

/-- What is pending in an inbox is monitored, or its message waits. -/
theorem mem_pending_iff {b : Inbox Unit Request} {ref : ℕ} :
    (ref, ()) ∈ b.pending ↔ (ref, ()) ∈ b.monitors ∨ .down ref () ∈ b.mailbox := by
  rw [Inbox.pending, List.mem_append, List.mem_filterMap]
  refine or_congr_right ⟨?_, fun hdown => ⟨_, hdown, rfl⟩⟩
  rintro ⟨m, hm, hwatched⟩
  cases m with
  | info r => cases hwatched
  | down ref' pid =>
      cases hwatched
      exact hm

/-- **The law holds.** -/
theorem batchLaw : BatchLaw where
  run _ _ hrun := (awake_of_run hrun).run
  told _ _ hrun ref href := mem_pending_iff.1 ((awake_of_run hrun).told ref href)
  asked _ state _ queueKeys inbox hreceive state' hstep key hkey := by
    rw [step, hreceive] at hstep
    cases hstep
    exact mem_foldl_insert.2 (.inr hkey)
  handed _ state _ event state' hstep key hkey := by
    cases event with
    | request r =>
        cases hstep
        exact .inl hkey
    | monitored =>
        cases hstep
        exact .inl hkey
    | ended ref =>
        obtain ⟨inbox, -, rfl⟩ := Option.map_eq_some_iff.1 hstep
        exact .inl hkey
    | handled =>
        obtain ⟨next, -, rfl⟩ := Option.map_eq_some_iff.1 hstep
        exact @pending_handle { state with inbox := next.2 } next.1 key hkey

end Runs

end Matchmaker.LocalBatches
