/-
**The owners of sessions.**

The router of a node knows which process owns a session there.  It monitors the owners: when one ends,
its entry is dropped.  A registration replaces the entry of the session, whose monitor is taken back; an
unregistration drops the entry of its own process only.

The entries are kept in two maps, one by session and one by the reference of the monitor.  The table
that other processes read, and the record in the store, are written along.

Main definitions:

* `Sockets.Router.State` — the two maps, with the monitors and the mailbox of the router;
* `Sockets.Router.handleTrackOwner`, `handleUntrackOwner`, `handleDown` — the handlers;
* `Sockets.Router.step` — what may happen;
* `Sockets.Router.Coherent` — **the maps are inverse to each other, and each reference is pending**;
* `Sockets.Router.OwnersLaw` — the law.

Main results:

* `Sockets.Router.Coherent.drop`, `Sockets.Router.Coherent.track` — entries go and come;
* `Sockets.Router.coherent_of_run` — **the maps are coherent in every state that is reached**;
* `Sockets.Router.ownersLaw` — **the law holds**.
-/

import Mathlib.Logic.Function.Basic
import Pairline.Monitors
import Pairline.Transition

set_option relaxedAutoImplicit false
set_option autoImplicit false

namespace Sockets.Router

open Monitors (Inbox Message)
open Transition

/-! ### The router -/

/-- The entry of a session: its owner, the monitor of the owner, and the token of the registration. -/
structure Owner where
  pid : ℕ
  ref : ℕ
  token : String

/-- What clients ask for; other messages are ignored. -/
inductive Request
  | trackOwner (sessionId : String) (pid : ℕ) (token : String)
  | untrackOwner (sessionId : String) (pid : ℕ)
  | other
  deriving DecidableEq

/-- **The maps of the router, with its monitors and its mailbox**; the rows that it writes into the
table of owners, and the records that it asks the store to delete. -/
structure State where
  owners : String → Option Owner
  ownerRefs : ℕ → Option (String × ℕ)
  inbox : Inbox ℕ Request
  ownerTable : String → Option (ℕ × String)
  compareAndDelete : List (String × String)

/-- The state after `init`. -/
def init : State where
  owners _ := none
  ownerRefs _ := none
  inbox := .empty
  ownerTable _ := none
  compareAndDelete := []

/-- An entry is taken out of both maps and of the table. -/
def removeOwner (state : State) (sessionId : String) (owner : Owner) : State :=
  { state with
    owners := Function.update state.owners sessionId none
    ownerRefs := Function.update state.ownerRefs owner.ref none
    ownerTable := Function.update state.ownerTable sessionId none }

/-- `drop_owner`: whatever entry a session has. -/
def dropOwner (state : State) (sessionId : String) : State × Option ℕ :=
  match state.owners sessionId with
  | some owner => (removeOwner state sessionId owner, some owner.ref)
  | none => (state, none)

/-- `drop_owner` of a process: the entry of another one is put back. -/
def dropOwnerOf (state : State) (sessionId : String) (pid : ℕ) : State × Option ℕ :=
  match state.owners sessionId with
  | some owner =>
      if owner.pid = pid then (removeOwner state sessionId owner, some owner.ref) else (state, none)
  | none => (state, none)

/-- `Process.demonitor` of a reference, if there is one. -/
def demonitor (dropped : State × Option ℕ) : State :=
  match dropped.2 with
  | some ref => { dropped.1 with inbox := dropped.1.inbox.demonitor ref }
  | none => dropped.1

/-- A process is monitored, and entered into both maps and the table. -/
def addOwner (state : State) (sessionId : String) (pid : ℕ) (token : String) : State :=
  { state with
    owners := Function.update state.owners sessionId (some ⟨pid, state.inbox.nextRef, token⟩)
    ownerRefs := Function.update state.ownerRefs state.inbox.nextRef (some (sessionId, pid))
    inbox := (state.inbox.monitor pid).2
    ownerTable := Function.update state.ownerTable sessionId (some (pid, token)) }

def handleTrackOwner (state : State) (sessionId : String) (pid : ℕ) (token : String) : State :=
  addOwner (demonitor (dropOwner state sessionId)) sessionId pid token

def handleUntrackOwner (state : State) (sessionId : String) (pid : ℕ) : State :=
  demonitor (dropOwnerOf state sessionId pid)

/-- A monitored process has ended; there is no clause for a reference of another process. -/
def handleDown (state : State) (ref pid : ℕ) : Option State :=
  match state.ownerRefs ref with
  | none => some state
  | some (sessionId, pid') =>
      if pid' ≠ pid then none
      else
        match state.owners sessionId with
        | some owner =>
            if owner.pid = pid ∧ owner.ref = ref then
              some { removeOwner state sessionId owner with
                compareAndDelete := state.compareAndDelete ++ [(sessionId, owner.token)] }
            else some { state with ownerRefs := Function.update state.ownerRefs ref none }
        | none => some { state with ownerRefs := Function.update state.ownerRefs ref none }

/-- **A message is handled**: `none` when the handler raises. -/
def handle (state : State) : Message ℕ Request → Option State
  | .info (.trackOwner sessionId pid token) => some (handleTrackOwner state sessionId pid token)
  | .info (.untrackOwner sessionId pid) => some (handleUntrackOwner state sessionId pid)
  | .info .other => some state
  | .down ref pid => handleDown state ref pid

/-- What may happen. -/
inductive Event
  /-- A client asks for something. -/
  | request (r : Request)
  /-- A monitored process ends, or cannot be reached any more. -/
  | ended (ref : ℕ)
  /-- The next message is handled. -/
  | handled

/-- **An event**: `none` when it cannot happen, or when the handler raises. -/
def step (state : State) : Event → Option State
  | .request r => some { state with inbox := state.inbox.send r }
  | .ended ref => (state.inbox.fire ref).map fun inbox => { state with inbox := inbox }
  | .handled => state.inbox.receive.bind fun next => handle { state with inbox := next.2 } next.1

/-! ### The law -/

/-- **The maps are inverse to each other, and the references are those of the pending monitors.** -/
structure Coherent (state : State) : Prop where
  inverse : ∀ ref sessionId pid, state.ownerRefs ref = some (sessionId, pid) ↔
    ∃ token, state.owners sessionId = some ⟨pid, ref, token⟩
  pending : ∀ ref pid, (ref, pid) ∈ state.inbox.pending ↔
    ∃ sessionId, state.ownerRefs ref = some (sessionId, pid)
  fresh : state.inbox.Fresh

/-- **In every state that is reached, the maps are inverse to each other, each reference that is
monitored or whose message waits belongs to one entry, no message makes the router raise, and what is
older than an entry does not remove it.** -/
structure OwnersLaw : Prop where
  inverse : ∀ events state, Run step Always init events state → ∀ ref sessionId pid,
    state.ownerRefs ref = some (sessionId, pid) ↔
      ∃ token, state.owners sessionId = some ⟨pid, ref, token⟩
  oneEntry : ∀ events state, Run step Always init events state → ∀ ref pid,
    (ref, pid) ∈ state.inbox.pending → ∃! sessionId, ∃ token,
      state.owners sessionId = some ⟨pid, ref, token⟩
  noRaise : ∀ events state, Run step Always init events state → ∀ m inbox,
    state.inbox.receive = some (m, inbox) → (step state .handled).isSome
  downOfOlder : ∀ events state, Run step Always init events state → ∀ ref pid inbox,
    state.inbox.receive = some (.down ref pid, inbox) → ∀ sessionId owner,
      state.owners sessionId = some owner → owner.pid ≠ pid ∨ owner.ref ≠ ref →
        ∀ state', step state .handled = some state' → state'.owners sessionId = some owner
  untrackOfOlder : ∀ events state, Run step Always init events state → ∀ sessionId' pid inbox,
    state.inbox.receive = some (.info (.untrackOwner sessionId' pid), inbox) → ∀ sessionId owner,
      state.owners sessionId = some owner → owner.pid ≠ pid →
        ∀ state', step state .handled = some state' → state'.owners sessionId = some owner

/-! ### Entries go and come -/

section Coherent

variable {state : State}

/-- The reference of an entry. -/
theorem Coherent.ownerRefs_of_owner (h : Coherent state) {sessionId : String} {owner : Owner}
    (howner : state.owners sessionId = some owner) :
    state.ownerRefs owner.ref = some (sessionId, owner.pid) :=
  (h.inverse _ _ _).2 ⟨owner.token, howner⟩

/-- **An entry goes, with its reference and its monitor.** -/
theorem Coherent.drop (h : Coherent state) {sessionId : String} {owner : Owner}
    (howner : state.owners sessionId = some owner) {state' : State}
    (howners : state'.owners = Function.update state.owners sessionId none)
    (hrefs : state'.ownerRefs = Function.update state.ownerRefs owner.ref none)
    (hpending : ∀ m, m ∈ state'.inbox.pending ↔ m ∈ state.inbox.pending ∧ m.1 ≠ owner.ref)
    (hfresh : state'.inbox.Fresh) : Coherent state' where
  inverse ref sid pid := by
    have href := h.ownerRefs_of_owner howner
    rw [howners, hrefs]
    by_cases hr : ref = owner.ref
    · -- the entry with this reference was the one that goes
      subst hr
      rw [Function.update_self]
      refine ⟨nofun, ?_⟩
      rintro ⟨token, hsid⟩
      by_cases hs : sid = sessionId
      · rw [hs, Function.update_self] at hsid
        cases hsid
      · rw [Function.update_of_ne hs] at hsid
        have hother := (h.inverse owner.ref sid pid).2 ⟨token, hsid⟩
        rw [href, Option.some.injEq, Prod.mk.injEq] at hother
        exact absurd hother.1.symm hs
    · rw [Function.update_of_ne hr, h.inverse]
      by_cases hs : sid = sessionId
      · subst hs
        rw [howner, Function.update_self]
        constructor
        · rintro ⟨token, heq⟩
          rw [Option.some.injEq] at heq
          exact absurd (congrArg Owner.ref heq).symm hr
        · rintro ⟨token, heq⟩
          cases heq
      · rw [Function.update_of_ne hs]
  pending ref pid := by
    rw [hpending, hrefs, h.pending]
    by_cases hr : ref = owner.ref
    · rw [hr, Function.update_self]
      simp
    · rw [Function.update_of_ne hr]
      simp [hr]
  fresh := hfresh

/-- **An entry comes, with a new monitor.** -/
theorem Coherent.add (h : Coherent state) {sessionId : String}
    (hnone : state.owners sessionId = none) (pid : ℕ) (token : String) :
    Coherent (addOwner state sessionId pid token) where
  inverse ref sid pid' := by
    have hnew : state.ownerRefs state.inbox.nextRef = none := by
      cases hentry : state.ownerRefs state.inbox.nextRef with
      | none => rfl
      | some entry =>
          have hmem := (h.pending state.inbox.nextRef entry.2).2 ⟨entry.1, hentry⟩
          exact absurd (h.fresh.lt_nextRef _ hmem) (Nat.lt_irrefl _)
    dsimp only [addOwner]
    by_cases hr : ref = state.inbox.nextRef
    · subst hr
      rw [Function.update_self]
      by_cases hs : sid = sessionId
      · subst hs
        simp
      · rw [Function.update_of_ne hs]
        constructor
        · rintro heq
          simp [Ne.symm hs] at heq
        · rintro hentry
          rw [(h.inverse _ _ _).2 hentry] at hnew
          cases hnew
    · rw [Function.update_of_ne hr, h.inverse]
      by_cases hs : sid = sessionId
      · subst hs
        rw [hnone, Function.update_self]
        simp [Ne.symm hr]
      · rw [Function.update_of_ne hs]
  pending ref pid' := by
    dsimp only [addOwner]
    rw [(state.inbox.pending_monitor pid).mem_iff, List.mem_cons, h.pending]
    by_cases hr : ref = state.inbox.nextRef
    · subst hr
      have hold : ∀ sid, state.ownerRefs state.inbox.nextRef ≠ some (sid, pid') := fun sid heq =>
        absurd (h.fresh.lt_nextRef _ ((h.pending _ _).2 ⟨sid, heq⟩)) (Nat.lt_irrefl _)
      rw [Function.update_self]
      simp [hold, eq_comm]
    · rw [Function.update_of_ne hr]
      simp [hr]
  fresh := h.fresh.monitor pid

/-- A change of the inbox that leaves what is pending. -/
theorem Coherent.of_inbox (h : Coherent state) {inbox : Inbox ℕ Request}
    (hpending : ∀ m, m ∈ inbox.pending ↔ m ∈ state.inbox.pending) (hfresh : inbox.Fresh) :
    Coherent { state with inbox := inbox } where
  inverse := h.inverse
  pending ref pid := (hpending _).trans (h.pending ref pid)
  fresh := hfresh

/-- An entry goes, and its monitor is taken back. -/
theorem Coherent.demonitor (h : Coherent state) {sessionId : String} {owner : Owner}
    (howner : state.owners sessionId = some owner) :
    Coherent (demonitor (removeOwner state sessionId owner, some owner.ref)) := by
  refine h.drop howner rfl rfl (fun m => ?_) (h.fresh.demonitor owner.ref)
  have hpending := state.inbox.pending_demonitor owner.ref
  exact (congrArg (m ∈ ·) hpending).to_iff.trans (by simp)

theorem Coherent.handleUntrackOwner (h : Coherent state) (sessionId : String) (pid : ℕ) :
    Coherent (handleUntrackOwner state sessionId pid) := by
  unfold Router.handleUntrackOwner dropOwnerOf
  cases howner : state.owners sessionId with
  | none => exact h
  | some owner =>
      dsimp only
      by_cases hpid : owner.pid = pid
      · rw [if_pos hpid]
        exact h.demonitor howner
      · rw [if_neg hpid]
        exact h

theorem Coherent.handleTrackOwner (h : Coherent state) (sessionId : String) (pid : ℕ)
    (token : String) : Coherent (handleTrackOwner state sessionId pid token) := by
  unfold Router.handleTrackOwner dropOwner
  cases howner : state.owners sessionId with
  | none => exact h.add howner pid token
  | some owner =>
      refine (h.demonitor howner).add ?_ pid token
      exact Function.update_self _ _ _

/-- The entry of the monitor whose message comes next. -/
theorem Coherent.owner_of_receive (h : Coherent state) {ref pid : ℕ} {inbox : Inbox ℕ Request}
    (hreceive : state.inbox.receive = some (.down ref pid, inbox)) :
    ∃ sessionId token, state.ownerRefs ref = some (sessionId, pid) ∧
      state.owners sessionId = some ⟨pid, ref, token⟩ := by
  have hmem : (ref, pid) ∈ state.inbox.pending :=
    (Inbox.pending_receive hreceive).mem_iff.2 List.mem_cons_self
  obtain ⟨sessionId, href⟩ := (h.pending ref pid).1 hmem
  obtain ⟨token, howner⟩ := (h.inverse ref sessionId pid).1 href
  exact ⟨sessionId, token, href, howner⟩

/-- **What a message of a monitor does**: the entry of the monitor goes. -/
theorem Coherent.step_down (h : Coherent state) {ref pid : ℕ} {inbox : Inbox ℕ Request}
    (hreceive : state.inbox.receive = some (.down ref pid, inbox)) :
    ∃ sessionId token, state.owners sessionId = some ⟨pid, ref, token⟩ ∧
      step state .handled =
        some { removeOwner { state with inbox := inbox } sessionId ⟨pid, ref, token⟩ with
          compareAndDelete := state.compareAndDelete ++ [(sessionId, token)] } := by
  obtain ⟨sessionId, token, href, howner⟩ := h.owner_of_receive hreceive
  refine ⟨sessionId, token, howner, ?_⟩
  have hstep : step state .handled = handleDown { state with inbox := inbox } ref pid := by
    rw [step, hreceive]
    rfl
  rw [hstep]
  simp only [handleDown, href, howner, ne_eq, not_true_eq_false, if_false, and_self, if_true]

/-- What a request does. -/
theorem step_info {r : Request} {inbox : Inbox ℕ Request}
    (hreceive : state.inbox.receive = some (.info r, inbox)) :
    step state .handled = handle { state with inbox := inbox } (.info r) := by
  rw [step, hreceive]
  rfl

/-- A request that is received leaves what is pending. -/
theorem Coherent.receive_info (h : Coherent state) {r : Request} {inbox : Inbox ℕ Request}
    (hreceive : state.inbox.receive = some (.info r, inbox)) :
    Coherent { state with inbox := inbox } :=
  h.of_inbox (fun _ => (Inbox.pending_receive hreceive).mem_iff.symm) (h.fresh.receive hreceive)

/-- **No message makes the router raise, and what it leaves is coherent.** -/
theorem Coherent.handled (h : Coherent state) {m : Message ℕ Request} {inbox : Inbox ℕ Request}
    (hreceive : state.inbox.receive = some (m, inbox)) :
    ∃ state', step state .handled = some state' ∧ Coherent state' := by
  cases m with
  | down ref pid =>
      obtain ⟨sessionId, token, howner, hstep⟩ := h.step_down hreceive
      refine ⟨_, hstep, h.drop howner rfl rfl (fun m => ?_) (h.fresh.receive hreceive)⟩
      have hgone := h.fresh.not_mem_of_receive hreceive
      rw [(Inbox.pending_receive hreceive).mem_iff]
      change m ∈ inbox.pending ↔ m ∈ (ref, pid) :: inbox.pending ∧ m.1 ≠ ref
      rw [List.mem_cons]
      constructor
      · intro hm
        refine ⟨.inr hm, ?_⟩
        rintro rfl
        exact hgone (List.mem_map_of_mem hm)
      · rintro ⟨rfl | hm, hne⟩
        · exact absurd rfl hne
        · exact hm
  | info r =>
      have hinbox := h.receive_info hreceive
      rw [step_info hreceive]
      cases r with
      | trackOwner sessionId pid token =>
          exact ⟨_, rfl, hinbox.handleTrackOwner sessionId pid token⟩
      | untrackOwner sessionId pid => exact ⟨_, rfl, hinbox.handleUntrackOwner sessionId pid⟩
      | other => exact ⟨_, rfl, hinbox⟩

/-- **What every event keeps.** -/
theorem Coherent.step (h : Coherent state) {e : Event} {state' : State}
    (hstep : step state e = some state') : Coherent state' := by
  cases e with
  | request r =>
      cases hstep
      exact h.of_inbox (fun m => by rw [Inbox.pending_send]) (h.fresh.send r)
  | ended ref =>
      obtain ⟨inbox, hfire, rfl⟩ := Option.map_eq_some_iff.1 hstep
      exact h.of_inbox (fun _ => (Inbox.pending_fire h.fresh hfire).mem_iff) (h.fresh.fire hfire)
  | handled =>
      obtain ⟨next, hreceive, -⟩ := Option.bind_eq_some_iff.1 hstep
      obtain ⟨state'', hstep'', hcoherent⟩ := h.handled hreceive
      rw [hstep] at hstep''
      cases hstep''
      exact hcoherent

theorem coherent_init : Coherent init where
  inverse _ _ _ := ⟨nofun, nofun⟩
  pending _ _ := ⟨nofun, nofun⟩
  fresh := Inbox.fresh_empty

/-- **The maps are coherent in every state that is reached.** -/
theorem coherent_of_run {events : List Event} (hrun : Run step Always init events state) :
    Coherent state :=
  hrun.invariant (fun _ _ _ h _ hstep => h.step hstep) coherent_init

end Coherent

/-! ### What is older -/

section Older

variable {state state' : State} {sessionId : String} {owner : Owner}

/-- An entry of another process or with another monitor stays. -/
theorem owners_of_down (h : Coherent state) {ref pid : ℕ} {inbox : Inbox ℕ Request}
    (hreceive : state.inbox.receive = some (.down ref pid, inbox))
    (howner : state.owners sessionId = some owner) (holder : owner.pid ≠ pid ∨ owner.ref ≠ ref)
    (hstep : step state .handled = some state') : state'.owners sessionId = some owner := by
  obtain ⟨sessionId', token, howner', hstep'⟩ := h.step_down hreceive
  have hne : sessionId ≠ sessionId' := by
    rintro rfl
    rw [howner, Option.some.injEq] at howner'
    rw [howner'] at holder
    simp at holder
  rw [hstep'] at hstep
  cases hstep
  exact (Function.update_of_ne hne _ _).trans howner

/-- An entry of another process stays. -/
theorem owners_of_untrack {sessionId' : String} {pid : ℕ} {inbox : Inbox ℕ Request}
    (hreceive : state.inbox.receive = some (.info (.untrackOwner sessionId' pid), inbox))
    (howner : state.owners sessionId = some owner) (holder : owner.pid ≠ pid)
    (hstep : step state .handled = some state') : state'.owners sessionId = some owner := by
  rw [step_info hreceive] at hstep
  cases hstep
  unfold handleUntrackOwner dropOwnerOf
  by_cases hs : sessionId = sessionId'
  · subst hs
    simp only [howner, if_neg holder]
    exact howner
  · cases howner' : state.owners sessionId' with
    | none => exact howner
    | some owner' =>
        dsimp only
        split_ifs
        · exact (Function.update_of_ne hs _ _).trans howner
        · exact howner

/-- **The law holds.** -/
theorem ownersLaw : OwnersLaw where
  inverse _ _ hrun := (coherent_of_run hrun).inverse
  oneEntry _ _ hrun ref pid hmem := by
    have h := coherent_of_run hrun
    obtain ⟨sessionId, href⟩ := (h.pending ref pid).1 hmem
    refine ⟨sessionId, (h.inverse ref sessionId pid).1 href, fun sessionId' howner => ?_⟩
    have href' := (h.inverse ref sessionId' pid).2 howner
    rw [href, Option.some.injEq, Prod.mk.injEq] at href'
    exact href'.1.symm
  noRaise _ _ hrun m inbox hreceive := by
    obtain ⟨state', hstep, -⟩ := (coherent_of_run hrun).handled hreceive
    rw [hstep]
    rfl
  downOfOlder _ _ hrun _ _ _ hreceive _ _ howner holder _ hstep :=
    owners_of_down (coherent_of_run hrun) hreceive howner holder hstep
  untrackOfOlder _ _ _ _ _ _ hreceive _ _ howner holder _ hstep :=
    owners_of_untrack hreceive howner holder hstep

end Older

end Sockets.Router
