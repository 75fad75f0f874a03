/-
**The TURN relay as a transition system.**

The events are the callbacks of the TURN server (authentication, creation and deletion of an
allocation), the critical sections of the two background loops (the reconciliation of tracked
allocations and the ban sweep), the shutdown and the passing of time.  The verdicts of the session
service, of the TURN server and of the random generator are part of the event.

Main definitions:

* `Turn.Relay` — the tracking tables, the clock, the loops and the launched releases, with a record
  of what the authentications reported;
* `Turn.Event`, `Turn.Relay.step` — the events and their effect.

Main results:

* `Turn.Relay.recordReport_service` — the history is a history: it changes nothing else;
* `Turn.Relay.step_created` — what a creation does;
* `Turn.Relay.now_le_of_step` — time does not run backwards.
-/

import Pairline.Transition
import Pairline.Turn.Service

set_option relaxedAutoImplicit false
set_option autoImplicit false

namespace Turn

open Whitespace

/-! ### States and events -/

/-- A goroutine that `launchAllocationRelease` started. -/
structure AllocationRelease where
  allocation : ActiveAllocation
  fallbackUsername : String

/-- The relay.  The last three fields are history and no operation reads them: the operation ids
that were attached to a tracked allocation, the session IP that the last allowed authentication of
a user reported, and the session IP that the authentication of a tracked five-tuple reported. -/
structure Relay where
  service : Service
  now : ℕ
  releases : List AllocationRelease
  /-- Snapshots the reconciler has still to look at. -/
  reconciling : List (String × ActiveAllocation)
  /-- The session IPs the running ban sweep asked about. -/
  sweeping : Option (List String)
  /-- The allocations the last ban sweep revoked. -/
  revoked : List ActiveAllocation
  closed : Bool
  attached : List String
  reportedByUserID : GoMap String
  reportedByKey : String → Option String

/-- The relay `NewService` starts. -/
def newRelay : Relay where
  service := newService
  now := 0
  releases := []
  reconciling := []
  sweeping := none
  revoked := []
  closed := false
  attached := []
  reportedByUserID := ∅
  reportedByKey := fun _ => none

inductive Event
  /-- Time passes, in nanoseconds. -/
  | tick (d : ℕ)
  /-- `authHandler`, with the session IP of the validation result; `none` when it is denied. -/
  | auth (username : String) (result : Option String)
  | allocationCreated (srcAddr dstAddr : Option Addr) (protocol userID : String)
      (random : Option (Vector UInt8 12))
  | allocationDeleted (srcAddr dstAddr : Option Addr) (protocol userID : String)
  | snapshotTrackedAllocations
  /-- The reconciler looks at its next snapshot: `none` when `hasAllocation` fails. -/
  | reconcile (exists_ : Option Bool)
  | snapshotSessionIPs
  /-- The ban check fails and the sweep ends. -/
  | banCheckFailed
  /-- The sweep revokes, given which ban keys exist. -/
  | revokeBannedAllocations (banned : String → Bool)
  | close

namespace Relay

/-! ### Steps -/

/-- What the history keeps of an allowed authentication. -/
def recordReport (w : Relay) (username sessionIP : String) : Relay :=
  if trim sessionIP = "" then
    { w with reportedByUserID := w.reportedByUserID.erase username }
  else
    { w with
      reportedByUserID := w.reportedByUserID.insert username (trim sessionIP)
      reportedByKey := fun key =>
        if (w.service.activeAllocations.lookup key).map (·.username) = some username then
          some (trim sessionIP)
        else w.reportedByKey key }

/-- What the history keeps of a creation. -/
def recordCreation (w : Relay) (key userID operationID : String) : Relay :=
  { w with
    attached := operationID :: w.attached
    reportedByKey := Function.update w.reportedByKey key (w.reportedByUserID.lookup userID) }

/-- `handleAllocationDeleted`: the release of an untracked five-tuple has no operation id. -/
def handleAllocationDeleted (toUpper : String → String) (w : Relay)
    (srcAddr dstAddr : Option Addr) (protocol userID : String) : Relay :=
  let (allocation, service) := w.service.untrackActiveAllocation toUpper srcAddr dstAddr protocol
  let allocation := allocation.getD
    { username := userID
      sessionIP := ""
      srcAddr := srcAddr
      dstAddr := dstAddr
      protocol := toUpper (trim protocol)
      releaseOperationID := "" }
  { w with service := service, releases := ⟨allocation, userID⟩ :: w.releases }

/-- The reconciler removes an allocation the TURN server no longer has. -/
def reconcileMissing (w : Relay) (snapshot : String × ActiveAllocation) : Relay :=
  match w.service.removeTrackedAllocationByKey snapshot.1 snapshot.2.releaseOperationID with
  | (none, service) => { w with service := service }
  | (some allocation, service) =>
      { w with
        service := service
        releases := ⟨allocation, allocation.username⟩ :: w.releases }

/-- **One event.** -/
def step (toUpper : String → String) (w : Relay) : Event → Option Relay
  | .tick d => some { w with now := w.now + d }
  | .auth _ none => some w
  | .auth username (some sessionIP) =>
      some ({ w with service := w.service.rememberSessionIP w.now username sessionIP
        }.recordReport username sessionIP)
  | .allocationCreated srcAddr dstAddr protocol userID random =>
      match w.service.trackActiveAllocation toUpper w.now random srcAddr dstAddr protocol userID with
      | (none, service) => some { w with service := service }
      | (some allocation, service) =>
          some ({ w with service := service }.recordCreation
            (activeAllocationKey toUpper srcAddr dstAddr protocol) userID
            allocation.releaseOperationID)
  | .allocationDeleted srcAddr dstAddr protocol userID =>
      some (w.handleAllocationDeleted toUpper srcAddr dstAddr protocol userID)
  | .snapshotTrackedAllocations =>
      if w.reconciling = [] then
        some { w with
          reconciling := w.service.activeAllocations.entries.map fun entry => (entry.1, entry.2) }
      else none
  | .reconcile exists_ =>
      match w.reconciling with
      | [] => none
      | snapshot :: rest =>
          if exists_ = some false then some ({ w with reconciling := rest }.reconcileMissing snapshot)
          else some { w with reconciling := rest }
  | .snapshotSessionIPs =>
      match w.sweeping with
      | some _ => none
      | none =>
          let (sessionIPs, service) := w.service.snapshotSessionIPs w.now
          some { w with
            service := service
            sweeping := if sessionIPs = [] then none else some sessionIPs }
  | .banCheckFailed => if w.sweeping.isSome then some { w with sweeping := none } else none
  | .revokeBannedAllocations banned =>
      match w.sweeping with
      | none => none
      | some sessionIPs =>
          some { w with
            sweeping := none
            revoked := w.service.bannedAllocations (checkBannedSessionIPs banned sessionIPs) }
  | .close => some { w with closed := true }

/-! ### Frame -/

@[simp] theorem recordReport_service (w : Relay) (username sessionIP : String) :
    (w.recordReport username sessionIP).service = w.service := by
  unfold recordReport
  split <;> rfl

@[simp] theorem recordReport_releases (w : Relay) (username sessionIP : String) :
    (w.recordReport username sessionIP).releases = w.releases := by
  unfold recordReport
  split <;> rfl

@[simp] theorem recordReport_attached (w : Relay) (username sessionIP : String) :
    (w.recordReport username sessionIP).attached = w.attached := by
  unfold recordReport
  split <;> rfl

@[simp] theorem recordReport_sweeping (w : Relay) (username sessionIP : String) :
    (w.recordReport username sessionIP).sweeping = w.sweeping := by
  unfold recordReport
  split <;> rfl

@[simp] theorem reconcileMissing_sweeping (w : Relay) (snapshot : String × ActiveAllocation) :
    (w.reconcileMissing snapshot).sweeping = w.sweeping := by
  unfold reconcileMissing
  split <;> rfl

@[simp] theorem recordCreation_sweeping (w : Relay) (key userID operationID : String) :
    (w.recordCreation key userID operationID).sweeping = w.sweeping := rfl

@[simp] theorem recordCreation_service (w : Relay) (key userID operationID : String) :
    (w.recordCreation key userID operationID).service = w.service := rfl

@[simp] theorem recordCreation_releases (w : Relay) (key userID operationID : String) :
    (w.recordCreation key userID operationID).releases = w.releases := rfl

@[simp] theorem recordCreation_attached (w : Relay) (key userID operationID : String) :
    (w.recordCreation key userID operationID).attached = operationID :: w.attached := rfl

@[simp] theorem recordCreation_reportedByUserID (w : Relay) (key userID operationID : String) :
    (w.recordCreation key userID operationID).reportedByUserID = w.reportedByUserID := rfl

@[simp] theorem recordCreation_reportedByKey (w : Relay) (key userID operationID : String) :
    (w.recordCreation key userID operationID).reportedByKey =
      Function.update w.reportedByKey key (w.reportedByUserID.lookup userID) := rfl

/-- **What a creation does**, as a whole. -/
theorem step_created {toUpper : String → String} {w w' : Relay}
    {srcAddr dstAddr : Option Addr} {protocol userID key : String}
    {random : Option (Vector UInt8 12)}
    (hkey : activeAllocationKey toUpper srcAddr dstAddr protocol = key)
    (hs : w.step toUpper (.allocationCreated srcAddr dstAddr protocol userID random) = some w') :
    ∃ (allocation : ActiveAllocation) (sequence : ℕ),
      allocation.username = userID ∧
      allocation.sessionIP = (w.service.rememberedForCreation w.now key userID).ip ∧
      w' = { w with
        service := { w.service.prepareCreation w.now key userID with
          releaseSequence := sequence }.storeAllocation key allocation
        }.recordCreation key userID allocation.releaseOperationID := by
  obtain ⟨allocation, sequence, hname, hip, htrack⟩ :=
    w.service.trackActiveAllocation_eq toUpper w.now random srcAddr dstAddr protocol userID hkey
  refine ⟨allocation, sequence, hname, hip, ?_⟩
  simp only [step, htrack, hkey, Option.some_inj] at hs
  exact hs.symm

/-- Time does not run backwards. -/
theorem now_le_of_step {toUpper : String → String} {w w' : Relay} {e : Event}
    (h : w.step toUpper e = some w') : w.now ≤ w'.now := by
  cases e with
  | tick d =>
      obtain rfl := Option.some_inj.1 h
      exact Nat.le_add_right _ _
  | auth username result =>
      cases result with
      | none => exact (Option.some_inj.1 h) ▸ le_refl _
      | some sessionIP =>
          obtain rfl := Option.some_inj.1 h
          unfold recordReport
          split_ifs <;> exact le_refl _
  | allocationCreated srcAddr dstAddr protocol userID random =>
      obtain ⟨allocation, sequence, -, -, rfl⟩ := step_created rfl h
      simp only [recordCreation, le_refl]
  | allocationDeleted srcAddr dstAddr protocol userID =>
      obtain rfl := Option.some_inj.1 h
      exact le_refl _
  | snapshotTrackedAllocations =>
      obtain ⟨-, h⟩ := Option.ite_none_right_eq_some.1 h
      exact (Option.some_inj.1 h) ▸ le_refl _
  | reconcile exists_ =>
      cases hrec : w.reconciling with
      | nil => simp only [step, hrec, reduceCtorEq] at h
      | cons snapshot rest =>
          simp only [step, hrec] at h
          split at h
          · obtain rfl := Option.some_inj.1 h
            unfold reconcileMissing
            split <;> exact le_refl _
          · exact (Option.some_inj.1 h) ▸ le_refl _
  | snapshotSessionIPs =>
      cases hsweep : w.sweeping with
      | some sessionIPs => simp only [step, hsweep, reduceCtorEq] at h
      | none =>
          simp only [step, hsweep, Option.some_inj] at h
          exact h ▸ le_refl _
  | banCheckFailed =>
      obtain ⟨-, h⟩ := Option.ite_none_right_eq_some.1 h
      exact (Option.some_inj.1 h) ▸ le_refl _
  | revokeBannedAllocations banned =>
      cases hsweep : w.sweeping with
      | none => simp only [step, hsweep, reduceCtorEq] at h
      | some sessionIPs =>
          simp only [step, hsweep, Option.some_inj] at h
          exact h ▸ le_refl _
  | close => exact (Option.some_inj.1 h) ▸ le_refl _

end Relay

end Turn
