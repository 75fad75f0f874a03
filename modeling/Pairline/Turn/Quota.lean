/-
**The quota slots of the TURN relay.**

Every tracked allocation holds a quota slot, which is given back under the operation id of the
allocation.  An operation id that leaves the tracking tables without a launched release is a slot
that nobody gives back before its counter expires.

Main definitions:

* `Turn.Relay.Tracked`, `Turn.Relay.Launched` — an operation id belongs to a tracked allocation, or
  its release was launched;
* `Turn.NoLeakedQuota` — every attached operation id is one or the other, in all runs whose steps
  meet a condition;
* `Turn.FreshFiveTuple` — an allocation is created for a five-tuple that is not tracked.

Main results:

* `Turn.replaced_operationID_leaks` — a creation for a tracked five-tuple loses the operation id of
  the allocation it replaces;
* `Turn.noLeakedQuota_of_freshFiveTuple` — **no other event loses one**.
-/

import Pairline.Turn.Relay

set_option relaxedAutoImplicit false
set_option autoImplicit false

namespace Turn

open Transition

/-! ### The law -/

namespace Relay

/-- The operation id belongs to a tracked allocation. -/
def Tracked (w : Relay) (operationID : String) : Prop :=
  ∃ key allocation, w.service.activeAllocations.lookup key = some allocation ∧
    allocation.releaseOperationID = operationID

/-- A release of the operation id was launched. -/
def Launched (w : Relay) (operationID : String) : Prop :=
  ∃ release ∈ w.releases, release.allocation.releaseOperationID = operationID

/-- **No operation id has vanished from tracking without a release.** -/
def NoLeak (w : Relay) : Prop :=
  ∀ operationID ∈ w.attached, w.Tracked operationID ∨ w.Launched operationID

theorem tracked_iff {w : Relay} {operationID : String} :
    w.Tracked operationID ↔
      ∃ entry ∈ w.service.activeAllocations.entries, entry.2.releaseOperationID = operationID := by
  constructor
  · rintro ⟨key, allocation, hlookup, hid⟩
    exact ⟨⟨key, allocation⟩, AList.mem_lookup_iff.1 hlookup, hid⟩
  · rintro ⟨⟨key, allocation⟩, hmem, hid⟩
    exact ⟨key, allocation, AList.mem_lookup_iff.2 hmem, hid⟩

instance (w : Relay) (operationID : String) : Decidable (w.Tracked operationID) :=
  decidable_of_iff _ tracked_iff.symm

instance (w : Relay) (operationID : String) : Decidable (w.Launched operationID) :=
  inferInstanceAs (Decidable (∃ release ∈ w.releases, _))

instance (w : Relay) : Decidable w.NoLeak :=
  inferInstanceAs (Decidable (∀ operationID ∈ w.attached, _))

end Relay

/-- **No leaked quota**, in the runs whose steps meet `ok`. -/
def NoLeakedQuota (toUpper : String → String) (ok : Relay → Event → Prop) : Prop :=
  ∀ events w, Run (Relay.step toUpper) ok newRelay events w → w.NoLeak

/-- An allocation is created for a five-tuple that is not tracked. -/
def FreshFiveTuple (toUpper : String → String) (w : Relay) : Event → Prop
  | .allocationCreated srcAddr dstAddr protocol _ _ =>
      activeAllocationKey toUpper srcAddr dstAddr protocol ∉ w.service.activeAllocations
  | _ => True

instance (toUpper : String → String) (w : Relay) : (e : Event) →
    Decidable (FreshFiveTuple toUpper w e)
  | .allocationCreated srcAddr dstAddr protocol _ _ => inferInstanceAs (Decidable
      (activeAllocationKey toUpper srcAddr dstAddr protocol ∉ w.service.activeAllocations))
  | .tick _ | .auth _ _ | .allocationDeleted _ _ _ _ | .snapshotTrackedAllocations | .reconcile _ |
    .snapshotSessionIPs | .banCheckFailed | .revokeBannedAllocations _ | .close => .isTrue trivial

/-! ### What a step loses -/

namespace Relay

theorem NoLeak.mono {w w' : Relay} (h : w.NoLeak) (hattached : w'.attached ⊆ w.attached)
    (htracked : ∀ operationID, w.Tracked operationID →
      w'.Tracked operationID ∨ w'.Launched operationID)
    (hlaunched : w.releases ⊆ w'.releases) : w'.NoLeak := by
  intro operationID hop
  rcases h operationID (hattached hop) with ht | ⟨release, hr, hid⟩
  · exact htracked operationID ht
  · exact .inr ⟨release, hlaunched hr, hid⟩

/-- Only the tracked allocations, the history and the releases matter. -/
theorem NoLeak.congr {w w' : Relay} (h : w.NoLeak)
    (hactive : w'.service.activeAllocations = w.service.activeAllocations)
    (hattached : w'.attached = w.attached) (hreleases : w'.releases = w.releases) : w'.NoLeak := by
  refine h.mono (by rw [hattached]; exact List.Subset.refl _) (fun operationID ht => .inl ?_)
    (by rw [hreleases]; exact List.Subset.refl _)
  obtain ⟨key, allocation, hlookup, hid⟩ := ht
  exact ⟨key, allocation, by rw [hactive, hlookup], hid⟩

/-- An allocation taken out of the tables by a step that launches its release is not lost. -/
theorem tracked_or_launched_of_remove {w w' : Relay} {key : String} {removed : ActiveAllocation}
    (hremoved : w.service.activeAllocations.lookup key = some removed)
    (hactive : w'.service.activeAllocations = w.service.activeAllocations.erase key)
    (hrelease : ∃ release ∈ w'.releases, release.allocation = removed) {operationID : String}
    (h : w.Tracked operationID) : w'.Tracked operationID ∨ w'.Launched operationID := by
  obtain ⟨key', allocation, hlookup, hid⟩ := h
  rcases eq_or_ne key' key with rfl | hne
  · obtain ⟨release, hmem, hrel⟩ := hrelease
    have heq : removed = allocation := by
      rw [hremoved] at hlookup
      exact Option.some_inj.1 hlookup
    exact .inr ⟨release, hmem, by rw [hrel, heq, hid]⟩
  · refine .inl ⟨key', allocation, ?_, hid⟩
    rw [hactive, AList.lookup_erase_ne hne, hlookup]

/-- An authentication keeps the operation ids of the tracked allocations. -/
theorem tracked_rememberSessionIP (w w' : Relay) (username sessionIP : String)
    (hservice : w'.service = w.service.rememberSessionIP w.now username sessionIP)
    {operationID : String} (h : w.Tracked operationID) : w'.Tracked operationID := by
  obtain ⟨key, allocation, hlookup, hid⟩ := h
  have hnew := Service.lookup_rememberSessionIP w.service w.now username sessionIP hlookup
  rw [← hservice] at hnew
  refine ⟨key, _, hnew, ?_⟩
  split
  · exact hid
  · exact hid

theorem noLeak_auth {w : Relay} (h : w.NoLeak) (username sessionIP : String) :
    ({ w with service := w.service.rememberSessionIP w.now username sessionIP
      }.recordReport username sessionIP).NoLeak := by
  refine h.mono ?_ (fun operationID ht => .inl ?_) ?_
  · rw [recordReport_attached]
    exact List.Subset.refl _
  · refine tracked_rememberSessionIP w _ username sessionIP ?_ ht
    rw [recordReport_service]
  · rw [recordReport_releases]
    exact List.Subset.refl _

/-- A creation for a five-tuple that is not tracked leaves the tracked allocations alone. -/
theorem noLeak_created {toUpper : String → String} {w w' : Relay} (h : w.NoLeak)
    {srcAddr dstAddr : Option Addr} {protocol userID : String}
    {random : Option (Vector UInt8 12)}
    (hfresh : FreshFiveTuple toUpper w
      (.allocationCreated srcAddr dstAddr protocol userID random))
    (hs : w.step toUpper (.allocationCreated srcAddr dstAddr protocol userID random) = some w') :
    w'.NoLeak := by
  obtain ⟨allocation, sequence, -, -, hw⟩ := step_created rfl hs
  have hactive : w'.service.activeAllocations =
      (w.service.removePreviousAllocation
        (activeAllocationKey toUpper srcAddr dstAddr protocol)).activeAllocations.insert
          (activeAllocationKey toUpper srcAddr dstAddr protocol) allocation := by
    rw [hw, recordCreation_service, Service.activeAllocations_storeAllocation,
      Service.activeAllocations_prepareCreation]
  intro operationID hop
  rw [hw, recordCreation_attached] at hop
  rcases List.mem_cons.1 hop with rfl | hop
  · refine .inl ⟨activeAllocationKey toUpper srcAddr dstAddr protocol, allocation, ?_, rfl⟩
    rw [hactive, AList.lookup_insert]
  · rcases h operationID hop with ⟨key, other, hlookup, hid⟩ | ⟨release, hr, hid⟩
    · have hne : key ≠ activeAllocationKey toUpper srcAddr dstAddr protocol := by
        rintro rfl
        exact hfresh (AList.lookup_isSome.1 (by simp [hlookup]))
      refine .inl ⟨key, other, ?_, hid⟩
      rw [hactive, AList.lookup_insert_ne hne,
        Service.lookup_removePreviousAllocation_of_ne _ hne, hlookup]
    · refine .inr ⟨release, ?_, hid⟩
      rw [hw, recordCreation_releases]
      exact hr

theorem noLeak_deleted {toUpper : String → String} {w : Relay} (h : w.NoLeak)
    (srcAddr dstAddr : Option Addr) (protocol userID : String) :
    (w.handleAllocationDeleted toUpper srcAddr dstAddr protocol userID).NoLeak := by
  cases hlookup : w.service.activeAllocations.lookup
      (activeAllocationKey toUpper srcAddr dstAddr protocol) with
  | none =>
      obtain ⟨lookup, huntrack⟩ :=
        w.service.untrackActiveAllocation_of_untracked toUpper srcAddr dstAddr protocol rfl hlookup
      refine h.mono (fun _ h => h) (fun operationID ht => .inl ?_)
        (fun _ h => List.mem_cons_of_mem _ h)
      obtain ⟨key, allocation, hkey, hid⟩ := ht
      refine ⟨key, allocation, ?_, hid⟩
      simpa only [handleAllocationDeleted, huntrack] using hkey
  | some allocation =>
      have huntrack :=
        w.service.untrackActiveAllocation_of_tracked toUpper srcAddr dstAddr protocol rfl hlookup
      refine h.mono (fun _ h => h) (fun operationID ht => ?_)
        (fun _ h => List.mem_cons_of_mem _ h)
      refine tracked_or_launched_of_remove hlookup ?_ ?_ ht
      · simp only [handleAllocationDeleted, huntrack,
          Service.activeAllocations_removeAllocationIndexesLocked]
      · refine ⟨⟨allocation, userID⟩, ?_, rfl⟩
        simp only [handleAllocationDeleted, huntrack, Option.getD_some, List.mem_cons, true_or]

theorem noLeak_reconcileMissing {w : Relay} (h : w.NoLeak)
    (snapshot : String × ActiveAllocation) : (w.reconcileMissing snapshot).NoLeak := by
  rcases w.service.removeTrackedAllocationByKey_cases snapshot.1
      snapshot.2.releaseOperationID with hremove | ⟨allocation, hlookup, hremove⟩
  · simp only [reconcileMissing, hremove]
    exact h
  · refine h.mono ?_ (fun operationID ht => ?_) ?_
    · simp only [reconcileMissing, hremove]
      exact fun _ h => h
    · refine tracked_or_launched_of_remove hlookup ?_ ?_ ht
      · simp only [reconcileMissing, hremove,
          Service.activeAllocations_removeAllocationIndexesLocked]
      · refine ⟨⟨allocation, allocation.username⟩, ?_, rfl⟩
        simp only [reconcileMissing, hremove, List.mem_cons, true_or]
    · simp only [reconcileMissing, hremove]
      exact fun _ h => List.mem_cons_of_mem _ h

/-- **A step that creates no allocation for a tracked five-tuple loses no operation id.** -/
theorem noLeak_step {toUpper : String → String} {w w' : Relay} {e : Event} (h : w.NoLeak)
    (hok : FreshFiveTuple toUpper w e) (hs : w.step toUpper e = some w') : w'.NoLeak := by
  cases e with
  | tick d =>
      obtain rfl := Option.some_inj.1 hs
      exact h.congr rfl rfl rfl
  | auth username result =>
      cases result with
      | none => exact Option.some_inj.1 hs ▸ h
      | some sessionIP =>
          simp only [step, Option.some_inj] at hs
          exact hs ▸ noLeak_auth h username sessionIP
  | allocationCreated srcAddr dstAddr protocol userID random => exact noLeak_created h hok hs
  | allocationDeleted srcAddr dstAddr protocol userID =>
      simp only [step, Option.some_inj] at hs
      exact hs ▸ noLeak_deleted h srcAddr dstAddr protocol userID
  | snapshotTrackedAllocations =>
      obtain ⟨-, hs⟩ := Option.ite_none_right_eq_some.1 hs
      obtain rfl := Option.some_inj.1 hs
      exact h.congr rfl rfl rfl
  | reconcile exists_ =>
      cases hrec : w.reconciling with
      | nil => simp only [step, hrec, reduceCtorEq] at hs
      | cons snapshot rest =>
          have hrest : Relay.NoLeak { w with reconciling := rest } := h.congr rfl rfl rfl
          simp only [step, hrec] at hs
          split at hs
          · exact Option.some_inj.1 hs ▸ noLeak_reconcileMissing hrest snapshot
          · exact Option.some_inj.1 hs ▸ hrest
  | snapshotSessionIPs =>
      cases hsweep : w.sweeping with
      | some sessionIPs => simp only [step, hsweep, reduceCtorEq] at hs
      | none =>
          simp only [step, hsweep, Option.some_inj] at hs
          subst hs
          refine h.congr ?_ rfl rfl
          simp only [Service.snapshotSessionIPs]
          rw [(Service.forgets_cleanupRememberedSessionIPsLocked _ _).rest]
  | banCheckFailed =>
      obtain ⟨-, hs⟩ := Option.ite_none_right_eq_some.1 hs
      obtain rfl := Option.some_inj.1 hs
      exact h.congr rfl rfl rfl
  | revokeBannedAllocations banned =>
      cases hsweep : w.sweeping with
      | none => simp only [step, hsweep, reduceCtorEq] at hs
      | some sessionIPs =>
          simp only [step, hsweep, Option.some_inj] at hs
          subst hs
          exact h.congr rfl rfl rfl
  | close =>
      obtain rfl := Option.some_inj.1 hs
      exact h.congr rfl rfl rfl

theorem noLeak_newRelay : newRelay.NoLeak := fun _ h => absurd h List.not_mem_nil

end Relay

/-! ### The law and its exception -/

/-- A user's allocation is created twice for one five-tuple. -/
def replacingCreation : List Event :=
  [.allocationCreated (some ⟨"udp", "10.0.0.1:1111"⟩) (some ⟨"udp", "10.0.0.2:3478"⟩) "UDP" "user-1"
      (some (Vector.replicate 12 0)),
    .allocationCreated (some ⟨"udp", "10.0.0.1:1111"⟩) (some ⟨"udp", "10.0.0.2:3478"⟩) "UDP" "user-1"
      (some (Vector.replicate 12 1))]

/-- The second creation overwrites the operation id of the first, which nothing releases. -/
theorem replaced_operationID_leaks : ¬ NoLeakedQuota asciiUpper Always := by
  intro h
  have hleak : ∃ w, exec (Relay.step asciiUpper) newRelay replacingCreation = some w ∧
      ¬ w.NoLeak := ⟨_, rfl, by decide⟩
  obtain ⟨w, hexec, hw⟩ := hleak
  exact hw (h replacingCreation w (run_of_exec hexec))

/-- **When allocations are only created for untracked five-tuples, no quota leaks.** -/
theorem noLeakedQuota_of_freshFiveTuple (toUpper : String → String) :
    NoLeakedQuota toUpper (FreshFiveTuple toUpper) := by
  intro events w hrun
  exact hrun.invariant (fun _ _ _ h hok hs => Relay.noLeak_step h hok hs) Relay.noLeak_newRelay

/-- An allocation is created, deleted and created again for the same five-tuple. -/
def recreation : List Event :=
  [.allocationCreated (some ⟨"udp", "10.0.0.1:1111"⟩) (some ⟨"udp", "10.0.0.2:3478"⟩) "UDP" "user-1"
      (some (Vector.replicate 12 0)),
    .allocationDeleted (some ⟨"udp", "10.0.0.1:1111"⟩) (some ⟨"udp", "10.0.0.2:3478"⟩) "UDP" "user-1",
    .allocationCreated (some ⟨"udp", "10.0.0.1:1111"⟩) (some ⟨"udp", "10.0.0.2:3478"⟩) "UDP" "user-1"
      (some (Vector.replicate 12 1))]

theorem noLeak_recreation :
    ∃ w, execWhere (Relay.step asciiUpper) (FreshFiveTuple asciiUpper) newRelay recreation = some w ∧
      w.attached.length = 2 ∧ w.NoLeak :=
  ⟨_, rfl, rfl, noLeakedQuota_of_freshFiveTuple asciiUpper recreation _ (run_of_execWhere rfl)⟩

end Turn
