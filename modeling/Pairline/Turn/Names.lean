/-
**The names in the tracking tables.**

Every allocation that the relay tracks, or whose release it launches, bears the user name and the
operation id with which its creation stored it.  A callback may move and forget allocations, and only
a creation brings new names.

Main definitions:

* `Turn.Service.Names`, `Turn.Relay.Names` — what is known of the names of all allocations.

Main results:

* `Turn.Service.operationID_trackActiveAllocation` — the operation id that a creation attaches;
* `Turn.Relay.step_cases` — what a callback may do to the names;
* `Turn.Relay.Names.step` — **only a creation brings new names**;
* `Turn.Relay.launched_of_step` — what a callback launches.
-/

import Pairline.Turn.Quota

set_option relaxedAutoImplicit false
set_option autoImplicit false

namespace Turn

open Whitespace

/-! ### The names of the allocations -/

namespace Service

/-- The user name and the operation id of every allocation in the tables satisfy `P`, unless it has
no operation id. -/
structure Names (P : String → String → Prop) (s : Service) : Prop where
  active : ∀ key allocation, s.activeAllocations.lookup key = some allocation →
    allocation.releaseOperationID ≠ "" → P allocation.username allocation.releaseOperationID
  released : ∀ key allocation, s.allocationReleaseLookup.lookup key = some allocation →
    allocation.releaseOperationID ≠ "" → P allocation.username allocation.releaseOperationID

variable {P Q : String → String → Prop} {s t : Service}

theorem Names.mono (h : s.Names P) (hPQ : ∀ username operationID, P username operationID →
    Q username operationID) : s.Names Q where
  active key allocation hlookup hid := hPQ _ _ (h.active key allocation hlookup hid)
  released key allocation hlookup hid := hPQ _ _ (h.released key allocation hlookup hid)

theorem Names.congr (h : s.Names P) (hactive : t.activeAllocations = s.activeAllocations)
    (hreleased : t.allocationReleaseLookup = s.allocationReleaseLookup) : t.Names P where
  active := hactive ▸ h.active
  released := hreleased ▸ h.released

/-- An allocation whose release was launched is forgotten. -/
theorem Names.eraseRelease (h : s.Names P) (key : String) :
    Service.Names P { s with allocationReleaseLookup := s.allocationReleaseLookup.erase key } where
  active := h.active
  released key' allocation hlookup := h.released key' allocation (lookup_of_lookup_erase hlookup)

theorem Names.withReleaseSequence (h : s.Names P) (sequence : ℕ) :
    Service.Names P { s with releaseSequence := sequence } := ⟨h.active, h.released⟩

theorem allocationReleaseLookup_removeAllocationIndexesLocked (s : Service) (key : String)
    (allocation : ActiveAllocation) :
    (s.removeAllocationIndexesLocked key allocation).allocationReleaseLookup =
      s.allocationReleaseLookup := by
  unfold removeAllocationIndexesLocked removeAllocationKeyFromSessionIPLocked
  dsimp only
  split_ifs <;> rfl

theorem Names.removeAllocationIndexesLocked (h : s.Names P) (key : String)
    (allocation : ActiveAllocation) : (s.removeAllocationIndexesLocked key allocation).Names P where
  active key' other hlookup := by
    rw [activeAllocations_removeAllocationIndexesLocked] at hlookup
    exact h.active key' other (lookup_of_lookup_erase hlookup)
  released key' other hlookup := by
    rw [allocationReleaseLookup_removeAllocationIndexesLocked] at hlookup
    exact h.released key' other hlookup

/-- The session IP of an allocation moves, and its names stay. -/
theorem Names.moveAllocationToSessionIP (h : s.Names P) (sessionIP key : String) :
    (moveAllocationToSessionIP sessionIP s key).Names P := by
  refine ⟨fun key' allocation hlookup hid => ?_, ?_⟩
  · rw [activeAllocations_moveAllocationToSessionIP] at hlookup
    rcases eq_or_ne key' key with rfl | hne
    · rw [AList.lookup_insert, Option.some_inj] at hlookup
      subst hlookup
      cases hkey : s.activeAllocations.lookup key' with
      | none =>
          -- an allocation that is not tracked has no operation id
          simp only [GoMap.get, hkey, Option.getD_none] at hid
          exact absurd rfl hid
      | some allocation =>
          simp only [GoMap.get, hkey, Option.getD_some] at hid ⊢
          exact h.active key' allocation hkey hid
    · rw [AList.lookup_insert_ne hne] at hlookup
      exact h.active key' allocation hlookup hid
  · have hsame : (Service.moveAllocationToSessionIP sessionIP s key).allocationReleaseLookup =
        s.allocationReleaseLookup := by
      unfold Service.moveAllocationToSessionIP addAllocationKeyToSessionIPLocked
        removeAllocationKeyFromSessionIPLocked
      dsimp only
      split_ifs <;> rfl
    rw [hsame]
    exact h.released

theorem Names.of_forgets (h : s.Names P) (hst : s.Forgets t) : t.Names P := by
  rw [hst.rest]
  exact h.congr rfl rfl

theorem Names.rememberSessionIP (h : s.Names P) (now : ℕ) (userID sessionIP : String) :
    (s.rememberSessionIP now userID sessionIP).Names P := by
  have hmove : ∀ (keys : List String) (s : Service), s.Names P →
      (keys.foldl (Service.moveAllocationToSessionIP (trim sessionIP)) s).Names P := by
    intro keys
    induction keys with
    | nil => exact fun s h => h
    | cons key keys ih => exact fun s h => ih _ (h.moveAllocationToSessionIP (trim sessionIP) key)
  unfold Service.rememberSessionIP
  dsimp only
  split_ifs
  · exact h
  · refine (hmove _ _ ?_).of_forgets (forgets_cleanupRememberedSessionIPsLocked _ _)
    exact h.congr rfl rfl

theorem Names.prepareCreation (h : s.Names P) (now : ℕ) (key userID : String) :
    (s.prepareCreation now key userID).Names P := by
  have hremove : (s.removePreviousAllocation key).Names P := by
    unfold Service.removePreviousAllocation
    split
    · exact h.removeAllocationIndexesLocked key _
    · exact h
  unfold Service.prepareCreation
  exact ⟨hremove.active, hremove.released⟩

theorem Names.storeAllocation (h : s.Names P) (key : String) (allocation : ActiveAllocation)
    (hnew : P allocation.username allocation.releaseOperationID) :
    (s.storeAllocation key allocation).Names P := by
  have hreleased : (s.storeAllocation key allocation).allocationReleaseLookup =
      s.allocationReleaseLookup.insert key allocation := by
    unfold Service.storeAllocation addAllocationIndexesLocked addAllocationKeyToSessionIPLocked
    dsimp only
    split_ifs <;> rfl
  refine ⟨fun key' other hlookup hid => ?_, fun key' other hlookup hid => ?_⟩
  · rw [activeAllocations_storeAllocation] at hlookup
    rcases eq_or_ne key' key with rfl | hne
    · rw [AList.lookup_insert, Option.some_inj] at hlookup
      exact hlookup ▸ hnew
    · rw [AList.lookup_insert_ne hne] at hlookup
      exact h.active key' other hlookup hid
  · rw [hreleased] at hlookup
    rcases eq_or_ne key' key with rfl | hne
    · rw [AList.lookup_insert, Option.some_inj] at hlookup
      exact hlookup ▸ hnew
    · rw [AList.lookup_insert_ne hne] at hlookup
      exact h.released key' other hlookup hid

/-- The operation id that a creation attaches. -/
theorem operationID_trackActiveAllocation (toUpper : String → String) (s : Service) (now : ℕ)
    (random : Option (Vector UInt8 12)) (srcAddr dstAddr : Option Addr) (protocol userID : String) :
    (s.trackActiveAllocation toUpper now random srcAddr dstAddr protocol userID).1.map
      (·.releaseOperationID) = some (s.nextReleaseOperationID now random).1 := by
  have hsequence : ∀ key, (s.prepareCreation now key userID).releaseSequence = s.releaseSequence := by
    intro key
    unfold Service.prepareCreation removePreviousAllocation
    dsimp only
    split
    · unfold Service.removeAllocationIndexesLocked removeAllocationKeyFromSessionIPLocked
      dsimp only
      split_ifs <;> rfl
    · rfl
  have hnext : ∀ key, ((s.prepareCreation now key userID).nextReleaseOperationID now random).1 =
      (s.nextReleaseOperationID now random).1 := by
    intro key
    cases random with
    | some bytes => rfl
    | none =>
        change "turn-release-fallback-" ++ toString now ++ "-" ++ toString (_ + 1) = _
        rw [hsequence]
        rfl
  simp only [trackActiveAllocation, activeAllocationKey_ne_empty, if_false, hnext, Option.map_some]

end Service

namespace Relay

/-- The names of every allocation that the relay knows, or whose release it launched, satisfy
`P`. -/
structure Names (P : String → String → Prop) (w : Relay) : Prop where
  service : w.service.Names P
  releases : ∀ release ∈ w.releases, release.allocation.releaseOperationID ≠ "" →
    P release.allocation.username release.allocation.releaseOperationID

variable {P Q : String → String → Prop} {toUpper : String → String} {w w' : Relay} {e : Event}

theorem Names.mono (h : w.Names P) (hPQ : ∀ username operationID, P username operationID →
    Q username operationID) : w.Names Q where
  service := h.service.mono hPQ
  releases release hmem hid := hPQ _ _ (h.releases release hmem hid)

/-- **What a creation attaches**, and that it launches nothing. -/
theorem attached_of_created {srcAddr dstAddr : Option Addr} {protocol userID : String}
    {random : Option (Vector UInt8 12)}
    (hs : w.step toUpper (.allocationCreated srcAddr dstAddr protocol userID random) = some w') :
    w'.attached = (w.service.nextReleaseOperationID w.now random).1 :: w.attached ∧
      w'.releases = w.releases := by
  have hid := w.service.operationID_trackActiveAllocation toUpper w.now random srcAddr dstAddr
    protocol userID
  obtain ⟨allocation, sequence, hname, hip, htrack⟩ :=
    w.service.trackActiveAllocation_eq toUpper w.now random srcAddr dstAddr protocol userID rfl
  rw [htrack, Option.map_some, Option.some_inj] at hid
  simp only [step, htrack, Option.some_inj] at hs
  subst hs
  exact ⟨by rw [recordCreation_attached, hid], recordCreation_releases ..⟩

theorem Names.created (h : w.Names P) {srcAddr dstAddr : Option Addr} {protocol userID : String}
    {random : Option (Vector UInt8 12)}
    (hnew : P userID (w.service.nextReleaseOperationID w.now random).1)
    (hs : w.step toUpper (.allocationCreated srcAddr dstAddr protocol userID random) = some w') :
    w'.Names P := by
  have hattached := (attached_of_created hs).1
  generalize hkey : activeAllocationKey toUpper srcAddr dstAddr protocol = key
  obtain ⟨allocation, sequence, hname, -, rfl⟩ := step_created hkey hs
  rw [← (List.cons.inj hattached).1, ← hname] at hnew
  have hsequence := (h.service.prepareCreation w.now key userID).withReleaseSequence sequence
  constructor
  · rw [recordCreation_service]
    exact hsequence.storeAllocation key allocation hnew
  · rw [recordCreation_releases]
    exact h.releases

theorem Names.deleted (h : w.Names P) (srcAddr dstAddr : Option Addr) (protocol userID : String) :
    (w.handleAllocationDeleted toUpper srcAddr dstAddr protocol userID).Names P := by
  unfold handleAllocationDeleted Service.untrackActiveAllocation
  dsimp only
  rw [if_neg (activeAllocationKey_ne_empty _ _ _ _)]
  generalize activeAllocationKey toUpper srcAddr dstAddr protocol = key
  have hrelease : ∀ allocation : ActiveAllocation, (allocation.releaseOperationID ≠ "" →
      P allocation.username allocation.releaseOperationID) → ∀ release ∈
        (⟨allocation, userID⟩ : AllocationRelease) :: w.releases,
      release.allocation.releaseOperationID ≠ "" →
      P release.allocation.username release.allocation.releaseOperationID := by
    intro allocation hallocation release hmem
    rcases List.mem_cons.1 hmem with rfl | hmem
    · exact hallocation
    · exact h.releases release hmem
  cases hlookup : w.service.activeAllocations.lookup key with
  | some allocation =>
      simp only [Option.getD_some]
      refine ⟨?_, hrelease allocation (h.service.active key allocation hlookup)⟩
      exact (h.service.removeAllocationIndexesLocked key allocation).eraseRelease key
  | none =>
      cases hreleased : w.service.allocationReleaseLookup.lookup key with
      | none => exact ⟨h.service, hrelease _ fun hid => absurd rfl hid⟩
      | some allocation =>
          simp only [Option.getD_some]
          exact ⟨h.service.eraseRelease key,
            hrelease allocation (h.service.released key allocation hreleased)⟩

theorem Names.reconcileMissing (h : w.Names P) (snapshot : String × ActiveAllocation) :
    (w.reconcileMissing snapshot).Names P := by
  rcases w.service.removeTrackedAllocationByKey_cases snapshot.1
      snapshot.2.releaseOperationID with hremove | ⟨allocation, hlookup, hremove⟩
  · simp only [Relay.reconcileMissing, hremove]
    exact h
  · simp only [Relay.reconcileMissing, hremove]
    refine ⟨?_, fun release hmem => ?_⟩
    · exact (h.service.removeAllocationIndexesLocked snapshot.1 allocation).eraseRelease snapshot.1
    · rcases List.mem_cons.1 hmem with rfl | hmem
      · exact h.service.active snapshot.1 allocation hlookup
      · exact h.releases release hmem

/-- The allocations, the operation ids and the launched releases are as they were. -/
structure SameNames (w w' : Relay) : Prop where
  active : w'.service.activeAllocations = w.service.activeAllocations
  released : w'.service.allocationReleaseLookup = w.service.allocationReleaseLookup
  attached : w'.attached = w.attached
  releases : w'.releases = w.releases

/-- **What a callback may do to the names**, unless it is a creation. -/
theorem step_cases (hs : w.step toUpper e = some w') :
    (∃ srcAddr dstAddr protocol userID random,
      e = .allocationCreated srcAddr dstAddr protocol userID random) ∨
    (∃ username sessionIP, w' =
      { w with service := w.service.rememberSessionIP w.now username sessionIP
        }.recordReport username sessionIP) ∨
    (∃ srcAddr dstAddr protocol userID,
      w' = w.handleAllocationDeleted toUpper srcAddr dstAddr protocol userID) ∨
    (∃ rest snapshot, w' = { w with reconciling := rest }.reconcileMissing snapshot) ∨
    w.SameNames w' := by
  cases e with
  | tick d =>
      obtain rfl := Option.some_inj.1 hs
      exact .inr (.inr (.inr (.inr ⟨rfl, rfl, rfl, rfl⟩)))
  | auth username result =>
      cases result with
      | none =>
          obtain rfl := Option.some_inj.1 hs
          exact .inr (.inr (.inr (.inr ⟨rfl, rfl, rfl, rfl⟩)))
      | some sessionIP => exact .inr (.inl ⟨username, sessionIP, (Option.some_inj.1 hs).symm⟩)
  | allocationCreated srcAddr dstAddr protocol userID random => exact .inl ⟨_, _, _, _, _, rfl⟩
  | allocationDeleted srcAddr dstAddr protocol userID =>
      exact .inr (.inr (.inl ⟨_, _, _, _, (Option.some_inj.1 hs).symm⟩))
  | snapshotTrackedAllocations =>
      obtain ⟨-, hs⟩ := Option.ite_none_right_eq_some.1 hs
      obtain rfl := Option.some_inj.1 hs
      exact .inr (.inr (.inr (.inr ⟨rfl, rfl, rfl, rfl⟩)))
  | reconcile exists_ =>
      cases hrec : w.reconciling with
      | nil => simp only [step, hrec, reduceCtorEq] at hs
      | cons snapshot rest =>
          simp only [step, hrec] at hs
          split at hs
          · exact .inr (.inr (.inr (.inl ⟨rest, snapshot, (Option.some_inj.1 hs).symm⟩)))
          · obtain rfl := Option.some_inj.1 hs
            exact .inr (.inr (.inr (.inr ⟨rfl, rfl, rfl, rfl⟩)))
  | snapshotSessionIPs =>
      cases hsweep : w.sweeping with
      | some sessionIPs => simp only [step, hsweep, reduceCtorEq] at hs
      | none =>
          simp only [step, hsweep, Option.some_inj] at hs
          subst hs
          have hforgets := Service.forgets_cleanupRememberedSessionIPsLocked w.service w.now
          refine .inr (.inr (.inr (.inr ⟨?_, ?_, rfl, rfl⟩)))
          · simp only [Service.snapshotSessionIPs]
            rw [hforgets.rest]
          · simp only [Service.snapshotSessionIPs]
            rw [hforgets.rest]
  | banCheckFailed =>
      obtain ⟨-, hs⟩ := Option.ite_none_right_eq_some.1 hs
      obtain rfl := Option.some_inj.1 hs
      exact .inr (.inr (.inr (.inr ⟨rfl, rfl, rfl, rfl⟩)))
  | revokeBannedAllocations banned =>
      cases hsweep : w.sweeping with
      | none => simp only [step, hsweep, reduceCtorEq] at hs
      | some sessionIPs =>
          simp only [step, hsweep, Option.some_inj] at hs
          subst hs
          exact .inr (.inr (.inr (.inr ⟨rfl, rfl, rfl, rfl⟩)))
  | close =>
      obtain rfl := Option.some_inj.1 hs
      exact .inr (.inr (.inr (.inr ⟨rfl, rfl, rfl, rfl⟩)))

/-- **Only a creation brings new names.** -/
theorem Names.step (h : w.Names P)
    (hnew : ∀ srcAddr dstAddr protocol userID random,
      e = .allocationCreated srcAddr dstAddr protocol userID random →
      P userID (w.service.nextReleaseOperationID w.now random).1)
    (hs : w.step toUpper e = some w') : w'.Names P := by
  rcases step_cases hs with ⟨srcAddr, dstAddr, protocol, userID, random, rfl⟩ |
    ⟨username, sessionIP, rfl⟩ | ⟨srcAddr, dstAddr, protocol, userID, rfl⟩ | ⟨rest, snapshot, rfl⟩ |
    hsame
  · exact h.created (hnew _ _ _ _ _ rfl) hs
  · refine ⟨?_, ?_⟩
    · rw [recordReport_service]
      dsimp only
      exact h.service.rememberSessionIP w.now username sessionIP
    · rw [recordReport_releases]
      exact h.releases
  · exact h.deleted srcAddr dstAddr protocol userID
  · have hrest : Names P { w with reconciling := rest } := ⟨h.service, h.releases⟩
    exact hrest.reconcileMissing snapshot
  · exact ⟨h.service.congr hsame.active hsame.released, by rw [hsame.releases]; exact h.releases⟩

/-- **What a callback launches**, and that it attaches no operation id unless it is a creation. -/
theorem launched_of_step (hs : w.step toUpper e = some w')
    (he : ∀ srcAddr dstAddr protocol userID random,
      e ≠ .allocationCreated srcAddr dstAddr protocol userID random) :
    w'.attached = w.attached ∧ ∃ launched, w'.releases = launched ++ w.releases := by
  rcases step_cases hs with ⟨srcAddr, dstAddr, protocol, userID, random, heq⟩ |
    ⟨username, sessionIP, rfl⟩ | ⟨srcAddr, dstAddr, protocol, userID, rfl⟩ | ⟨rest, snapshot, rfl⟩ |
    hsame
  · exact absurd heq (he _ _ _ _ _)
  · exact ⟨recordReport_attached .., [], recordReport_releases ..⟩
  · exact ⟨rfl, [_], rfl⟩
  · unfold Relay.reconcileMissing
    split
    · exact ⟨rfl, [], rfl⟩
    · exact ⟨rfl, [_], rfl⟩
  · exact ⟨hsame.attached, [], hsame.releases⟩

end Relay

end Turn
