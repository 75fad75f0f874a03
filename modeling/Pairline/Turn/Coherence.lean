/-
**The tables of the relay agree.**

Beside the active allocations the relay keeps how many each user has, the keys of each user's and of
each session address's allocations, and a copy of every allocation for its release.  All are changed
together, under one mutex, and whatever the names and the five-tuples are, after each operation they
say the same as the active allocations: nothing is missing or left over, no set is empty and no count
is zero.  Only the copy for the release does not follow an authentication that moves an allocation to
another address; the release does not read the address.

Main definitions:

* `Turn.Operation`, `Turn.Service.run` — the operations, and any sequence of them;
* `Turn.Service.Coherent` — the tables agree with the active allocations;
* `Turn.Service.allocationCount` — how many active allocations a user has.

Main results:

* `Turn.Service.coherent_run` — **after any sequence of operations the tables agree**;
* `Turn.Service.mem_bannedAllocations_iff` — a sweep revokes the allocations of the banned addresses;
* `Turn.Service.coherence` — the two together, with the counts.
-/

import Mathlib.Data.List.Perm.Basic
import Pairline.Turn.Coverage
import Pairline.Turn.Names

set_option relaxedAutoImplicit false
set_option autoImplicit false

namespace Turn

open Whitespace

/-! ### Operations -/

inductive Operation
  | rememberSessionIP (now : ℕ) (userID sessionIP : String)
  | allocationCreated (now : ℕ) (random : Option (Vector UInt8 12)) (srcAddr dstAddr : Option Addr)
      (protocol userID : String)
  | allocationDeleted (srcAddr dstAddr : Option Addr) (protocol : String)
  /-- The reconciler removes an allocation that the server no longer has. -/
  | removeTracked (key releaseOperationID : String)
  /-- The first critical section of a ban sweep. -/
  | snapshotSessionIPs (now : ℕ)

namespace Service

def apply (toUpper : String → String) (s : Service) : Operation → Service
  | .rememberSessionIP now userID sessionIP => s.rememberSessionIP now userID sessionIP
  | .allocationCreated now random srcAddr dstAddr protocol userID =>
      (s.trackActiveAllocation toUpper now random srcAddr dstAddr protocol userID).2
  | .allocationDeleted srcAddr dstAddr protocol =>
      (s.untrackActiveAllocation toUpper srcAddr dstAddr protocol).2
  | .removeTracked key releaseOperationID =>
      (s.removeTrackedAllocationByKey key releaseOperationID).2
  | .snapshotSessionIPs now => (s.snapshotSessionIPs now).2

/-- **A sequence of operations**, on the tables of a new relay. -/
def run (toUpper : String → String) (operations : List Operation) : Service :=
  operations.foldl (apply toUpper) newService

/-! ### Agreement -/

/-- The set of an owner is not empty, and has each key once. -/
def Sets (m : GoMap (List String)) : Prop :=
  ∀ {owner keys}, m.lookup owner = some keys → keys ≠ [] ∧ keys.Nodup

/-- An allocation without its session address. -/
def addressless (allocation : ActiveAllocation) : ActiveAllocation :=
  { allocation with sessionIP := "" }

/-- The sets and the counts agree with the active allocations. -/
structure Accounted (s : Service) : Prop where
  byUser : ∀ {userID key}, key ∈ s.allocationKeysByUserID.get userID ↔
    userID ≠ "" ∧ ∃ allocation, s.activeAllocations.lookup key = some allocation ∧
      trim allocation.username = userID
  bySession : ∀ {sessionIP key}, key ∈ s.allocationKeysBySession.get sessionIP ↔
    sessionIP ≠ "" ∧ ∃ allocation, s.activeAllocations.lookup key = some allocation ∧
      allocation.sessionIP = sessionIP
  userSets : Sets s.allocationKeysByUserID
  sessionSets : Sets s.allocationKeysBySession
  count : ∀ userID, s.allocationCountByUserID.lookup userID =
    (s.allocationKeysByUserID.lookup userID).map fun keys => (keys.length : ℤ)
  trimmed : ∀ {key allocation}, s.activeAllocations.lookup key = some allocation →
    trim allocation.sessionIP = allocation.sessionIP
  remembered : ∀ {userID remembered}, s.sessionIPByUserID.lookup userID = some remembered →
    trim remembered.ip = remembered.ip

/-- **The tables agree with the active allocations.** -/
structure Coherent (s : Service) : Prop extends Accounted s where
  released : ∀ key, (s.allocationReleaseLookup.lookup key).map addressless =
    (s.activeAllocations.lookup key).map addressless

theorem coherent_newService : newService.Coherent where
  byUser := by
    intro userID key
    refine iff_of_false List.not_mem_nil ?_
    rintro ⟨-, allocation, hlookup, -⟩
    simp [newService] at hlookup
  bySession := by
    intro sessionIP key
    refine iff_of_false List.not_mem_nil ?_
    rintro ⟨-, allocation, hlookup, -⟩
    simp [newService] at hlookup
  userSets h := by simp [newService] at h
  sessionSets h := by simp [newService] at h
  count userID := by simp [newService]
  released key := by simp [newService]
  trimmed h := by simp [newService] at h
  remembered h := by simp [newService] at h

/-- The sets and the counts do not read the copies for the releases, and the remembered addresses may
be any that are trimmed. -/
theorem Accounted.congr {s t : Service} (h : s.Accounted)
    (hactive : t.activeAllocations = s.activeAllocations)
    (huser : t.allocationKeysByUserID = s.allocationKeysByUserID)
    (hsession : t.allocationKeysBySession = s.allocationKeysBySession)
    (hcount : t.allocationCountByUserID = s.allocationCountByUserID)
    (hremembered : ∀ {userID remembered}, t.sessionIPByUserID.lookup userID = some remembered →
      trim remembered.ip = remembered.ip) : t.Accounted where
  byUser := by rw [hactive, huser]; exact h.byUser
  bySession := by rw [hactive, hsession]; exact h.bySession
  userSets := huser ▸ h.userSets
  sessionSets := hsession ▸ h.sessionSets
  count := by rw [hcount, huser]; exact h.count
  trimmed hlookup := h.trimmed (hactive ▸ hlookup)
  remembered hlookup := hremembered hlookup

theorem Accounted.withReleaseLookup {s : Service} (h : s.Accounted) (m : GoMap ActiveAllocation) :
    Accounted { s with allocationReleaseLookup := m } :=
  h.congr rfl rfl rfl rfl h.remembered

theorem Accounted.withRemembered {s : Service} (h : s.Accounted) {m : GoMap RememberedSessionIP}
    (hm : ∀ {userID remembered}, m.lookup userID = some remembered →
      trim remembered.ip = remembered.ip) : Accounted { s with sessionIPByUserID := m } :=
  h.congr rfl rfl rfl rfl hm

theorem Accounted.withReleaseSequence {s : Service} (h : s.Accounted) (n : ℕ) :
    Accounted { s with releaseSequence := n } :=
  h.congr rfl rfl rfl rfl h.remembered

/-! ### Sets of keys -/

section Sets

variable {m : GoMap (List String)}

theorem get_of_lookup {owner : String} {keys : List String} (h : m.lookup owner = some keys) :
    m.get owner = keys := by
  rw [GoMap.get, h, Option.getD_some]

theorem get_of_lookup_none {owner : String} (h : m.lookup owner = none) : m.get owner = [] := by
  rw [GoMap.get, h, Option.getD_none]
  rfl

theorem Sets.get_nodup (h : Sets m) (owner : String) : (m.get owner).Nodup := by
  cases hlookup : m.lookup owner with
  | none => rw [get_of_lookup_none hlookup]; exact List.nodup_nil
  | some keys => rw [get_of_lookup hlookup]; exact (h hlookup).2

theorem lookup_insertKey (owner owner' key : String) :
    (m.insertKey owner key).lookup owner' =
      if owner' = owner then some ((m.get owner).insert key) else m.lookup owner' := by
  by_cases h : owner' = owner
  · rw [if_pos h, h, GoMap.insertKey, AList.lookup_insert]
  · rw [if_neg h, GoMap.insertKey, AList.lookup_insert_ne h]

theorem Sets.insertKey (h : Sets m) (owner key : String) : Sets (m.insertKey owner key) := by
  intro owner' keys hlookup
  rw [lookup_insertKey] at hlookup
  split_ifs at hlookup with howner
  · rw [← Option.some_inj.1 hlookup]
    exact ⟨List.ne_nil_of_mem (List.mem_insert_self), (h.get_nodup owner).insert⟩
  · exact h hlookup

theorem lookup_deleteKey (owner owner' key : String) :
    (m.deleteKey owner key).lookup owner' =
      if owner' = owner then
        ((m.lookup owner).map (·.filter (· ≠ key))).filter (· ≠ [])
      else m.lookup owner' := by
  unfold GoMap.deleteKey
  cases hlookup : m.lookup owner with
  | none =>
      by_cases h : owner' = owner
      · rw [if_pos h, h, hlookup]
        rfl
      · rw [if_neg h]
  | some keys =>
      dsimp only
      by_cases hnil : keys.filter (· ≠ key) = []
      · rw [if_pos hnil]
        by_cases h : owner' = owner
        · rw [if_pos h, h, AList.lookup_erase, Option.map_some, Option.filter_some_neg]
          simpa using hnil
        · rw [if_neg h, AList.lookup_erase_ne h]
      · rw [if_neg hnil]
        by_cases h : owner' = owner
        · rw [if_pos h, h, AList.lookup_insert, Option.map_some, Option.filter_some_pos]
          simpa using hnil
        · rw [if_neg h, AList.lookup_insert_ne h]

theorem Sets.deleteKey (h : Sets m) (owner key : String) : Sets (m.deleteKey owner key) := by
  intro owner' keys hlookup
  rw [lookup_deleteKey] at hlookup
  split_ifs at hlookup with howner
  · obtain ⟨hmap, hne⟩ := Option.filter_eq_some_iff.1 hlookup
    obtain ⟨keys', hkeys', rfl⟩ := Option.map_eq_some_iff.1 hmap
    exact ⟨by simpa using hne, (h hkeys').2.filter _⟩
  · exact h hlookup

end Sets

/-! ### Removing an allocation -/

section Remove

variable (s : Service) (key : String) (allocation : ActiveAllocation)

theorem userKeys_removeAllocationIndexesLocked :
    (s.removeAllocationIndexesLocked key allocation).allocationKeysByUserID =
      if trim allocation.username = "" then s.allocationKeysByUserID
      else s.allocationKeysByUserID.deleteKey (trim allocation.username) key := by
  by_cases hname : trim allocation.username = ""
  · simp [removeAllocationIndexesLocked, removeAllocationKeyFromSessionIPLocked, hname]
  · rw [if_neg hname, allocationKeysByUserID_removeAllocationIndexesLocked s key allocation hname]

theorem count_removeAllocationIndexesLocked :
    (s.removeAllocationIndexesLocked key allocation).allocationCountByUserID =
      if trim allocation.username = "" then s.allocationCountByUserID
      else if s.allocationCountByUserID.get (trim allocation.username) - 1 > 0 then
        s.allocationCountByUserID.insert (trim allocation.username)
          (s.allocationCountByUserID.get (trim allocation.username) - 1)
      else s.allocationCountByUserID.erase (trim allocation.username) := by
  by_cases hname : trim allocation.username = ""
  · simp [removeAllocationIndexesLocked, removeAllocationKeyFromSessionIPLocked, hname]
  · simp [removeAllocationIndexesLocked, removeAllocationKeyFromSessionIPLocked,
      decrementAllocationCountLocked, hname]

theorem sessionKeys_removeAllocationKeyFromSessionIPLocked (sessionIP : String) :
    (s.removeAllocationKeyFromSessionIPLocked sessionIP key).allocationKeysBySession =
      if trim sessionIP = "" then s.allocationKeysBySession
      else s.allocationKeysBySession.deleteKey (trim sessionIP) key := by
  simp only [removeAllocationKeyFromSessionIPLocked]

variable {s key allocation}

/-- What is active after a removal, was active, and under another key. -/
theorem lookup_remove_iff {key' : String} {other : ActiveAllocation} :
    (s.removeAllocationIndexesLocked key allocation).activeAllocations.lookup key' = some other ↔
      key' ≠ key ∧ s.activeAllocations.lookup key' = some other := by
  rw [activeAllocations_removeAllocationIndexesLocked]
  rcases eq_or_ne key' key with rfl | hne
  · simp
  · simp [AList.lookup_erase_ne hne, hne]

/-- The count of a user whose allocation goes. -/
theorem Accounted.count_remove (h : s.Accounted) (hname : trim allocation.username ≠ "")
    (hkey : s.activeAllocations.lookup key = some allocation) (userID : String) :
    (s.removeAllocationIndexesLocked key allocation).allocationCountByUserID.lookup userID =
      ((s.removeAllocationIndexesLocked key allocation).allocationKeysByUserID.lookup userID).map
        fun keys => (keys.length : ℤ) := by
  have hmem := h.byUser.2 ⟨hname, allocation, hkey, rfl⟩
  rw [count_removeAllocationIndexesLocked, userKeys_removeAllocationIndexesLocked, if_neg hname,
    if_neg hname, lookup_deleteKey]
  by_cases huser : userID = trim allocation.username
  · subst huser
    rw [if_pos rfl]
    cases hkeys : s.allocationKeysByUserID.lookup (trim allocation.username) with
    | none =>
        rw [get_of_lookup_none hkeys] at hmem
        exact absurd hmem List.not_mem_nil
    | some keys =>
        rw [get_of_lookup hkeys] at hmem
        have hcount : s.allocationCountByUserID.get (trim allocation.username) = keys.length := by
          rw [GoMap.get, h.count, hkeys, Option.map_some, Option.getD_some]
        -- the set loses exactly the key
        have hlength : (keys.filter (· ≠ key)).length + 1 = keys.length := by
          have herase := List.length_erase_of_mem hmem
          rw [(h.userSets hkeys).2.erase_eq_filter] at herase
          have hpos := List.length_pos_of_mem hmem
          have hfilter : keys.filter (· != key) = keys.filter (· ≠ key) :=
            List.filter_congr fun k _ => by rw [Bool.eq_iff_iff, bne_iff_ne, decide_eq_true_iff]
          rw [hfilter] at herase
          omega
        rw [hcount, Option.map_some]
        by_cases hnil : keys.filter (· ≠ key) = []
        · rw [hnil] at hlength ⊢
          have hone : keys.length = 1 := hlength.symm
          rw [if_neg (by omega), AList.lookup_erase, Option.filter_some_neg (by simp)]
          rfl
        · have hpos : 0 < (keys.filter (· ≠ key)).length := List.length_pos_iff.2 hnil
          rw [if_pos (by omega), AList.lookup_insert, Option.filter_some_pos (by simpa using hnil),
            Option.map_some, Option.some_inj]
          omega
  · rw [if_neg huser]
    split_ifs with hpos
    · rw [AList.lookup_insert_ne huser, h.count]
    · rw [AList.lookup_erase_ne huser, h.count]

/-- **Removing an active allocation keeps the sets and the counts in agreement.** -/
theorem Accounted.remove (h : s.Accounted)
    (hkey : s.activeAllocations.lookup key = some allocation) :
    (s.removeAllocationIndexesLocked key allocation).Accounted := by
  have htrim := h.trimmed hkey
  refine ⟨fun {userID key'} => ?_, fun {sessionIP key'} => ?_, ?_, ?_, fun userID => ?_, ?_, ?_⟩
  · simp only [lookup_remove_iff]
    rw [userKeys_removeAllocationIndexesLocked]
    split_ifs with hname
    · rw [h.byUser]
      refine and_congr_right fun huser => exists_congr fun other => ?_
      refine ⟨fun ⟨hlookup, hother⟩ => ⟨⟨?_, hlookup⟩, hother⟩, fun ⟨⟨_, hlookup⟩, hother⟩ =>
        ⟨hlookup, hother⟩⟩
      rintro rfl
      rw [hkey, Option.some_inj] at hlookup
      exact huser (hother ▸ hlookup ▸ hname)
    · rw [GoMap.mem_get_deleteKey, h.byUser, and_assoc]
      refine and_congr_right fun _ => ⟨?_, ?_⟩
      · rintro ⟨⟨other, hlookup, hother⟩, hnot⟩
        refine ⟨other, ⟨?_, hlookup⟩, hother⟩
        rintro rfl
        rw [hkey, Option.some_inj] at hlookup
        exact hnot ⟨hother ▸ hlookup ▸ rfl, rfl⟩
      · rintro ⟨other, ⟨hne, hlookup⟩, hother⟩
        exact ⟨⟨other, hlookup, hother⟩, fun hk => hne hk.2⟩
  · simp only [lookup_remove_iff]
    rw [allocationKeysBySession_removeAllocationIndexesLocked,
      mem_removeAllocationKeyFromSessionIPLocked, h.bySession, htrim, and_assoc]
    refine and_congr_right fun hip => ⟨?_, ?_⟩
    · rintro ⟨⟨other, hlookup, hother⟩, hnot⟩
      refine ⟨other, ⟨?_, hlookup⟩, hother⟩
      rintro rfl
      rw [hkey, Option.some_inj] at hlookup
      subst hlookup
      exact hnot ⟨hother ▸ hip, hother.symm, rfl⟩
    · rintro ⟨other, ⟨hne, hlookup⟩, hother⟩
      exact ⟨⟨other, hlookup, hother⟩, fun hk => hne hk.2.2⟩
  · rw [userKeys_removeAllocationIndexesLocked]
    split_ifs
    · exact h.userSets
    · exact Sets.deleteKey h.userSets _ _
  · rw [allocationKeysBySession_removeAllocationIndexesLocked,
      sessionKeys_removeAllocationKeyFromSessionIPLocked]
    split_ifs
    · exact h.sessionSets
    · exact Sets.deleteKey h.sessionSets _ _
  · by_cases hname : trim allocation.username = ""
    · rw [count_removeAllocationIndexesLocked, userKeys_removeAllocationIndexesLocked, if_pos hname,
        if_pos hname, h.count]
    · exact h.count_remove hname hkey userID
  · exact fun hlookup => h.trimmed (lookup_remove_iff.1 hlookup).2
  · exact fun hlookup => h.remembered (lookup_of_removeAllocationIndexesLocked s key allocation hlookup)

/-- **Removing an active allocation and its copy keeps the tables in agreement.** -/
theorem Coherent.remove (h : s.Coherent)
    (hkey : s.activeAllocations.lookup key = some allocation) :
    Coherent { s.removeAllocationIndexesLocked key allocation with
      allocationReleaseLookup :=
        (s.removeAllocationIndexesLocked key allocation).allocationReleaseLookup.erase key } := by
  refine ⟨(h.toAccounted.remove hkey).withReleaseLookup _, fun key' => ?_⟩
  dsimp only
  rw [allocationReleaseLookup_removeAllocationIndexesLocked,
    activeAllocations_removeAllocationIndexesLocked]
  rcases eq_or_ne key' key with rfl | hne
  · rw [AList.lookup_erase, AList.lookup_erase]
  · rw [AList.lookup_erase_ne hne, AList.lookup_erase_ne hne, h.released]

end Remove

/-! ### Storing an allocation -/

section Store

variable (s : Service) (key : String) (allocation : ActiveAllocation)

theorem userKeys_storeAllocation :
    (s.storeAllocation key allocation).allocationKeysByUserID =
      if trim allocation.username = "" then s.allocationKeysByUserID
      else s.allocationKeysByUserID.insertKey (trim allocation.username) key := by
  by_cases hname : trim allocation.username = ""
  · simp [storeAllocation, addAllocationIndexesLocked, addAllocationKeyToSessionIPLocked, hname]
  · rw [if_neg hname, allocationKeysByUserID_storeAllocation s key allocation hname]

theorem count_storeAllocation :
    (s.storeAllocation key allocation).allocationCountByUserID =
      if trim allocation.username = "" then s.allocationCountByUserID
      else s.allocationCountByUserID.insert (trim allocation.username)
        (s.allocationCountByUserID.get (trim allocation.username) + 1) := by
  by_cases hname : trim allocation.username = ""
  · simp [storeAllocation, addAllocationIndexesLocked, addAllocationKeyToSessionIPLocked, hname]
  · simp [storeAllocation, addAllocationIndexesLocked, addAllocationKeyToSessionIPLocked, hname]

theorem released_storeAllocation :
    (s.storeAllocation key allocation).allocationReleaseLookup =
      s.allocationReleaseLookup.insert key allocation := by
  by_cases hname : trim allocation.username = ""
  · simp [storeAllocation, addAllocationIndexesLocked, addAllocationKeyToSessionIPLocked, hname]
  · simp [storeAllocation, addAllocationIndexesLocked, addAllocationKeyToSessionIPLocked, hname]

theorem sessionKeys_addAllocationKeyToSessionIPLocked (sessionIP : String) :
    (s.addAllocationKeyToSessionIPLocked sessionIP key).allocationKeysBySession =
      if trim sessionIP = "" then s.allocationKeysBySession
      else s.allocationKeysBySession.insertKey (trim sessionIP) key := by
  simp only [addAllocationKeyToSessionIPLocked]

variable {s key allocation}

/-- What is active after an allocation has been stored under a free key. -/
theorem lookup_store_iff {key' : String} {other : ActiveAllocation} :
    (s.storeAllocation key allocation).activeAllocations.lookup key' = some other ↔
      (key' = key ∧ other = allocation) ∨
        (key' ≠ key ∧ s.activeAllocations.lookup key' = some other) := by
  rw [activeAllocations_storeAllocation]
  rcases eq_or_ne key' key with rfl | hne
  · simp [eq_comm]
  · simp [AList.lookup_insert_ne hne, hne]

/-- The count of a user who gets an allocation. -/
theorem Accounted.count_store (h : s.Accounted) (hfree : s.activeAllocations.lookup key = none)
    (hname : trim allocation.username ≠ "") (userID : String) :
    (s.storeAllocation key allocation).allocationCountByUserID.lookup userID =
      ((s.storeAllocation key allocation).allocationKeysByUserID.lookup userID).map
        fun keys => (keys.length : ℤ) := by
  have hnot : key ∉ s.allocationKeysByUserID.get (trim allocation.username) := by
    intro hmem
    obtain ⟨-, other, hlookup, -⟩ := h.byUser.1 hmem
    rw [hfree] at hlookup
    cases hlookup
  rw [count_storeAllocation, userKeys_storeAllocation, if_neg hname, if_neg hname, lookup_insertKey]
  by_cases huser : userID = trim allocation.username
  · have hcount : s.allocationCountByUserID.get (trim allocation.username) =
        (s.allocationKeysByUserID.get (trim allocation.username)).length := by
      rw [GoMap.get, h.count]
      cases hkeys : s.allocationKeysByUserID.lookup (trim allocation.username) with
      | none => rw [get_of_lookup_none hkeys]; rfl
      | some keys => rw [get_of_lookup hkeys]; rfl
    rw [if_pos huser, huser, AList.lookup_insert, Option.map_some, List.insert_of_not_mem hnot,
      List.length_cons, hcount]
    rfl
  · rw [if_neg huser, AList.lookup_insert_ne huser, h.count]

/-- **Storing an allocation under a free key keeps the sets and the counts in agreement.** -/
theorem Accounted.store (h : s.Accounted) (hfree : s.activeAllocations.lookup key = none)
    (htrim : trim allocation.sessionIP = allocation.sessionIP) :
    (s.storeAllocation key allocation).Accounted := by
  have hother : ∀ {key' other}, s.activeAllocations.lookup key' = some other → key' ≠ key := by
    rintro key' other hlookup rfl
    rw [hfree] at hlookup
    cases hlookup
  refine ⟨fun {userID key'} => ?_, fun {sessionIP key'} => ?_, ?_, ?_, fun userID => ?_, ?_, ?_⟩
  · simp only [lookup_store_iff]
    rw [userKeys_storeAllocation]
    split_ifs with hname
    · rw [h.byUser]
      refine and_congr_right fun huser => exists_congr fun other => ?_
      constructor
      · rintro ⟨hlookup, hother'⟩
        exact ⟨.inr ⟨hother hlookup, hlookup⟩, hother'⟩
      · rintro ⟨⟨-, rfl⟩ | ⟨-, hlookup⟩, hother'⟩
        · exact absurd (hother' ▸ hname) huser
        · exact ⟨hlookup, hother'⟩
    · rw [GoMap.mem_get_insertKey, h.byUser]
      constructor
      · rintro (⟨huser, other, hlookup, hother'⟩ | ⟨rfl, rfl⟩)
        · exact ⟨huser, other, .inr ⟨hother hlookup, hlookup⟩, hother'⟩
        · exact ⟨hname, allocation, .inl ⟨rfl, rfl⟩, rfl⟩
      · rintro ⟨huser, other, ⟨rfl, rfl⟩ | ⟨-, hlookup⟩, hother'⟩
        · exact .inr ⟨hother'.symm, rfl⟩
        · exact .inl ⟨huser, other, hlookup, hother'⟩
  · simp only [lookup_store_iff]
    rw [allocationKeysBySession_storeAllocation, mem_addAllocationKeyToSessionIPLocked, h.bySession,
      htrim]
    constructor
    · rintro (⟨hip, other, hlookup, hother'⟩ | ⟨hip, rfl, rfl⟩)
      · exact ⟨hip, other, .inr ⟨hother hlookup, hlookup⟩, hother'⟩
      · exact ⟨hip, allocation, .inl ⟨rfl, rfl⟩, rfl⟩
    · rintro ⟨hip, other, ⟨rfl, rfl⟩ | ⟨-, hlookup⟩, hother'⟩
      · exact .inr ⟨hother' ▸ hip, hother'.symm, rfl⟩
      · exact .inl ⟨hip, other, hlookup, hother'⟩
  · rw [userKeys_storeAllocation]
    split_ifs
    · exact h.userSets
    · exact Sets.insertKey h.userSets _ _
  · rw [allocationKeysBySession_storeAllocation, sessionKeys_addAllocationKeyToSessionIPLocked]
    split_ifs
    · exact h.sessionSets
    · exact Sets.insertKey h.sessionSets _ _
  · by_cases hname : trim allocation.username = ""
    · rw [count_storeAllocation, userKeys_storeAllocation, if_pos hname, if_pos hname, h.count]
    · exact h.count_store hfree hname userID
  · intro key' other hlookup
    rcases lookup_store_iff.1 hlookup with ⟨-, rfl⟩ | ⟨-, hlookup⟩
    · exact htrim
    · exact h.trimmed hlookup
  · intro userID remembered hlookup
    rw [sessionIPByUserID_storeAllocation] at hlookup
    exact h.remembered hlookup

end Store

/-! ### Moving an allocation -/

section Move

variable {s : Service} {sessionIP key : String} {allocation : ActiveAllocation}

theorem moveAllocationToSessionIP_rest :
    (moveAllocationToSessionIP sessionIP s key).allocationCountByUserID =
        s.allocationCountByUserID ∧
      (moveAllocationToSessionIP sessionIP s key).allocationReleaseLookup =
        s.allocationReleaseLookup := by
  unfold moveAllocationToSessionIP addAllocationKeyToSessionIPLocked
    removeAllocationKeyFromSessionIPLocked
  dsimp only
  split_ifs <;> exact ⟨rfl, rfl⟩

/-- The table of the addresses after an allocation has moved. -/
theorem sessionKeys_moveAllocationToSessionIP (htrim : trim sessionIP = sessionIP)
    (hne : sessionIP ≠ "") (hkey : s.activeAllocations.lookup key = some allocation)
    (hold : trim allocation.sessionIP = allocation.sessionIP) :
    (moveAllocationToSessionIP sessionIP s key).allocationKeysBySession =
      (if allocation.sessionIP ≠ "" ∧ allocation.sessionIP ≠ sessionIP then
        s.allocationKeysBySession.deleteKey allocation.sessionIP key
      else s.allocationKeysBySession).insertKey sessionIP key := by
  have hget : s.activeAllocations.get key = allocation := by
    rw [GoMap.get, hkey, Option.getD_some]
  unfold moveAllocationToSessionIP
  rw [hget, sessionKeys_addAllocationKeyToSessionIPLocked, htrim, if_neg hne]
  dsimp only
  rw [hold]
  split_ifs with hprevious
  · rw [sessionKeys_removeAllocationKeyFromSessionIPLocked, hold, if_neg hprevious.1]
  · rfl

/-- What is active after an allocation has moved. -/
theorem lookup_move_iff (hkey : s.activeAllocations.lookup key = some allocation) {key' : String}
    {other : ActiveAllocation} :
    (moveAllocationToSessionIP sessionIP s key).activeAllocations.lookup key' = some other ↔
      (key' = key ∧ other = { allocation with sessionIP := sessionIP }) ∨
        (key' ≠ key ∧ s.activeAllocations.lookup key' = some other) := by
  rw [activeAllocations_moveAllocationToSessionIP, GoMap.get, hkey, Option.getD_some]
  rcases eq_or_ne key' key with rfl | hne
  · simp [eq_comm]
  · simp [AList.lookup_insert_ne hne, hne]

/-- **Moving an active allocation keeps the tables in agreement.** -/
theorem Coherent.move (h : s.Coherent) (htrim : trim sessionIP = sessionIP) (hne : sessionIP ≠ "")
    (hkey : s.activeAllocations.lookup key = some allocation) :
    (moveAllocationToSessionIP sessionIP s key).Coherent := by
  have hold := h.trimmed hkey
  have huser := allocationKeysByUserID_moveAllocationToSessionIP s sessionIP key
  have hsession := sessionKeys_moveAllocationToSessionIP htrim hne hkey hold
  obtain ⟨hcount, hreleased⟩ := @moveAllocationToSessionIP_rest s sessionIP key
  refine ⟨⟨fun {userID key'} => ?_, fun {ip key'} => ?_, ?_, ?_, ?_, ?_, ?_⟩, fun key' => ?_⟩
  · -- an allocation keeps its user
    simp only [lookup_move_iff hkey]
    rw [huser, h.byUser]
    refine and_congr_right fun _ => ⟨?_, ?_⟩
    · rintro ⟨other, hlookup, hother⟩
      rcases eq_or_ne key' key with rfl | hne'
      · rw [hkey, Option.some_inj] at hlookup
        exact ⟨_, .inl ⟨rfl, rfl⟩, hlookup ▸ hother⟩
      · exact ⟨other, .inr ⟨hne', hlookup⟩, hother⟩
    · rintro ⟨other, ⟨rfl, rfl⟩ | ⟨-, hlookup⟩, hother⟩
      · exact ⟨allocation, hkey, hother⟩
      · exact ⟨other, hlookup, hother⟩
  · simp only [lookup_move_iff hkey]
    rw [hsession, GoMap.mem_get_insertKey]
    -- it was in the set of its old address, if it had one
    have hprevious : (key' ∈ GoMap.get (if allocation.sessionIP ≠ "" ∧
        allocation.sessionIP ≠ sessionIP then
          s.allocationKeysBySession.deleteKey allocation.sessionIP key
        else s.allocationKeysBySession) ip) ↔
        key' ∈ s.allocationKeysBySession.get ip ∧
          ¬ (allocation.sessionIP ≠ sessionIP ∧ ip = allocation.sessionIP ∧ key' = key) := by
      split_ifs with hmoved
      · rw [GoMap.mem_get_deleteKey]
        exact and_congr_right fun _ => not_congr ⟨fun hk => ⟨hmoved.2, hk⟩, fun hk => hk.2⟩
      · refine ⟨fun hmem => ⟨hmem, ?_⟩, fun hk => hk.1⟩
        rintro ⟨hdifferent, rfl, rfl⟩
        exact hmoved ⟨(h.bySession.1 hmem).1, hdifferent⟩
    rw [hprevious, h.bySession]
    constructor
    · rintro (⟨⟨hip, other, hlookup, hother⟩, hnot⟩ | ⟨rfl, rfl⟩)
      · rcases eq_or_ne key' key with rfl | hne'
        · rw [hkey, Option.some_inj] at hlookup
          subst hlookup
          have hsame : allocation.sessionIP = sessionIP := by
            by_contra hdifferent
            exact hnot ⟨hdifferent, hother.symm, rfl⟩
          exact ⟨hip, _, .inl ⟨rfl, rfl⟩, hsame ▸ hother⟩
        · exact ⟨hip, other, .inr ⟨hne', hlookup⟩, hother⟩
      · exact ⟨hne, _, .inl ⟨rfl, rfl⟩, rfl⟩
    · rintro ⟨hip, other, ⟨rfl, rfl⟩ | ⟨hne', hlookup⟩, hother⟩
      · exact .inr ⟨hother.symm, rfl⟩
      · exact .inl ⟨⟨hip, other, hlookup, hother⟩, fun hk => hne' hk.2.2⟩
  · rw [huser]
    exact h.userSets
  · rw [hsession]
    refine Sets.insertKey ?_ _ _
    split_ifs
    · exact Sets.deleteKey h.sessionSets _ _
    · exact h.sessionSets
  · rw [hcount, huser]
    exact h.count
  · intro key' other hlookup
    rcases (lookup_move_iff hkey).1 hlookup with ⟨-, rfl⟩ | ⟨-, hlookup⟩
    · exact htrim
    · exact h.trimmed hlookup
  · rw [sessionIPByUserID_moveAllocationToSessionIP]
    exact h.remembered
  · rw [hreleased, h.released]
    rcases eq_or_ne key' key with rfl | hne'
    · rw [(lookup_move_iff hkey).2 (.inl ⟨rfl, rfl⟩), hkey]
      rfl
    · rw [activeAllocations_moveAllocationToSessionIP, AList.lookup_insert_ne hne']

end Move

/-! ### The operations -/

section Operations

variable {s t : Service}

theorem Coherent.of_forgets (h : s.Coherent) (hst : s.Forgets t) : t.Coherent := by
  have hremembered : ∀ {userID remembered},
      t.sessionIPByUserID.lookup userID = some remembered → trim remembered.ip = remembered.ip :=
    fun hlookup => h.remembered (hst.forgotten hlookup)
  refine ⟨h.toAccounted.congr ?_ ?_ ?_ ?_ hremembered, ?_⟩
  · rw [hst.rest]
  · rw [hst.rest]
  · rw [hst.rest]
  · rw [hst.rest]
  · rw [hst.rest]
    exact h.released

theorem Coherent.foldl_move {sessionIP : String} (htrim : trim sessionIP = sessionIP)
    (hne : sessionIP ≠ "") (keys : List String) : ∀ {s : Service}, s.Coherent →
      (∀ key ∈ keys, ∃ allocation, s.activeAllocations.lookup key = some allocation) →
      (keys.foldl (moveAllocationToSessionIP sessionIP) s).Coherent := by
  induction keys with
  | nil =>
      intro s h _
      exact h
  | cons first keys ih =>
      intro s h hactive
      obtain ⟨allocation, hfirst⟩ := hactive first List.mem_cons_self
      refine ih (h.move htrim hne hfirst) fun key hkey => ?_
      obtain ⟨allocation', hkey'⟩ := hactive key (List.mem_cons_of_mem _ hkey)
      exact ⟨_, lookup_moveAllocationToSessionIP s sessionIP hkey'⟩

/-- **An authentication keeps the tables in agreement**, whatever the name is. -/
theorem Coherent.rememberSessionIP (h : s.Coherent) (now : ℕ) (userID sessionIP : String) :
    (s.rememberSessionIP now userID sessionIP).Coherent := by
  by_cases hip : trim sessionIP = ""
  · simpa only [Service.rememberSessionIP, hip, if_true] using h
  · simp only [Service.rememberSessionIP, hip, if_false]
    refine Coherent.of_forgets ?_ (forgets_cleanupRememberedSessionIPsLocked _ _)
    refine Coherent.foldl_move (trim_trim _) hip _ ?_ fun key hkey => ?_
    · refine ⟨h.toAccounted.withRemembered fun {userID'} {remembered} hl => ?_, h.released⟩
      rcases eq_or_ne userID' userID with rfl | hne
      · rw [AList.lookup_insert, Option.some_inj] at hl
        exact hl ▸ trim_trim _
      · exact h.remembered (by rwa [AList.lookup_insert_ne hne] at hl)
    · obtain ⟨-, allocation, hlookup, -⟩ := h.byUser.1 hkey
      exact ⟨allocation, hlookup⟩

/-- The address that a creation uses is trimmed. -/
theorem Accounted.trim_rememberedForCreation (h : s.Accounted) (now : ℕ) (key userID : String) :
    trim (s.rememberedForCreation now key userID).ip =
      (s.rememberedForCreation now key userID).ip := by
  have hget : trim (s.sessionIPByUserID.get userID).ip = (s.sessionIPByUserID.get userID).ip := by
    cases hlookup : s.sessionIPByUserID.lookup userID with
    | none => simp only [GoMap.get, hlookup]; rfl
    | some remembered =>
        simp only [GoMap.get, hlookup, Option.getD_some]
        exact h.remembered hlookup
  unfold Service.rememberedForCreation
  dsimp only
  split
  · split
    · exact trim_trim _
    · exact hget
  · exact hget

/-- Making room under a key keeps the sets and the counts in agreement. -/
theorem Accounted.removePrevious (h : s.Accounted) (key : String) :
    (s.removePreviousAllocation key).Accounted ∧
      (s.removePreviousAllocation key).activeAllocations.lookup key = none ∧
      (s.removePreviousAllocation key).allocationReleaseLookup = s.allocationReleaseLookup := by
  unfold removePreviousAllocation
  split
  next previous hprevious =>
      refine ⟨h.remove hprevious, ?_, allocationReleaseLookup_removeAllocationIndexesLocked _ _ _⟩
      rw [activeAllocations_removeAllocationIndexesLocked, AList.lookup_erase]
  next hnone => exact ⟨h, hnone, rfl⟩

theorem Accounted.prepareCreation (h : s.Accounted) (now : ℕ) (key userID : String) :
    (s.prepareCreation now key userID).Accounted := by
  obtain ⟨hremoved, -, -⟩ := h.removePrevious key
  unfold Service.prepareCreation
  refine hremoved.withRemembered fun {userID'} {remembered} hl => ?_
  split at hl
  · rcases eq_or_ne userID' userID with rfl | hne
    · rw [AList.lookup_insert, Option.some_inj] at hl
      exact hl ▸ h.trim_rememberedForCreation now key userID'
    · exact hremoved.remembered (by rwa [AList.lookup_insert_ne hne] at hl)
  · exact hremoved.remembered hl

/-- **A creation keeps the tables in agreement**, also when it replaces an allocation. -/
theorem Coherent.trackActiveAllocation (h : s.Coherent) (toUpper : String → String) (now : ℕ)
    (random : Option (Vector UInt8 12)) (srcAddr dstAddr : Option Addr) (protocol userID : String) :
    (s.trackActiveAllocation toUpper now random srcAddr dstAddr protocol userID).2.Coherent := by
  obtain ⟨allocation, sequence, -, hip, heq⟩ :=
    trackActiveAllocation_eq toUpper s now random srcAddr dstAddr protocol userID rfl
  rw [heq]
  generalize hkey : activeAllocationKey toUpper srcAddr dstAddr protocol = key at hip heq ⊢
  have hprepared := h.toAccounted.prepareCreation now key userID
  obtain ⟨-, hfree, hreleased⟩ := h.toAccounted.removePrevious key
  have hlookup : (s.prepareCreation now key userID).activeAllocations =
      (s.removePreviousAllocation key).activeAllocations := activeAllocations_prepareCreation _ _ _ _
  have hrelease : (s.prepareCreation now key userID).allocationReleaseLookup =
      s.allocationReleaseLookup := by
    rw [← hreleased]
    simp only [Service.prepareCreation]
  generalize s.prepareCreation now key userID = prepared at hprepared hlookup hrelease ⊢
  refine ⟨(hprepared.withReleaseSequence sequence).store ?_ ?_, fun key' => ?_⟩
  · exact hlookup ▸ hfree
  · rw [hip]
    exact h.toAccounted.trim_rememberedForCreation now key userID
  · rw [released_storeAllocation, activeAllocations_storeAllocation]
    dsimp only
    rcases eq_or_ne key' key with rfl | hne
    · rw [AList.lookup_insert, AList.lookup_insert]
    · rw [AList.lookup_insert_ne hne, AList.lookup_insert_ne hne, hrelease, h.released, hlookup,
        lookup_removePreviousAllocation_of_ne s hne]

/-- **A deletion keeps the tables in agreement**; without an active allocation there is no copy
either. -/
theorem Coherent.untrackActiveAllocation (h : s.Coherent) (toUpper : String → String)
    (srcAddr dstAddr : Option Addr) (protocol : String) :
    (s.untrackActiveAllocation toUpper srcAddr dstAddr protocol).2.Coherent := by
  cases hlookup : s.activeAllocations.lookup
      (activeAllocationKey toUpper srcAddr dstAddr protocol) with
  | some allocation =>
      rw [untrackActiveAllocation_of_tracked toUpper s srcAddr dstAddr protocol rfl hlookup]
      exact h.remove hlookup
  | none =>
      have hcopy := h.released (activeAllocationKey toUpper srcAddr dstAddr protocol)
      rw [hlookup, Option.map_none, Option.map_eq_none_iff] at hcopy
      have hsame : (s.untrackActiveAllocation toUpper srcAddr dstAddr protocol).2 = s := by
        simp only [Service.untrackActiveAllocation, activeAllocationKey_ne_empty, if_false, hlookup,
          hcopy]
      rw [hsame]
      exact h

theorem Coherent.removeTrackedAllocationByKey (h : s.Coherent) (key operationID : String) :
    (s.removeTrackedAllocationByKey key operationID).2.Coherent := by
  rcases removeTrackedAllocationByKey_cases s key operationID with heq | ⟨allocation, hlookup, heq⟩
  · rw [heq]
    exact h
  · rw [heq]
    exact h.remove hlookup

theorem Coherent.apply (h : s.Coherent) (toUpper : String → String) (operation : Operation) :
    (s.apply toUpper operation).Coherent := by
  cases operation with
  | rememberSessionIP now userID sessionIP => exact h.rememberSessionIP now userID sessionIP
  | allocationCreated now random srcAddr dstAddr protocol userID =>
      exact h.trackActiveAllocation toUpper now random srcAddr dstAddr protocol userID
  | allocationDeleted srcAddr dstAddr protocol =>
      exact h.untrackActiveAllocation toUpper srcAddr dstAddr protocol
  | removeTracked key releaseOperationID =>
      exact h.removeTrackedAllocationByKey key releaseOperationID
  | snapshotSessionIPs now => exact h.of_forgets (forgets_cleanupRememberedSessionIPsLocked s now)

end Operations

/-- **After any sequence of operations the tables agree.** -/
theorem coherent_run (toUpper : String → String) (operations : List Operation) :
    (run toUpper operations).Coherent := by
  have hfold : ∀ {s : Service}, s.Coherent → (operations.foldl (apply toUpper) s).Coherent := by
    induction operations with
    | nil => exact fun h => h
    | cons operation operations ih => exact fun h => ih (h.apply toUpper operation)
  exact hfold coherent_newService

/-! ### Counts -/

/-- How many active allocations a user has, under any spelling of the name. -/
def allocationCount (s : Service) (userID : String) : ℕ :=
  (s.activeAllocations.entries.filter fun entry => trim entry.2.username = userID).length

section Counts

variable {s : Service}

/-- The set of a user has as many keys as the user has active allocations. -/
theorem Accounted.length_get (h : s.Accounted) {userID : String} (huser : userID ≠ "") :
    (s.allocationKeysByUserID.get userID).length = s.allocationCount userID := by
  have hnodup : ((s.activeAllocations.entries.filter fun entry =>
      trim entry.2.username = userID).map Sigma.fst).Nodup :=
    List.Nodup.sublist (List.filter_sublist.map Sigma.fst) s.activeAllocations.nodupKeys
  have hperm : (s.allocationKeysByUserID.get userID).Perm
      ((s.activeAllocations.entries.filter fun entry => trim entry.2.username = userID).map
        Sigma.fst) := by
    refine (List.perm_ext_iff_of_nodup (Sets.get_nodup h.userSets userID) hnodup).2 fun key => ?_
    rw [h.byUser, List.mem_map]
    constructor
    · rintro ⟨-, allocation, hlookup, hname⟩
      refine ⟨⟨key, allocation⟩, List.mem_filter.2 ⟨?_, by simpa using hname⟩, rfl⟩
      exact AList.mem_lookup_iff.1 hlookup
    · rintro ⟨⟨key, allocation⟩, hentry, rfl⟩
      obtain ⟨hentry, hname⟩ := List.mem_filter.1 hentry
      exact ⟨huser, allocation, AList.mem_lookup_iff.2 hentry, by simpa using hname⟩
  rw [hperm.length_eq, List.length_map, allocationCount]

/-- **The count of a user**: that of the active allocations, and nothing where there is none. -/
theorem Accounted.count_eq (h : s.Accounted) (userID : String) :
    s.allocationCountByUserID.lookup userID =
      if userID = "" ∨ s.allocationCount userID = 0 then none
      else some (s.allocationCount userID : ℤ) := by
  rw [h.count]
  by_cases huser : userID = ""
  · rw [if_pos (.inl huser)]
    cases hkeys : s.allocationKeysByUserID.lookup userID with
    | none => rfl
    | some keys =>
        obtain ⟨key, hkey⟩ := List.exists_mem_of_ne_nil _ (h.userSets hkeys).1
        rw [← get_of_lookup hkeys] at hkey
        exact absurd huser (h.byUser.1 hkey).1
  · rw [← h.length_get huser]
    cases hkeys : s.allocationKeysByUserID.lookup userID with
    | none =>
        rw [get_of_lookup_none hkeys, if_pos (.inr rfl)]
        rfl
    | some keys =>
        have hpos := List.length_pos_iff.2 (h.userSets hkeys).1
        rw [get_of_lookup hkeys, if_neg (not_or.2 ⟨huser, by omega⟩)]
        rfl

end Counts

/-! ### The sweep -/

section Sweep

variable {s t : Service} {allocation : ActiveAllocation}

/-- **A sweep revokes the allocations of the banned addresses**, and no others. -/
theorem mem_bannedAllocations_iff (h : s.Coherent) {bannedIPs : List String} :
    allocation ∈ s.bannedAllocations bannedIPs ↔
      (∃ key, s.activeAllocations.lookup key = some allocation) ∧ allocation.sessionIP ≠ "" ∧
        allocation.sessionIP ∈ bannedIPs.map trim := by
  constructor
  · intro hmem
    obtain ⟨hmem, hbanned⟩ := List.mem_filter.1 hmem
    obtain ⟨key, hkey, hlookup⟩ := List.mem_filterMap.1 hmem
    obtain ⟨hkey, -⟩ := List.mem_filter.1 (List.mem_eraseDups.1 hkey)
    obtain ⟨sessionIP, -, hindex⟩ := List.mem_flatMap.1 hkey
    obtain ⟨hip, other, hother, hsame⟩ := h.bySession.1 hindex
    obtain rfl : other = allocation := Option.some_inj.1 (hother.symm.trans hlookup)
    exact ⟨⟨key, hlookup⟩, hsame ▸ hip, by simpa using hbanned⟩
  · rintro ⟨⟨key, hlookup⟩, hip, hbanned⟩
    obtain ⟨sessionIP, hsessionIP, htrim⟩ := List.mem_map.1 hbanned
    have hkey : key ∈ s.allocationKeysForSessionIPs bannedIPs := by
      refine List.mem_eraseDups.2 (List.mem_filter.2 ⟨?_, by simp [hlookup]⟩)
      refine List.mem_flatMap.2 ⟨sessionIP, hsessionIP, ?_⟩
      rw [htrim]
      exact h.bySession.2 ⟨hip, allocation, hlookup, rfl⟩
    exact List.mem_filter.2 ⟨List.mem_filterMap.2 ⟨key, hkey, hlookup⟩, by simpa using hbanned⟩

/-- The addresses that a sweep asks about are those of the active allocations. -/
theorem mem_snapshotSessionIPs_iff (h : s.Coherent) (now : ℕ) {sessionIP : String} :
    sessionIP ∈ (s.snapshotSessionIPs now).1 ↔
      sessionIP ≠ "" ∧ ∃ key allocation, s.activeAllocations.lookup key = some allocation ∧
        allocation.sessionIP = sessionIP := by
  have hclean := forgets_cleanupRememberedSessionIPsLocked s now
  have hkeys : (s.snapshotSessionIPs now).1 =
      s.allocationKeysBySession.keys.filter fun sessionIP => trim sessionIP ≠ "" := by
    simp only [snapshotSessionIPs]
    rw [hclean.rest]
  rw [hkeys, List.mem_filter]
  constructor
  · rintro ⟨hmem, -⟩
    obtain ⟨keys, hlookup⟩ := Option.isSome_iff_exists.1
      (AList.lookup_isSome.2 (AList.mem_keys.2 hmem))
    obtain ⟨key, hkey⟩ := List.exists_mem_of_ne_nil _ (h.sessionSets hlookup).1
    rw [← get_of_lookup hlookup] at hkey
    obtain ⟨hip, allocation, hactive, hsame⟩ := h.bySession.1 hkey
    exact ⟨hip, key, allocation, hactive, hsame⟩
  · rintro ⟨hip, key, allocation, hactive, rfl⟩
    have hkey := h.bySession.2 ⟨hip, allocation, hactive, rfl⟩
    refine ⟨?_, by simpa [h.trimmed hactive] using hip⟩
    cases hlookup : s.allocationKeysBySession.lookup allocation.sessionIP with
    | none =>
        rw [get_of_lookup_none hlookup] at hkey
        exact absurd hkey List.not_mem_nil
    | some keys => exact AList.mem_keys.1 (AList.lookup_isSome.1 (by rw [hlookup]; rfl))

/-- The banned addresses that a check returns. -/
theorem mem_checkBannedSessionIPs_iff (h : s.Coherent) (banned : String → Bool) (now : ℕ)
    {sessionIP : String} :
    sessionIP ∈ (checkBannedSessionIPs banned (s.snapshotSessionIPs now).1).map trim ↔
      sessionIP ≠ "" ∧ banned sessionIP = true ∧ ∃ key allocation,
        s.activeAllocations.lookup key = some allocation ∧ allocation.sessionIP = sessionIP := by
  constructor
  · intro hmem
    obtain ⟨ip, hip, rfl⟩ := List.mem_map.1 hmem
    obtain ⟨hnormal, hbanned⟩ := List.mem_filter.1 hip
    obtain ⟨hmem, -⟩ := List.mem_filter.1 (List.mem_eraseDups.1 hnormal)
    obtain ⟨ip, hsnapshot, rfl⟩ := List.mem_map.1 hmem
    obtain ⟨hne, key, allocation, hactive, rfl⟩ := (mem_snapshotSessionIPs_iff h now).1 hsnapshot
    rw [h.trimmed hactive] at hbanned ⊢
    rw [h.trimmed hactive]
    exact ⟨hne, hbanned, key, allocation, hactive, rfl⟩
  · rintro ⟨hne, hbanned, key, allocation, hactive, rfl⟩
    have htrim := h.trimmed hactive
    have hsnapshot := (mem_snapshotSessionIPs_iff h now).2 ⟨hne, key, allocation, hactive, rfl⟩
    exact List.mem_map.2 ⟨_, mem_checkBannedSessionIPs hsnapshot htrim hne hbanned, htrim⟩

end Sweep

/-! ### Coherence -/

/-- **The tables of the relay agree, and a sweep revokes what is banned.**  After any sequence of
operations, on any names and five-tuples, the sets of keys, the counts and the copies for the releases
are those of the active allocations, the copies up to the session address; and a sweep that asks about
the addresses then, and selects after any further operations, selects the active allocations whose
address is banned and was asked about, which are all of them when nothing has come between. -/
theorem coherence (toUpper : String → String) (operations later : List Operation) :
    (run toUpper operations).Coherent ∧
    (∀ userID, (run toUpper operations).allocationCountByUserID.lookup userID =
      if userID = "" ∨ (run toUpper operations).allocationCount userID = 0 then none
      else some ((run toUpper operations).allocationCount userID : ℤ)) ∧
    (∀ banned now allocation,
      allocation ∈ (run toUpper operations).bannedAllocations
          (checkBannedSessionIPs banned ((run toUpper operations).snapshotSessionIPs now).1) ↔
        (∃ key, (run toUpper operations).activeAllocations.lookup key = some allocation) ∧
          allocation.sessionIP ≠ "" ∧ banned allocation.sessionIP = true) ∧
    ∀ banned now allocation,
      allocation ∈ (run toUpper (operations ++ later)).bannedAllocations
          (checkBannedSessionIPs banned ((run toUpper operations).snapshotSessionIPs now).1) ↔
        (∃ key, (run toUpper (operations ++ later)).activeAllocations.lookup key =
          some allocation) ∧ allocation.sessionIP ≠ "" ∧ banned allocation.sessionIP = true ∧
          ∃ key old, (run toUpper operations).activeAllocations.lookup key = some old ∧
            old.sessionIP = allocation.sessionIP := by
  have h := coherent_run toUpper operations
  refine ⟨h, h.toAccounted.count_eq, fun banned now allocation => ?_, fun banned now allocation => ?_⟩
  · rw [mem_bannedAllocations_iff h, mem_checkBannedSessionIPs_iff h]
    constructor
    · rintro ⟨hactive, hip, -, hbanned, -⟩
      exact ⟨hactive, hip, hbanned⟩
    · rintro ⟨⟨key, hactive⟩, hip, hbanned⟩
      exact ⟨⟨key, hactive⟩, hip, hip, hbanned, key, allocation, hactive, rfl⟩
  · rw [mem_bannedAllocations_iff (coherent_run toUpper (operations ++ later)),
      mem_checkBannedSessionIPs_iff h]
    constructor
    · rintro ⟨hactive, hip, -, hbanned, hasked⟩
      exact ⟨hactive, hip, hbanned, hasked⟩
    · rintro ⟨hactive, hip, hbanned, hasked⟩
      exact ⟨hactive, hip, hip, hbanned, hasked⟩

/-- An allocation, and then an authentication of its user. -/
def createdThenReported : List Operation :=
  [.allocationCreated 0 none (some ⟨"udp", "192.0.2.1:1"⟩) none "udp" "u",
    .rememberSessionIP 1 "u" "192.0.2.1"]

/-- The copy for the release keeps the address that the allocation was created with. -/
theorem released_copy_keeps_address :
    ¬ ∀ (toUpper : String → String) (operations : List Operation) (key : String),
      (run toUpper operations).allocationReleaseLookup.lookup key =
        (run toUpper operations).activeAllocations.lookup key := by
  intro h
  exact absurd (h asciiUpper createdThenReported "UDP|udp:192.0.2.1:1|") (by decide +kernel)

end Service

end Turn
