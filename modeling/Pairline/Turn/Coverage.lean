/-
**Which allocations a ban sweep reaches.**

A ban sweep asks for the session IPs under which allocations are indexed and revokes what it finds
under the banned ones.  It therefore reaches an allocation only when the session IP that the
authentication of its user reported is still remembered at the moment the allocation is created.

Main definitions:

* `Turn.Service.Indexed` — the invariant of the tables: every active allocation is in the set of
  its user and, when it has a session IP, in the set of that session IP;
* `Turn.BanSweepCoverage` — every allocation whose authentication reported a session IP is indexed
  under it and reached by the next sweep, in all runs whose steps meet a condition;
* `Turn.RememberedAtCreation` — the session IP of the user is remembered when its allocation is
  created.

Main results:

* `Turn.Relay.covered_step` — the invariant is kept by every step that meets the condition;
* `Turn.forgotten_session_ip_escapes` — the deletion of a user's last allocation between the
  authentication and the creation of the next hides the latter from every sweep;
* `Turn.banSweepCoverage_of_remembered` — **otherwise every banned allocation is revoked**.
-/

import Pairline.Turn.Relay

set_option relaxedAutoImplicit false
set_option autoImplicit false

namespace Turn

open Transition Whitespace

/-! ### The invariant of the tables -/

/-- A user name without surrounding white space. -/
def TrimmedName (userID : String) : Prop := userID ≠ "" ∧ trim userID = userID

instance (userID : String) : Decidable (TrimmedName userID) :=
  inferInstanceAs (Decidable (_ ∧ _))

namespace Service

/-- **The tables agree on the active allocations.** -/
structure Indexed (s : Service) : Prop where
  named : ∀ {key allocation}, s.activeAllocations.lookup key = some allocation →
    TrimmedName allocation.username
  byUser : ∀ {key allocation}, s.activeAllocations.lookup key = some allocation →
    key ∈ s.allocationKeysByUserID.get allocation.username
  active : ∀ {userID key}, key ∈ s.allocationKeysByUserID.get userID →
    ∃ allocation, s.activeAllocations.lookup key = some allocation ∧ allocation.username = userID
  trimmed : ∀ {key allocation}, s.activeAllocations.lookup key = some allocation →
    trim allocation.sessionIP = allocation.sessionIP
  bySession : ∀ {key allocation}, s.activeAllocations.lookup key = some allocation →
    allocation.sessionIP ≠ "" → key ∈ s.allocationKeysBySession.get allocation.sessionIP
  remembered : ∀ {userID remembered}, s.sessionIPByUserID.lookup userID = some remembered →
    remembered.ip ≠ "" ∧ trim remembered.ip = remembered.ip

theorem indexed_newService : newService.Indexed where
  named h := by simp [newService] at h
  byUser h := by simp [newService] at h
  active h := absurd h List.not_mem_nil
  trimmed h := by simp [newService] at h
  bySession h := by simp [newService] at h
  remembered h := by simp [newService] at h

/-- The invariant does not read the release lookup, the counts and the sequence number, and it
allows to forget remembered session IPs. -/
theorem Indexed.congr {s t : Service} (h : s.Indexed)
    (hactive : t.activeAllocations = s.activeAllocations)
    (huser : t.allocationKeysByUserID = s.allocationKeysByUserID)
    (hsession : t.allocationKeysBySession = s.allocationKeysBySession)
    (hremembered : ∀ {userID remembered}, t.sessionIPByUserID.lookup userID = some remembered →
      remembered.ip ≠ "" ∧ trim remembered.ip = remembered.ip) : t.Indexed where
  named hlookup := h.named (hactive ▸ hlookup)
  byUser hlookup := huser ▸ h.byUser (hactive ▸ hlookup)
  active hmem := hactive ▸ h.active (huser ▸ hmem)
  trimmed hlookup := h.trimmed (hactive ▸ hlookup)
  bySession hlookup hip := hsession ▸ h.bySession (hactive ▸ hlookup) hip
  remembered hlookup := hremembered hlookup

theorem Indexed.withReleaseLookup {s : Service} (h : s.Indexed) (m : GoMap ActiveAllocation) :
    Indexed { s with allocationReleaseLookup := m } :=
  h.congr rfl rfl rfl h.remembered

theorem Indexed.withReleaseSequence {s : Service} (h : s.Indexed) (n : ℕ) :
    Indexed { s with releaseSequence := n } :=
  h.congr rfl rfl rfl h.remembered

theorem Indexed.of_forgets {s t : Service} (h : s.Indexed) (hst : s.Forgets t) : t.Indexed := by
  refine h.congr ?_ ?_ ?_ fun hlookup => h.remembered (hst.forgotten hlookup)
  · rw [hst.rest]
  · rw [hst.rest]
  · rw [hst.rest]

/-! ### Removing and storing an allocation -/

/-- **Removing an active allocation keeps the invariant.** -/
theorem Indexed.remove {s : Service} (h : s.Indexed) {key : String} {allocation : ActiveAllocation}
    (hkey : s.activeAllocations.lookup key = some allocation) :
    (s.removeAllocationIndexesLocked key allocation).Indexed := by
  obtain ⟨hname, htrim⟩ := h.named hkey
  have hactive := activeAllocations_removeAllocationIndexesLocked s key allocation
  have huser : (s.removeAllocationIndexesLocked key allocation).allocationKeysByUserID =
      s.allocationKeysByUserID.deleteKey allocation.username key := by
    rw [allocationKeysByUserID_removeAllocationIndexesLocked s key allocation (by rwa [htrim]),
      htrim]
  have hsession := allocationKeysBySession_removeAllocationIndexesLocked s key allocation
  -- the keys other than `key` are in the tables what they were
  have hother : ∀ {key' allocation'},
      (s.removeAllocationIndexesLocked key allocation).activeAllocations.lookup key' =
        some allocation' →
      key' ≠ key ∧ s.activeAllocations.lookup key' = some allocation' := by
    intro key' allocation' hlookup
    rw [hactive] at hlookup
    rcases eq_or_ne key' key with rfl | hne
    · simp at hlookup
    · exact ⟨hne, by rwa [AList.lookup_erase_ne hne] at hlookup⟩
  refine ⟨fun hl => h.named (hother hl).2, fun hl => ?_, fun {userID key'} hmem => ?_,
    fun hl => h.trimmed (hother hl).2, fun hl hip => ?_,
    fun hl => h.remembered (lookup_of_removeAllocationIndexesLocked s key allocation hl)⟩
  · obtain ⟨hne, hlookup⟩ := hother hl
    rw [huser, GoMap.mem_get_deleteKey]
    exact ⟨h.byUser hlookup, fun hk => hne hk.2⟩
  · rw [huser, GoMap.mem_get_deleteKey] at hmem
    obtain ⟨allocation', hlookup, huserID⟩ := h.active hmem.1
    have hne : key' ≠ key := by
      rintro rfl
      obtain rfl : allocation = allocation' := Option.some_inj.1 (hkey.symm.trans hlookup)
      exact hmem.2 ⟨huserID.symm, rfl⟩
    refine ⟨allocation', ?_, huserID⟩
    rw [hactive, AList.lookup_erase_ne hne, hlookup]
  · obtain ⟨hne, hlookup⟩ := hother hl
    rw [hsession, mem_removeAllocationKeyFromSessionIPLocked]
    exact ⟨h.bySession hlookup hip, fun hk => hne hk.2.2⟩

/-- Making room under a key keeps the invariant, and leaves nothing there. -/
theorem Indexed.removePrevious {s : Service} (h : s.Indexed) (key : String) :
    (s.removePreviousAllocation key).Indexed ∧
      (s.removePreviousAllocation key).activeAllocations.lookup key = none := by
  unfold removePreviousAllocation
  split
  next previous hprevious =>
      refine ⟨h.remove hprevious, ?_⟩
      rw [activeAllocations_removeAllocationIndexesLocked, AList.lookup_erase]
  next hnone => exact ⟨h, hnone⟩

/-- **Storing an allocation under a free key keeps the invariant.** -/
theorem Indexed.store {s : Service} (h : s.Indexed) {key : String} {allocation : ActiveAllocation}
    (hfree : s.activeAllocations.lookup key = none) (hnamed : TrimmedName allocation.username)
    (htrimmed : trim allocation.sessionIP = allocation.sessionIP) :
    (s.storeAllocation key allocation).Indexed := by
  obtain ⟨hname, htrim⟩ := hnamed
  have hactive := activeAllocations_storeAllocation s key allocation
  have huser : (s.storeAllocation key allocation).allocationKeysByUserID =
      s.allocationKeysByUserID.insertKey allocation.username key := by
    rw [allocationKeysByUserID_storeAllocation s key allocation (by rwa [htrim]), htrim]
  have hsession := allocationKeysBySession_storeAllocation s key allocation
  have hcases : ∀ {key' allocation'},
      (s.storeAllocation key allocation).activeAllocations.lookup key' = some allocation' →
      (key' = key ∧ allocation' = allocation) ∨
        s.activeAllocations.lookup key' = some allocation' := by
    intro key' allocation' hlookup
    rw [hactive] at hlookup
    rcases eq_or_ne key' key with rfl | hne
    · rw [AList.lookup_insert, Option.some_inj] at hlookup
      exact .inl ⟨rfl, hlookup.symm⟩
    · exact .inr (by rwa [AList.lookup_insert_ne hne] at hlookup)
  refine ⟨fun hl => ?_, fun hl => ?_, fun {userID key'} hmem => ?_, fun hl => ?_,
    fun hl hip => ?_, fun hl => ?_⟩
  · rcases hcases hl with ⟨rfl, rfl⟩ | hlookup
    · exact ⟨hname, htrim⟩
    · exact h.named hlookup
  · rw [huser, GoMap.mem_get_insertKey]
    rcases hcases hl with ⟨rfl, rfl⟩ | hlookup
    · exact .inr ⟨rfl, rfl⟩
    · exact .inl (h.byUser hlookup)
  · rw [huser, GoMap.mem_get_insertKey] at hmem
    rw [hactive]
    rcases hmem with hmem | ⟨rfl, rfl⟩
    · obtain ⟨allocation', hlookup, huserID⟩ := h.active hmem
      have hne : key' ≠ key := by
        rintro rfl
        simp [hfree] at hlookup
      exact ⟨allocation', by rw [AList.lookup_insert_ne hne, hlookup], huserID⟩
    · exact ⟨allocation, AList.lookup_insert _, rfl⟩
  · rcases hcases hl with ⟨rfl, rfl⟩ | hlookup
    · exact htrimmed
    · exact h.trimmed hlookup
  · rw [hsession, mem_addAllocationKeyToSessionIPLocked]
    rcases hcases hl with ⟨rfl, rfl⟩ | hlookup
    · exact .inr ⟨by rwa [htrimmed], htrimmed.symm, rfl⟩
    · exact .inl (h.bySession hlookup hip)
  · rw [sessionIPByUserID_storeAllocation] at hl
    exact h.remembered hl

/-! ### Moving the allocations of a user -/

/-- A moved allocation is in the set of its new session IP; other allocations stay in theirs. -/
theorem mem_allocationKeysBySession_move {s : Service} {sessionIP ip key key' : String}
    (htrim : trim sessionIP = sessionIP) (hne : sessionIP ≠ "")
    (h : (ip = sessionIP ∧ key' = key) ∨
      (key' ≠ key ∧ key' ∈ s.allocationKeysBySession.get ip)) :
    key' ∈ (moveAllocationToSessionIP sessionIP s key).allocationKeysBySession.get ip := by
  unfold moveAllocationToSessionIP
  rw [mem_addAllocationKeyToSessionIPLocked, htrim]
  rcases h with ⟨rfl, rfl⟩ | ⟨hkey, hmem⟩
  · exact .inr ⟨hne, rfl, rfl⟩
  · left
    dsimp only
    split
    · exact mem_removeAllocationKeyFromSessionIPLocked.2 ⟨hmem, fun hk => hkey hk.2.2⟩
    · exact hmem

/-- **Moving an active allocation to another session IP keeps the invariant.** -/
theorem Indexed.move {s : Service} (h : s.Indexed) {sessionIP key : String}
    {allocation : ActiveAllocation} (htrim : trim sessionIP = sessionIP) (hne : sessionIP ≠ "")
    (hkey : s.activeAllocations.lookup key = some allocation) :
    (moveAllocationToSessionIP sessionIP s key).Indexed := by
  have hactive : (moveAllocationToSessionIP sessionIP s key).activeAllocations =
      s.activeAllocations.insert key { allocation with sessionIP := sessionIP } := by
    rw [activeAllocations_moveAllocationToSessionIP, GoMap.get, hkey, Option.getD_some]
  have huser := allocationKeysByUserID_moveAllocationToSessionIP s sessionIP key
  have hcases : ∀ {key' allocation'},
      (moveAllocationToSessionIP sessionIP s key).activeAllocations.lookup key' =
        some allocation' →
      (key' = key ∧ allocation' = { allocation with sessionIP := sessionIP }) ∨
        (key' ≠ key ∧ s.activeAllocations.lookup key' = some allocation') := by
    intro key' allocation' hlookup
    rw [hactive] at hlookup
    rcases eq_or_ne key' key with rfl | hkey'
    · rw [AList.lookup_insert, Option.some_inj] at hlookup
      exact .inl ⟨rfl, hlookup.symm⟩
    · exact .inr ⟨hkey', by rwa [AList.lookup_insert_ne hkey'] at hlookup⟩
  refine ⟨fun hl => ?_, fun hl => ?_, fun {userID key'} hmem => ?_, fun hl => ?_,
    fun hl hip => ?_, fun hl => ?_⟩
  · rcases hcases hl with ⟨-, rfl⟩ | ⟨-, hlookup⟩
    · obtain ⟨hname, htrim'⟩ := h.named hkey
      exact ⟨hname, htrim'⟩
    · exact h.named hlookup
  · rw [huser]
    rcases hcases hl with ⟨rfl, rfl⟩ | ⟨-, hlookup⟩
    · have hmem := h.byUser hkey
      exact hmem
    · exact h.byUser hlookup
  · rw [huser] at hmem
    rw [hactive]
    obtain ⟨allocation', hlookup, huserID⟩ := h.active hmem
    rcases eq_or_ne key' key with rfl | hkey'
    · obtain rfl : allocation = allocation' := Option.some_inj.1 (hkey.symm.trans hlookup)
      exact ⟨_, AList.lookup_insert _, huserID⟩
    · exact ⟨allocation', by rw [AList.lookup_insert_ne hkey', hlookup], huserID⟩
  · rcases hcases hl with ⟨rfl, rfl⟩ | ⟨-, hlookup⟩
    · exact htrim
    · exact h.trimmed hlookup
  · rcases hcases hl with ⟨rfl, rfl⟩ | ⟨hkey', hlookup⟩
    · exact mem_allocationKeysBySession_move htrim hne (.inl ⟨rfl, rfl⟩)
    · exact mem_allocationKeysBySession_move htrim hne (.inr ⟨hkey', h.bySession hlookup hip⟩)
  · rw [sessionIPByUserID_moveAllocationToSessionIP] at hl
    exact h.remembered hl

theorem Indexed.foldl_move {sessionIP : String} (htrim : trim sessionIP = sessionIP)
    (hne : sessionIP ≠ "") (keys : List String) : ∀ {s : Service}, s.Indexed →
      (∀ key ∈ keys, ∃ allocation, s.activeAllocations.lookup key = some allocation) →
      (keys.foldl (moveAllocationToSessionIP sessionIP) s).Indexed := by
  induction keys with
  | nil =>
      intro s h _
      exact h
  | cons first keys ih =>
      intro s h hactive
      obtain ⟨allocation, hfirst⟩ := hactive first List.mem_cons_self
      refine ih (h.move htrim hne hfirst) fun key hkey => ?_
      obtain ⟨allocation', hkey'⟩ := hactive key (List.mem_cons_of_mem _ hkey)
      exact ⟨_, lookup_moveAllocationToSessionIP s sessionIP hkey'⟩

theorem sessionIPByUserID_foldl_move (sessionIP : String) (keys : List String) :
    ∀ s : Service, (keys.foldl (moveAllocationToSessionIP sessionIP) s).sessionIPByUserID =
      s.sessionIPByUserID := by
  induction keys with
  | nil => exact fun _ => rfl
  | cons first keys ih =>
      intro s
      rw [List.foldl_cons, ih, sessionIPByUserID_moveAllocationToSessionIP]

/-- **An authentication keeps the invariant.** -/
theorem Indexed.rememberSessionIP {s : Service} (h : s.Indexed) (now : ℕ)
    (userID sessionIP : String) : (s.rememberSessionIP now userID sessionIP).Indexed := by
  by_cases hip : trim sessionIP = ""
  · simpa only [Service.rememberSessionIP, hip, if_true] using h
  · simp only [Service.rememberSessionIP, hip, if_false]
    refine Indexed.of_forgets ?_ (forgets_cleanupRememberedSessionIPsLocked _ _)
    refine Indexed.foldl_move (trim_trim _) hip _ ?_ fun key hkey => ?_
    · refine h.congr rfl rfl rfl fun {userID'} {remembered} hl => ?_
      dsimp only at hl
      rcases eq_or_ne userID' userID with rfl | hne
      · rw [AList.lookup_insert, Option.some_inj] at hl
        exact hl ▸ ⟨hip, trim_trim _⟩
      · exact h.remembered (by rwa [AList.lookup_insert_ne hne] at hl)
    · obtain ⟨allocation, hlookup, -⟩ := h.active hkey
      exact ⟨allocation, hlookup⟩

/-- Nothing appears among the active allocations at an authentication. -/
theorem Indexed.lookup_of_rememberSessionIP {s : Service} (h : s.Indexed) {now : ℕ}
    {userID sessionIP key : String} {allocation : ActiveAllocation}
    (hlookup : (s.rememberSessionIP now userID sessionIP).activeAllocations.lookup key =
      some allocation) :
    ∃ old, s.activeAllocations.lookup key = some old ∧
      allocation = if trim sessionIP ≠ "" ∧ old.username = userID then
        { old with sessionIP := trim sessionIP } else old := by
  cases hold : s.activeAllocations.lookup key with
  | some old =>
      rw [lookup_rememberSessionIP s now userID sessionIP hold, Option.some_inj] at hlookup
      have hiff : key ∈ s.allocationKeysByUserID.get userID ↔ old.username = userID := by
        constructor
        · intro hmem
          obtain ⟨allocation', hkey, huserID⟩ := h.active hmem
          obtain rfl : old = allocation' := Option.some_inj.1 (hold.symm.trans hkey)
          exact huserID
        · rintro rfl
          exact h.byUser hold
      exact ⟨old, rfl, by rw [← hlookup]; simp only [hiff]⟩
  | none =>
      -- the set of the user holds active keys only, so `key` is not in it
      have hnot : key ∉ s.allocationKeysByUserID.get userID := by
        intro hmem
        obtain ⟨allocation', hkey, -⟩ := h.active hmem
        simp [hold] at hkey
      rw [lookup_rememberSessionIP_of_not_mem s now sessionIP hnot, hold] at hlookup
      simp at hlookup

/-- An authentication remembers the session IP of its user, and at most forgets others. -/
theorem lookup_sessionIP_of_rememberSessionIP {s : Service} {now : ℕ}
    {userID userID' sessionIP : String} {remembered : RememberedSessionIP}
    (hip : trim sessionIP ≠ "")
    (h : (s.rememberSessionIP now userID sessionIP).sessionIPByUserID.lookup userID' =
      some remembered) :
    (s.sessionIPByUserID.insert userID { ip := trim sessionIP, seenAt := now }).lookup userID' =
      some remembered := by
  simp only [Service.rememberSessionIP, hip, if_false] at h
  have hlookup := (forgets_cleanupRememberedSessionIPsLocked _ _).forgotten h
  rwa [sessionIPByUserID_foldl_move] at hlookup

/-! ### A creation -/

/-- The session IP a creation uses is trimmed. -/
theorem Indexed.trim_rememberedForCreation {s : Service} (h : s.Indexed) (now : ℕ)
    (key userID : String) :
    trim (s.rememberedForCreation now key userID).ip =
      (s.rememberedForCreation now key userID).ip := by
  have hget : trim (s.sessionIPByUserID.get userID).ip = (s.sessionIPByUserID.get userID).ip := by
    cases hlookup : s.sessionIPByUserID.lookup userID with
    | none => simp only [GoMap.get, hlookup]; rfl
    | some remembered =>
        simp only [GoMap.get, hlookup, Option.getD_some]
        exact (h.remembered hlookup).2
  unfold Service.rememberedForCreation
  dsimp only
  split
  · split
    · exact trim_trim _
    · exact hget
  · exact hget

/-- A remembered session IP is the one a creation uses. -/
theorem Indexed.rememberedForCreation_of_remembered {s : Service} (h : s.Indexed) (now : ℕ)
    {key userID : String} {remembered : RememberedSessionIP}
    (hlookup : s.sessionIPByUserID.lookup userID = some remembered) :
    s.rememberedForCreation now key userID = remembered := by
  obtain ⟨hne, htrim⟩ := h.remembered hlookup
  have hget : s.sessionIPByUserID.get userID = remembered := by
    simp only [GoMap.get, hlookup, Option.getD_some]
  unfold Service.rememberedForCreation
  dsimp only
  rw [hget]
  split
  · rw [if_neg fun hk => hne (htrim ▸ hk.1)]
  · rfl

theorem Indexed.prepareCreation {s : Service} (h : s.Indexed) (now : ℕ) (key userID : String) :
    (s.prepareCreation now key userID).Indexed ∧
      (s.prepareCreation now key userID).activeAllocations.lookup key = none := by
  obtain ⟨hindexed, hfree⟩ := h.removePrevious key
  have hactive := activeAllocations_prepareCreation s now key userID
  refine ⟨hindexed.congr hactive ?_ ?_ fun {userID'} {remembered} hl => ?_, by rw [hactive, hfree]⟩
  · simp only [Service.prepareCreation]
  · simp only [Service.prepareCreation]
  simp only [Service.prepareCreation] at hl
  split at hl
  next hip =>
      rcases eq_or_ne userID' userID with rfl | hne
      · rw [AList.lookup_insert, Option.some_inj] at hl
        have htrim := h.trim_rememberedForCreation now key userID'
        rw [← hl]
        exact ⟨by rwa [htrim] at hip, htrim⟩
      · exact hindexed.remembered (by rwa [AList.lookup_insert_ne hne] at hl)
  next => exact hindexed.remembered hl

/-- A creation remembers the session IP it uses, and at most forgets others. -/
theorem lookup_sessionIP_prepareCreation {s : Service} {now : ℕ} {key userID userID' : String}
    {remembered : RememberedSessionIP}
    (h : (s.prepareCreation now key userID).sessionIPByUserID.lookup userID' = some remembered) :
    (userID' = userID ∧ remembered = s.rememberedForCreation now key userID) ∨
      s.sessionIPByUserID.lookup userID' = some remembered := by
  have hprevious : ∀ {userID' remembered},
      (s.removePreviousAllocation key).sessionIPByUserID.lookup userID' = some remembered →
      s.sessionIPByUserID.lookup userID' = some remembered := by
    intro userID' remembered hl
    unfold removePreviousAllocation at hl
    split at hl
    · exact lookup_of_removeAllocationIndexesLocked _ _ _ hl
    · exact hl
  simp only [Service.prepareCreation] at h
  split at h
  · rcases eq_or_ne userID' userID with rfl | hne
    · rw [AList.lookup_insert, Option.some_inj] at h
      exact .inl ⟨rfl, h.symm⟩
    · rw [AList.lookup_insert_ne hne] at h
      exact .inr (hprevious h)
  · exact .inr (hprevious h)

end Service

/-! ### The invariant of the relay -/

/-- The session IP of the user is remembered when an allocation of the user is created, if the
last authentication of the user reported one; and the name of the user has no surrounding white
space. -/
def RememberedAtCreation (w : Relay) : Event → Prop
  | .allocationCreated _ _ _ userID _ =>
      TrimmedName userID ∧ (userID ∈ w.reportedByUserID → userID ∈ w.service.sessionIPByUserID)
  | _ => True

instance (w : Relay) (e : Event) : Decidable (RememberedAtCreation w e) := by
  unfold RememberedAtCreation
  split <;> infer_instance

namespace Relay

/-- The five-tuple is tracked, and the authentication of its user reported the session IP. -/
def Authenticated (w : Relay) (key ip : String) : Prop :=
  key ∈ w.service.activeAllocations ∧ w.reportedByKey key = some ip

/-- **The invariant**: the tables agree, and hold the session IPs that were reported. -/
structure Covered (w : Relay) : Prop where
  indexed : w.service.Indexed
  remembered : ∀ {userID ip remembered}, w.reportedByUserID.lookup userID = some ip →
    w.service.sessionIPByUserID.lookup userID = some remembered → remembered.ip = ip
  user : ∀ {userID ip}, w.reportedByUserID.lookup userID = some ip → ip ≠ ""
  reported : ∀ {key allocation ip}, w.service.activeAllocations.lookup key = some allocation →
    w.reportedByKey key = some ip → allocation.sessionIP = ip ∧ ip ≠ ""

theorem covered_newRelay : newRelay.Covered where
  indexed := Service.indexed_newService
  remembered h := by simp [newRelay] at h
  user h := by simp [newRelay] at h
  reported h := by simp [newRelay, newService] at h

/-- **Covered allocations are in the index.** -/
theorem Covered.mem_index {w : Relay} (h : w.Covered) {key ip : String}
    (hauth : w.Authenticated key ip) :
    ip ≠ "" ∧ trim ip = ip ∧ key ∈ w.service.allocationKeysBySession.get ip ∧
      ∃ allocation, w.service.activeAllocations.lookup key = some allocation ∧
        allocation.sessionIP = ip := by
  obtain ⟨hmem, hreported⟩ := hauth
  obtain ⟨allocation, hlookup⟩ := Option.isSome_iff_exists.1 (AList.lookup_isSome.2 hmem)
  obtain ⟨rfl, hne⟩ := h.reported hlookup hreported
  exact ⟨hne, h.indexed.trimmed hlookup, h.indexed.bySession hlookup hne, allocation, hlookup, rfl⟩

/-- The invariant does not read the clock, the loops and the releases. -/
theorem Covered.congr {w w' : Relay} (h : w.Covered) (hservice : w'.service = w.service)
    (huser : w'.reportedByUserID = w.reportedByUserID)
    (hkey : w'.reportedByKey = w.reportedByKey) : w'.Covered where
  indexed := hservice ▸ h.indexed
  remembered := by rw [huser, hservice]; exact h.remembered
  user := by rw [huser]; exact h.user
  reported := by rw [hkey, hservice]; exact h.reported

/-- The invariant does not read the release lookup. -/
theorem Covered.withReleaseLookup {w w' : Relay} (h : w.Covered)
    {allocationReleaseLookup : GoMap ActiveAllocation}
    (hservice : w'.service =
      { w.service with allocationReleaseLookup := allocationReleaseLookup })
    (huser : w'.reportedByUserID = w.reportedByUserID)
    (hkey : w'.reportedByKey = w.reportedByKey) : w'.Covered where
  indexed := by rw [hservice]; exact h.indexed.withReleaseLookup _
  remembered := by rw [huser, hservice]; exact h.remembered
  user := by rw [huser]; exact h.user
  reported := by rw [hkey, hservice]; exact h.reported

/-- Forgetting remembered session IPs keeps the invariant. -/
theorem Covered.of_forgets {w w' : Relay} (h : w.Covered) (hservice : w.service.Forgets w'.service)
    (huser : w'.reportedByUserID = w.reportedByUserID)
    (hkey : w'.reportedByKey = w.reportedByKey) : w'.Covered where
  indexed := h.indexed.of_forgets hservice
  remembered hreported hlookup := h.remembered (huser ▸ hreported) (hservice.forgotten hlookup)
  user hreported := h.user (huser ▸ hreported)
  reported hlookup hreported := h.reported
    (by rwa [hservice.rest] at hlookup) (hkey ▸ hreported)

/-- Removing an active allocation keeps the invariant. -/
theorem Covered.remove {w w' : Relay} (h : w.Covered) {key : String}
    {allocation : ActiveAllocation} {allocationReleaseLookup : GoMap ActiveAllocation}
    (hlookup : w.service.activeAllocations.lookup key = some allocation)
    (hservice : w'.service =
      { w.service.removeAllocationIndexesLocked key allocation with
        allocationReleaseLookup := allocationReleaseLookup })
    (huser : w'.reportedByUserID = w.reportedByUserID)
    (hkey : w'.reportedByKey = w.reportedByKey) : w'.Covered where
  indexed := by
    rw [hservice]
    exact (h.indexed.remove hlookup).withReleaseLookup _
  remembered hreported hremembered := by
    rw [hservice] at hremembered
    dsimp only at hremembered
    exact h.remembered (huser ▸ hreported)
      (Service.lookup_of_removeAllocationIndexesLocked _ _ _ hremembered)
  user hreported := h.user (huser ▸ hreported)
  reported hl hreported := by
    rw [hservice] at hl
    dsimp only at hl
    rw [Service.activeAllocations_removeAllocationIndexesLocked] at hl
    exact h.reported (lookup_of_lookup_erase hl) (hkey ▸ hreported)

/-! ### The steps -/

/-- An authentication that reports no session IP leaves the tables and forgets the history. -/
theorem Covered.auth_of_blank {w w' : Relay} (h : w.Covered) {username : String}
    (hservice : w'.service = w.service)
    (huser : w'.reportedByUserID = w.reportedByUserID.erase username)
    (hkey : w'.reportedByKey = w.reportedByKey) : w'.Covered where
  indexed := hservice ▸ h.indexed
  remembered hreported hlookup := by
    rw [huser] at hreported
    rw [hservice] at hlookup
    exact h.remembered (lookup_of_lookup_erase hreported) hlookup
  user hreported := by
    rw [huser] at hreported
    exact h.user (lookup_of_lookup_erase hreported)
  reported := by rw [hkey, hservice]; exact h.reported

/-- An authentication that reports a session IP moves the allocations of the user to it. -/
theorem Covered.auth_of_reported {w w' : Relay} (h : w.Covered) (username sessionIP : String)
    (hip : trim sessionIP ≠ "")
    (hservice : w'.service = w.service.rememberSessionIP w.now username sessionIP)
    (huser : w'.reportedByUserID = w.reportedByUserID.insert username (trim sessionIP))
    (hkey : ∀ key, w'.reportedByKey key =
      if (w'.service.activeAllocations.lookup key).map (·.username) = some username then
        some (trim sessionIP) else w.reportedByKey key) : w'.Covered where
  indexed := by
    rw [hservice]
    exact h.indexed.rememberSessionIP w.now username sessionIP
  remembered := by
    intro userID ip remembered hreported hlookup
    rw [hservice] at hlookup
    have hlookup' := Service.lookup_sessionIP_of_rememberSessionIP hip hlookup
    rw [huser] at hreported
    rcases eq_or_ne userID username with rfl | hne
    · rw [AList.lookup_insert, Option.some_inj] at hreported hlookup'
      rw [← hreported, ← hlookup']
    · rw [AList.lookup_insert_ne hne] at hreported hlookup'
      exact h.remembered hreported hlookup'
  user := by
    intro userID ip hreported
    rw [huser] at hreported
    rcases eq_or_ne userID username with rfl | hne
    · rw [AList.lookup_insert, Option.some_inj] at hreported
      exact hreported ▸ hip
    · rw [AList.lookup_insert_ne hne] at hreported
      exact h.user hreported
  reported := by
    intro key allocation ip hlookup hreported
    simp only [hkey, hlookup, Option.map_some, Option.some_inj] at hreported
    rw [hservice] at hlookup
    obtain ⟨old, hold, hmoved⟩ := h.indexed.lookup_of_rememberSessionIP hlookup
    by_cases hname : old.username = username
    · rw [if_pos ⟨hip, hname⟩] at hmoved
      rw [if_pos (by rw [hmoved]; exact hname), Option.some_inj] at hreported
      rw [hmoved]
      exact ⟨hreported, hreported ▸ hip⟩
    · rw [if_neg fun hk => hname hk.2] at hmoved
      rw [if_neg (by rwa [hmoved])] at hreported
      exact hmoved ▸ h.reported hold hreported

theorem covered_auth {w : Relay} (h : w.Covered) (username sessionIP : String) :
    ({ w with service := w.service.rememberSessionIP w.now username sessionIP
      }.recordReport username sessionIP).Covered := by
  by_cases hip : trim sessionIP = ""
  · have hsame : w.service.rememberSessionIP w.now username sessionIP = w.service := by
      simp only [Service.rememberSessionIP, hip, if_true]
    simp only [recordReport, hip, if_true, hsame]
    exact h.auth_of_blank rfl rfl rfl
  · refine h.auth_of_reported username sessionIP hip ?_ ?_ fun key => ?_
    · rw [recordReport_service]
    · simp only [recordReport, hip, if_false]
    · simp only [recordReport, hip, if_false]

/-- **A creation keeps the invariant** when the session IP of its user is remembered. -/
theorem covered_created {toUpper : String → String} {w w' : Relay} (h : w.Covered)
    {srcAddr dstAddr : Option Addr} {protocol userID : String}
    {random : Option (Vector UInt8 12)}
    (hok : RememberedAtCreation w (.allocationCreated srcAddr dstAddr protocol userID random))
    (hs : w.step toUpper (.allocationCreated srcAddr dstAddr protocol userID random) = some w') :
    w'.Covered := by
  obtain ⟨hname, hremembered⟩ := hok
  obtain ⟨allocation, sequence, husername, hsessionIP, hw⟩ := step_created rfl hs
  generalize activeAllocationKey toUpper srcAddr dstAddr protocol = key at hsessionIP hw
  obtain ⟨hprepared, hfree⟩ := h.indexed.prepareCreation w.now key userID
  have htrim : trim allocation.sessionIP = allocation.sessionIP := by
    rw [hsessionIP]
    exact h.indexed.trim_rememberedForCreation w.now key userID
  have hservice : w'.service =
      { w.service.prepareCreation w.now key userID with
        releaseSequence := sequence }.storeAllocation key allocation := by
    rw [hw, recordCreation_service]
  have huser : w'.reportedByUserID = w.reportedByUserID := by
    rw [hw, recordCreation_reportedByUserID]
  have hkey : w'.reportedByKey =
      Function.update w.reportedByKey key (w.reportedByUserID.lookup userID) := by
    rw [hw, recordCreation_reportedByKey]
  -- a user whose authentication reported a session IP has it remembered
  have hused : ∀ {ip}, w.reportedByUserID.lookup userID = some ip → allocation.sessionIP = ip := by
    intro ip hreported
    have hmem : userID ∈ w.reportedByUserID := AList.lookup_isSome.1 (by simp [hreported])
    obtain ⟨remembered, hlookup⟩ :=
      Option.isSome_iff_exists.1 (AList.lookup_isSome.2 (hremembered hmem))
    rw [hsessionIP, h.indexed.rememberedForCreation_of_remembered w.now hlookup]
    exact h.remembered hreported hlookup
  refine ⟨?_, ?_, ?_, ?_⟩
  · rw [hservice]
    refine (hprepared.withReleaseSequence sequence).store ?_ ?_ htrim
    · dsimp only
      exact hfree
    · rwa [husername]
  · intro userID' ip remembered hreported hlookup
    rw [huser] at hreported
    rw [hservice, Service.sessionIPByUserID_storeAllocation] at hlookup
    dsimp only at hlookup
    rcases Service.lookup_sessionIP_prepareCreation hlookup with ⟨rfl, rfl⟩ | hlookup
    · rw [← hsessionIP]
      exact hused hreported
    · exact h.remembered hreported hlookup
  · rw [huser]
    exact h.user
  · intro key' allocation' ip hlookup hreported
    rw [hservice, Service.activeAllocations_storeAllocation] at hlookup
    dsimp only at hlookup
    rw [hkey] at hreported
    rcases eq_or_ne key' key with rfl | hne
    · rw [AList.lookup_insert, Option.some_inj] at hlookup
      rw [Function.update_self] at hreported
      exact hlookup ▸ ⟨hused hreported, h.user hreported⟩
    · rw [AList.lookup_insert_ne hne, Service.activeAllocations_prepareCreation,
        Service.lookup_removePreviousAllocation_of_ne _ hne] at hlookup
      rw [Function.update_of_ne hne] at hreported
      exact h.reported hlookup hreported

theorem covered_deleted {toUpper : String → String} {w : Relay} (h : w.Covered)
    (srcAddr dstAddr : Option Addr) (protocol userID : String) :
    (w.handleAllocationDeleted toUpper srcAddr dstAddr protocol userID).Covered := by
  cases hlookup : w.service.activeAllocations.lookup
      (activeAllocationKey toUpper srcAddr dstAddr protocol) with
  | none =>
      obtain ⟨lookup, huntrack⟩ :=
        w.service.untrackActiveAllocation_of_untracked toUpper srcAddr dstAddr protocol rfl hlookup
      have hservice : (w.handleAllocationDeleted toUpper srcAddr dstAddr protocol userID).service =
          { w.service with allocationReleaseLookup := lookup } := by
        simp only [handleAllocationDeleted, huntrack]
      exact h.withReleaseLookup hservice rfl rfl
  | some allocation =>
      have huntrack :=
        w.service.untrackActiveAllocation_of_tracked toUpper srcAddr dstAddr protocol rfl hlookup
      have hservice : (w.handleAllocationDeleted toUpper srcAddr dstAddr protocol userID).service =
          (w.service.untrackActiveAllocation toUpper srcAddr dstAddr protocol).2 := by
        simp only [handleAllocationDeleted]
      rw [huntrack] at hservice
      exact h.remove hlookup hservice rfl rfl

theorem covered_reconcileMissing {w : Relay} (h : w.Covered)
    (snapshot : String × ActiveAllocation) : (w.reconcileMissing snapshot).Covered := by
  rcases w.service.removeTrackedAllocationByKey_cases snapshot.1
      snapshot.2.releaseOperationID with hremove | ⟨allocation, hlookup, hremove⟩
  · simp only [reconcileMissing, hremove]
    exact h
  · simp only [reconcileMissing, hremove]
    exact h.remove hlookup rfl rfl rfl

/-- **The invariant is kept by every step that meets the condition.** -/
theorem covered_step {toUpper : String → String} {w w' : Relay} {e : Event} (h : w.Covered)
    (hok : RememberedAtCreation w e) (hs : w.step toUpper e = some w') : w'.Covered := by
  cases e with
  | tick d =>
      obtain rfl := Option.some_inj.1 hs
      exact h.congr rfl rfl rfl
  | auth username result =>
      cases result with
      | none => exact Option.some_inj.1 hs ▸ h
      | some sessionIP =>
          simp only [step, Option.some_inj] at hs
          exact hs ▸ covered_auth h username sessionIP
  | allocationCreated srcAddr dstAddr protocol userID random => exact covered_created h hok hs
  | allocationDeleted srcAddr dstAddr protocol userID =>
      simp only [step, Option.some_inj] at hs
      exact hs ▸ covered_deleted h srcAddr dstAddr protocol userID
  | snapshotTrackedAllocations =>
      obtain ⟨-, hs⟩ := Option.ite_none_right_eq_some.1 hs
      obtain rfl := Option.some_inj.1 hs
      exact h.congr rfl rfl rfl
  | reconcile exists_ =>
      cases hrec : w.reconciling with
      | nil => simp only [step, hrec, reduceCtorEq] at hs
      | cons snapshot rest =>
          have hrest : Relay.Covered { w with reconciling := rest } := h.congr rfl rfl rfl
          simp only [step, hrec] at hs
          split at hs
          · exact Option.some_inj.1 hs ▸ covered_reconcileMissing hrest snapshot
          · exact Option.some_inj.1 hs ▸ hrest
  | snapshotSessionIPs =>
      cases hsweep : w.sweeping with
      | some sessionIPs => simp only [step, hsweep, reduceCtorEq] at hs
      | none =>
          simp only [step, hsweep, Option.some_inj] at hs
          subst hs
          refine h.of_forgets ?_ rfl rfl
          simp only [Service.snapshotSessionIPs]
          exact Service.forgets_cleanupRememberedSessionIPsLocked _ _
  | banCheckFailed =>
      obtain ⟨-, hs⟩ := Option.ite_none_right_eq_some.1 hs
      obtain rfl := Option.some_inj.1 hs
      exact h.congr rfl rfl rfl
  | revokeBannedAllocations banned =>
      cases hsweep : w.sweeping with
      | none => simp only [step, hsweep, reduceCtorEq] at hs
      | some sessionIPs =>
          simp only [step, hsweep, Option.some_inj] at hs
          subst hs
          exact h.congr rfl rfl rfl
  | close =>
      obtain rfl := Option.some_inj.1 hs
      exact h.congr rfl rfl rfl

end Relay

/-! ### The sweep -/

theorem mem_checkBannedSessionIPs {banned : String → Bool} {sessionIPs : List String} {ip : String}
    (hmem : ip ∈ sessionIPs) (htrim : trim ip = ip) (hne : ip ≠ "") (hbanned : banned ip = true) :
    ip ∈ checkBannedSessionIPs banned sessionIPs := by
  unfold checkBannedSessionIPs normalizeSessionIPs
  refine List.mem_filter.2 ⟨List.mem_eraseDups.2 (List.mem_filter.2 ⟨?_, by simpa using hne⟩), hbanned⟩
  exact List.mem_map.2 ⟨ip, hmem, htrim⟩

/-- An allocation indexed under a banned session IP is selected. -/
theorem Service.mem_bannedAllocations {s : Service} {bannedIPs : List String} {key : String}
    {allocation : ActiveAllocation} (hlookup : s.activeAllocations.lookup key = some allocation)
    (htrim : trim allocation.sessionIP = allocation.sessionIP)
    (hindex : key ∈ s.allocationKeysBySession.get allocation.sessionIP)
    (hbanned : allocation.sessionIP ∈ bannedIPs) : allocation ∈ s.bannedAllocations bannedIPs := by
  have hkey : key ∈ s.allocationKeysForSessionIPs bannedIPs := by
    refine List.mem_eraseDups.2 (List.mem_filter.2 ⟨?_, by simp [hlookup]⟩)
    exact List.mem_flatMap.2 ⟨_, hbanned, by rwa [htrim]⟩
  refine List.mem_filter.2 ⟨List.mem_filterMap.2 ⟨key, hkey, hlookup⟩, ?_⟩
  simpa using ⟨_, hbanned, htrim⟩

/-- The events of a ban sweep. -/
def Event.IsSweep : Event → Bool
  | .snapshotSessionIPs | .banCheckFailed | .revokeBannedAllocations _ => true
  | _ => false

namespace Relay

/-- Only the sweep changes what the sweep asked about. -/
theorem sweeping_step {toUpper : String → String} {w w' : Relay} {e : Event}
    (he : e.IsSweep = false) (hs : w.step toUpper e = some w') : w'.sweeping = w.sweeping := by
  cases e with
  | tick d =>
      obtain rfl := Option.some_inj.1 hs
      rfl
  | auth username result =>
      cases result with
      | none => exact Option.some_inj.1 hs ▸ rfl
      | some sessionIP =>
          simp only [step, Option.some_inj] at hs
          rw [← hs, recordReport_sweeping]
  | allocationCreated srcAddr dstAddr protocol userID random =>
      obtain ⟨allocation, sequence, -, -, hw⟩ := step_created rfl hs
      rw [hw, recordCreation_sweeping]
  | allocationDeleted srcAddr dstAddr protocol userID =>
      simp only [step, Option.some_inj] at hs
      exact hs ▸ rfl
  | snapshotTrackedAllocations =>
      obtain ⟨-, hs⟩ := Option.ite_none_right_eq_some.1 hs
      obtain rfl := Option.some_inj.1 hs
      rfl
  | reconcile exists_ =>
      cases hrec : w.reconciling with
      | nil => simp only [step, hrec, reduceCtorEq] at hs
      | cons snapshot rest =>
          simp only [step, hrec] at hs
          split at hs
          · rw [← Option.some_inj.1 hs, reconcileMissing_sweeping]
          · exact Option.some_inj.1 hs ▸ rfl
  | snapshotSessionIPs => cases he
  | banCheckFailed => cases he
  | revokeBannedAllocations banned => cases he
  | close =>
      obtain rfl := Option.some_inj.1 hs
      rfl

theorem sweeping_run {toUpper : String → String} {ok : Relay → Event → Prop} {w w' : Relay}
    {events : List Event} (h : Run (step toUpper) ok w events w')
    (hevents : ∀ e ∈ events, e.IsSweep = false) : w'.sweeping = w.sweeping := by
  induction h with
  | refl w => rfl
  | head _ hs _ ih =>
      rw [ih fun e he => hevents e (List.mem_cons_of_mem _ he),
        sweeping_step (hevents _ List.mem_cons_self) hs]

/-- A sweep that starts while an allocation is indexed asks for its session IP. -/
theorem mem_sweeping_of_snapshot {toUpper : String → String} {w w' : Relay} {key ip : String}
    (hindex : key ∈ w.service.allocationKeysBySession.get ip) (htrim : trim ip = ip) (hne : ip ≠ "")
    (hs : w.step toUpper .snapshotSessionIPs = some w') :
    ∃ sessionIPs, w'.sweeping = some sessionIPs ∧ ip ∈ sessionIPs := by
  cases hsweep : w.sweeping with
  | some sessionIPs => simp only [step, hsweep, reduceCtorEq] at hs
  | none =>
      have hkeys : ip ∈ (w.service.snapshotSessionIPs w.now).1 := by
        unfold Service.snapshotSessionIPs
        dsimp only
        rw [(Service.forgets_cleanupRememberedSessionIPsLocked _ _).rest]
        refine List.mem_filter.2 ⟨?_, by simpa [htrim] using hne⟩
        cases hlookup : w.service.allocationKeysBySession.lookup ip with
        | none =>
            simp only [GoMap.get, hlookup] at hindex
            exact absurd hindex List.not_mem_nil
        | some keys =>
            exact AList.mem_keys.1 (AList.lookup_isSome.1 (by simp [hlookup]))
      simp only [step, hsweep, Option.some_inj] at hs
      refine ⟨_, ?_, hkeys⟩
      rw [← hs]
      exact if_neg (List.ne_nil_of_mem hkeys)

end Relay

/-! ### The law and its exception -/

/-- **Ban sweep coverage**, in the runs whose steps meet `ok`: an allocation whose authentication
reported a session IP is indexed under it, and a sweep that runs while it is there and finds the
session IP banned revokes it. -/
def BanSweepCoverage (toUpper : String → String) (ok : Relay → Event → Prop) : Prop :=
  ∀ events w, Run (Relay.step toUpper) ok newRelay events w → ∀ key ip, w.Authenticated key ip →
    key ∈ w.service.allocationKeysBySession.get ip ∧
    ∀ events' w' banned w'',
      Run (Relay.step toUpper) ok w (.snapshotSessionIPs :: events') w' →
      (∀ e ∈ events', e.IsSweep = false) → w'.Authenticated key ip → banned ip = true →
      w'.step toUpper (.revokeBannedAllocations banned) = some w'' →
      ∃ allocation ∈ w''.revoked, w'.service.activeAllocations.lookup key = some allocation

instance (w : Relay) (key ip : String) : Decidable (w.Authenticated key ip) :=
  inferInstanceAs (Decidable (_ ∧ _))

/-- A user authenticates for a second allocation, loses the first and creates the second. -/
def overlappingAllocations : List Event :=
  [.auth "user-1" (some "203.0.113.24"),
    .allocationCreated (some ⟨"udp", "10.0.0.1:1111"⟩) (some ⟨"udp", "10.0.0.2:3478"⟩) "UDP" "user-1"
      (some (Vector.replicate 12 0)),
    .auth "user-1" (some "203.0.113.24"),
    .allocationDeleted (some ⟨"udp", "10.0.0.1:1111"⟩) (some ⟨"udp", "10.0.0.2:3478"⟩) "UDP" "user-1",
    .allocationCreated (some ⟨"udp", "10.0.0.1:2222"⟩) (some ⟨"udp", "10.0.0.2:3478"⟩) "UDP" "user-1"
      (some (Vector.replicate 12 1))]

/-- The deletion forgets the session IP of the user, and the second allocation is in no index. -/
theorem forgotten_session_ip_escapes : ¬ BanSweepCoverage asciiUpper Always := by
  intro h
  have hescape : ∃ w, exec (Relay.step asciiUpper) newRelay overlappingAllocations = some w ∧
      w.Authenticated "UDP|udp:10.0.0.1:2222|udp:10.0.0.2:3478" "203.0.113.24" ∧
      "UDP|udp:10.0.0.1:2222|udp:10.0.0.2:3478" ∉
        w.service.allocationKeysBySession.get "203.0.113.24" := ⟨_, rfl, by decide, by decide⟩
  obtain ⟨w, hexec, hauth, hindex⟩ := hescape
  exact hindex (h overlappingAllocations w (run_of_exec hexec) _ _ hauth).1

/-- **When the session IP is remembered at every creation, every banned allocation is reached.** -/
theorem banSweepCoverage_of_remembered (toUpper : String → String) :
    BanSweepCoverage toUpper RememberedAtCreation := by
  intro events w hrun key ip hauth
  have hstep : ∀ w e w', w.Covered → RememberedAtCreation w e → w.step toUpper e = some w' →
      w'.Covered := fun _ _ _ h hok hs => Relay.covered_step h hok hs
  have hcovered := hrun.invariant hstep Relay.covered_newRelay
  obtain ⟨hne, htrim, hindex, -⟩ := hcovered.mem_index hauth
  refine ⟨hindex, ?_⟩
  intro events' w' banned w'' hrun' hevents' hauth' hbanned hrevoke
  have hcovered' := hrun'.invariant hstep hcovered
  obtain ⟨-, -, hindex', allocation, hlookup, rfl⟩ := hcovered'.mem_index hauth'
  -- what the sweep asked about includes the session IP, and does not change on the way
  obtain ⟨sessionIPs, hsweeping, hmem⟩ : ∃ sessionIPs, w'.sweeping = some sessionIPs ∧
      allocation.sessionIP ∈ sessionIPs := by
    cases hrun' with
    | head _ hs hrest =>
        rw [Relay.sweeping_run hrest hevents']
        exact Relay.mem_sweeping_of_snapshot hindex htrim hne hs
  simp only [Relay.step, hsweeping, Option.some_inj] at hrevoke
  refine ⟨allocation, ?_, hlookup⟩
  rw [← hrevoke]
  exact Service.mem_bannedAllocations hlookup htrim hindex'
    (mem_checkBannedSessionIPs hmem htrim hne hbanned)

/-- A user authenticates and creates an allocation. -/
def authenticatedCreation : List Event :=
  [.auth "user-1" (some "203.0.113.24"),
    .allocationCreated (some ⟨"udp", "10.0.0.1:1111"⟩) (some ⟨"udp", "10.0.0.2:3478"⟩) "UDP" "user-1"
      (some (Vector.replicate 12 0))]

theorem authenticatedCreation_revoked :
    ∃ w w' w'',
      execWhere (Relay.step asciiUpper) RememberedAtCreation newRelay authenticatedCreation =
        some w ∧
      w.step asciiUpper .snapshotSessionIPs = some w' ∧
      w'.step asciiUpper (.revokeBannedAllocations (· = "203.0.113.24")) = some w'' ∧
      ∃ allocation ∈ w''.revoked, w'.service.activeAllocations.lookup
        "UDP|udp:10.0.0.1:1111|udp:10.0.0.2:3478" = some allocation :=
  ⟨_, _, _, rfl, rfl, rfl,
    (banSweepCoverage_of_remembered asciiUpper authenticatedCreation _ (run_of_execWhere rfl)
      "UDP|udp:10.0.0.1:1111|udp:10.0.0.2:3478" "203.0.113.24" (by decide)).2 [] _
      (· = "203.0.113.24") _ (.single trivial rfl) (fun _ h => absurd h List.not_mem_nil)
      (by decide) rfl rfl⟩

end Turn
