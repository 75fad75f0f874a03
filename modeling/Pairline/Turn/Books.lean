/-
**The books of the quota slots.**

A counter of the relay counts the slots of a session that were granted and have not been given back.
As long as every call is answered it counts no more than the grants for which nothing was created
yet, and the operations that are attached to allocations and were not applied.

Main definitions:

* `Turn.ReleaseStore.due` — the operations whose slots are still to be given back;
* `Turn.ReleaseStore.Balanced`, `Turn.ReleaseStore.Books` — the counters count no more than what is
  granted or due;
* `Turn.ReleaseStore.Granted`, `Turn.ReleaseStore.Unused` — what is asked of a creation.

Main results:

* `Turn.ReleaseStore.books_release` — **what a release takes off a counter was due**;
* `Turn.ReleaseStore.books_reserve` — **what a reserve adds to a counter is granted**;
* `Turn.ReleaseStore.Balanced.created` — **what was granted is due once it is created**;
* `Turn.ReleaseStore.books_exec` — every call keeps the books.
-/

import Mathlib.Data.Finset.Card
import Pairline.Turn.Names
import Pairline.Turn.Releases

set_option relaxedAutoImplicit false
set_option autoImplicit false

namespace Turn

open Whitespace

/-! ### The books -/

namespace ReleaseStore

/-- The operations of a session whose slots are still to be given back. -/
def due (s : ReleaseStore) (sessionID : String) : Finset (String × String) :=
  (s.attached.toFinset.filter fun operation => operation.1 = sessionID) \ s.applied.toFinset

/-- The operation id of an allocation is attached to the session of its user. -/
def Owned (s : ReleaseStore) (username operationID : String) : Prop :=
  trim operationID = operationID ∧ ∃ sessionID tokenDigest,
    parseUsername username = some (sessionID, tokenDigest) ∧ (sessionID, operationID) ∈ s.attached

/-- **No counter counts more than what is granted to its session, or still due**, and the history
agrees with the tables. -/
structure Balanced (s : ReleaseStore) : Prop where
  names : s.relay.Names s.Owned
  attached : s.attached.map Prod.snd = s.relay.attached
  named : "" ∉ s.relay.attached
  distinct : s.relay.attached.Nodup
  noLeak : s.relay.NoLeak
  marks : ∀ sessionID operationID,
    Key.Marked operationID (s.counters (turnAllocationKey sessionID)) →
    (sessionID, operationID) ∈ s.applied
  succeeded : ∀ r ∈ s.succeeded, ∀ sessionID tokenDigest,
    parseUsername r.username = some (sessionID, tokenDigest) →
    (sessionID, trim r.operationID) ∈ s.applied
  unqueued : ∀ entry ∈ s.queued, parseUsername entry.1.username = none
  bound : ∀ sessionID, Key.count (s.counters (turnAllocationKey sessionID)) ≤
    s.granted.count sessionID + (s.due sessionID).card

/-- **The books of the relay**: without a quota nothing is counted. -/
structure Books (allocationQuota : ℤ) (s : ReleaseStore) : Prop where
  counting : s.Counting
  nonneg : ∀ sessionID, 0 ≤ Key.count (s.counters (turnAllocationKey sessionID))
  unlimited : allocationQuota ≤ 0 → ∀ sessionID,
    Key.count (s.counters (turnAllocationKey sessionID)) ≤ 0
  balanced : 0 < allocationQuota → s.Balanced

/-- Only what the books do not depend on has changed. -/
def SameBooks (s t : ReleaseStore) : Prop :=
  t = { s with
    pendingIndex := t.pendingIndex
    pendingOfUsers := t.pendingOfUsers
    pendingReleases := t.pendingReleases
    written := t.written }

variable {s t : ReleaseStore} {allocationQuota : ℤ}

theorem SameBooks.books (h : s.SameBooks t) (hs : s.Books allocationQuota) :
    t.Books allocationQuota := by
  rw [h]
  refine ⟨hs.counting, hs.nonneg, hs.unlimited, fun hpos => ?_⟩
  have hbalanced := hs.balanced hpos
  exact ⟨hbalanced.names, hbalanced.attached, hbalanced.named, hbalanced.distinct, hbalanced.noLeak,
    hbalanced.marks, hbalanced.succeeded, hbalanced.unqueued, hbalanced.bound⟩

/-! ### Expired counters -/

theorem marked_live {now : ℕ} {keys : CounterKeys} {name operationID : String}
    (h : Key.Marked operationID (keys.live now name)) : Key.Marked operationID (keys name) := by
  rcases keys.live_eq_none_or now name with hnone | hsame
  · rw [hnone] at h
    exact absurd h id
  · exact hsame ▸ h

theorem count_live {now : ℕ} {keys : CounterKeys} {name : String}
    (hnonneg : 0 ≤ Key.count (keys name)) :
    0 ≤ Key.count (keys.live now name) ∧ Key.count (keys.live now name) ≤ Key.count (keys name) := by
  rcases keys.live_eq_none_or now name with hnone | hsame
  · rw [hnone]
    exact ⟨le_refl _, hnonneg⟩
  · rw [hsame]
    exact ⟨hnonneg, le_refl _⟩

theorem Books.expire (hs : s.Books allocationQuota) : s.expire.Books allocationQuota where
  counting := hs.counting.liveKey
  nonneg sessionID := (count_live (hs.nonneg sessionID)).1
  unlimited hquota sessionID := (count_live (hs.nonneg sessionID)).2.trans (hs.unlimited hquota sessionID)
  balanced hpos :=
    have hbalanced := hs.balanced hpos
    { names := hbalanced.names
      attached := hbalanced.attached
      named := hbalanced.named
      distinct := hbalanced.distinct
      noLeak := hbalanced.noLeak
      marks := fun _ _ hmark => hbalanced.marks _ _ (marked_live hmark)
      succeeded := hbalanced.succeeded
      unqueued := hbalanced.unqueued
      bound := fun sessionID => (count_live (hs.nonneg sessionID)).2.trans (hbalanced.bound sessionID) }

/-! ### Releases -/

/-- What a release leaves of a counter: as it was, or one less. -/
theorem count_released {now : ℕ} {operationID : String} {key key' : Option Key}
    (h : Released now operationID key key') (hnonneg : 0 ≤ Key.count key) :
    0 ≤ Key.count key' ∧ Key.count key' ≤ Key.count key ∧
      (Key.Marked operationID key ∨ Key.count key' = max (Key.count key - 1) 0) := by
  rcases h with ⟨hmark, rfl⟩ | ⟨-, fields, rfl, hcount, -⟩
  · exact ⟨hnonneg, le_refl _, .inl hmark⟩
  · rw [Key.count_hash, hcount]
    exact ⟨by omega, by omega, .inr rfl⟩

theorem marked_released {now : ℕ} {operationID other : String} {key key' : Option Key}
    (h : Released now operationID key key') (hmark : Key.Marked other key') :
    other = operationID ∨ Key.Marked other key := by
  rcases h with ⟨-, rfl⟩ | ⟨-, fields, rfl, -, hmarks⟩
  · exact .inr hmark
  · exact (hmarks other).1 hmark

/-- A store in which the counter of a session was written, with what the history keeps of it. -/
def posted (s : ReleaseStore) (sessionID : String) (key : Option Key) (granted : List String)
    (applied : List (String × String)) (decremented : List ((String × String) × ℕ)) : ReleaseStore :=
  { s.writeCounter sessionID key with
    granted := granted
    applied := applied
    decremented := decremented }

/-- **What it takes to keep the books** when the counter of a session is written. -/
theorem Books.posted (hs : s.Books allocationQuota) {sessionID : String} {key : Option Key}
    {granted : List String} {applied : List (String × String)}
    {decremented : List ((String × String) × ℕ)} (hkey : IsCounter key) (hnonneg : 0 ≤ Key.count key)
    (hunlimited : allocationQuota ≤ 0 → Key.count key ≤ 0) (happlied : s.applied ⊆ applied)
    (hmarks : 0 < allocationQuota → ∀ operationID, Key.Marked operationID key →
      (sessionID, operationID) ∈ applied)
    (hbound : s.Balanced → Key.count key ≤ granted.count sessionID +
      ((s.posted sessionID key granted applied decremented).due sessionID).card)
    (hothers : ∀ other ≠ sessionID, granted.count other = s.granted.count other ∧
      (s.posted sessionID key granted applied decremented).due other = s.due other) :
    (s.posted sessionID key granted applied decremented).Books allocationQuota := by
  have hself : (s.posted sessionID key granted applied decremented).counters
      (turnAllocationKey sessionID) = key := Function.update_self ..
  have hother : ∀ other, other ≠ sessionID →
      (s.posted sessionID key granted applied decremented).counters (turnAllocationKey other) =
        s.liveKey other :=
    fun other hne => Function.update_of_ne (turnAllocationKey_inj.not.2 hne) ..
  refine ⟨fun other => ?_, fun other => ?_, fun hquota other => ?_, fun hpos => ?_⟩
  · rcases eq_or_ne other sessionID with rfl | hne
    · rwa [hself]
    · rw [hother other hne]
      exact hs.counting.liveKey other
  · rcases eq_or_ne other sessionID with rfl | hne
    · rwa [hself]
    · rw [hother other hne]
      exact (count_live (hs.nonneg other)).1
  · rcases eq_or_ne other sessionID with rfl | hne
    · rw [hself]
      exact hunlimited hquota
    · rw [hother other hne]
      exact (count_live (hs.nonneg other)).2.trans (hs.unlimited hquota other)
  have hbalanced := hs.balanced hpos
  refine ⟨hbalanced.names, hbalanced.attached, hbalanced.named, hbalanced.distinct,
    hbalanced.noLeak, fun other operationID hmark => ?_, fun r hr sid digest hparse => ?_,
    hbalanced.unqueued, fun other => ?_⟩
  · rcases eq_or_ne other sessionID with rfl | hne
    · rw [hself] at hmark
      exact hmarks hpos operationID hmark
    · rw [hother other hne] at hmark
      exact happlied (hbalanced.marks other operationID (marked_live hmark))
  · exact happlied (hbalanced.succeeded r hr sid digest hparse)
  · rcases eq_or_ne other sessionID with rfl | hne
    · rw [hself]
      exact hbound hbalanced
    · obtain ⟨hgranted, hdue⟩ := hothers other hne
      have hle := (@count_live s.redisNow _ _ (hs.nonneg other)).2.trans (hbalanced.bound other)
      rw [hother other hne, hdue]
      exact hle.trans_eq (by rw [← hgranted]; rfl)

/-- An operation that is applied is due no longer. -/
theorem due_posted (s : ReleaseStore) (sessionID : String) (key : Option Key) (granted : List String)
    (operation : String × String) (decremented : List ((String × String) × ℕ)) (other : String) :
    (s.posted sessionID key granted (operation :: s.applied) decremented).due other =
      (s.due other).erase operation := by
  unfold due
  rw [← Finset.sdiff_insert, ← List.toFinset_cons]
  rfl

/-- **A release call keeps the books**: what it takes off a counter was due. -/
theorem books_release (hs : s.Books allocationQuota) (r : PendingRelease) :
    (s.release r).2.Books allocationQuota ∧ ((s.release r).1 = .ok () → ∀ sessionID tokenDigest,
      parseUsername r.username = some (sessionID, tokenDigest) →
      (sessionID, trim r.operationID) ∈ (s.release r).2.applied) := by
  rcases release_cases hs.counting r with ⟨hcall, -⟩ | ⟨sessionID, tokenDigest, key, hparse, hkey, hcall⟩
  · rw [hcall]
    exact ⟨hs.expire, fun h => by cases h⟩
  obtain ⟨decremented, hrecord⟩ : ∃ decremented,
      (s.writeCounter sessionID key).recordApplied (s.counters.live s.redisNow) r =
        s.posted sessionID key s.granted ((sessionID, trim r.operationID) :: s.applied) decremented := by
    simp only [recordApplied, hparse]
    exact ⟨_, rfl⟩
  rw [hcall, hrecord]
  have hlive := @count_live s.redisNow _ _ (hs.nonneg sessionID)
  obtain ⟨hnonneg, hle, hcount⟩ := count_released hkey hlive.1
  refine ⟨hs.posted (hkey.isCounter (hs.counting.liveKey sessionID)) hnonneg
    (fun hquota => (hle.trans hlive.2).trans (hs.unlimited hquota sessionID))
    (List.subset_cons_self _ _) (fun hpos operationID hmark => ?_) (fun hbalanced => ?_)
    (fun other hne => ⟨rfl, ?_⟩), fun _ sid digest hparse' => ?_⟩
  · rcases marked_released hkey hmark with rfl | hmark
    · exact List.mem_cons_self
    · exact List.mem_cons_of_mem _
        ((hs.balanced hpos).marks sessionID operationID (marked_live hmark))
  · rw [due_posted]
    have hbound := hlive.2.trans (hbalanced.bound sessionID)
    by_cases hdue : (sessionID, trim r.operationID) ∈ s.due sessionID
    · -- the operation was not applied yet, so it has no mark
      have hunmarked : ¬ Key.Marked (trim r.operationID) (s.liveKey sessionID) := fun hmark =>
        (Finset.mem_sdiff.1 hdue).2
          (List.mem_toFinset.2 (hbalanced.marks sessionID _ (marked_live hmark)))
      have hcard := Finset.card_erase_add_one hdue
      have hless := hcount.resolve_left hunmarked
      change Key.count (s.liveKey sessionID) ≤ _ at hbound
      omega
    · rw [Finset.erase_eq_of_notMem hdue]
      exact hle.trans hbound
  · rw [due_posted]
    refine Finset.erase_eq_of_notMem fun hdue => hne ?_
    exact (Finset.mem_filter.1 (Finset.mem_sdiff.1 hdue).1).2.symm
  · rw [hparse] at hparse'
    cases hparse'
    exact List.mem_cons_self

/-- **A reserve call keeps the books**: what it adds to a counter is granted. -/
theorem books_reserve (hs : s.Books allocationQuota) {limit : ℤ} (hlimit : 0 < limit)
    (hquota : 0 < allocationQuota) (username : String) :
    ((s.reserve limit username).2.recordGrant username (s.reserve limit username).1).Books
      allocationQuota := by
  rcases reserve_cases hs.counting limit username with
    ⟨reply, hcall, hle | ⟨-, rfl⟩⟩ | ⟨sessionID, tokenDigest, fields, -, hparse, hcall, hcount, hmarks⟩
  · omega
  · rw [hcall]
    exact hs.expire
  have hlive := @count_live s.redisNow _ _ (hs.nonneg sessionID)
  have hpost : ∀ granted : List String, (∀ other ≠ sessionID, granted.count other = s.granted.count other) →
      fields.get "count" ≤ Key.count (s.liveKey sessionID) + (granted.count sessionID - s.granted.count sessionID) →
      0 ≤ fields.get "count" →
      (s.posted sessionID (some ⟨.hash fields, some (s.redisNow + turnAllocationCounterTTL)⟩) granted
        s.applied s.decremented).Books allocationQuota := by
    intro granted hothers hbound hnonneg
    refine hs.posted (.inr ⟨fields, _, rfl⟩) hnonneg (fun hle => by omega) (List.Subset.refl _)
      (fun hpos operationID hmark => ?_) (fun hbalanced => ?_) fun other hne => ⟨hothers other hne, rfl⟩
    · exact (hs.balanced hpos).marks sessionID operationID (marked_live ((hmarks operationID).1 hmark))
    · have hsession := hlive.2.trans (hbalanced.bound sessionID)
      change Key.count (s.liveKey sessionID) ≤ _ at hsession
      rw [Key.count_hash]
      change _ ≤ _ + ((s.due sessionID).card : ℤ)
      omega
  rw [hcall]
  change 0 ≤ Key.count (s.liveKey sessionID) ∧ _ at hlive
  by_cases hlt : Key.count (s.liveKey sessionID) < limit
  · rw [if_pos hlt] at hcount
    simp only [recordGrant, hlt, decide_true, hparse]
    refine hpost (sessionID :: s.granted) (fun other hne => List.count_cons_of_ne hne.symm) ?_ (by omega)
    rw [List.count_cons_self]
    omega
  · rw [if_neg hlt] at hcount
    simp only [recordGrant, hlt, decide_false]
    exact hpost s.granted (fun _ _ => rfl) (by omega) (by omega)

/-! ### Callbacks -/

/-- The TURN library creates an allocation only for a session to which it was granted. -/
def Granted (s : ReleaseStore) : Event → Prop
  | .allocationCreated _ _ _ userID _ =>
      ∃ sessionID ∈ s.granted, ∃ tokenDigest, parseUsername userID = some (sessionID, tokenDigest)
  | _ => True

/-- A creation brings an operation id that was neither attached nor released before. -/
def Unused (s : ReleaseStore) : Event → Prop
  | .allocationCreated _ _ _ _ random =>
      (s.relay.service.nextReleaseOperationID s.relay.now random).1 ∉ s.relay.attached ∧
        ∀ operation ∈ s.applied,
          operation.2 ≠ (s.relay.service.nextReleaseOperationID s.relay.now random).1
  | _ => True

theorem nextReleaseOperationID_ne_empty (service : Service) (now : ℕ)
    (random : Option (Vector UInt8 12)) : (service.nextReleaseOperationID now random).1 ≠ "" := by
  have hinitial : ∀ p q : String, p ≠ "" → p ++ q ≠ "" := by
    intro p q hp h
    exact hp (String.append_eq_empty_iff.1 h).1
  cases random with
  | some bytes => exact hinitial _ _ (by decide)
  | none =>
      refine hinitial _ _ fun h => ?_
      exact hinitial ("turn-release-fallback-" ++ toString now) "-" (hinitial _ _ (by decide)) h

theorem Owned.mono (h : s.attached ⊆ t.attached) {username operationID : String}
    (howned : s.Owned username operationID) : t.Owned username operationID := by
  obtain ⟨htrim, sessionID, tokenDigest, hparse, hmem⟩ := howned
  exact ⟨htrim, sessionID, tokenDigest, hparse, h hmem⟩

theorem notMem_attached (hs : s.Balanced) {sessionID operationID : String}
    (h : operationID ∉ s.relay.attached) : (sessionID, operationID) ∉ s.attached :=
  fun hmem => h (hs.attached ▸ List.mem_map_of_mem (f := Prod.snd) hmem)

/-- **A creation keeps the books**: what was granted is due from then on. -/
theorem Balanced.created (hs : s.Balanced) {toUpper : String → String} {relay : Relay}
    {srcAddr dstAddr : Option Addr} {protocol userID : String} {random : Option (Vector UInt8 12)}
    (hgranted : s.Granted (.allocationCreated srcAddr dstAddr protocol userID random))
    (hfresh : FreshFiveTuple toUpper s.relay
      (.allocationCreated srcAddr dstAddr protocol userID random))
    (hunused : s.Unused (.allocationCreated srcAddr dstAddr protocol userID random))
    (hstep : s.relay.step toUpper (.allocationCreated srcAddr dstAddr protocol userID random) =
      some relay) :
    ({ s with relay := relay }.recordCreation
      (.allocationCreated srcAddr dstAddr protocol userID random)).Balanced := by
  obtain ⟨sessionID, hmem, tokenDigest, hparse⟩ := hgranted
  obtain ⟨hattached, hreleases⟩ := Relay.attached_of_created hstep
  have htrim := Service.trim_nextReleaseOperationID s.relay.service s.relay.now random
  have hname := nextReleaseOperationID_ne_empty s.relay.service s.relay.now random
  obtain ⟨hunattached, hunapplied⟩ := hunused
  generalize hid : (s.relay.service.nextReleaseOperationID s.relay.now random).1 = operationID at *
  have hrecord : { s with relay := relay }.recordCreation
      (.allocationCreated srcAddr dstAddr protocol userID random) = { s with
        relay := relay
        granted := s.granted.erase sessionID
        attached := (sessionID, operationID) :: s.attached } := by
    simp only [recordCreation, hparse, hattached]
  rw [hrecord]
  have hnew : (sessionID, operationID) ∉ s.attached := notMem_attached hs hunattached
  have hdue : ∀ other, ReleaseStore.due { s with
        relay := relay
        granted := s.granted.erase sessionID
        attached := (sessionID, operationID) :: s.attached } other =
      if other = sessionID then insert (sessionID, operationID) (s.due other) else s.due other := by
    intro other
    unfold due
    rw [List.toFinset_cons, Finset.filter_insert]
    have hnotMem : (sessionID, operationID) ∉ s.applied.toFinset :=
      fun h => hunapplied _ (List.mem_toFinset.1 h) rfl
    rcases eq_or_ne other sessionID with rfl | hne
    · rw [if_pos rfl, if_pos rfl, Finset.insert_sdiff_of_notMem _ hnotMem]
    · rw [if_neg (Ne.symm hne), if_neg hne]
  refine ⟨?_, ?_, ?_, ?_, ?_, hs.marks, hs.succeeded, hs.unqueued, fun other => ?_⟩
  · refine (hs.names.mono fun _ _ h => h.mono (List.subset_cons_self _ _)).step ?_ hstep
    intro _ _ _ _ _ he
    cases he
    rw [hid]
    exact ⟨htrim, sessionID, tokenDigest, hparse, List.mem_cons_self⟩
  · simp only [List.map_cons, hs.attached, hattached]
  · change "" ∉ relay.attached
    rw [hattached]
    exact fun h => (List.mem_cons.1 h).elim (fun h => hname h.symm) hs.named
  · change relay.attached.Nodup
    rw [hattached]
    exact List.nodup_cons.2 ⟨hunattached, hs.distinct⟩
  · exact Relay.noLeak_step hs.noLeak hfresh hstep
  · rw [hdue other]
    have hbound := hs.bound other
    rcases eq_or_ne other sessionID with rfl | hne
    · have hpos : 0 < s.granted.count other := List.count_pos_iff.2 hmem
      have hcard : (insert (other, operationID) (s.due other)).card = (s.due other).card + 1 :=
        Finset.card_insert_of_notMem fun h =>
          hnew (List.mem_toFinset.1 (Finset.mem_filter.1 (Finset.mem_sdiff.1 h).1).1)
      simp only [if_true, hcard, List.count_erase_self]
      omega
    · simp only [if_neg hne, List.count_erase_of_ne hne]
      exact hbound

/-- What the history keeps of a creation touches no counter. -/
theorem counters_recordCreation (s : ReleaseStore) (e : Event) :
    (s.recordCreation e).counters = s.counters := by
  unfold recordCreation
  split
  · split <;> rfl
  · rfl

/-- Any other callback keeps the books, too. -/
theorem Balanced.uncreated (hs : s.Balanced) {toUpper : String → String} {relay : Relay} {e : Event}
    (hne : ∀ srcAddr dstAddr protocol userID random,
      e ≠ .allocationCreated srcAddr dstAddr protocol userID random)
    (hfresh : FreshFiveTuple toUpper s.relay e) (hstep : s.relay.step toUpper e = some relay) :
    ({ s with relay := relay }.recordCreation e).Balanced := by
  obtain ⟨hattached, -⟩ := Relay.launched_of_step hstep hne
  have hrecord : { s with relay := relay }.recordCreation e = { s with relay := relay } := by
    cases e with
    | allocationCreated srcAddr dstAddr protocol userID random => exact absurd rfl (hne _ _ _ _ _)
    | _ => rfl
  rw [hrecord]
  refine ⟨hs.names.step (fun _ _ _ _ _ h => absurd h (hne _ _ _ _ _)) hstep, ?_, ?_, ?_,
    Relay.noLeak_step hs.noLeak hfresh hstep, hs.marks, hs.succeeded, hs.unqueued, hs.bound⟩
  · exact hs.attached.trans hattached.symm
  · exact hattached.symm ▸ hs.named
  · exact hattached.symm ▸ hs.distinct

/-- **A callback keeps the books.** -/
theorem books_callback (hs : s.Books allocationQuota) (toUpper : String → String) (e : Event)
    (he : 0 < allocationQuota → s.Granted e ∧ FreshFiveTuple toUpper s.relay e ∧ s.Unused e) :
    (s.callback toUpper e).2.Books allocationQuota := by
  cases hstep : s.relay.step toUpper e with
  | none =>
      simp only [callback, hstep]
      exact hs
  | some relay =>
      simp only [callback, hstep]
      have hcounters : ({ s with relay := relay }.recordCreation e).counters = s.counters :=
        counters_recordCreation _ e
      refine ⟨?_, ?_, ?_, fun hpos => ?_⟩
      · intro sessionID
        rw [hcounters]
        exact hs.counting sessionID
      · intro sessionID
        rw [hcounters]
        exact hs.nonneg sessionID
      · intro hquota sessionID
        rw [hcounters]
        exact hs.unlimited hquota sessionID
      obtain ⟨hgranted, hfresh, hunused⟩ := he hpos
      cases e with
      | allocationCreated srcAddr dstAddr protocol userID random =>
          exact (hs.balanced hpos).created hgranted hfresh hunused hstep
      | _ => exact (hs.balanced hpos).uncreated (by simp) hfresh hstep

/-! ### Every call -/

/-- A call keeps to this: a release is only queued locally when it cannot be persisted, and a slot
is only reserved under a quota. -/
def Tame (allocationQuota : ℤ) : ReleaseCmd → Prop
  | .queueAllocationRelease r => pendingReleaseField r = none
  | .reserveSlot limit _ => limit = allocationQuota ∧ 0 < allocationQuota
  | _ => True

/-- A release that cannot be persisted has no session, or no names at all. -/
theorem books_queueAllocationRelease (hs : s.Books allocationQuota) {r : PendingRelease}
    (hr : pendingReleaseField r = none) : (s.queueAllocationRelease r).Books allocationQuota := by
  unfold queueAllocationRelease
  split_ifs with hnames
  · exact hs
  refine ⟨hs.counting, hs.nonneg, hs.unlimited, fun hpos => ?_⟩
  have hbalanced := hs.balanced hpos
  refine ⟨hbalanced.names, hbalanced.attached, hbalanced.named, hbalanced.distinct, hbalanced.noLeak,
    hbalanced.marks, hbalanced.succeeded, fun entry hentry => ?_, hbalanced.bound⟩
  rcases List.mem_cons.1 hentry with rfl | hentry
  · unfold pendingReleaseField at hr
    rw [if_neg hnames] at hr
    by_contra hsome
    rw [if_neg (by simpa using hsome)] at hr
    cases hr
  · exact hbalanced.unqueued entry hentry

/-- What the history keeps of a release call that was heard of. -/
theorem books_recordSuccess (hs : s.Books allocationQuota) (r : PendingRelease)
    {reply : Except CallFailure Unit}
    (happlied : reply = .ok () → ∀ sessionID tokenDigest,
      parseUsername r.username = some (sessionID, tokenDigest) →
      (sessionID, trim r.operationID) ∈ s.applied) : (s.recordSuccess r reply).Books allocationQuota := by
  cases reply with
  | error e => exact hs
  | ok _ =>
      refine ⟨hs.counting, hs.nonneg, hs.unlimited, fun hpos => ?_⟩
      have hbalanced := hs.balanced hpos
      refine ⟨hbalanced.names, hbalanced.attached, hbalanced.named, hbalanced.distinct,
        hbalanced.noLeak, hbalanced.marks, fun r' hr' sid digest hparse => ?_, hbalanced.unqueued,
        hbalanced.bound⟩
      rcases List.mem_cons.1 hr' with rfl | hr'
      · simp only [PendingRelease.trimmed, parseUsername_trim, trim_trim] at hparse ⊢
        exact happlied rfl sid digest hparse
      · exact hbalanced.succeeded r' hr' sid digest hparse

/-- **Every answered call keeps the books.** -/
theorem books_exec (hs : s.Books allocationQuota) (toUpper : String → String) (choice : ℕ)
    (c : ReleaseCmd) (hc : Tame allocationQuota c)
    (he : ∀ e, c = .callback e → 0 < allocationQuota →
      s.Granted e ∧ FreshFiveTuple toUpper s.relay e ∧ s.Unused e) :
    (c.exec toUpper { choice := choice } s).2.Books allocationQuota := by
  have hsame : ∀ {t : ReleaseStore}, s.SameBooks t → t.Books allocationQuota := fun h => h.books hs
  cases c with
  | hsetIndex r => exact hsame rfl
  | hsetUser r => exact hsame rfl
  | hdelIndex r => exact hsame rfl
  | hdelUser r => exact hsame rfl
  | hgetallIndex => exact hs
  | hgetallUser username => exact hs
  | releaseSlot r =>
      obtain ⟨hbooks, happlied⟩ := books_release hs r
      exact books_recordSuccess hbooks r happlied
  | reserveSlot limit username =>
      obtain ⟨rfl, hpos⟩ := hc
      exact books_reserve hs hpos hpos username
  | queueAllocationRelease r => exact books_queueAllocationRelease hs hc
  | completePendingRelease r => exact hsame rfl
  | snapshotPendingReleases username => exact hsame rfl
  | nextState states => exact hs
  | callback e => exact books_callback hs toUpper e (he e rfl)

/-- Time passes. -/
theorem books_tick (hs : s.Books allocationQuota) (d : ℕ) :
    Books allocationQuota { s with relay := { s.relay with now := s.relay.now + d } } := by
  refine ⟨hs.counting, hs.nonneg, hs.unlimited, fun hpos => ?_⟩
  have hbalanced := hs.balanced hpos
  exact ⟨⟨hbalanced.names.service, hbalanced.names.releases⟩, hbalanced.attached, hbalanced.named,
    hbalanced.distinct, hbalanced.noLeak.congr rfl rfl rfl, hbalanced.marks, hbalanced.succeeded,
    hbalanced.unqueued, hbalanced.bound⟩

theorem books_newReleaseStore : newReleaseStore.Books allocationQuota where
  counting _ := .inl rfl
  nonneg _ := le_refl _
  unlimited _ _ := le_refl _
  balanced _ :=
    { names := ⟨⟨fun _ _ h => absurd h nofun, fun _ _ h => absurd h nofun⟩,
        fun _ h => absurd h List.not_mem_nil⟩
      attached := rfl
      named := List.not_mem_nil
      distinct := List.nodup_nil
      noLeak := Relay.noLeak_newRelay
      marks := fun _ _ h => absurd h id
      succeeded := fun _ h => absurd h List.not_mem_nil
      unqueued := fun _ h => absurd h List.not_mem_nil
      bound := fun _ => le_refl _ }

end ReleaseStore

end Turn
