/-
**The release of the quota slots.**

A slot is reserved before an allocation is created and given back after it is deleted.  The relay
launches a goroutine for every release: it persists the release in Redis, releases the slot and
completes what it persisted.  A release that could not be persisted is kept in a local table, and a
worker drains both over and over; the same drain runs before a slot is reserved.  Every call to the
store may be answered, or fail or panic with or without having had its effect.

Main definitions:

* `Turn.PendingRelease`, `Turn.ReleaseStore` — the pending releases, and all that the operations
  share, with the history of the calls;
* `Turn.ReleaseCmd`, `Turn.ReleaseCmd.exec` — the calls and the critical sections;
* `Turn.releaseDeletedAllocation`, `Turn.processPendingReleases`, `Turn.quotaHandler` — the
  goroutine, the drain and the reservation;
* `Turn.relaySystem` — all of them side by side.

Main results:

* `Turn.pendingReleaseField_eq_some` — a release is persisted under its trimmed names;
* `Turn.ReleaseStore.release_cases`, `Turn.ReleaseStore.reserve_cases` — **what the calls do to the
  counters**.
-/

import Pairline.Pool
import Pairline.Turn.Counter
import Pairline.Turn.Relay

set_option relaxedAutoImplicit false
set_option autoImplicit false

namespace Turn

open Whitespace

/-! ### Data -/

/-- A release that is to be made. -/
structure PendingRelease where
  username : String
  operationID : String
  deriving DecidableEq, Inhabited

def PendingRelease.trimmed (r : PendingRelease) : PendingRelease :=
  ⟨trim r.username, trim r.operationID⟩

@[simp] theorem PendingRelease.trimmed_trimmed (r : PendingRelease) :
    r.trimmed.trimmed = r.trimmed := by
  simp only [trimmed, trim_trim]

/-- `pendingReleaseMaxAge`, in nanoseconds. -/
def pendingReleaseMaxAge : ℕ := 25 * 60 * 60 * 10 ^ 9

/-- `pendingReleaseField`, `pendingReleaseUserKey` and `pendingReleaseOperationField`: under what a
release is persisted, before the encoding. -/
@[irreducible] def pendingReleaseField (r : PendingRelease) : Option PendingRelease :=
  if r.trimmed.username = "" ∨ r.trimmed.operationID = "" then none
  else if (parseUsername r.trimmed.username).isNone then none
  else some r.trimmed

theorem pendingReleaseField_eq_some {r field : PendingRelease}
    (h : pendingReleaseField r = some field) : field = r.trimmed := by
  unfold pendingReleaseField at h
  split_ifs at h
  exact (Option.some_inj.1 h).symm

/-- All that the operations of a relay share.  The last seven fields are history and no operation
reads them: the sessions with a granted slot whose allocation has not been created yet, the operations
attached to allocations, the releases that were persisted, and queued locally with the time, those of
which a call succeeded, and the operations that were applied, and that lowered a counter with the
time. -/
structure ReleaseStore where
  relay : Relay
  counters : CounterKeys
  /-- `turn:pending_releases`. -/
  pendingIndex : List PendingRelease
  /-- The hashes of the users, as one. -/
  pendingOfUsers : List PendingRelease
  /-- The local table, with the times in `queuedAt`. -/
  pendingReleases : List (PendingRelease × ℕ)
  granted : List String
  attached : List (String × String)
  written : List PendingRelease
  queued : List (PendingRelease × ℕ)
  succeeded : List PendingRelease
  applied : List (String × String)
  decremented : List ((String × String) × ℕ)

/-- A relay that starts with an empty store. -/
def newReleaseStore : ReleaseStore where
  relay := newRelay
  counters := fun _ => none
  pendingIndex := []
  pendingOfUsers := []
  pendingReleases := []
  granted := []
  attached := []
  written := []
  queued := []
  succeeded := []
  applied := []
  decremented := []

/-- The keys that have not expired. -/
def CounterKeys.live (now : ℕ) (keys : CounterKeys) : CounterKeys := fun name =>
  (keys name).filter fun key => key.expireAt.all (now < ·)

/-! ### Calls -/

/-- Why a call gives no result. -/
inductive CallFailure
  | failed
  | panicked

/-- How a call to the store ends: it is answered, or it fails or panics, when it may have had its
effect all the same. -/
inductive Outcome
  | answered
  | failed (applied : Bool)
  | panicked (applied : Bool)

/-- What the world adds to a call: how it ends, and which entry of a Go map comes next. -/
structure Answer where
  outcome : Outcome := .answered
  choice : ℕ := 0

def Outcome.applies : Outcome → Bool
  | .answered => true
  | .failed applied => applied
  | .panicked applied => applied

/-- What the caller hears. -/
def Outcome.reply {α : Type} (reply : Except CallFailure α) : Outcome → Except CallFailure α
  | .answered => reply
  | .failed _ => .error .failed
  | .panicked _ => .error .panicked

inductive ReleaseCmd
  | hsetIndex (r : PendingRelease)
  | hsetUser (r : PendingRelease)
  | hdelIndex (r : PendingRelease)
  | hdelUser (r : PendingRelease)
  | hgetallIndex
  | hgetallUser (username : String)
  | releaseSlot (r : PendingRelease)
  | reserveSlot (limit : ℤ) (username : String)
  | queueAllocationRelease (r : PendingRelease)
  | completePendingRelease (r : PendingRelease)
  | snapshotPendingReleases (username : String)
  | nextState (states : ℕ)
  | callback (e : Event)

abbrev ReleaseCmd.Reply : ReleaseCmd → Type
  | .hsetIndex _ => Except CallFailure Unit
  | .hsetUser _ => Except CallFailure Unit
  | .hdelIndex _ => Except CallFailure Unit
  | .hdelUser _ => Except CallFailure Unit
  | .hgetallIndex => Except CallFailure (List PendingRelease)
  | .hgetallUser _ => Except CallFailure (List PendingRelease)
  | .releaseSlot _ => Except CallFailure Unit
  | .reserveSlot _ _ => Except CallFailure Bool
  | .queueAllocationRelease _ => Unit
  | .completePendingRelease _ => Unit
  | .snapshotPendingReleases _ => List PendingRelease
  | .nextState _ => ℕ
  | .callback _ => List AllocationRelease

namespace ReleaseStore

/-- The clock of Redis, in milliseconds. -/
def redisNow (s : ReleaseStore) : ℕ := s.relay.now / 10 ^ 6

/-- A call with the effect `s'`. -/
def settle {α : Type} (outcome : Outcome) (reply : Except CallFailure α) (s s' : ReleaseStore) :
    Except CallFailure α × ReleaseStore :=
  (outcome.reply reply, if outcome.applies then s' else s)

/-- What the history keeps of a release that was applied to the counters `before`. -/
def recordApplied (s : ReleaseStore) (before : CounterKeys) (r : PendingRelease) : ReleaseStore :=
  match parseUsername r.username with
  | none => s
  | some (sessionID, _) =>
      let key := turnAllocationKey sessionID
      let operation := (sessionID, trim r.operationID)
      { s with
        applied := operation :: s.applied
        decremented :=
          if Key.count (s.counters key) < Key.count (before key) then
            (operation, s.redisNow) :: s.decremented
          else s.decremented }

/-- `ReleaseAllocationSlot`, on the counters that have not expired. -/
def release (s : ReleaseStore) (r : PendingRelease) : Except CallFailure Unit × ReleaseStore :=
  let live := s.counters.live s.redisNow
  match releaseAllocationSlot s.redisNow r.username r.operationID live with
  | (.ok _, keys) => (.ok (), { s with counters := keys }.recordApplied live r)
  | (.error _, keys) => (.error .failed, { s with counters := keys })

/-- `ReserveAllocationSlot`, on the counters that have not expired. -/
def reserve (s : ReleaseStore) (limit : ℤ) (username : String) :
    Except CallFailure Bool × ReleaseStore :=
  match reserveAllocationSlot s.redisNow limit username (s.counters.live s.redisNow) with
  | (.ok allowed, keys) => (.ok allowed, { s with counters := keys })
  | (.error _, keys) => (.error .failed, { s with counters := keys })

/-- What the history keeps of a release call that the caller heard of. -/
def recordSuccess (s : ReleaseStore) (r : PendingRelease) : Except CallFailure Unit → ReleaseStore
  | .ok _ => { s with succeeded := r.trimmed :: s.succeeded }
  | .error _ => s

/-- What the history keeps of a grant that the caller heard of. -/
def recordGrant (s : ReleaseStore) (username : String) : Except CallFailure Bool → ReleaseStore
  | .ok true =>
      match parseUsername username with
      | some (sessionID, _) => { s with granted := sessionID :: s.granted }
      | none => s
  | _ => s

/-- `cleanupExpiredPendingReleasesLocked`. -/
def cleanupExpiredPendingReleases (s : ReleaseStore) : ReleaseStore :=
  { s with pendingReleases :=
      s.pendingReleases.filter fun entry => s.relay.now - entry.2 < pendingReleaseMaxAge }

/-- `queueAllocationRelease`. -/
@[irreducible] def queueAllocationRelease (s : ReleaseStore) (r : PendingRelease) : ReleaseStore :=
  if r.trimmed.username = "" ∨ r.trimmed.operationID = "" then s
  else
    let s := s.cleanupExpiredPendingReleases
    { s with
      pendingReleases :=
        (r.trimmed, s.relay.now) :: s.pendingReleases.filter fun entry => entry.1 ≠ r.trimmed
      queued := (r.trimmed, s.relay.now) :: s.queued }

/-- `completePendingRelease`. -/
def completePendingRelease (s : ReleaseStore) (r : PendingRelease) : ReleaseStore :=
  { s with pendingReleases := s.pendingReleases.filter fun entry => entry.1 ≠ r }

/-- `snapshotPendingReleases`: the releases of a user, or all of them. -/
def snapshotPendingReleases (s : ReleaseStore) (username : String) :
    List PendingRelease × ReleaseStore :=
  let s := s.cleanupExpiredPendingReleases
  ((s.pendingReleases.map Prod.fst).filter fun r => trim username = "" ∨ r.username = trim username,
    s)

/-- What the history keeps of a creation. -/
def recordCreation (s : ReleaseStore) : Event → ReleaseStore
  | .allocationCreated _ _ _ userID _ =>
      match parseUsername userID, s.relay.attached with
      | some (sessionID, _), operationID :: _ =>
          { s with
            granted := s.granted.erase sessionID
            attached := (sessionID, operationID) :: s.attached }
      | _, _ => s
  | _ => s

/-- An event of the relay, with the releases that it launches. -/
def callback (toUpper : String → String) (s : ReleaseStore) (e : Event) :
    List AllocationRelease × ReleaseStore :=
  match s.relay.step toUpper e with
  | none => ([], s)
  | some relay =>
      (relay.releases.take (relay.releases.length - s.relay.releases.length),
        { s with relay := relay }.recordCreation e)

end ReleaseStore

/-- What a call answers and does. -/
def ReleaseCmd.exec (toUpper : String → String) (x : Answer) :
    (c : ReleaseCmd) → ReleaseStore → c.Reply × ReleaseStore
  | .hsetIndex r, s =>
      ReleaseStore.settle x.outcome (.ok ()) s { s with pendingIndex := s.pendingIndex.insert r }
  | .hsetUser r, s =>
      ReleaseStore.settle x.outcome (.ok ()) s
        { s with pendingOfUsers := s.pendingOfUsers.insert r, written := r :: s.written }
  | .hdelIndex r, s =>
      ReleaseStore.settle x.outcome (.ok ()) s { s with pendingIndex := s.pendingIndex.filter (· ≠ r) }
  | .hdelUser r, s =>
      ReleaseStore.settle x.outcome (.ok ()) s { s with pendingOfUsers := s.pendingOfUsers.filter (· ≠ r) }
  | .hgetallIndex, s => (x.outcome.reply (.ok s.pendingIndex), s)
  | .hgetallUser username, s =>
      (x.outcome.reply (.ok (s.pendingOfUsers.filter (·.username = username))), s)
  | .releaseSlot r, s =>
      let (reply, s') := s.release r
      let (reply, s') := ReleaseStore.settle x.outcome reply s s'
      (reply, s'.recordSuccess r reply)
  | .reserveSlot limit username, s =>
      let (reply, s') := s.reserve limit username
      let (reply, s') := ReleaseStore.settle x.outcome reply s s'
      (reply, s'.recordGrant username reply)
  | .queueAllocationRelease r, s => ((), s.queueAllocationRelease r)
  | .completePendingRelease r, s => ((), s.completePendingRelease r)
  | .snapshotPendingReleases username, s => s.snapshotPendingReleases username
  | .nextState states, s => (x.choice % states, s)
  | .callback e, s => s.callback toUpper e

/-! ### What the calls do to the counters -/

theorem CounterKeys.live_eq_none_or (now : ℕ) (keys : CounterKeys) (name : String) :
    keys.live now name = none ∨ keys.live now name = keys name := by
  unfold CounterKeys.live
  cases hkey : keys name with
  | none => exact .inl rfl
  | some key =>
      by_cases hlive : key.expireAt.all (now < ·) = true
      · exact .inr (Option.filter_some_pos hlive)
      · exact .inl (Option.filter_some_neg (Bool.eq_false_iff.2 hlive))

/-- A key that expires later is live. -/
theorem CounterKeys.live_of_lt {now e : ℕ} {keys : CounterKeys} {name : String} {value : Value}
    (hkey : keys name = some ⟨value, some e⟩) (h : now < e) : keys.live now name = keys name := by
  unfold CounterKeys.live
  rw [hkey]
  exact Option.filter_some_pos (decide_eq_true h)

namespace ReleaseStore

variable {s : ReleaseStore}

/-- The counter of a session, unless it has expired. -/
def liveKey (s : ReleaseStore) (sessionID : String) : Option Key :=
  s.counters.live s.redisNow (turnAllocationKey sessionID)

/-- The expired counters are gone. -/
def expire (s : ReleaseStore) : ReleaseStore :=
  { s with counters := s.counters.live s.redisNow }

/-- … and the counter of a session is written. -/
def writeCounter (s : ReleaseStore) (sessionID : String) (key : Option Key) : ReleaseStore :=
  { s with counters :=
      Function.update (s.counters.live s.redisNow) (turnAllocationKey sessionID) key }

/-- Every counter is of the new kind. -/
def Counting (s : ReleaseStore) : Prop :=
  ∀ sessionID, IsCounter (s.counters (turnAllocationKey sessionID))

theorem Counting.liveKey (h : s.Counting) (sessionID : String) : IsCounter (s.liveKey sessionID) := by
  rcases s.counters.live_eq_none_or s.redisNow (turnAllocationKey sessionID) with hnone | hsame
  · exact .inl hnone
  · rw [ReleaseStore.liveKey, hsame]
    exact h sessionID

/-- The key that a release of an operation leaves of the counter `key`. -/
def Released (now : ℕ) (operationID : String) (key key' : Option Key) : Prop :=
  (Key.Marked operationID key ∧ key' = key) ∨
    (¬ Key.Marked operationID key ∧ ∃ fields,
      key' = some ⟨.hash fields, some (now + turnAllocationCounterTTL)⟩ ∧
      fields.get "count" = max (Key.count key - 1) 0 ∧
      ∀ other, operationField other ∈ fields ↔ other = operationID ∨ Key.Marked other key)

theorem Released.isCounter {now : ℕ} {operationID : String} {key key' : Option Key}
    (h : Released now operationID key key') (hkey : IsCounter key) : IsCounter key' := by
  rcases h with ⟨-, rfl⟩ | ⟨-, fields, rfl, -⟩
  · exact hkey
  · exact .inr ⟨fields, _, rfl⟩

/-- **What a release call does**: it is refused, or it gives the slot back. -/
theorem release_cases (h : s.Counting) (r : PendingRelease) :
    (s.release r = (.error .failed, s.expire) ∧
      (parseUsername r.username = none ∨ trim r.operationID = "")) ∨
    ∃ sessionID tokenDigest key', parseUsername r.username = some (sessionID, tokenDigest) ∧
      Released s.redisNow (trim r.operationID) (s.liveKey sessionID) key' ∧
      s.release r = (.ok (),
        (s.writeCounter sessionID key').recordApplied (s.counters.live s.redisNow) r) := by
  cases hparse : parseUsername r.username with
  | none => exact .inl ⟨by simp only [release, releaseAllocationSlot, hparse, expire], .inl rfl⟩
  | some identity =>
      obtain ⟨sessionID, tokenDigest⟩ := identity
      by_cases hempty : trim r.operationID = ""
      · exact .inl ⟨by simp only [release, releaseAllocationSlot, hparse, if_pos hempty, expire],
          .inr hempty⟩
      refine .inr ⟨sessionID, tokenDigest, ?_⟩
      by_cases hmark : Key.Marked (trim r.operationID) (s.liveKey sessionID)
      · have hscript := releaseAllocationSlotScript_marked (h.liveKey sessionID) s.redisNow
          turnAllocationCounterTTL hmark
        simp only [liveKey] at hscript
        refine ⟨s.liveKey sessionID, rfl, .inl ⟨hmark, rfl⟩, ?_⟩
        simp only [release, releaseAllocationSlot, hparse, if_neg hempty, runCounterScript, hscript,
          liveKey, writeCounter]
      · obtain ⟨remaining, fields, hscript, hfields⟩ := releaseAllocationSlotScript_unmarked
          (h.liveKey sessionID) s.redisNow turnAllocationCounterTTL hmark
        simp only [liveKey] at hscript
        refine ⟨_, rfl, .inr ⟨hmark, fields, rfl, hfields⟩, ?_⟩
        simp only [release, releaseAllocationSlot, hparse, if_neg hempty, runCounterScript, hscript,
          writeCounter]

/-- **What a reserve call does**: without a limit or a session it only answers; else it counts one
more where the count is below the limit, and puts the expiry off. -/
theorem reserve_cases (h : s.Counting) (limit : ℤ) (username : String) :
    (∃ reply, s.reserve limit username = (reply, s.expire) ∧
      (limit ≤ 0 ∨ (parseUsername username = none ∧ reply = .error .failed))) ∨
    ∃ sessionID tokenDigest fields, 1 ≤ limit ∧
      parseUsername username = some (sessionID, tokenDigest) ∧
      s.reserve limit username = (.ok (decide (Key.count (s.liveKey sessionID) < limit)),
        s.writeCounter sessionID
          (some ⟨.hash fields, some (s.redisNow + turnAllocationCounterTTL)⟩)) ∧
      fields.get "count" = (if Key.count (s.liveKey sessionID) < limit then
        Key.count (s.liveKey sessionID) + 1 else Key.count (s.liveKey sessionID)) ∧
      ∀ operationID, operationField operationID ∈ fields ↔
        Key.Marked operationID (s.liveKey sessionID) := by
  by_cases hpos : limit ≤ 0
  · exact .inl ⟨.ok true, by simp only [reserve, reserveAllocationSlot, if_pos hpos, expire],
      .inl hpos⟩
  cases hparse : parseUsername username with
  | none =>
      exact .inl ⟨.error .failed, by simp only [reserve, reserveAllocationSlot, if_neg hpos, hparse, expire],
        .inr ⟨rfl, rfl⟩⟩
  | some identity =>
      obtain ⟨sessionID, tokenDigest⟩ := identity
      have hlimit : 1 ≤ limit := by omega
      obtain ⟨fields, hscript, hfields⟩ := reserveAllocationSlotScript_counter
        (h.liveKey sessionID) s.redisNow turnAllocationCounterTTL hlimit
      refine .inr ⟨sessionID, tokenDigest, fields, hlimit, rfl, ?_, hfields⟩
      simp only [liveKey] at hscript
      simp only [reserve, reserveAllocationSlot, if_neg hpos, hparse, runCounterScript, hscript,
        liveKey, writeCounter]
      by_cases hlt : Key.count (s.counters.live s.redisNow (turnAllocationKey sessionID)) < limit
      · simp [hlt]
      · simp [hlt]

end ReleaseStore

/-! ### Programs -/

abbrev RelayProg := Program ReleaseCmd.Reply Empty

def ask (c : ReleaseCmd) : RelayProg c.Reply :=
  .call c fun
    | .ok reply => .ret reply
    | .error e => e.elim

/-! ### The release of one allocation -/

/-- `QueuePendingRelease`. -/
def queuePendingTURNRelease (r : PendingRelease) : RelayProg (Except CallFailure Unit) := do
  match pendingReleaseField r with
  | none => return .error .failed
  | some field =>
      match ← ask (.hsetIndex field) with
      | .ok _ => ask (.hsetUser field)
      | .error e => return .error e

/-- `CompletePendingRelease`. -/
def completePendingTURNRelease (r : PendingRelease) : RelayProg (Except CallFailure Unit) := do
  match pendingReleaseField r with
  | none => return .error .failed
  | some field =>
      match ← ask (.hdelIndex field) with
      | .ok _ => ask (.hdelUser field)
      | .error e => return .error e

/-- What is released for an allocation: nothing when a name is missing. -/
@[irreducible] def releaseOf (allocation : ActiveAllocation) (fallbackUsername : String) : Option PendingRelease :=
  let username := trim allocation.username
  let releaseUserID := if username = "" then trim fallbackUsername else username
  let operationID := trim allocation.releaseOperationID
  if releaseUserID = "" ∨ operationID = "" then none else some ⟨releaseUserID, operationID⟩

/-- `releaseDeletedAllocation` once the release was persisted, or queued locally. -/
def releasePersisted (r : PendingRelease) (persisted : Bool) : RelayProg Unit := do
  match ← ask (.releaseSlot r) with
  | .ok _ =>
      if persisted then
        match ← completePendingTURNRelease r with
        | .error .panicked => ask (.queueAllocationRelease r)
        | _ => ask (.completePendingRelease r)
      else ask (.completePendingRelease r)
  | .error .panicked => ask (.queueAllocationRelease r)
  | .error .failed => return ()

/-- `releaseDeletedAllocation`, with the recovery of `launchAllocationRelease`: after a panic the
release is queued locally. -/
def releaseDeletedAllocation (r : PendingRelease) : RelayProg Unit := do
  match ← queuePendingTURNRelease r with
  | .ok _ => releasePersisted r true
  | .error .panicked => ask (.queueAllocationRelease r)
  | .error .failed =>
      ask (.queueAllocationRelease r)
      releasePersisted r false

/-- `launchAllocationRelease`. -/
def launchAllocationRelease (allocation : ActiveAllocation) (fallbackUsername : String) :
    RelayProg Unit :=
  match releaseOf allocation fallbackUsername with
  | none => .ret ()
  | some r => releaseDeletedAllocation r

/-! ### The drain -/

/-- A pending release, and where it was found. -/
structure PendingReleaseState where
  release : PendingRelease
  isLocal : Bool
  isDurable : Bool
  deriving Inhabited

def pendingReleaseCompositeKey (r : PendingRelease) : String :=
  r.username ++ "\x1f" ++ r.operationID

def addLocal (states : GoMap PendingReleaseState) (r : PendingRelease) :
    GoMap PendingReleaseState :=
  states.insert (pendingReleaseCompositeKey r)
    { states.get (pendingReleaseCompositeKey r) with release := r, isLocal := true }

def addDurable (states : GoMap PendingReleaseState) (r : PendingRelease) :
    GoMap PendingReleaseState :=
  states.insert (pendingReleaseCompositeKey r)
    { states.get (pendingReleaseCompositeKey r) with release := r, isDurable := true }

/-- `PendingReleases`. -/
@[irreducible] def pendingTURNReleases (username : String) :
    RelayProg (Except CallFailure (List PendingRelease)) :=
  if trim username = "" then ask .hgetallIndex
  else if (parseUsername (trim username)).isNone then .ret (.error .failed)
  else ask (.hgetallUser (trim username))

theorem pendingTURNReleases_cases (username : String) :
    pendingTURNReleases username = ask .hgetallIndex ∨
      pendingTURNReleases username = .ret (.error .failed) ∨
      pendingTURNReleases username = ask (.hgetallUser (trim username)) := by
  unfold pendingTURNReleases
  split
  · exact .inl rfl
  · split
    · exact .inr (.inl rfl)
    · exact .inr (.inr rfl)

/-- `pendingReleaseStates`; `none` after a panic. -/
def pendingReleaseStates (username : String) : RelayProg (Option (List PendingReleaseState)) := do
  let queued ← ask (.snapshotPendingReleases username)
  let states := queued.foldl addLocal ∅
  match ← pendingTURNReleases username with
  | .ok durable => return some ((durable.foldl addDurable states).entries.map Sigma.snd)
  | .error .failed => return some (states.entries.map Sigma.snd)
  | .error .panicked => return none

/-- A release that is only queued locally is persisted first; `none` after a panic. -/
def persistState (state : PendingReleaseState) : RelayProg (Option PendingReleaseState) := do
  if state.isLocal && !state.isDurable then
    match ← queuePendingTURNRelease state.release with
    | .ok _ =>
        ask (.completePendingRelease state.release)
        return some { state with isDurable := true, isLocal := false }
    | .error .failed => return some state
    | .error .panicked => return none
  else return some state

/-- The rest of an iteration, once a release call has succeeded; `false` after a panic. -/
def completeState (state : PendingReleaseState) : RelayProg Bool := do
  if state.isDurable then
    match ← completePendingTURNRelease state.release with
    | .ok _ => completeLocal state
    | .error .failed => return true
    | .error .panicked => return false
  else completeLocal state
where
  completeLocal (state : PendingReleaseState) : RelayProg Bool := do
    if state.isLocal then
      ask (.completePendingRelease state.release)
      return true
    else return true

/-- One iteration of the loop of `processPendingReleases`; `false` after a panic. -/
def processState (state : PendingReleaseState) : RelayProg Bool := do
  match ← persistState state with
  | none => return false
  | some state =>
      match ← ask (.releaseSlot state.release) with
      | .ok _ => completeState state
      | .error .failed => return true
      | .error .panicked => return false

/-- The loop of `processPendingReleases`, in any order. -/
def processStates : ℕ → List PendingReleaseState → RelayProg Unit
  | 0, _ => return ()
  | n + 1, states => do
      let i ← ask (.nextState states.length)
      match states[i]? with
      | none => return ()
      | some state =>
          match ← processState state with
          | true => processStates n (states.eraseIdx i)
          | false => return ()

def processPendingReleases (username : String) : RelayProg Unit := do
  match ← pendingReleaseStates username with
  | none => return ()
  | some states => processStates states.length states

/-! ### The reservation -/

def quotaHandler (allocationQuota : ℤ) (username : String) : RelayProg Bool := do
  if allocationQuota ≤ 0 then return true
  else
    processPendingReleases username
    match ← ask (.reserveSlot allocationQuota username) with
    | .ok allowed => return allowed
    | .error _ => return false

/-! ### The operations side by side -/

inductive RelayOp
  | quotaHandler (username : String)
  | callback (e : Event)
  | release (allocation : ActiveAllocation) (fallbackUsername : String)
  | processPendingReleases (username : String)

/-- What an operation returns: only the quota handler has an answer. -/
def RelayOp.program (allocationQuota : ℤ) : RelayOp → RelayProg (Option Bool)
  | .quotaHandler username =>
      (Turn.quotaHandler allocationQuota username).bind fun allowed => .ret (some allowed)
  | .callback e => (ask (.callback e)).bind fun _ => .ret none
  | .release allocation fallbackUsername =>
      (launchAllocationRelease allocation fallbackUsername).bind fun _ => .ret none
  | .processPendingReleases username =>
      (Turn.processPendingReleases username).bind fun _ => .ret none

/-- The goroutines that a call starts. -/
def launchedBy : (c : ReleaseCmd) → c.Reply → List RelayOp
  | .callback _, releases => releases.map fun r => .release r.allocation r.fallbackUsername
  | _, _ => []

/-- What may happen beside the operations. -/
inductive RelayEnv
  /-- Time passes, in nanoseconds. -/
  | tick (d : ℕ)
  /-- The TURN server does not create an allocation that was granted to the session. -/
  | creationFailed (sessionID : String)

def RelayEnv.apply (s : ReleaseStore) : RelayEnv → Option ReleaseStore
  | .tick d => some { s with relay := { s.relay with now := s.relay.now + d } }
  | .creationFailed sessionID =>
      if sessionID ∈ s.granted then some { s with granted := s.granted.erase sessionID } else none

/-- **The relay**: reservations, callbacks, releases and drains side by side, where the world answers
the calls with `answers`. -/
def relaySystem {X : Type} (toUpper : String → String) (allocationQuota : ℤ) (answers : X → Answer) :
    Pool.System RelayOp X RelayEnv ReleaseCmd.Reply Empty ReleaseStore (Option Bool) where
  program op := op.program allocationQuota
  exec x := ReleaseCmd.exec toUpper (answers x)
  spawns c reply := launchedBy c reply
  env n s := n.apply s

abbrev RelayConfig := Pool.Config RelayOp ReleaseCmd.Reply Empty ReleaseStore (Option Bool)

abbrev RelayEvent (X : Type) := Pool.Event RelayOp X RelayEnv Empty

end Turn
