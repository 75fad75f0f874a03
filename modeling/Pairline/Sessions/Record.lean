/-
**The record of a session.**

What the store keeps of a session: its record, the queue metadata derived from it, and the route by
which both are found.  An update replaces some fields of a record; which fields they are decides
whether the store can apply it in place.

Main definitions:

* `Sessions.Session`, `Sessions.QueueMetadata`, `Sessions.Route` — what is stored, and where;
* `Sessions.Updates`, `Sessions.Session.merge` — updates of a record;
* `Sessions.Updates.partialUpdateSupported` — the updates that the store applies in place.

Main results:

* `Sessions.id_merge_of_partialUpdateSupported` — an update in place keeps the identity, the address
  and the route of a session.
-/

import Pairline.Matchmaker.Interests

set_option relaxedAutoImplicit false
set_option autoImplicit false

namespace Sessions

open Matchmaker (SessionId NormalPreferences Text normalizeMode storedInterestBuckets)

/-! ### Records -/

inductive SessionKind
  | human
  | bot
  deriving DecidableEq

inductive Status
  | waiting
  | matched
  | disconnecting
  deriving DecidableEq

structure Session where
  id : SessionId
  token : String
  ip : String
  sessionKind : SessionKind
  redisShard : ℕ
  matchGeneration : Option String
  status : Status
  partnerId : Option SessionId
  lastPartnerId : Option SessionId
  signalingReady : Bool
  webrtcStarted : Bool
  preferences : NormalPreferences
  createdAt : ℤ
  lastActivity : ℤ
  banStatus : Bool
  banReason : Option String
  deriving DecidableEq

/-- The queue metadata of a session. -/
structure QueueMetadata where
  id : SessionId
  redisShard : ℕ
  status : Status
  partnerId : Option SessionId
  lastPartnerId : Option SessionId
  mode : String
  interestBuckets : List String

/-- A place in the cluster: sessions of one route are kept together. -/
structure Route where
  mode : String
  shard : ℕ
  deriving DecidableEq

/-- What the code takes from its runtime: the Unicode tables, the SHA-256 digest in hexadecimal and
the number of shards. -/
structure Runtime where
  text : Text
  hashedToken : String → String
  matchShardCount : ℕ

variable (rt : Runtime)

/-- `route_for_session`. -/
def routeForSession (session : Session) : Route where
  mode := normalizeMode session.preferences.mode
  shard := session.redisShard % rt.matchShardCount

/-- `build_queue_meta`. -/
def buildQueueMeta (session : Session) : QueueMetadata where
  id := session.id
  redisShard := session.redisShard
  status := session.status
  partnerId := session.partnerId
  lastPartnerId := session.lastPartnerId
  mode := normalizeMode session.preferences.mode
  interestBuckets := storedInterestBuckets rt.text session.preferences.interests

def Session.touchLastActivity (session : Session) (now : ℤ) : Session :=
  { session with lastActivity := now }

@[simp] theorem Session.id_touchLastActivity (session : Session) (now : ℤ) :
    (session.touchLastActivity now).id = session.id := rfl

/-! ### Updates -/

/-- A map of updates as `normalize_updates` leaves it: the fields that it has, with their values. -/
structure Updates where
  id : Option SessionId := none
  token : Option String := none
  ip : Option String := none
  sessionKind : Option SessionKind := none
  redisShard : Option ℕ := none
  matchGeneration : Option (Option String) := none
  status : Option Status := none
  partnerId : Option (Option SessionId) := none
  lastPartnerId : Option (Option SessionId) := none
  signalingReady : Option Bool := none
  webrtcStarted : Option Bool := none
  preferences : Option NormalPreferences := none
  createdAt : Option ℤ := none
  lastActivity : Option ℤ := none
  banStatus : Option Bool := none
  banReason : Option (Option String) := none
  deriving DecidableEq

/-- `Map.merge` of a record with updates. -/
def Session.merge (session : Session) (updates : Updates) : Session where
  id := updates.id.getD session.id
  token := updates.token.getD session.token
  ip := updates.ip.getD session.ip
  sessionKind := updates.sessionKind.getD session.sessionKind
  redisShard := updates.redisShard.getD session.redisShard
  matchGeneration := updates.matchGeneration.getD session.matchGeneration
  status := updates.status.getD session.status
  partnerId := updates.partnerId.getD session.partnerId
  lastPartnerId := updates.lastPartnerId.getD session.lastPartnerId
  signalingReady := updates.signalingReady.getD session.signalingReady
  webrtcStarted := updates.webrtcStarted.getD session.webrtcStarted
  preferences := updates.preferences.getD session.preferences
  createdAt := updates.createdAt.getD session.createdAt
  lastActivity := updates.lastActivity.getD session.lastActivity
  banStatus := updates.banStatus.getD session.banStatus
  banReason := updates.banReason.getD session.banReason

/-- `partial_update_supported?`: no field outside `@partial_update_fields` is updated. -/
def Updates.partialUpdateSupported (updates : Updates) : Bool :=
  updates.id.isNone && updates.token.isNone && updates.ip.isNone && updates.sessionKind.isNone &&
    updates.redisShard.isNone && updates.preferences.isNone && updates.createdAt.isNone &&
    updates.lastActivity.isNone

/-- **An update in place keeps the identity, the address and the route of a session.** -/
theorem id_merge_of_partialUpdateSupported {updates : Updates} (session : Session)
    (h : updates.partialUpdateSupported = true) :
    (session.merge updates).id = session.id ∧ (session.merge updates).ip = session.ip ∧
      routeForSession rt (session.merge updates) = routeForSession rt session := by
  simp only [Updates.partialUpdateSupported, Bool.and_eq_true, Option.isNone_iff_eq_none] at h
  simp [Session.merge, routeForSession, h]

/-- The queue metadata after an update in place. -/
def QueueMetadata.overlap (queueMeta : QueueMetadata) (session : Session) : QueueMetadata :=
  { queueMeta with
    redisShard := session.redisShard
    status := session.status
    partnerId := session.partnerId
    lastPartnerId := session.lastPartnerId }

end Sessions
