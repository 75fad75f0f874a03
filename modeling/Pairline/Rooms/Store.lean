/-
**The rooms: what channels and the matchmaker do with sessions.**

A level above the keys of the store: here an operation of the session manager on one session, or one
script on two, is one command on their records.  The handlers of a channel and the pairing of two
sessions are programs of such commands; they run under the locks of the sessions, which are taken
one after another.  No lease of a lock expires.  A process keeps to one token for all the locks it
takes, as it never waits for a lock while it holds others from an earlier attempt.

What the store cannot tell is kept beside it: which match the record of a session belongs to, and
what has happened so far.  No program reads it.

Main definitions:

* `Rooms.RoomStore`, `Rooms.RoomCmd`, `Rooms.exec` — records, queues, owners and locks, and the
  commands on them;
* `Rooms.lockSessionAndPartner`, `Rooms.withSessionPartnerLock` — the locks of a session and its
  partner;
* `Rooms.skip`, `Rooms.stop`, `Rooms.closeSession`, `Rooms.runWebrtcReady` — the handlers of a
  channel;
* `Rooms.pairUsers`, `Rooms.pairWithHuman` — the matchmaker and the workers of bots.
-/

import Pairline.Matchmaker.QueueStore
import Pairline.Pool
import Pairline.Sessions.Matching
import Pairline.Sessions.SessionLock

set_option relaxedAutoImplicit false
set_option autoImplicit false

namespace Rooms

open Matchmaker (SessionId NormalPreferences)
open Sessions (Session SessionKind Route Runtime Updates)
open Sessions.SessionLock (orderedIds)

/-! ### Records, queues, owners and locks -/

/-- The process that issues a command; the token of its locks. -/
abbrev Pid := ℕ

/-- A match, by its number. -/
abbrev MatchId := ℕ

/-- What the router takes to the channel or the worker of a session. -/
inductive RouterMessage
  | routerMatch (partnerId : SessionId) (matchGeneration : String)
  | routerDisconnect (reason : String) (matchGeneration : Option String)
  | webrtcStart (peerId : SessionId)
  | routerTimeout
  deriving DecidableEq

/-- What has happened: a session was created, two were matched, one has become ready or was sent a
message while its record was that of a match. -/
inductive Happening
  | created (sid : SessionId)
  | matched (sid1 sid2 : SessionId) (matchId : MatchId)
  | ready (pid : Pid) (sid : SessionId) (matchId : Option MatchId)
  | sent (sid : SessionId) (message : RouterMessage) (matchId : Option MatchId)
  deriving DecidableEq

structure RoomStore where
  records : SessionId → Option Session
  /-- The queues that hold a session. -/
  queues : SessionId → List String
  /-- The membership set of a session. -/
  listed : SessionId → List String
  owner : SessionId → Option Pid
  lock : SessionId → Option Pid
  /-- The match that the record of a session belongs to. -/
  current : SessionId → Option MatchId
  /-- The number of matches so far. -/
  matchCount : MatchId
  history : List Happening

/-- The answers to an attempt at a lock. -/
inductive LockReply
  | acquired
  | taken
  | noRoute

inductive RoomOp
  | getSession (sid : SessionId)
  | persistSession (session : Session)
  | updateSession (sid : SessionId) (updates : Updates)
  | refreshSession (sid : SessionId)
  | pairScript (session1 session2 : Session)
  | resetPairScript (session1 session2 : Session)
  | emergencyDisconnectScript (sid : SessionId)
  | deleteSession (sid : SessionId)
  | getSessionRoute (sid : SessionId)
  | enqueueQueueKeys (sid : SessionId) (queueKeys : List String)
  | leaveQueue (sid : SessionId)
  | register (sid : SessionId)
  | unregister (sid : SessionId)
  | lock (sid : SessionId)
  | unlock (sid : SessionId)
  | send (sid : SessionId) (message : RouterMessage)

structure RoomCmd where
  pid : Pid
  op : RoomOp

/-- The types of the replies; a session that is not found is no error here. -/
def RoomOp.Reply : RoomOp → Type
  | .getSession _ => Option Session
  | .updateSession _ _ => Option Session
  | .refreshSession _ => Bool
  | .pairScript _ _ => Session × Session
  | .getSessionRoute _ => Option Route
  | .lock _ => LockReply
  | _ => Unit

def RoomCmd.Reply (c : RoomCmd) : Type := c.op.Reply

/-- The time, and the generation that is given to a match. -/
structure World where
  now : ℤ
  generation : String

namespace RoomStore

/-- The record of a session.  A record is stored under its id, which is read off the key. -/
def find (s : RoomStore) (sid : SessionId) : Option Session :=
  (s.records sid).map fun session => { session with id := sid }

def setRecord (s : RoomStore) (sid : SessionId) (record : Option Session) : RoomStore :=
  { s with records := Function.update s.records sid record }

/-- Two records are written by one script. -/
def setPair (s : RoomStore) (session1 session2 : Session) : RoomStore :=
  (s.setRecord session1.id (some session1)).setRecord session2.id (some session2)

/-- Two records are of one match from now on, or of none. -/
def setMatch (s : RoomStore) (sid1 sid2 : SessionId) (matchId : Option MatchId) : RoomStore :=
  { s with current := Function.update (Function.update s.current sid1 matchId) sid2 matchId }

def log (s : RoomStore) (happening : Happening) : RoomStore :=
  { s with history := s.history ++ [happening] }

end RoomStore

variable (rt : Runtime)

/-- What a command answers and does. -/
def exec (x : World) (c : RoomCmd) (s : RoomStore) : c.Reply × RoomStore :=
  match c with
  | ⟨_, .getSession sid⟩ => (s.find sid, s)
  | ⟨_, .persistSession session⟩ =>
      ((), (s.setRecord session.id (some session)).log (.created session.id))
  | ⟨pid, .updateSession sid updates⟩ =>
      match s.find sid with
      | none => (none, s)
      | some session =>
          let updated := (session.merge updates).touchLastActivity x.now
          let s' := s.setRecord sid (some updated)
          (some updated,
            if updates.signalingReady = some true then s'.log (.ready pid sid (s.current sid))
            else s')
  | ⟨_, .refreshSession sid⟩ =>
      match s.find sid with
      | none => (false, s)
      | some session => (true, s.setRecord sid (some (session.touchLastActivity x.now)))
  | ⟨_, .pairScript session1 session2⟩ =>
      let updated1 := session1.matchedWith session2.id x.generation x.now
      let updated2 := session2.matchedWith session1.id x.generation x.now
      ((updated1, updated2),
        { ((s.setPair updated1 updated2).setMatch session1.id session2.id (some s.matchCount)).log
            (.matched session1.id session2.id s.matchCount) with
          matchCount := s.matchCount + 1 })
  | ⟨_, .resetPairScript session1 session2⟩ =>
      ((), (s.setPair (session1.unmatched x.now) (session2.unmatched x.now)).setMatch
        session1.id session2.id none)
  | ⟨_, .emergencyDisconnectScript sid⟩ =>
      match s.find sid with
      | none => ((), s)
      | some session =>
          ((), (s.setRecord sid (some (session.disconnected x.now))).setMatch sid sid none)
  | ⟨_, .deleteSession sid⟩ =>
      ((), { s.setRecord sid none with
        owner := Function.update s.owner sid none
        current := Function.update s.current sid none })
  | ⟨_, .getSessionRoute sid⟩ => ((s.find sid).map (Sessions.routeForSession rt), s)
  | ⟨_, .enqueueQueueKeys sid queueKeys⟩ =>
      ((), { s with
        queues := Function.update s.queues sid (s.queues sid ++ queueKeys)
        listed := Function.update s.listed sid (s.listed sid ++ queueKeys) })
  | ⟨_, .leaveQueue sid⟩ =>
      -- the queues of the membership set, and those of all registries for a session without a route
      let left := if (s.find sid).isSome then
        (s.queues sid).filter fun queueKey => queueKey ∉ s.listed sid else []
      ((), { s with
        queues := Function.update s.queues sid left
        listed := Function.update s.listed sid [] })
  | ⟨pid, .register sid⟩ => ((), { s with owner := Function.update s.owner sid (some pid) })
  | ⟨_, .unregister sid⟩ => ((), { s with owner := Function.update s.owner sid none })
  | ⟨pid, .lock sid⟩ =>
      if (s.find sid).isNone then (.noRoute, s)
      else if (s.lock sid).isSome then (.taken, s)
      else (.acquired, { s with lock := Function.update s.lock sid (some pid) })
  | ⟨pid, .unlock sid⟩ =>
      if s.lock sid = some pid then ((), { s with lock := Function.update s.lock sid none })
      else ((), s)
  | ⟨_, .send sid message⟩ => ((), s.log (.sent sid message (s.current sid)))

/-! ### Programs -/

inductive RoomError
  | notFound
  | crossShardPairingUnsupported
  | store (reason : String)

abbrev RoomProg := Program RoomCmd.Reply RoomError

def room (pid : Pid) (op : RoomOp) : RoomProg (Except RoomError (RoomCmd.Reply ⟨pid, op⟩)) :=
  Program.command (V := RoomCmd.Reply) ⟨pid, op⟩

/-- What a handler ends with. -/
inductive Reply
  | skipped
  | stopped
  | webrtcReady
  | closed
  | paired
  | done
  | refused (reason : String)
  | notFound
  | crashed
  deriving DecidableEq

/-- The session, or nothing when it is missing or the look-up failed. -/
def readSession (pid : Pid) (sid : SessionId) : RoomProg (Option Session) := do
  match ← room pid (.getSession sid) with
  | .ok session => return session
  | .error _ => return none

def updateSession (pid : Pid) (sid : SessionId) (updates : Updates) :
    RoomProg (Except RoomError Session) := do
  match ← room pid (.updateSession sid updates) with
  | .ok (some session) => return .ok session
  | .ok none => return .error .notFound
  | .error reason => return .error reason

def pairSessions (pid : Pid) (session1 session2 : Session) :
    RoomProg (Except RoomError (Session × Session)) := do
  if session1.redisShard ≠ session2.redisShard then
    return .error .crossShardPairingUnsupported
  else room pid (.pairScript session1 session2)

def resetPair (pid : Pid) (session1 session2 : Session) : RoomProg (Except RoomError Unit) := do
  if session1.redisShard ≠ session2.redisShard then
    return .error .crossShardPairingUnsupported
  else room pid (.resetPairScript session1 session2)

section Queues

variable (text : Matchmaker.Text) (config : Matchmaker.Config)

/-- `join_queue` with the preferences of a record, which are normal already. -/
def joinQueue (pid : Pid) (sid : SessionId) (preferences : NormalPreferences) :
    RoomProg (Except RoomError Unit) := do
  match ← room pid (.getSessionRoute sid) with
  | .ok (some route) =>
      room pid (.enqueueQueueKeys sid
        (Matchmaker.initialQueueKeys text config preferences route.mode route.shard))
  | .ok none => return .error .notFound
  | .error reason => return .error reason

end Queues

/-! ### Locks -/

/-- `release_all`. -/
def releaseAll (pid : Pid) : List SessionId → RoomProg Unit
  | [] => return ()
  | sid :: acquired => do
      let _ ← room pid (.unlock sid)
      releaseAll pid acquired

/-- `acquire_all`; a session without a route is passed over. -/
def acquireAll (pid : Pid) : List SessionId → List SessionId → RoomProg (Option (List SessionId))
  | [], acquired => return some acquired
  | sid :: rest, acquired => do
      match ← room pid (.lock sid) with
      | .ok .acquired => acquireAll pid rest (acquired ++ [sid])
      | .ok .noRoute => acquireAll pid rest acquired
      | _ =>
          releaseAll pid acquired
          return none

/-- The locks that a handler has taken, and the session as it was read under them. -/
structure Held where
  acquired : List SessionId
  session : Option Session
  deriving DecidableEq

/-- The part of `with_session_partner_lock` up to the function: the locks of a session and the partner
it was read with, until the partner is the same when it is read again.  After as many attempts as
the retries allow, it gives up. -/
def lockSessionAndPartner (pid : Pid) (sid : SessionId) :
    (attempts lockRetries partnerRetries : ℕ) → RoomProg (Option Held)
  | attempts + 1, lockRetries + 1, partnerRetries + 1 => do
      let partnerId := (← readSession pid sid).bind Session.partnerId
      match ← acquireAll pid (orderedIds [some sid, partnerId]) [] with
      | none => lockSessionAndPartner pid sid attempts lockRetries (partnerRetries + 1)
      | some acquired =>
          match ← readSession pid sid with
          | none => return some ⟨acquired, none⟩
          | some session =>
              if session.partnerId ≠ partnerId then
                releaseAll pid acquired.reverse
                lockSessionAndPartner pid sid attempts (lockRetries + 1) partnerRetries
              else return some ⟨acquired, some session⟩
  | _, _, _ => return none

/-- The rest of `with_session_partner_lock`: the function, and the locks are given back. -/
def underLocks (pid : Pid) (body : Option Session → RoomProg Reply) :
    Option Held → RoomProg Reply
  | none => return .refused "Session busy, please retry"
  | some held => do
      let result ← body held.session
      releaseAll pid held.acquired.reverse
      return result

def withSessionPartnerLock (pid : Pid) (sid : SessionId)
    (body : Option Session → RoomProg Reply) : RoomProg Reply := do
  let held ← lockSessionAndPartner pid sid 6 3 3
  underLocks pid body held

/-! ### The handlers of a channel -/

/-- `reset_match`: whatever comes of it, the handler goes on. -/
def resetMatch (pid : Pid) (sid partnerId : SessionId) (disconnectReason : String) :
    RoomProg Unit := do
  match ← readSession pid sid with
  | none => return ()
  | some session =>
      match ← readSession pid partnerId with
      | none => return ()
      | some partnerSession =>
          match ← resetPair pid session partnerSession with
          | .error _ => return ()
          | .ok _ =>
              let _ ← room pid (.send partnerId
                (.routerDisconnect disconnectReason partnerSession.matchGeneration))
              return ()

/-- A status, without readiness and without WebRTC. -/
def statusUpdates (status : Sessions.Status) : Updates :=
  { status := some status, signalingReady := some false, webrtcStarted := some false }

section Handlers

variable (text : Matchmaker.Text) (config : Matchmaker.Config)

/-- What `skip` does after the reset: the session waits again. -/
def requeue (pid : Pid) (sid : SessionId) (preferences : NormalPreferences) : RoomProg Reply := do
  match ← updateSession pid sid (statusUpdates .waiting) with
  | .error _ => return .crashed
  | .ok _ =>
      match ← joinQueue text config pid sid preferences with
      | .ok _ => return .skipped
      | .error _ =>
          let _ ← updateSession pid sid (statusUpdates .disconnecting)
          return .refused "Matchmaking unavailable"

def skipUnderLocks (pid : Pid) (sid : SessionId) (session : Option Session) : RoomProg Reply :=
  match session with
  | none => return .refused "No partner to skip"
  | some session =>
      match session.partnerId with
      | none => return .refused "No partner to skip"
      | some partnerId => do
          resetMatch pid sid partnerId "partner skipped"
          requeue text config pid sid session.preferences

/-- `handle_in("skip")`. -/
def skip (pid : Pid) (sid : SessionId) : RoomProg Reply :=
  withSessionPartnerLock pid sid (skipUnderLocks text config pid sid)

end Handlers

/-- What `stop` does with a session that has no partner. -/
def stopQueue (pid : Pid) (sid : SessionId) : RoomProg Reply := do
  match ← room pid (.leaveQueue sid) with
  | .error _ => return .refused "Failed to stop matchmaking"
  | .ok _ =>
      match ← updateSession pid sid (statusUpdates .waiting) with
      | .error _ => return .refused "Failed to stop matchmaking"
      | .ok _ => return .stopped

def stopUnderLocks (pid : Pid) (sid : SessionId) (session : Option Session) : RoomProg Reply :=
  match session with
  | none => return .stopped
  | some session =>
      match session.partnerId with
      | none => stopQueue pid sid
      | some partnerId => do
          resetMatch pid sid partnerId "partner cancelled"
          return .stopped

/-- `handle_in("stop")`. -/
def stop (pid : Pid) (sid : SessionId) : RoomProg Reply :=
  withSessionPartnerLock pid sid (stopUnderLocks pid sid)

/-- The end of `close_session`, once the session has no partner. -/
def closeAlone (pid : Pid) (sid : SessionId) : RoomProg Reply := do
  match ← room pid (.leaveQueue sid) with
  | .error _ => return .refused "Failed to leave matchmaking queue"
  | .ok _ =>
      let _ ← room pid (.unregister sid)
      match ← room pid (.deleteSession sid) with
      | .error _ => return .refused "Failed to delete session"
      | .ok _ => return .closed

def closeUnderLocks (pid : Pid) (sid : SessionId) (reason : String) (session : Option Session) :
    RoomProg Reply :=
  match session with
  | none => return .notFound
  | some session =>
      match session.partnerId with
      | none => closeAlone pid sid
      | some partnerId => do
          resetMatch pid sid partnerId reason
          closeAlone pid sid

/-- `close_session`. -/
def closeSession (pid : Pid) (sid : SessionId) (reason : String) : RoomProg Reply :=
  withSessionPartnerLock pid sid (closeUnderLocks pid sid reason)

/-- The partner is ready as well, no bot takes part, and WebRTC has not been started. -/
def mayStart (session partnerSession : Session) : Bool :=
  partnerSession.signalingReady && session.sessionKind ≠ .bot && partnerSession.sessionKind ≠ .bot &&
    !session.webrtcStarted && !partnerSession.webrtcStarted

/-- WebRTC is started between two sessions. -/
def startWebrtc (pid : Pid) (sid partnerId : SessionId) : RoomProg Reply := do
  let _ ← updateSession pid sid { webrtcStarted := some true }
  let _ ← updateSession pid partnerId { webrtcStarted := some true }
  let _ ← room pid (.send sid (.webrtcStart partnerId))
  let _ ← room pid (.send partnerId (.webrtcStart sid))
  return .webrtcReady

/-- What is made of a session that has just become ready. -/
def afterReady (pid : Pid) (sid : SessionId) (session : Session) : RoomProg Reply :=
  match session.partnerId with
  | none => return .webrtcReady
  | some partnerId => do
      match ← readSession pid partnerId with
      | none => return .webrtcReady
      | some partnerSession =>
          if mayStart session partnerSession then startWebrtc pid sid partnerId
          else return .webrtcReady

def webrtcReadyUnderLocks (pid : Pid) (sid : SessionId) (session : Option Session) :
    RoomProg Reply :=
  match session.bind Session.partnerId with
  | none => return .refused "No partner"
  | some _ => do
      match ← updateSession pid sid { signalingReady := some true } with
      | .ok updated => afterReady pid sid updated
      | .error .notFound => return .refused "Session not found"
      | .error _ => return .refused "Failed to update session"

/-- `run_webrtc_ready`. -/
def runWebrtcReady (pid : Pid) (sid : SessionId) : RoomProg Reply :=
  withSessionPartnerLock pid sid (webrtcReadyUnderLocks pid sid)

/-! ### The matchmaker -/

/-- `disconnect_bot_collision` for one of the two. -/
def disconnectBot (pid : Pid) (sid : SessionId) : RoomProg Unit := do
  let _ ← room pid (.leaveQueue sid)
  let _ ← room pid (.send sid (.routerDisconnect "bot collision" none))
  let _ ← room pid (.deleteSession sid)
  return ()

/-- `drop_banned_from_queues` and `drop_matched_from_queues`. -/
def leaveQueues (pid : Pid) : List SessionId → RoomProg Unit
  | [] => return ()
  | sid :: sids => do
      let _ ← room pid (.leaveQueue sid)
      leaveQueues pid sids

/-- `banned_pair_result`: the banned ones of two sessions. -/
def bannedOf (session1 session2 : Session) : List SessionId :=
  ([session1, session2].filter Session.banStatus).map Session.id

/-- Two sessions that nothing keeps apart are paired. -/
def pairFound (pid : Pid) (session1 session2 : Session) : RoomProg Reply := do
  match ← pairSessions pid session1 session2 with
  | .error _ => return .refused "pairing failed"
  | .ok (updated1, updated2) =>
      leaveQueues pid [session1.id, session2.id]
      let generation := updated1.matchGeneration.getD (updated2.matchGeneration.getD "")
      let _ ← room pid (.send session1.id (.routerMatch session2.id generation))
      let _ ← room pid (.send session2.id (.routerMatch session1.id generation))
      return .paired

/-- What `pair_users` does under the locks of two sessions. -/
def pairUnderLocks (pid : Pid) (sid1 sid2 : SessionId) : RoomProg Reply := do
  let session1 ← readSession pid sid1
  let session2 ← readSession pid sid2
  match session1, session2 with
  | some session1, some session2 =>
      if !Matchmaker.pairableSession session1 || !Matchmaker.pairableSession session2 then
        return .done
      else if session1.sessionKind = .bot ∧ session2.sessionKind = .bot then
        disconnectBot pid session1.id
        disconnectBot pid session2.id
        return .done
      else if bannedOf session1 session2 ≠ [] then
        leaveQueues pid (bannedOf session1 session2)
        return .done
      else pairFound pid session1 session2
  | _, _ => return .done

/-- `with_locks`; a lock that is taken is not waited for. -/
def withLocks (pid : Pid) (ids : List (Option SessionId)) (body : RoomProg Reply) :
    RoomProg Reply := do
  match ← acquireAll pid (orderedIds ids) [] with
  | none => return .refused "locked"
  | some acquired =>
      let result ← body
      releaseAll pid acquired.reverse
      return result

/-- `pair_users`. -/
def pairUsers (pid : Pid) (sid1 sid2 : SessionId) : RoomProg Reply :=
  withLocks pid [some sid1, some sid2] (pairUnderLocks pid sid1 sid2)

/-! ### The workers of bots -/

/-- What `pair_with_human` does under the locks of the two sessions. -/
def pairWithHumanUnderLocks (pid : Pid) (humanSessionId botSessionId : SessionId) :
    RoomProg Reply := do
  match ← readSession pid humanSessionId with
  | none => return .refused "pair_failed"
  | some humanSession =>
      match ← readSession pid botSessionId with
      | none => return .refused "pair_failed"
      | some botSession =>
          if !Matchmaker.pairableSession humanSession || !Matchmaker.pairableSession botSession then
            return .refused "pair_failed"
          else
            match ← pairSessions pid humanSession botSession with
            | .error _ => return .refused "pair_failed"
            | .ok (updatedHuman, updatedBot) =>
                let _ ← room pid (.leaveQueue humanSessionId)
                let generation := updatedHuman.matchGeneration.getD (updatedBot.matchGeneration.getD "")
                let _ ← room pid (.send humanSession.id (.routerMatch botSession.id generation))
                let _ ← room pid (.send botSession.id (.routerMatch humanSession.id generation))
                return .paired

/-- `pair_with_human`. -/
def pairWithHuman (pid : Pid) (humanSessionId botSessionId : SessionId) : RoomProg Reply :=
  withLocks pid [some humanSessionId, some botSessionId]
    (pairWithHumanUnderLocks pid humanSessionId botSessionId)

end Rooms
