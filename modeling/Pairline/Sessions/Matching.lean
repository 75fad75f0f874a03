/-
**The operations that match and part sessions.**

A match is written into both records by one script, and so is its end when both sessions are at hand.
An administrator's ban or disconnect works on the record of one session by a script of its own, and
then parts the partner by a third one, which only acts when the partner still names the session.
The match keys that these scripts write as well, the queues and the messages of the router are left
to other modules; the commands for them stand in the programs without effect.

Main definitions:

* `Sessions.MatchCmd`, `Sessions.execMatch` — the scripts, and what they do;
* `Sessions.pairSessions`, `Sessions.resetPair` — a match, and its end;
* `Sessions.emergencyBan`, `Sessions.emergencyDisconnect`, `Sessions.disconnectKnownPartner` — the
  operations on one session;
* `Sessions.createSession` — a new session;
* `Sessions.SessionOperation` — the operations of the session manager, one after another.

Main results:

* `Sessions.execMatch_snd_of_notMem` — a script touches the keys of the sessions it names;
* `Sessions.all_resolveSessionRoute`, `Sessions.all_getSession` — what a lookup issues.
-/

import Pairline.Sessions.RedisState

set_option relaxedAutoImplicit false
set_option autoImplicit false

namespace Sessions

open Matchmaker (SessionId Preferences NormalPreferences sessionPreferences parseInterests)
open Program Whitespace

/-! ### Scripts -/

/-- The scripts on records, and the calls of other modules. -/
inductive MatchCmd
  | pairScript (route : Route) (session1 session2 : Session) (token1 token2 : String)
      (queueMeta1 queueMeta2 : QueueMetadata)
  | resetPairScript (route : Route) (session1 session2 : Session) (token1 token2 : String)
      (queueMeta1 queueMeta2 : QueueMetadata)
  | emergencyBanScript (sid : SessionId) (route : Route) (reason : String) (now : ℤ)
  | emergencyDisconnectScript (sid : SessionId) (route : Route) (now : ℤ)
  | disconnectPartnerScript (sid : SessionId) (route : Route) (now : ℤ) (expectedPeerId : SessionId)
  | leaveQueue (sid : SessionId)
  | notifyBanned (sid : SessionId) (reason : String)
  | notifyDisconnect (sid : SessionId) (reason : String) (matchGeneration : Option String)

/-- What a ban or a disconnect finds. -/
inductive ScriptAnswer
  | notFound
  | alreadyBanned
  | parted (oldPartnerId : Option SessionId)

/-- What the parting of a partner finds. -/
inductive PartnerAnswer
  | notFound
  | partnerChanged
  | ok

def MatchCmd.Reply : MatchCmd → Type
  | .emergencyBanScript _ _ _ _ => ScriptAnswer
  | .emergencyDisconnectScript _ _ _ => ScriptAnswer
  | .disconnectPartnerScript _ _ _ _ => PartnerAnswer
  | _ => Unit

/-- The sessions that a command names. -/
def MatchCmd.sids : MatchCmd → List SessionId
  | .pairScript _ session1 session2 _ _ _ _ => [session1.id, session2.id]
  | .resetPairScript _ session1 session2 _ _ _ _ => [session1.id, session2.id]
  | .emergencyBanScript sid _ _ _ => [sid]
  | .emergencyDisconnectScript sid _ _ => [sid]
  | .disconnectPartnerScript sid _ _ _ => [sid]
  | _ => []

/-- A whole record is written, as by the script that persists a session. -/
def writeHot (session : Session) (token : String) (queueMeta : QueueMetadata) (hot : Hot) : Hot :=
  { hot with
    data := some session
    ip := some session.ip
    token := some token
    queueMeta := some queueMeta }

/-- A whole record is written under the tag of a route. -/
def Store.write (s : Store) (route : Route) (session : Session) (token : String)
    (queueMeta : QueueMetadata) : Store :=
  Function.update s session.id ((s session.id).atRoute route (writeHot session token queueMeta))

/-- The record of a session is replaced, and nothing else. -/
def Store.setRecord (s : Store) (sid : SessionId) (route : Route) (session : Session) : Store :=
  Function.update s sid ((s sid).atRoute route fun hot => { hot with data := some session })

/-- A session that an administrator has banned. -/
def Session.banned (session : Session) (reason : String) (now : ℤ) : Session :=
  { session with
    banStatus := true
    banReason := some reason
    status := .disconnecting
    partnerId := none
    lastActivity := now }

/-- A session that an administrator has disconnected. -/
def Session.disconnected (session : Session) (now : ℤ) : Session :=
  { session with
    status := .disconnecting
    partnerId := none
    lastActivity := now }

/-- A session whose partner has gone. -/
def Session.parted (session : Session) (now : ℤ) : Session :=
  { session with
    partnerId := none
    status := .disconnecting
    signalingReady := false
    webrtcStarted := false
    lastActivity := now }

/-- What a command answers and does. -/
def MatchCmd.exec : (c : MatchCmd) → Store → c.Reply × Store
  | .pairScript route session1 session2 token1 token2 queueMeta1 queueMeta2, s =>
      ((), (s.write route session1 token1 queueMeta1).write route session2 token2 queueMeta2)
  | .resetPairScript route session1 session2 token1 token2 queueMeta1 queueMeta2, s =>
      ((), (s.write route session1 token1 queueMeta1).write route session2 token2 queueMeta2)
  | .emergencyBanScript sid route reason now, s =>
      match ((s sid).hot route).data with
      | none => (.notFound, s)
      | some session =>
          if session.banStatus then (.alreadyBanned, s)
          else (.parted session.partnerId, s.setRecord sid route (session.banned reason now))
  | .emergencyDisconnectScript sid route now, s =>
      match ((s sid).hot route).data with
      | none => (.notFound, s)
      | some session =>
          (.parted session.partnerId, s.setRecord sid route (session.disconnected now))
  | .disconnectPartnerScript sid route now expectedPeerId, s =>
      match ((s sid).hot route).data with
      | none => (.notFound, s)
      | some session =>
          if session.partnerId ≠ some expectedPeerId then (.partnerChanged, s)
          else (.ok, s.setRecord sid route (session.parted now))
  | .leaveQueue _, s => ((), s)
  | .notifyBanned _ _, s => ((), s)
  | .notifyDisconnect _ _ _, s => ((), s)

abbrev AnyReply : Cmd ⊕ MatchCmd → Type := Sum.elim Cmd.Reply MatchCmd.Reply

/-- What a command or a script answers and does. -/
def execMatch : (c : Cmd ⊕ MatchCmd) → Store → AnyReply c × Store
  | .inl c, s => exec c s
  | .inr c, s => c.exec s

abbrev MatchProg (α : Type) := Program AnyReply Reason α

def script (c : MatchCmd) : MatchProg (Except Reason c.Reply) :=
  Program.command (V := AnyReply) (.inr c)

/-! ### Matches -/

variable (rt : Runtime)

inductive PairError
  | crossShardPairingUnsupported
  | store (reason : Reason)

/-- `get_common_interests`; the preferences are normal already. -/
def getCommonInterests (p1 p2 : NormalPreferences) : List String :=
  if trim p1.interests ≠ "" ∧ trim p2.interests ≠ "" then
    FirstDistinct.sorted ((parseInterests rt.text (trim p1.interests)).filter
      (· ∈ parseInterests rt.text (trim p2.interests)))
  else []

/-- The record of a session that is matched. -/
def Session.matchedWith (session : Session) (partnerId : SessionId) (generation : String)
    (now : ℤ) : Session :=
  { session with
    matchGeneration := some generation
    status := .matched
    partnerId := some partnerId
    lastPartnerId := some partnerId
    signalingReady := false
    webrtcStarted := false
    lastActivity := now }

/-- The record of a session whose match has ended. -/
def Session.unmatched (session : Session) (now : ℤ) : Session :=
  { session with
    matchGeneration := none
    partnerId := none
    status := .disconnecting
    signalingReady := false
    webrtcStarted := false
    lastActivity := now }

/-- `pair_sessions`, with the generation that `generate_match_generation` gives. -/
def pairSessions (session1 session2 : Session) (generation : String) (now : ℤ) :
    MatchProg (Except PairError (Session × Session × List String)) := do
  if session1.redisShard ≠ session2.redisShard then
    return .error .crossShardPairingUnsupported
  else
    let updated1 := session1.matchedWith session2.id generation now
    let updated2 := session2.matchedWith session1.id generation now
    match ← script (.pairScript (routeForSession rt updated1) updated1 updated2
        (rt.hashedToken updated1.token) (rt.hashedToken updated2.token)
        (buildQueueMeta rt updated1) (buildQueueMeta rt updated2)) with
    | .ok _ =>
        return .ok (updated1, updated2,
          getCommonInterests rt session1.preferences session2.preferences)
    | .error reason => return .error (.store reason)

def resetPair (session1 session2 : Session) (now : ℤ) :
    MatchProg (Except PairError (Session × Session)) := do
  if session1.redisShard ≠ session2.redisShard then
    return .error .crossShardPairingUnsupported
  else
    let updated1 := session1.unmatched now
    let updated2 := session2.unmatched now
    match ← script (.resetPairScript (routeForSession rt updated1) updated1 updated2
        (rt.hashedToken updated1.token) (rt.hashedToken updated2.token)
        (buildQueueMeta rt updated1) (buildQueueMeta rt updated2)) with
    | .ok _ => return .ok (updated1, updated2)
    | .error reason => return .error (.store reason)

/-! ### One session -/

/-- A script on the record of one session, once its route is known. -/
def atomically (sid : SessionId) (c : Route → MatchCmd) {α : Type}
    (f : (route : Route) → Except Reason (c route).Reply → MatchProg (Except Reason α)) :
    MatchProg (Except Reason α) := do
  match ← (resolveSessionRoute rt sid true).left with
  | .ok route => script (c route) >>= f route
  | .error reason => return .error reason

def atomicEmergencyBan (sid : SessionId) (reason : String) (now : ℤ) :
    MatchProg (Except Reason ScriptAnswer) :=
  atomically rt sid (fun route => .emergencyBanScript sid route reason now) fun _ reply =>
    .ret reply

def atomicEmergencyDisconnect (sid : SessionId) (now : ℤ) :
    MatchProg (Except Reason ScriptAnswer) :=
  atomically rt sid (fun route => .emergencyDisconnectScript sid route now) fun _ reply =>
    .ret reply

def atomicDisconnectPartner (partnerId expectedPeerId : SessionId) (now : ℤ) :
    MatchProg (Except Reason PartnerAnswer) :=
  atomically rt partnerId (fun route => .disconnectPartnerScript partnerId route now expectedPeerId)
    fun _ reply => .ret reply

/-- `disconnect_known_partner`, whose errors are dropped. -/
def disconnectKnownPartner (partnerId originSessionId : SessionId) (now : ℤ) : MatchProg Unit := do
  let partner ← (getSession rt partnerId).left
  let partnerMatchGeneration := match partner with
    | .ok partnerSession => partnerSession.matchGeneration
    | .error _ => none
  match ← atomicDisconnectPartner rt partnerId originSessionId now with
  | .ok .ok =>
      let _ ← script (.notifyDisconnect partnerId "partner disconnected" partnerMatchGeneration)
      return ()
  | _ => return ()

/-- What follows when a session has lost its partner to an administrator. -/
def disconnectOldPartner (oldPartnerId : Option SessionId) (sid : SessionId) (now : ℤ) :
    MatchProg Unit :=
  match oldPartnerId with
  | some partnerId => disconnectKnownPartner rt partnerId sid now
  | none => .ret ()

def emergencyBan (sid : SessionId) (reason : String) (now : ℤ) :
    MatchProg (Except Reason SessionId) := do
  match ← atomicEmergencyBan rt sid reason now with
  | .ok .notFound => return .error .notFound
  | .ok .alreadyBanned => return .ok sid
  | .ok (.parted oldPartnerId) =>
      let _ ← script (.leaveQueue sid)
      let _ ← script (.notifyBanned sid reason)
      disconnectOldPartner rt oldPartnerId sid now
      return .ok sid
  | .error e => return .error e

def emergencyDisconnect (sid : SessionId) (now : ℤ) : MatchProg (Except Reason SessionId) := do
  match ← atomicEmergencyDisconnect rt sid now with
  | .ok (.parted oldPartnerId) =>
      let _ ← script (.leaveQueue sid)
      let _ ← script (.notifyDisconnect sid "disconnected by administrator" none)
      disconnectOldPartner rt oldPartnerId sid now
      return .ok sid
  | .ok _ => return .error .notFound
  | .error e => return .error e

def emergencyUnban (sid : SessionId) (now : ℤ) : Prog (Except Reason Session) :=
  updateSession rt sid { banStatus := some false, banReason := some none } now

/-- The record of a new session. -/
def newSession (initialShard : String → ℕ) (sid : SessionId) (token ip : String)
    (preferences : Preferences) (kind : SessionKind) (now : ℤ) : Session :=
  let normalized := sessionPreferences rt.text preferences
  { id := sid
    token := token
    ip := ip
    sessionKind := kind
    redisShard := initialShard normalized.mode
    matchGeneration := none
    status := .waiting
    partnerId := none
    lastPartnerId := none
    signalingReady := false
    webrtcStarted := false
    preferences := normalized
    createdAt := now
    lastActivity := now
    banStatus := false
    banReason := none }

/-- `create_session`; the token is random, and the shard is a hash of the mode. -/
def createSession (initialShard : String → ℕ) (sid : SessionId) (token ip : String)
    (preferences : Preferences) (kind : SessionKind) (now : ℤ) : Prog (Except Reason Session) := do
  let session := newSession rt initialShard sid token ip preferences kind now
  match ← persistSession rt session with
  | .ok _ => return .ok session
  | .error reason => return .error reason

/-! ### The operations, one after another -/

/-- The operations of the session manager that write a record; a match and its end are given the
records as they were read. -/
inductive SessionOperation
  | create (sid : SessionId) (token ip : String) (preferences : Preferences) (kind : SessionKind)
      (now : ℤ)
  | update (sid : SessionId) (updates : Updates) (now : ℤ)
  | pair (session1 session2 : Session) (generation : String) (now : ℤ)
  | reset (session1 session2 : Session) (now : ℤ)
  | disconnect (sid : SessionId) (now : ℤ)
  | disconnectPartner (partnerId originSessionId : SessionId) (now : ℤ)
  | ban (sid : SessionId) (reason : String) (now : ℤ)
  | unban (sid : SessionId) (now : ℤ)
  | move (sid : SessionId) (newShard now : ℤ)

/-- A program whose result nobody reads. -/
def Prog.done {α : Type} (p : Prog α) : MatchProg Unit := p.left.bind fun _ => .ret ()

def SessionOperation.program (initialShard : String → ℕ) : SessionOperation → MatchProg Unit
  | .create sid token ip preferences kind now =>
      Prog.done (createSession rt initialShard sid token ip preferences kind now)
  | .update sid updates now => Prog.done (updateSession rt sid updates now)
  | .pair session1 session2 generation now =>
      (pairSessions rt session1 session2 generation now).bind fun _ => .ret ()
  | .reset session1 session2 now => (resetPair rt session1 session2 now).bind fun _ => .ret ()
  | .disconnect sid now => (emergencyDisconnect rt sid now).bind fun _ => .ret ()
  | .disconnectPartner partnerId originSessionId now =>
      disconnectKnownPartner rt partnerId originSessionId now
  | .ban sid reason now => (emergencyBan rt sid reason now).bind fun _ => .ret ()
  | .unban sid now => Prog.done (emergencyUnban rt sid now)
  | .move sid newShard now => Prog.done (moveSessionShard rt sid newShard now)

/-- The store after an operation. -/
def SessionOperation.after (initialShard : String → ℕ) (s : Store) (op : SessionOperation) : Store :=
  ((op.program rt initialShard).run execMatch s).2

/-- The store after operations, one after another. -/
def afterAll (initialShard : String → ℕ) (s : Store) (ops : List SessionOperation) : Store :=
  ops.foldl (SessionOperation.after rt initialShard) s

/-! ### What a command touches -/

variable {rt} {s : Store} {sid : SessionId} {route : Route}

theorem Store.write_of_ne {session : Session} {token : String} {queueMeta : QueueMetadata}
    (h : sid ≠ session.id) : s.write route session token queueMeta sid = s sid :=
  Function.update_of_ne h _ _

theorem Store.setRecord_of_ne {sid' : SessionId} {session : Session} (h : sid ≠ sid') :
    s.setRecord sid' route session sid = s sid := Function.update_of_ne h _ _

/-- **A script touches the keys of the sessions it names.** -/
theorem execMatch_snd_of_notMem {c : MatchCmd} (h : sid ∉ c.sids) : (c.exec s).2 sid = s sid := by
  cases c with
  | pairScript route session1 session2 token1 token2 queueMeta1 queueMeta2 =>
      simp only [MatchCmd.sids, List.mem_cons, List.not_mem_nil, or_false, not_or] at h
      exact (Store.write_of_ne h.2).trans (Store.write_of_ne h.1)
  | resetPairScript route session1 session2 token1 token2 queueMeta1 queueMeta2 =>
      simp only [MatchCmd.sids, List.mem_cons, List.not_mem_nil, or_false, not_or] at h
      exact (Store.write_of_ne h.2).trans (Store.write_of_ne h.1)
  | emergencyBanScript sid' route reason now =>
      have hne : sid ≠ sid' := fun heq => h (List.mem_singleton.2 heq)
      simp only [MatchCmd.exec]
      split
      · rfl
      · split
        · rfl
        · exact Store.setRecord_of_ne hne
  | emergencyDisconnectScript sid' route now =>
      have hne : sid ≠ sid' := fun heq => h (List.mem_singleton.2 heq)
      simp only [MatchCmd.exec]
      split
      · rfl
      · exact Store.setRecord_of_ne hne
  | disconnectPartnerScript sid' route now expectedPeerId =>
      have hne : sid ≠ sid' := fun heq => h (List.mem_singleton.2 heq)
      simp only [MatchCmd.exec]
      split
      · rfl
      · split
        · rfl
        · exact Store.setRecord_of_ne hne
  | _ => rfl

/-! ### What a lookup issues -/

/-- The commands of a lookup. -/
inductive Op.Lookup : Op → Prop
  | getLocator : Op.Lookup .getLocator
  | exists (route : Route) : Op.Lookup (.exists route)
  | delLocator : Op.Lookup .delLocator
  | ttl (route : Route) : Op.Lookup (.ttl route)
  | setexLocator (route : Route) : Op.Lookup (.setexLocator route)
  | get (route : Route) : Op.Lookup (.get route)

section Lookups

variable {P : Cmd → Prop}

theorem all_existsPipeline (hP : ∀ op : Op, op.Lookup → P ⟨sid, op⟩) (routes : List Route) :
    (existsPipeline sid routes).All P := by
  induction routes with
  | nil => trivial
  | cons route routes ih =>
      refine All.bind (All.command (hP _ (.exists route))) fun reply => All.bind ih fun rest => ?_
      cases reply <;> trivial

theorem all_maybeVerifySessionExists (hP : ∀ op : Op, op.Lookup → P ⟨sid, op⟩)
    (verifyExists : Bool) : (maybeVerifySessionExists sid route verifyExists).All P := by
  cases verifyExists with
  | true =>
      refine All.bind (All.command (hP _ (.exists route))) fun reply => ?_
      split <;> trivial
  | false => trivial

theorem all_repairMissingSessionRoute (hP : ∀ op : Op, op.Lookup → P ⟨sid, op⟩)
    (verifyExists : Bool) : (repairMissingSessionRoute rt sid verifyExists).All P := by
  have hfind : (findSessionRoute rt sid).All P := by
    refine All.bind (all_existsPipeline hP _) fun result => ?_
    split
    · split <;> trivial
    · trivial
  have hpersist (route : Route) : (persistRepairedSessionLocator sid route).All P := by
    refine All.bind (All.command (hP _ (.ttl route))) fun reply => ?_
    split
    · refine All.bind (All.command (hP _ (.setexLocator route))) fun reply => ?_
      split <;> trivial
    · trivial
  refine All.bind hfind fun result => ?_
  split
  next route =>
    refine All.bind (all_maybeVerifySessionExists hP verifyExists) fun result => ?_
    split
    · refine All.bind (hpersist route) fun result => ?_
      split <;> trivial
    · trivial
  next => trivial

theorem all_resolveSessionRoute (hP : ∀ op : Op, op.Lookup → P ⟨sid, op⟩) (verifyExists : Bool) :
    (resolveSessionRoute rt sid verifyExists).All P := by
  refine All.bind (All.command (hP _ .getLocator)) fun reply => ?_
  split
  next route =>
    refine All.bind (all_maybeVerifySessionExists hP verifyExists) fun result => ?_
    split
    · trivial
    · refine All.bind (All.command (hP _ .delLocator)) fun _ => ?_
      exact all_repairMissingSessionRoute hP verifyExists
    · trivial
  next => exact all_repairMissingSessionRoute hP verifyExists
  next => trivial

theorem all_getSession (hP : ∀ op : Op, op.Lookup → P ⟨sid, op⟩) : (getSession rt sid).All P := by
  refine All.bind (all_resolveSessionRoute hP false) fun result => ?_
  split
  next route =>
    refine All.bind (All.command (hP _ (.get route))) fun reply => ?_
    split
    · trivial
    · exact All.bind (All.pipeline fun c hc => by
        obtain ⟨op, hop, rfl⟩ := List.mem_map.1 hc
        obtain rfl := List.mem_singleton.1 hop
        exact hP _ .delLocator) fun _ => trivial
    · trivial
  next => trivial

end Lookups

end Sessions
