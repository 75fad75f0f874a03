/-
**The signalling of a video chat.**

The client of a video chat handles the messages of its two sockets one after the other, but a handler
that waits for the browser, or for the TURN servers, is suspended, and others run in between.  So each
handler that waits is a task, which has got to one of the points where it waits; what it compares when it
goes on (the epoch of the chat, the connection, the partner) it has written down when it began.

Of the browser it is assumed that no operation of a closed connection succeeds any more (it fails, or is
never settled), and that the signalling state changes as the operations that succeed say; which of them
succeed, and when, is left open.  The references to the ids of the session and of the partner are also written by effects of the
renderer, which may come late and write what an earlier rendering has shown.

Main definitions:

* `Client.VideoChat` — the references of the client, the connections it has made, and its tasks;
* `Client.VideoChat.resetWebRTCTransport`, `Client.VideoChat.closeGoWebSocket` — the clean-up;
* `Client.VideoChat.offer`, `Client.VideoChat.answer`, `Client.VideoChat.ice` — the messages of the
  partner;
* `Client.VideoChat.resolve`, `Client.VideoChat.reject` — a task goes on;
* `Client.VideoChat.step` — **one event**.
-/

import Mathlib.Logic.Function.Basic
import Pairline.Transition

set_option relaxedAutoImplicit false
set_option autoImplicit false

namespace Client

/-! ### Connections and sockets -/

/-- The signalling state of a connection. -/
inductive Signaling
  | stable
  | haveLocalOffer
  | haveRemoteOffer
  deriving DecidableEq

/-- `RTCPeerConnection`, with the epoch and the partner that its handlers were made for, and the match
in which it was made. -/
structure PeerConnection where
  closed : Bool
  signaling : Signaling
  /-- It has a remote description. -/
  remoteDescription : Bool
  epoch : ℕ
  peer : String
  matchNo : ℕ

/-- The state of the signalling socket; one that is closing is closed, and this is still to be noticed. -/
inductive ReadyState
  | connecting
  | isOpen
  | closing
  deriving DecidableEq

/-- What is sent on the signalling socket; an answer is known by the task that made it. -/
inductive Packet
  | offer
  | answer (task : ℕ)
  | ice
  deriving DecidableEq

/-! ### Tasks -/

/-- What a task was started for: a message of the partner, the negotiation, or one that restarts it. -/
inductive Kind
  | offer
  | answer
  | negotiation
  | restart
  deriving DecidableEq

/-- The message brings a description. -/
def Kind.describes : Kind → Bool
  | offer | answer => true
  | negotiation | restart => false

/-- Where a task waits. -/
inductive Phase
  /-- For a local offer to be rolled back. -/
  | rollback
  /-- For the TURN servers. -/
  | turn
  /-- For the remote description to be applied. -/
  | remote
  /-- For a candidate that was taken from the queue, for the connection that is given. -/
  | flushing (pc : ℕ)
  | flushed
  /-- For the local tracks, for a local description to be made, and for it to be set. -/
  | tracks
  | create
  | setLocal
  /-- It has ended; or it has ended without applying the description of the message. -/
  | done
  | failed
  deriving DecidableEq

/-- The description of the message has been applied. -/
def Phase.applied : Phase → Bool
  | rollback | turn | remote | failed => false
  | _ => true

/-- The task works on its connection. -/
def Phase.onConnection : Phase → Bool
  | turn | done | failed => false
  | _ => true

/-- A handler that waits, with what it has written down: the epoch and the partner, and the connection
that it works on.  The match, and whether there was a usable socket when the message arrived and how many
had been closed by the network, are kept for what is said about it. -/
structure Task where
  kind : Kind
  phase : Phase
  pc : ℕ
  epoch : ℕ
  peer : String
  matchNo : ℕ
  hadSocket : Bool
  closes : ℕ

/-- A candidate of the partner, the match in which it was received, and the last offer or answer that
was received in this match before. -/
structure Candidate where
  id : ℕ
  matchNo : ℕ
  after : Option ℕ
  deriving DecidableEq

/-- A candidate was handed to a connection; whether this was the client's connection then, and whether
the description before it had been applied to it. -/
structure Handing where
  candidate : Candidate
  pc : ℕ
  current : Bool
  ready : Bool

/-! ### The client -/

/-- **The references of the client**, the connections and the tasks it has made, and what has happened. -/
structure VideoChat where
  chatEpoch : ℕ
  peerId : Option String
  sessionId : Option String
  webrtcWs : Option ReadyState
  webrtcSocketOpen : Bool
  webrtcWsQueue : List Packet
  peerConnection : Option ℕ
  pendingIceCandidates : List Candidate
  pendingWebrtcStart : Option String
  negotiationStarted : Bool
  goWsReconnectExhausted : Bool
  connections : ℕ → PeerConnection
  made : ℕ
  tasks : ℕ → Task
  started : ℕ
  /-- What the renderings have shown as the ids of the partner and of the session. -/
  peerIds : List (Option String)
  sessionIds : List (Option String)
  /-- How often a match has begun or ended. -/
  matchNo : ℕ
  /-- How many sockets the network or the server has closed. -/
  closes : ℕ
  /-- The last offer or answer of this match. -/
  lastDescription : Option ℕ
  /-- The descriptions that were applied, with their connections. -/
  applied : List (ℕ × ℕ)
  sent : List Packet
  received : List Candidate
  handed : List Handing

namespace VideoChat

/-- A client that is new. -/
def start : VideoChat where
  chatEpoch := 0
  peerId := none
  sessionId := none
  webrtcWs := none
  webrtcSocketOpen := false
  webrtcWsQueue := []
  peerConnection := none
  pendingIceCandidates := []
  pendingWebrtcStart := none
  negotiationStarted := false
  goWsReconnectExhausted := false
  connections := fun _ => ⟨true, .stable, false, 0, "", 0⟩
  made := 0
  tasks := fun _ => ⟨.restart, .done, 0, 0, "", 0, false, 0⟩
  started := 0
  peerIds := [none]
  sessionIds := [none]
  matchNo := 0
  closes := 0
  lastDescription := none
  applied := []
  sent := []
  received := []
  handed := []

variable (s : VideoChat)

/-! ### Small steps -/

def beginNewChatEpoch : VideoChat := { s with chatEpoch := s.chatEpoch + 1 }

/-- A match begins or ends. -/
def turnMatch : VideoChat := { s with matchNo := s.matchNo + 1, lastDescription := none }

def setPeerId (peer : Option String) : VideoChat := { s with peerIds := s.peerIds ++ [peer] }

def setSessionId (session : Option String) : VideoChat :=
  { s with sessionIds := s.sessionIds ++ [session] }

/-- The socket is given up, and its handlers are taken off. -/
def closeGoWebSocket : VideoChat := { s with webrtcWs := none, webrtcSocketOpen := false }

/-- The connection is closed, and given up. -/
def closePeerConnection : VideoChat :=
  { s with
    connections := match s.peerConnection with
      | none => s.connections
      | some p => Function.update s.connections p { s.connections p with closed := true }
    peerConnection := none }

def resetWebRTCTransport : VideoChat :=
  { s.closeGoWebSocket.closePeerConnection with
    pendingWebrtcStart := none
    negotiationStarted := false
    pendingIceCandidates := []
    webrtcWsQueue := [] }

/-- A new socket for the session, in place of the one there is. -/
def openGoWebSocket (session : String) : VideoChat :=
  { s.closeGoWebSocket.setSessionId (some session) with
    goWsReconnectExhausted := false
    sessionId := some session
    webrtcWs := some .connecting }

/-- `createPeerConnection`; the connection that there is, is not closed. -/
def createPeerConnection (peer : String) : VideoChat :=
  { s with
    connections := Function.update s.connections s.made
      ⟨false, .stable, false, s.chatEpoch, peer, s.matchNo⟩
    made := s.made + 1
    peerConnection := some s.made }

def setTask (i : ℕ) (task : Task) : VideoChat := { s with tasks := Function.update s.tasks i task }

def startTask (task : Task) : VideoChat :=
  { s.setTask s.started task with started := s.started + 1 }

/-- A task gets on. -/
def goOn (i : ℕ) (phase : Phase) : VideoChat := s.setTask i { s.tasks i with phase := phase }

def setSignaling (p : ℕ) (signaling : Signaling) : VideoChat :=
  { s with
    connections := Function.update s.connections p { s.connections p with signaling := signaling } }

/-- The remote description of a task's message is applied. -/
def apply (i p : ℕ) (signaling : Signaling) : VideoChat :=
  { s with
    connections := Function.update s.connections p
      { s.connections p with signaling := signaling, remoteDescription := true }
    applied := s.applied ++ [(i, p)] }

/-- The socket is usable: what is given to it is sent, or will be when it is open. -/
def hasSocket : Bool := s.webrtcWs = some .connecting || s.webrtcWs = some .isOpen

/-- A new task, which writes down what it will compare. -/
def newTask (kind : Kind) (phase : Phase) (pc : ℕ) (peer : String) : Task where
  kind := kind
  phase := phase
  pc := pc
  epoch := s.chatEpoch
  peer := peer
  matchNo := s.matchNo
  hadSocket := s.hasSocket
  closes := s.closes

def sendWebRTC (packet : Packet) (currentPeerId : String) : VideoChat :=
  if s.sessionId = none ∨ s.peerId ≠ some currentPeerId then s
  else
    match s.webrtcWs with
    | some .isOpen => { s with sent := s.sent ++ [packet] }
    | some .connecting => { s with webrtcWsQueue := s.webrtcWsQueue ++ [packet] }
    | some .closing | none => s

/-! ### Candidates -/

/-- The description before a candidate was applied to a connection. -/
def ready (c : Candidate) (p : ℕ) : Bool :=
  match c.after with
  | none => true
  | some i => s.applied.contains (i, p)

/-- `addIceCandidate`. -/
def addIceCandidate (c : Candidate) (p : ℕ) : VideoChat :=
  { s with handed := s.handed ++ [⟨c, p, s.peerConnection = some p, s.ready c p⟩] }

/-- One turn of the loop of `flushIceCandidates`, and what comes after it. -/
def flushIceCandidates (i p : ℕ) (next : Phase) : VideoChat :=
  match s.pendingIceCandidates with
  | [] => s.goOn i next
  | c :: rest => ({ s with pendingIceCandidates := rest }.addIceCandidate c p).goOn i (.flushing p)

/-! ### Negotiation -/

def isCallerSession (sessionId peerId : String) : Bool := peerId < sessionId

def startNegotiationIfNeeded (targetPeerId : String) : VideoChat :=
  match s.sessionId with
  | none => s
  | some session =>
      if s.negotiationStarted ∨ s.peerId ≠ some targetPeerId ∨
          isCallerSession session targetPeerId = false then s
      else
        let s := { s with negotiationStarted := true }
        match s.peerConnection with
        | none => s.startTask (s.newTask .negotiation .turn 0 targetPeerId)
        | some p => s.startTask (s.newTask .negotiation .tracks p targetPeerId)

/-! ### Messages -/

def shouldIgnoreIncomingSignal (incomingPeerId : String) : Bool := s.peerId ≠ some incomingPeerId

/-- `connected` and `searching`. -/
def connected (session : String) : VideoChat :=
  if s.sessionId = some session then s else s.openGoWebSocket session

/-- `match`. -/
def matched (peer : Option String) (videoEnabled : Bool) : VideoChat :=
  let s := { s.beginNewChatEpoch.turnMatch.closePeerConnection.setPeerId peer with
    pendingIceCandidates := []
    pendingWebrtcStart := none
    negotiationStarted := false
    peerId := peer }
  if videoEnabled = false then s.resetWebRTCTransport
  else if s.webrtcSocketOpen then s
  else
    match s.webrtcWs, s.sessionId with
    | none, some session => if s.goWsReconnectExhausted then s else s.openGoWebSocket session
    | _, _ => s

def webrtcStart (peer : String) : VideoChat :=
  if s.shouldIgnoreIncomingSignal peer then s
  else if s.webrtcSocketOpen then s.startNegotiationIfNeeded peer
  else { s with pendingWebrtcStart := some peer }

/-- The message whose task comes next is the last description. -/
def noteDescription : VideoChat := { s with lastDescription := some s.started }

def offer (peer : String) : VideoChat :=
  if s.shouldIgnoreIncomingSignal peer then s
  else
    let task := s.newTask .offer .turn 0 peer
    let s := s.noteDescription
    match s.peerConnection with
    | none => s.startTask task
    | some p =>
        let pc := s.connections p
        if pc.closed = false ∧ pc.signaling = .haveLocalOffer then
          s.startTask { task with phase := .rollback, pc := p }
        else if pc.closed = true ∨ pc.signaling ≠ .stable then
          s.resetWebRTCTransport.startTask task
        else s.startTask { task with phase := .remote, pc := p }

/-- A message that names no partner is not ignored. -/
def answer (peer : Option String) : VideoChat :=
  if peer.any s.shouldIgnoreIncomingSignal then s
  else
    let s := s.noteDescription
    match s.peerConnection with
    | none => s.startTask (s.newTask .answer .failed 0 (peer.getD ""))
    | some p =>
        if (s.connections p).signaling = .haveLocalOffer then
          s.startTask (s.newTask .answer .remote p (peer.getD ""))
        else s.startTask (s.newTask .answer .failed p (peer.getD ""))

/-- The next candidate. -/
def candidate : Candidate := ⟨s.received.length, s.matchNo, s.lastDescription⟩

def receive (c : Candidate) : VideoChat := { s with received := s.received ++ [c] }

def ice (peer : Option String) : VideoChat :=
  if peer.any s.shouldIgnoreIncomingSignal then s
  else
    match s.peerConnection with
    | none =>
        { s.receive s.candidate with pendingIceCandidates := s.pendingIceCandidates ++ [s.candidate] }
    | some p =>
        if (s.connections p).closed then s
        else if (s.connections p).remoteDescription then
          (s.receive s.candidate).addIceCandidate s.candidate p
        else
          { s.receive s.candidate with
            pendingIceCandidates := s.pendingIceCandidates ++ [s.candidate] }

/-! ### The ends of a match -/

def disconnected : VideoChat :=
  (s.setPeerId none).beginNewChatEpoch.turnMatch.resetWebRTCTransport

def banned : VideoChat := s.beginNewChatEpoch.turnMatch.resetWebRTCTransport

def timeout : VideoChat := (s.setPeerId none).beginNewChatEpoch.turnMatch.resetWebRTCTransport

def stopped : VideoChat :=
  ((s.beginNewChatEpoch.setPeerId none).setSessionId none).turnMatch.resetWebRTCTransport

def startSearch : VideoChat :=
  { s.beginNewChatEpoch with negotiationStarted := false, goWsReconnectExhausted := false }

def stopSearch : VideoChat :=
  ({ (s.beginNewChatEpoch.turnMatch.setPeerId none) with
    peerId := none, sessionId := none }.resetWebRTCTransport).setSessionId none

def skip : VideoChat :=
  { (s.beginNewChatEpoch.setPeerId none).turnMatch.resetWebRTCTransport with
    goWsReconnectExhausted := false }

def cleanup : VideoChat :=
  { s.beginNewChatEpoch.turnMatch with peerId := none, sessionId := none }.resetWebRTCTransport

def disconnect : VideoChat := (s.beginNewChatEpoch.setPeerId none).cleanup

/-- The socket of the chat is closed; the epoch stays. -/
def phoenixClosed : VideoChat :=
  { ((s.setPeerId none).setSessionId none).turnMatch with
    peerId := none, sessionId := none }.resetWebRTCTransport

/-! ### The signalling socket -/

/-- `onopen`: what is queued is sent, and a negotiation that was put off begins. -/
def socketOpens : VideoChat :=
  let s := { s with
    webrtcWs := some .isOpen
    webrtcSocketOpen := true
    sent := s.sent ++ s.webrtcWsQueue
    webrtcWsQueue := [] }
  match s.pendingWebrtcStart with
  | none => s
  | some peer => { s with pendingWebrtcStart := none }.startNegotiationIfNeeded peer

/-- `onclose`, after which the server may have rejected the session too often. -/
def socketClosed (exhausted : Bool) : VideoChat :=
  { s.closeGoWebSocket with goWsReconnectExhausted := exhausted || s.goWsReconnectExhausted }

/-! ### Tasks go on -/

/-- The epoch and the partner are those that the task has written down. -/
def sameChat (task : Task) : Bool := s.chatEpoch = task.epoch && s.peerId = some task.peer

/-- … and so is the connection. -/
def sameConnection (task : Task) : Bool := s.sameChat task && s.peerConnection = some task.pc

/-- A negotiation gives up. -/
def giveUp (i : ℕ) : VideoChat :=
  match (s.tasks i).kind with
  | .negotiation => { s.goOn i .done with negotiationStarted := false }
  | _ => s.goOn i .done

/-- What a task does when the loop has found the queue empty. -/
def afterFlush (i : ℕ) : Phase := if (s.tasks i).kind = .answer then .done else .flushed

/-- The connection for which the queue is taken apart when a description has been applied: that of the
task, if all is as it was written down; after an answer the client's, if it has a description. -/
def flushTarget (i : ℕ) : Option ℕ :=
  match (s.tasks i).kind with
  | .answer => s.peerConnection.filter fun p => (s.connections p).remoteDescription
  | _ => if s.sameConnection (s.tasks i) then some (s.tasks i).pc else none

/-- The remote description of a task's message has been applied. -/
def remoteApplied (i : ℕ) : VideoChat :=
  (s.apply i (s.tasks i).pc
    (if (s.tasks i).kind = .answer then .stable else .haveRemoteOffer)).goOn i .flushed

/-- What a task does after its description has been applied. -/
def afterRemote (i : ℕ) : VideoChat :=
  match s.flushTarget i with
  | none => s.goOn i .done
  | some p => s.flushIceCandidates i p (s.afterFlush i)

/-- **The operation that a task waits for succeeds.** -/
def resolve (i : ℕ) : Option VideoChat :=
  let task := s.tasks i
  let open? := (s.connections task.pc).closed = false
  match task.phase with
  | .rollback =>
      if open? then some ((s.setSignaling task.pc .stable).goOn i .remote) else none
  | .turn =>
      match task.kind with
      | .negotiation =>
          if s.sameChat task then
            some ((s.createPeerConnection task.peer).setTask i { task with phase := .tracks, pc := s.made })
          else some (s.giveUp i)
      | _ =>
          if s.sameChat task then
            some ((s.createPeerConnection task.peer).setTask i { task with phase := .remote, pc := s.made })
          else some (s.goOn i .failed)
  | .remote => if open? then some ((s.remoteApplied i).afterRemote i) else none
  | .flushing p =>
      if (s.connections p).closed = false then some (s.flushIceCandidates i p (s.afterFlush i)) else none
  | .flushed => some (s.goOn i .tracks)
  | .tracks =>
      if s.sameConnection task then some (s.goOn i .create) else some (s.giveUp i)
  | .create => if open? then some (s.goOn i .setLocal) else none
  | .setLocal =>
      if open? then
        match task.kind with
        | .offer =>
            let s := s.setSignaling task.pc .stable
            if s.sameConnection task then
              some ((s.sendWebRTC (.answer i) task.peer).goOn i .done)
            else some (s.goOn i .done)
        | _ =>
            let s := s.setSignaling task.pc .haveLocalOffer
            if s.sameConnection task then some ((s.sendWebRTC .offer task.peer).goOn i .done)
            else some (s.giveUp i)
      else none
  | .done | .failed => none

/-- **The operation that a task waits for fails.** -/
def reject (i : ℕ) : Option VideoChat :=
  let task := s.tasks i
  match task.phase with
  | .rollback => some (s.resetWebRTCTransport.goOn i .turn)
  | .remote => some (s.goOn i .failed)
  | .flushing p => some (s.flushIceCandidates i p (s.afterFlush i))
  | .tracks | .create | .setLocal => some (s.giveUp i)
  | .turn | .flushed | .done | .failed => none

/-! ### Events -/

/-- The connection is the client's, in the chat it was made for. -/
def isCurrentPeerConnection (p : ℕ) : Bool :=
  s.peerConnection = some p && s.peerId = some (s.connections p).peer &&
    s.chatEpoch = (s.connections p).epoch

/-- What may happen. -/
inductive Event
  /-- Messages of the chat. -/
  | connected (session : String)
  | matched (peer : Option String) (videoEnabled : Bool)
  | webrtcStart (peer : String)
  | disconnected
  | banned
  | timeout
  | stopped
  /-- Messages of the partner, as the signalling socket hands them on. -/
  | offer (peer : String)
  | answer (peer : Option String)
  | ice (peer : Option String)
  /-- The user, and the end of the page. -/
  | startSearch
  | stopSearch
  | skip
  | disconnect
  | cleanup
  /-- The socket of the chat is closed. -/
  | phoenixClosed
  /-- The signalling socket opens, is closed by the network or the server, and notices it; it is made
  again by a timer. -/
  | socketOpens
  | socketDrops
  | socketClosed (exhausted : Bool)
  | reconnect
  /-- An effect of the renderer writes what some rendering has shown. -/
  | peerEffect (n : ℕ)
  | sessionEffect (n : ℕ)
  /-- The operation that a task waits for is settled. -/
  | resolve (i : ℕ)
  | reject (i : ℕ)
  /-- A connection has a candidate of its own, or needs another negotiation. -/
  | localCandidate (p : ℕ)
  | negotiationNeeded (p : ℕ)

/-- **One event.** -/
def step (s : VideoChat) : Event → Option VideoChat
  | .connected session => some (s.connected session)
  | .matched peer videoEnabled => some (s.matched peer videoEnabled)
  | .webrtcStart peer => some (s.webrtcStart peer)
  | .disconnected => some s.disconnected
  | .banned => some s.banned
  | .timeout => some s.timeout
  | .stopped => some s.stopped
  | .offer peer => some (s.offer peer)
  | .answer peer => some (s.answer peer)
  | .ice peer => some (s.ice peer)
  | .startSearch => some s.startSearch
  | .stopSearch => some s.stopSearch
  | .skip => some s.skip
  | .disconnect => some s.disconnect
  | .cleanup => some s.cleanup
  | .phoenixClosed => some s.phoenixClosed
  | .socketOpens => if s.webrtcWs = some .connecting then some s.socketOpens else none
  | .socketDrops =>
      if s.hasSocket then some { s with webrtcWs := some .closing, closes := s.closes + 1 } else none
  | .socketClosed exhausted =>
      if s.webrtcWs = some .closing then some (s.socketClosed exhausted) else none
  | .reconnect =>
      match s.sessionId with
      | some session => if s.goWsReconnectExhausted then none else some (s.openGoWebSocket session)
      | none => none
  | .peerEffect n => (s.peerIds[n]?).map fun peer => { s with peerId := peer }
  | .sessionEffect n => (s.sessionIds[n]?).map fun session => { s with sessionId := session }
  | .resolve i => s.resolve i
  | .reject i => s.reject i
  | .localCandidate p =>
      if s.isCurrentPeerConnection p then
        some (s.sendWebRTC .ice (s.connections p).peer)
      else none
  | .negotiationNeeded p =>
      if s.isCurrentPeerConnection p ∧ s.sessionId ≠ none ∧ (s.connections p).signaling = .stable then
        some (s.startTask (s.newTask .restart .create p (s.connections p).peer))
      else none

/-! ### What the operations leave alone -/

section Frames

variable (s : VideoChat)

theorem sendWebRTC_eq (packet : Packet) (peer : String) : ∃ sent queue,
    s.sendWebRTC packet peer = { s with sent := sent, webrtcWsQueue := queue } := by
  unfold sendWebRTC
  split
  · exact ⟨s.sent, s.webrtcWsQueue, rfl⟩
  · split
    · exact ⟨_, s.webrtcWsQueue, rfl⟩
    · exact ⟨s.sent, _, rfl⟩
    · exact ⟨s.sent, s.webrtcWsQueue, rfl⟩
    · exact ⟨s.sent, s.webrtcWsQueue, rfl⟩

theorem giveUp_eq (i : ℕ) : ∃ negotiating,
    s.giveUp i = { s with negotiationStarted := negotiating }.goOn i .done := by
  unfold giveUp
  split
  · exact ⟨false, rfl⟩
  · exact ⟨s.negotiationStarted, rfl⟩

theorem flushIceCandidates_eq (i p : ℕ) (next : Phase) : ∃ pending handed phase,
    (phase = next ∨ phase = .flushing p) ∧ s.flushIceCandidates i p next =
      { s with pendingIceCandidates := pending, handed := handed }.goOn i phase := by
  unfold flushIceCandidates
  split
  · exact ⟨s.pendingIceCandidates, s.handed, next, .inl rfl, rfl⟩
  · exact ⟨_, _, .flushing p, .inr rfl, rfl⟩

theorem startNegotiationIfNeeded_eq (peer : String) : s.startNegotiationIfNeeded peer = s ∨
    ∃ phase pc, (phase = .turn ∨ phase = .tracks ∧ s.peerConnection = some pc) ∧
      s.startNegotiationIfNeeded peer =
        { s with negotiationStarted := true }.startTask (s.newTask .negotiation phase pc peer) := by
  unfold startNegotiationIfNeeded
  split
  · exact .inl rfl
  · split
    · exact .inl rfl
    · right
      dsimp only
      split
      · exact ⟨.turn, 0, .inl rfl, rfl⟩
      · rename_i p hp
        exact ⟨.tracks, p, .inr ⟨rfl, hp⟩, rfl⟩

end Frames

end VideoChat

end Client
