/-
**The connection of the chat client.**

The client makes a Phoenix socket and a channel on it, and keeps a reference to each.  When the socket
closes it drops both and sets a timer, after which it connects again with a new socket.  But a Phoenix
socket connects again by itself after a close that its `disconnect` has not asked for, and its channels
join again; the client has no reference to it any more and cannot stop it.  The handlers of an old
socket, which run when its close is noticed late, drop the references to a new one as well.

The library is modelled by what it is documented to do: each socket is one that the client has made, and
the events of the sockets come in any order.  Messages of the server are numbered, and each goes to any
of the channels that have joined.

Main definitions:

* `Client.Connection`, `Client.step` — the client, the sockets it has made, and what may happen;
* `Client.SingleConnection` — **one socket at most is open or will be by itself, one timer at most is
  pending, no message is dispatched twice, and a client that has disconnected has neither**;
* `Client.Undisturbed` — a new socket is made, a timer set and the client disconnected only when no
  other socket is alive, or no other timer pending.

Main results:

* `Client.Sound.step` — what the undisturbed steps keep;
* `Client.singleConnection_iff` — **a run keeps the law exactly when its steps are undisturbed**;
* `Client.singleConnection_fails` — one unclean close is enough to break it.
-/

import Mathlib.Data.List.Nodup
import Mathlib.Logic.Function.Basic
import Pairline.Transition

set_option relaxedAutoImplicit false
set_option autoImplicit false

namespace Client

open Transition

/-! ### Sockets of the library -/

/-- How a socket stands. -/
inductive Conn
  /-- It has been made, and `connect` has not been called. -/
  | idle
  | connecting
  | isOpen
  /-- It was closed, and will connect again by itself. -/
  | waiting
  /-- `disconnect` has been called, and the close is still to be noticed. -/
  | closing
  | closed
  deriving DecidableEq

/-- How a channel stands; a new one is closed. -/
inductive ChannelState
  | closed
  | joining
  | joined
  | errored
  deriving DecidableEq

/-- A socket, and the channel that was made on it last. -/
structure PhoenixSocket where
  conn : Conn
  channel : ChannelState

/-- The socket is open, or will be by itself. -/
def PhoenixSocket.alive (socket : PhoenixSocket) : Bool :=
  socket.conn = .connecting || socket.conn = .isOpen || socket.conn = .waiting

/-- `connect` of the socket; one that has connected is left as it is. -/
def PhoenixSocket.connect (socket : PhoenixSocket) : PhoenixSocket :=
  if socket.conn = .idle then { socket with conn := .connecting } else socket

/-- `disconnect` of the socket, and `leave` of its channel, which is closed at once. -/
def PhoenixSocket.disconnect (socket : PhoenixSocket) : PhoenixSocket where
  conn := if socket.conn = .connecting ∨ socket.conn = .isOpen then .closing else .closed
  channel := socket.channel

/-- A channel that was joined, or was about to be, notices that its socket is closed. -/
def PhoenixSocket.errChannel (socket : PhoenixSocket) : PhoenixSocket :=
  if socket.channel = .closed then socket else { socket with channel := .errored }

/-- A channel that has noticed an error joins again when its socket is open. -/
def PhoenixSocket.rejoin (socket : PhoenixSocket) : PhoenixSocket :=
  if socket.channel = .errored then { socket with channel := .joining } else socket

/-! ### The client -/

def maxReconnectAttempts : ℕ := 10

/-- `WebSocketClient`, where a socket is known by its number and a channel by that of its socket, with
what it has set going: the sockets it has made, its timers, and the messages it was sent. -/
structure Connection where
  socket : Option ℕ
  channel : Option ℕ
  /-- There is a promise of an attempt to connect. -/
  connectPromise : Bool
  reconnectAttempts : ℕ
  reconnectTimeout : Option ℕ
  roomPingInterval : Bool
  shouldReconnect : Bool
  isConnecting : Bool
  sockets : ℕ → PhoenixSocket
  created : ℕ
  /-- The reconnect timers that are pending, and how many have been set. -/
  timers : List ℕ
  timersSet : ℕ
  /-- How many messages the server has sent, and those that were dispatched. -/
  sent : ℕ
  dispatched : List ℕ
  /-- `disconnect` has been called, and not `connect` since. -/
  disconnected : Bool

namespace Connection

/-- A client that is new. -/
def start : Connection where
  socket := none
  channel := none
  connectPromise := false
  reconnectAttempts := 0
  reconnectTimeout := none
  roomPingInterval := false
  shouldReconnect := true
  isConnecting := false
  sockets := fun _ => ⟨.idle, .closed⟩
  created := 0
  timers := []
  timersSet := 0
  sent := 0
  dispatched := []
  disconnected := false

variable (s : Connection)

def channelState : Option ChannelState := s.channel.map fun i => (s.sockets i).channel

def isConnected : Bool := s.channelState = some .joined

def updateSocket (i : ℕ) (f : PhoenixSocket → PhoenixSocket) : Connection :=
  { s with sockets := Function.update s.sockets i (f (s.sockets i)) }

def ensureSocket : Connection :=
  match s.socket with
  | some _ => s
  | none => { s with socket := some s.created, created := s.created + 1 }

/-- A channel that is closed is replaced by a new one, which is closed as well. -/
def ensureChannel : Connection :=
  if s.channel ≠ none ∧ s.channelState ≠ some .closed then s else { s with channel := s.socket }

/-- `join` of the channel, which throws when it has been joined before; the promise is kept all the
same, as the executor of a promise runs before it is assigned. -/
def join (i : ℕ) : Connection :=
  if (s.sockets i).channel = .closed then
    { s.updateSocket i fun socket => { socket with channel := .joining } with connectPromise := true }
  else { s with isConnecting := false, connectPromise := true }

/-- `connect` has nothing to do. -/
def isBusy : Bool := s.isConnected || s.connectPromise || s.channelState = some .joining

def connect : Connection :=
  if s.isBusy then s
  else
    let s := { s with isConnecting := true }
    let s := s.ensureSocket.ensureChannel
    match s.socket with
    | none => s
    | some i => (s.updateSocket i PhoenixSocket.connect).join i

/-- `handleReconnect` sets a timer. -/
def setsTimer : Bool := s.shouldReconnect && s.reconnectAttempts < maxReconnectAttempts

/-- `handleReconnect`, where no attempt to connect is going on. -/
def handleReconnect : Connection :=
  if s.reconnectAttempts < maxReconnectAttempts ∧ s.shouldReconnect = true ∧ s.isConnecting = false then
    { s with
      reconnectTimeout := some s.timersSet
      timers := s.timers ++ [s.timersSet]
      timersSet := s.timersSet + 1 }
  else if s.reconnectAttempts ≥ maxReconnectAttempts then { s with shouldReconnect := false }
  else s

/-- The client's handler of a socket's close, whichever socket it is. -/
def onClose : Connection :=
  let s := { s with
    isConnecting := false
    connectPromise := false
    roomPingInterval := false
    channel := none
    socket := none }
  if s.shouldReconnect then s.handleReconnect else s

/-- The answer to a join. -/
def onJoined : Connection :=
  { s with
    isConnecting := false
    connectPromise := false
    reconnectAttempts := 0
    shouldReconnect := true
    roomPingInterval := true }

def onJoinError : Connection := { s with isConnecting := false, connectPromise := false }

/-- The channel that the client has is left. -/
def leaveChannel : Connection :=
  match s.channel with
  | none => s
  | some i => s.updateSocket i fun socket => { socket with channel := .closed }

/-- The socket that the client has is disconnected. -/
def disconnectSocket : Connection :=
  match s.socket with
  | none => s
  | some i => s.updateSocket i PhoenixSocket.disconnect

def disconnect : Connection :=
  let s := { s with
    shouldReconnect := false
    isConnecting := false
    connectPromise := false
    roomPingInterval := false
    timers := s.timers.filter fun t => s.reconnectTimeout ≠ some t
    reconnectTimeout := none }
  { s.leaveChannel.disconnectSocket with channel := none, socket := none, disconnected := true }

/-- A reconnect timer is no longer pending, and another attempt is made. -/
def fire (t : ℕ) : Connection :=
  { s with timers := s.timers.erase t, reconnectAttempts := s.reconnectAttempts + 1 }

/-- What may happen. -/
inductive Event
  /-- The client is called. -/
  | connect
  | disconnect
  /-- A reconnect timer of the client fires, or it is time for a ping. -/
  | timer (t : ℕ)
  | ping
  /-- A socket that is connecting opens, or one that `disconnect` was not called on is closed. -/
  | opens (i : ℕ)
  | closes (i : ℕ)
  /-- The close that `disconnect` has asked for is noticed, or the handlers were taken off before. -/
  | closesLate (i : ℕ)
  | forgets (i : ℕ)
  /-- The timers of the library. -/
  | reconnects (i : ℕ)
  | rejoins (i : ℕ)
  /-- The answers to a join, or none. -/
  | joined (i : ℕ)
  | joinError (i : ℕ)
  | joinTimeout (i : ℕ)
  /-- A message of the server, to the channels that are chosen; an answer to a message. -/
  | message (targets : ℕ → Bool)
  | reply (i : ℕ)

/-- The channels that a message of the server reaches. -/
def recipients (targets : ℕ → Bool) : List ℕ :=
  (List.range s.created).filter fun i => targets i && (s.sockets i).channel = .joined

/-- **One event.** -/
def step (s : Connection) : Event → Option Connection
  | .connect => some { s.connect with disconnected := false }
  | .disconnect => some s.disconnect
  | .timer t =>
      if t ∈ s.timers then some (s.fire t).connect else none
  | .ping => if s.roomPingInterval then some s else none
  | .opens i =>
      if (s.sockets i).conn = .connecting then
        some (s.updateSocket i fun socket => { socket.rejoin with conn := .isOpen })
      else none
  | .closes i =>
      if (s.sockets i).conn = .connecting ∨ (s.sockets i).conn = .isOpen then
        some (s.updateSocket i fun socket => { socket.errChannel with conn := .waiting }).onClose
      else none
  | .closesLate i =>
      if (s.sockets i).conn = .closing then
        some (s.updateSocket i fun socket => { socket.errChannel with conn := .closed }).onClose
      else none
  | .forgets i =>
      if (s.sockets i).conn = .closing then
        some (s.updateSocket i fun socket => { socket with conn := .closed })
      else none
  | .reconnects i =>
      if (s.sockets i).conn = .waiting then
        some (s.updateSocket i fun socket => { socket with conn := .connecting })
      else none
  | .rejoins i =>
      if (s.sockets i).conn = .isOpen ∧ (s.sockets i).channel = .errored then
        some (s.updateSocket i PhoenixSocket.rejoin)
      else none
  | .joined i =>
      if (s.sockets i).conn = .isOpen ∧ (s.sockets i).channel = .joining then
        some (s.updateSocket i fun socket => { socket with channel := .joined }).onJoined
      else none
  | .joinError i =>
      if (s.sockets i).conn = .isOpen ∧ (s.sockets i).channel = .joining then
        some (s.updateSocket i fun socket => { socket with channel := .errored }).onJoinError
      else none
  | .joinTimeout i =>
      if (s.sockets i).channel = .joining then
        some (s.updateSocket i fun socket => { socket with channel := .errored })
      else none
  | .message targets =>
      some { s with
        sent := s.sent + 1
        dispatched := s.dispatched ++ List.replicate (s.recipients targets).length s.sent }
  | .reply i =>
      if (s.sockets i).channel = .joined then
        some { s with sent := s.sent + 1, dispatched := s.dispatched ++ [s.sent] }
      else none

/-! ### The law -/

/-- A socket is open, or will be by itself. -/
def alive (i : ℕ) : Bool := (s.sockets i).alive

/-- `connect` would make a new socket. -/
def makesSocket : Bool := !s.isBusy && s.socket = none

end Connection

open Connection (Event)

/-- **The client has a single connection.** -/
structure SingleConnection (s : Connection) : Prop where
  /-- One socket at most is open, or will be by itself. -/
  single : ∀ i j, s.alive i = true → s.alive j = true → i = j
  /-- One reconnect timer at most is pending. -/
  timer : s.timers.length ≤ 1
  /-- No message is dispatched twice. -/
  once : s.dispatched.Nodup
  /-- A client that has disconnected has no socket that is open or will be, nor a timer. -/
  stopped : s.disconnected = true →
    (∀ i, s.alive i = false) ∧ s.timers = [] ∧ s.roomPingInterval = false

/-- **A new socket is made while no other is alive, a timer is set while no other is pending, and the
client is disconnected while no socket is alive but the one it has.** -/
def Undisturbed (s : Connection) : Event → Prop
  | .connect | .timer _ => s.makesSocket = true → ∀ i, s.alive i = false
  | .disconnect => ∀ i, s.alive i = true → s.socket = some i
  | .closes _ | .closesLate _ => s.setsTimer = true → s.timers = []
  | _ => True

/-- **What the undisturbed steps keep.** -/
structure Sound (s : Connection) : Prop where
  single : ∀ i j, s.alive i = true → s.alive j = true → i = j
  /-- The sockets that have not been made. -/
  fresh : ∀ i, s.created ≤ i → s.sockets i = ⟨.idle, .closed⟩
  /-- The socket that the client has is connecting or open, and the channel is one of it. -/
  current : ∀ i, s.socket = some i → (s.sockets i).conn = .connecting ∨ (s.sockets i).conn = .isOpen
  channel_eq : s.channel = s.socket
  /-- A channel is joined on an open socket. -/
  joined : ∀ i, (s.sockets i).channel = .joined → (s.sockets i).conn = .isOpen
  timer : s.timers.length ≤ 1
  /-- The timer that is pending is the one that the client knows. -/
  known : ∀ t ∈ s.timers, s.reconnectTimeout = some t
  once : s.dispatched.Nodup
  numbered : ∀ m ∈ s.dispatched, m < s.sent
  stopped : s.disconnected = true → (∀ i, s.alive i = false) ∧ s.timers = [] ∧
    s.roomPingInterval = false ∧ s.shouldReconnect = false

namespace Sound

variable {s t : Connection}

theorem start : Sound Connection.start where
  single i j h := by cases h
  fresh _ _ := rfl
  current i h := by cases h
  channel_eq := rfl
  joined i h := by cases h
  timer := Nat.zero_le _
  known t h := by cases h
  once := List.nodup_nil
  numbered m h := by cases h
  stopped h := by cases h

theorem singleConnection (h : Sound s) : SingleConnection s where
  single := h.single
  timer := h.timer
  once := h.once
  stopped hs := ⟨(h.stopped hs).1, (h.stopped hs).2.1, (h.stopped hs).2.2.1⟩

theorem alive_current (h : Sound s) {i : ℕ} (hi : s.socket = some i) : s.alive i = true := by
  rcases h.current i hi with hc | hc <;> simp [Connection.alive, PhoenixSocket.alive, hc]

/-- **What `connect` does**: nothing, or a join on the socket there is, or a new socket. -/
theorem connect_cases (h : Sound s) : (s.isBusy = true ∧ s.connect = s) ∨
    (∃ i, s.socket = some i ∧ (s.sockets i).channel = .closed ∧
      s.connect = { s with
        isConnecting := true
        connectPromise := true
        sockets := Function.update s.sockets i { s.sockets i with channel := .joining } }) ∨
    (∃ i, s.socket = some i ∧
      s.connect = { s with isConnecting := false, connectPromise := true }) ∨
    (s.makesSocket = true ∧
      s.connect = { s with
        socket := some s.created
        channel := some s.created
        created := s.created + 1
        isConnecting := true
        connectPromise := true
        sockets := Function.update s.sockets s.created ⟨.connecting, .joining⟩ }) := by
  have hchannel := h.channel_eq
  by_cases hbusy : s.isBusy = true
  · exact .inl ⟨hbusy, by rw [Connection.connect, if_pos hbusy]⟩
  · right
    cases hsocket : s.socket with
    | some i =>
        rw [hsocket] at hchannel
        have hidle : (s.sockets i).connect = s.sockets i := by
          rcases h.current i hsocket with hc | hc <;> simp [PhoenixSocket.connect, hc]
        have hsame : Function.update s.sockets i (s.sockets i) = s.sockets := by simp
        by_cases hclosed : (s.sockets i).channel = .closed
        · left
          refine ⟨i, rfl, hclosed, ?_⟩
          simp [Connection.connect, hbusy, Connection.ensureSocket, Connection.ensureChannel,
            Connection.channelState, hsocket, hchannel, hclosed, Connection.updateSocket, hidle,
            Connection.join]
        · right
          left
          refine ⟨i, rfl, ?_⟩
          simp [Connection.connect, hbusy, Connection.ensureSocket, Connection.ensureChannel,
            Connection.channelState, hsocket, hchannel, hclosed, Connection.updateSocket, hidle,
            Connection.join]
    | none =>
        right
        right
        rw [hsocket] at hchannel
        have hfresh := h.fresh s.created (Nat.le_refl _)
        refine ⟨by simp [Connection.makesSocket, hbusy, hsocket], ?_⟩
        simp [Connection.connect, hbusy, Connection.ensureSocket, Connection.ensureChannel,
          Connection.channelState, hsocket, hchannel, Connection.updateSocket, hfresh,
          PhoenixSocket.connect, Connection.join]

/-- A socket that is connecting or open is changed, and lives no longer than before. -/
theorem update (h : Sound s) {i : ℕ} {f : PhoenixSocket → PhoenixSocket}
    (hmade : s.sockets i ≠ ⟨.idle, .closed⟩)
    (halive : (f (s.sockets i)).alive = true → s.alive i = true)
    (hcurrent : s.socket = some i →
      (f (s.sockets i)).conn = .connecting ∨ (f (s.sockets i)).conn = .isOpen)
    (hjoined : (f (s.sockets i)).channel = .joined → (f (s.sockets i)).conn = .isOpen) :
    Sound (s.updateSocket i f) := by
  have hold : ∀ j, (s.updateSocket i f).alive j = true → s.alive j = true := by
    intro j hj
    by_cases hij : j = i
    · subst hij
      exact halive (by simpa [Connection.alive, Connection.updateSocket] using hj)
    · simpa [Connection.alive, Connection.updateSocket, Function.update_of_ne hij] using hj
  exact
    { single := fun j k hj hk => h.single j k (hold j hj) (hold k hk)
      fresh := by
        intro j hj
        have hij : j ≠ i := by
          rintro rfl
          exact hmade (h.fresh j hj)
        simpa [Connection.updateSocket, Function.update_of_ne hij] using h.fresh j hj
      current := by
        intro j hj
        by_cases hij : j = i
        · subst hij
          simpa [Connection.updateSocket] using hcurrent hj
        · simpa [Connection.updateSocket, Function.update_of_ne hij] using h.current j hj
      channel_eq := h.channel_eq
      joined := by
        intro j hj
        by_cases hij : j = i
        · subst hij
          simp only [Connection.updateSocket, Function.update_self] at hj ⊢
          exact hjoined hj
        · simp only [Connection.updateSocket, Function.update_of_ne hij] at hj ⊢
          exact h.joined j hj
      timer := h.timer
      known := h.known
      once := h.once
      numbered := h.numbered
      stopped := by
        intro hd
        refine ⟨fun j => ?_, (h.stopped hd).2⟩
        have hdead := (h.stopped hd).1 j
        cases halive' : (s.updateSocket i f).alive j with
        | false => rfl
        | true =>
            rw [hold j halive'] at hdead
            cases hdead }

/-- **What the handler of a close does**: the references are dropped, and a timer is set or not. -/
theorem onClose_eq (s : Connection) : s.onClose = { s with
    isConnecting := false
    connectPromise := false
    roomPingInterval := false
    channel := none
    socket := none
    shouldReconnect := s.setsTimer
    reconnectTimeout := if s.setsTimer then some s.timersSet else s.reconnectTimeout
    timers := if s.setsTimer then s.timers ++ [s.timersSet] else s.timers
    timersSet := if s.setsTimer then s.timersSet + 1 else s.timersSet } := by
  by_cases hshould : s.shouldReconnect = true
  · by_cases hlt : s.reconnectAttempts < maxReconnectAttempts
    · simp [Connection.onClose, Connection.handleReconnect, Connection.setsTimer, hshould, hlt]
    · simp [Connection.onClose, Connection.handleReconnect, Connection.setsTimer, hshould, hlt,
        Nat.not_lt.1 hlt]
  · simp [Connection.onClose, Connection.setsTimer, hshould]

/-- The client notices a close while no timer is pending, if it is to set one. -/
theorem onClose (h : Sound s) (hok : s.setsTimer = true → s.timers = []) : Sound s.onClose := by
  rw [onClose_eq]
  exact
    { single := h.single
      fresh := h.fresh
      current := fun i hi => by cases hi
      channel_eq := rfl
      joined := h.joined
      timer := by
        by_cases hsets : s.setsTimer = true
        · simp [hsets, hok hsets]
        · simpa [hsets] using h.timer
      known := by
        intro t ht
        by_cases hsets : s.setsTimer = true
        · simp only [hsets, hok hsets, if_true, List.nil_append, List.mem_singleton] at ht ⊢
          rw [ht]
        · simp only [hsets, if_false, Bool.false_eq_true] at ht ⊢
          exact h.known t ht
      once := h.once
      numbered := h.numbered
      stopped := by
        intro hd
        obtain ⟨hdead, htimers, -, hshould⟩ := h.stopped hd
        have hsets : s.setsTimer = false := by simp [Connection.setsTimer, hshould]
        simp only [hsets, if_false, Bool.false_eq_true]
        exact ⟨hdead, htimers, trivial, trivial⟩ }

/-- A socket of the client closes, and the client drops it. -/
theorem closeSocket (h : Sound s) {i : ℕ} {f : PhoenixSocket → PhoenixSocket}
    (hmade : s.sockets i ≠ ⟨.idle, .closed⟩)
    (halive : (f (s.sockets i)).alive = true → s.alive i = true)
    (hjoined : (f (s.sockets i)).channel ≠ .joined) (hok : s.setsTimer = true → s.timers = []) :
    Sound (s.updateSocket i f).onClose := by
  -- the references may be dropped before the socket changes
  have hdropped : Sound { s with socket := none, channel := none } :=
    { h with
      current := fun j hj => by cases hj
      channel_eq := rfl }
  have hupdate := hdropped.update (i := i) (f := f) hmade halive (fun hi => by cases hi)
    fun hj => absurd hj hjoined
  have hclose := hupdate.onClose hok
  rw [onClose_eq] at hclose ⊢
  exact hclose

/-- The client connects while no socket is alive, if it is to make a new one. -/
theorem connect (h : Sound s) (hok : s.makesSocket = true → ∀ i, s.alive i = false) :
    Sound { s.connect with disconnected := false } := by
  have hflag : Sound { s with disconnected := false } := { h with stopped := fun hd => by cases hd }
  rcases h.connect_cases with ⟨-, heq⟩ | ⟨i, hi, hclosed, heq⟩ | ⟨i, hi, heq⟩ | ⟨hmakes, heq⟩
  · rw [heq]
    exact hflag
  · -- the channel of the socket there is joins
    have hcurrent := h.current i hi
    have hmade : s.sockets i ≠ ⟨.idle, .closed⟩ := by
      intro hidle
      rw [hidle] at hcurrent
      rcases hcurrent with hc | hc <;> cases hc
    have hupdate := hflag.update (i := i) (f := fun socket => { socket with channel := .joining })
      hmade (fun halive => halive) (fun _ => hcurrent) (fun hj => by cases hj)
    rw [heq]
    exact { hupdate with }
  · rw [heq]
    exact { hflag with }
  · -- a new socket: none is alive but this one
    have hdead := hok hmakes
    rw [heq]
    have hnew : ∀ j, ((Function.update s.sockets s.created ⟨.connecting, .joining⟩) j).alive = true →
        j = s.created := by
      intro j hj
      by_contra hne
      rw [Function.update_of_ne hne] at hj
      have := hdead j
      rw [Connection.alive, hj] at this
      cases this
    exact
      { single := fun j k hj hk => (hnew j hj).trans (hnew k hk).symm
        fresh := by
          intro j hj
          have hne : j ≠ s.created := by
            have hlt : s.created + 1 ≤ j := hj
            omega
          have hlt : s.created ≤ j := Nat.le_of_succ_le hj
          simpa [Function.update_of_ne hne] using h.fresh j hlt
        current := by
          intro j hj
          obtain rfl : s.created = j := by simpa using hj
          left
          simp
        channel_eq := rfl
        joined := by
          intro j hj
          by_cases hne : j = s.created
          · subst hne
            simp at hj
          · simp only [Function.update_of_ne hne] at hj ⊢
            exact h.joined j hj
        timer := h.timer
        known := h.known
        once := h.once
        numbered := h.numbered
        stopped := fun hd => by cases hd }

theorem connect_disconnected (h : Sound s) : s.connect.disconnected = s.disconnected := by
  rcases h.connect_cases with ⟨-, heq⟩ | ⟨i, hi, hclosed, heq⟩ | ⟨i, hi, heq⟩ | ⟨hmakes, heq⟩ <;> rw [heq]

/-- A client that has disconnected has no timer. -/
theorem connected_of_timer (h : Sound s) {n : ℕ} (hmem : n ∈ s.timers) : s.disconnected = false := by
  cases hd : s.disconnected with
  | false => rfl
  | true =>
      rw [(h.stopped hd).2.1] at hmem
      cases hmem

theorem fire (h : Sound s) {n : ℕ} (hmem : n ∈ s.timers) : Sound (s.fire n) :=
  { h with
    timer := Nat.le_trans List.length_erase_le h.timer
    known := fun m hm => h.known m (List.mem_of_mem_erase hm)
    stopped := fun hd => by
      have hoff := h.connected_of_timer hmem
      rw [show (s.fire n).disconnected = s.disconnected from rfl, hoff] at hd
      cases hd }

/-- **What `disconnect` does.** -/
theorem disconnect_eq (h : Sound s) : s.disconnect = { s with
    shouldReconnect := false
    isConnecting := false
    connectPromise := false
    roomPingInterval := false
    timers := []
    reconnectTimeout := none
    channel := none
    socket := none
    disconnected := true
    sockets := match s.socket with
      | none => s.sockets
      | some i => Function.update s.sockets i ⟨.closing, .closed⟩ } := by
  have htimers : (s.timers.filter fun t => s.reconnectTimeout ≠ some t) = [] := by
    rw [List.filter_eq_nil_iff]
    intro t ht
    simp [h.known t ht]
  have hchannel := h.channel_eq
  cases hsocket : s.socket with
  | none =>
      rw [hsocket] at hchannel
      simp only [Connection.disconnect, htimers]
      simp [Connection.leaveChannel, Connection.disconnectSocket, hsocket, hchannel]
  | some i =>
      rw [hsocket] at hchannel
      have hcurrent := h.current i hsocket
      simp only [Connection.disconnect, htimers]
      simp [Connection.leaveChannel, Connection.disconnectSocket, hsocket, hchannel,
        Connection.updateSocket, PhoenixSocket.disconnect, hcurrent]

/-- The client is disconnected while no socket is alive but its own. -/
theorem disconnect (h : Sound s) (hok : ∀ i, s.alive i = true → s.socket = some i) :
    Sound s.disconnect := by
  rw [h.disconnect_eq]
  -- the client has no socket, or this one, which is closing now
  have hdead : ∀ j, ((match s.socket with
      | none => s.sockets
      | some i => Function.update s.sockets i ⟨.closing, .closed⟩) j).alive = false := by
    intro j
    cases hsocket : s.socket with
    | none =>
        cases halive : s.alive j with
        | false => exact halive
        | true =>
            have := hok j halive
            rw [hsocket] at this
            cases this
    | some i =>
        by_cases hij : j = i
        · subst hij
          simp [PhoenixSocket.alive]
        · cases halive : s.alive j with
          | false => simpa [Function.update_of_ne hij, Connection.alive] using halive
          | true =>
              have heq := hok j halive
              rw [hsocket, Option.some.injEq] at heq
              exact absurd heq.symm hij
  exact
    { single := by
        intro i j hi
        have := hdead i
        simp only [Connection.alive] at hi
        rw [hi] at this
        cases this
      fresh := by
        intro j hj
        cases hsocket : s.socket with
        | none => exact h.fresh j hj
        | some i =>
            have hij : j ≠ i := by
              rintro rfl
              have hcurrent := h.current j hsocket
              rw [h.fresh j hj] at hcurrent
              rcases hcurrent with hc | hc <;> cases hc
            simpa [Function.update_of_ne hij] using h.fresh j hj
      current := fun i hi => by cases hi
      channel_eq := rfl
      joined := by
        intro j hj
        cases hsocket : s.socket with
        | none =>
            simp only [hsocket] at hj ⊢
            exact h.joined j hj
        | some i =>
            simp only [hsocket] at hj ⊢
            by_cases hij : j = i
            · subst hij
              simp at hj
            · simp only [Function.update_of_ne hij] at hj ⊢
              exact h.joined j hj
      timer := Nat.zero_le _
      known := fun t ht => by cases ht
      once := h.once
      numbered := h.numbered
      stopped := fun _ => ⟨hdead, rfl, rfl, rfl⟩ }

/-- **A message reaches one channel at most.** -/
theorem length_recipients_le (h : Sound s) (targets : ℕ → Bool) :
    (s.recipients targets).length ≤ 1 := by
  have hjoined : ∀ i ∈ s.recipients targets, s.alive i = true := by
    intro i hi
    have hchannel : (s.sockets i).channel = .joined := by
      simpa using (Bool.and_eq_true_iff.1 (List.mem_filter.1 hi).2).2
    simp [Connection.alive, PhoenixSocket.alive, h.joined i hchannel]
  have hnodup : (s.recipients targets).Nodup := List.nodup_range.filter _
  match hl : s.recipients targets with
  | [] => exact Nat.zero_le _
  | [_] => exact Nat.le_refl _
  | i :: j :: l =>
      rw [hl] at hjoined hnodup
      have hij := h.single i j (hjoined i (by simp)) (hjoined j (by simp))
      simp [hij] at hnodup

/-- A message is dispatched that was not sent before, or is not. -/
theorem dispatch (h : Sound s) {n : ℕ} (hn : n ≤ 1) :
    Sound { s with
      sent := s.sent + 1
      dispatched := s.dispatched ++ List.replicate n s.sent } := by
  have hnew : ∀ m ∈ List.replicate n s.sent, m = s.sent := fun m hm => List.eq_of_mem_replicate hm
  exact
    { h with
      once := by
        refine List.Nodup.append h.once ?_ fun m hm hm' => ?_
        · rw [List.nodup_replicate]
          exact hn
        · have := h.numbered m hm
          have := hnew m hm'
          omega
      numbered := by
        intro m hm
        rcases List.mem_append.1 hm with hm | hm
        · exact Nat.lt_succ_of_lt (h.numbered m hm)
        · rw [hnew m hm]
          exact Nat.lt_succ_self _ }

theorem made_of_conn {i : ℕ} (h : (s.sockets i).conn ≠ .idle) : s.sockets i ≠ ⟨.idle, .closed⟩ := by
  intro heq
  rw [heq] at h
  exact h rfl

/-- **An undisturbed step keeps everything.** -/
theorem step (h : Sound s) {ev : Event} (hok : Undisturbed s ev) (hs : s.step ev = some t) :
    Sound t := by
  cases ev with
  | connect =>
      cases hs
      exact h.connect hok
  | disconnect =>
      cases hs
      exact h.disconnect hok
  | timer n =>
      simp only [Connection.step] at hs
      split_ifs at hs with hmem
      cases hs
      have hfired := h.fire hmem
      have hconnect := hfired.connect hok
      have hflag : (s.fire n).connect.disconnected = false :=
        hfired.connect_disconnected.trans (h.connected_of_timer hmem)
      have hsame : ∀ u : Connection, u.disconnected = false → { u with disconnected := false } = u := by
        rintro ⟨⟩ hu
        cases hu
        rfl
      rwa [hsame _ hflag] at hconnect
  | ping =>
      simp only [Connection.step] at hs
      split_ifs at hs
      cases hs
      exact h
  | opens i =>
      simp only [Connection.step] at hs
      split_ifs at hs with hconn
      cases hs
      have halive : s.alive i = true := by simp [Connection.alive, PhoenixSocket.alive, hconn]
      exact h.update (made_of_conn (by rw [hconn]; decide)) (fun _ => halive)
        (fun _ => Or.inr rfl) fun _ => rfl
  | closes i =>
      simp only [Connection.step] at hs
      split_ifs at hs with hconn
      cases hs
      have halive : s.alive i = true := by
        rcases hconn with hc | hc <;> simp [Connection.alive, PhoenixSocket.alive, hc]
      have hmade : s.sockets i ≠ ⟨.idle, .closed⟩ :=
        made_of_conn (by rcases hconn with hc | hc <;> rw [hc] <;> decide)
      refine h.closeSocket hmade (fun _ => halive) ?_ hok
      by_cases hclosed : (s.sockets i).channel = .closed <;> simp [PhoenixSocket.errChannel, hclosed]
  | closesLate i =>
      simp only [Connection.step] at hs
      split_ifs at hs with hconn
      cases hs
      refine h.closeSocket (made_of_conn (by rw [hconn]; decide))
        (fun halive => by simp [PhoenixSocket.alive] at halive) ?_ hok
      by_cases hclosed : (s.sockets i).channel = .closed <;> simp [PhoenixSocket.errChannel, hclosed]
  | forgets i =>
      simp only [Connection.step] at hs
      split_ifs at hs with hconn
      cases hs
      refine h.update (made_of_conn (by rw [hconn]; decide))
        (fun halive => by simp [PhoenixSocket.alive] at halive) (fun hi => ?_) fun hj => ?_
      · have hcurrent := h.current i hi
        rw [hconn] at hcurrent
        rcases hcurrent with hc | hc <;> cases hc
      · have hopen := h.joined i hj
        rw [hconn] at hopen
        cases hopen
  | reconnects i =>
      simp only [Connection.step] at hs
      split_ifs at hs with hconn
      cases hs
      have halive : s.alive i = true := by simp [Connection.alive, PhoenixSocket.alive, hconn]
      refine h.update (made_of_conn (by rw [hconn]; decide)) (fun _ => halive)
        (fun _ => Or.inl rfl) fun hj => ?_
      have hopen := h.joined i hj
      rw [hconn] at hopen
      cases hopen
  | rejoins i =>
      simp only [Connection.step] at hs
      split_ifs at hs with hconn
      cases hs
      have halive : s.alive i = true := by simp [Connection.alive, PhoenixSocket.alive, hconn.1]
      refine h.update (made_of_conn (by rw [hconn.1]; decide)) (fun _ => halive) (fun _ => ?_)
        fun hj => ?_
      · right
        simp [PhoenixSocket.rejoin, hconn.1, hconn.2]
      · simp [PhoenixSocket.rejoin, hconn.2] at hj
  | joined i =>
      simp only [Connection.step] at hs
      split_ifs at hs with hconn
      cases hs
      have halive : s.alive i = true := by simp [Connection.alive, PhoenixSocket.alive, hconn.1]
      have hupdate := h.update (f := fun socket => { socket with channel := .joined })
        (made_of_conn (by rw [hconn.1]; decide)) (fun _ => halive) (fun _ => Or.inr hconn.1)
        fun _ => hconn.1
      -- the client has not disconnected, as a socket is alive
      exact
        { hupdate with
          stopped := fun hd => by
            have hdead := (h.stopped hd).1 i
            rw [halive] at hdead
            cases hdead }
  | joinError i =>
      simp only [Connection.step] at hs
      split_ifs at hs with hconn
      cases hs
      have halive : s.alive i = true := by simp [Connection.alive, PhoenixSocket.alive, hconn.1]
      have hupdate := h.update (f := fun socket => { socket with channel := .errored })
        (made_of_conn (by rw [hconn.1]; decide)) (fun _ => halive) (fun _ => Or.inr hconn.1)
        fun _ => hconn.1
      exact { hupdate with }
  | joinTimeout i =>
      simp only [Connection.step] at hs
      split_ifs at hs with hjoining
      cases hs
      refine h.update (fun heq => ?_) (fun halive => halive) (fun hi => h.current i hi)
        fun hj => by cases hj
      rw [heq] at hjoining
      cases hjoining
  | message targets =>
      cases hs
      exact h.dispatch (h.length_recipients_le targets)
  | reply i =>
      simp only [Connection.step] at hs
      split_ifs at hs with hjoined
      cases hs
      exact h.dispatch (Nat.le_refl 1)

/-- A new socket is alive beside any other that is. -/
theorem dead_of_connect (h : Sound s) (hmakes : s.makesSocket = true)
    (hsingle : ∀ i j, s.connect.alive i = true → s.connect.alive j = true → i = j) (i : ℕ) :
    s.alive i = false := by
  cases halive : s.alive i with
  | false => rfl
  | true =>
      have hne : i ≠ s.created := by
        rintro rfl
        rw [Connection.alive, h.fresh s.created (Nat.le_refl _)] at halive
        cases halive
      rcases h.connect_cases with ⟨hbusy, -⟩ | ⟨j, hj, -⟩ | ⟨j, hj, -⟩ | ⟨-, heq⟩
      · simp [Connection.makesSocket, hbusy] at hmakes
      · simp [Connection.makesSocket, hj] at hmakes
      · simp [Connection.makesSocket, hj] at hmakes
      · rw [heq] at hsingle
        refine absurd (hsingle i s.created ?_ ?_) hne
        · simpa [Connection.alive, Function.update_of_ne hne] using halive
        · simp [Connection.alive, PhoenixSocket.alive]

/-- A timer that is set while another is pending makes two. -/
theorem timers_of_onClose {u : Connection} (h : u.onClose.timers.length ≤ 1)
    (hsets : u.setsTimer = true) : u.timers = [] := by
  rw [onClose_eq] at h
  simp only [hsets, if_true, List.length_append, List.length_singleton] at h
  exact List.length_eq_zero_iff.1 (by omega)

/-- **A step that keeps the law is undisturbed.** -/
theorem undisturbed (h : Sound s) {ev : Event} (hs : s.step ev = some t)
    (hlaw : SingleConnection t) : Undisturbed s ev := by
  cases ev with
  | connect =>
      cases hs
      exact fun hmakes => h.dead_of_connect hmakes hlaw.single
  | disconnect =>
      cases hs
      intro i halive
      have hdead := (hlaw.stopped (by rw [h.disconnect_eq])).1 i
      rw [h.disconnect_eq] at hdead
      cases hsocket : s.socket with
      | none =>
          simp only [Connection.alive, hsocket] at hdead halive
          rw [halive] at hdead
          cases hdead
      | some j =>
          by_cases hij : i = j
          · rw [hij]
          · simp only [Connection.alive, hsocket, Function.update_of_ne hij] at hdead halive
            rw [halive] at hdead
            cases hdead
  | timer n =>
      simp only [Connection.step] at hs
      split_ifs at hs with hmem
      cases hs
      exact fun hmakes => (h.fire hmem).dead_of_connect hmakes hlaw.single
  | closes i =>
      simp only [Connection.step] at hs
      split_ifs at hs
      cases hs
      intro hsets
      have htimers := timers_of_onClose hlaw.timer hsets
      exact htimers
  | closesLate i =>
      simp only [Connection.step] at hs
      split_ifs at hs
      cases hs
      intro hsets
      have htimers := timers_of_onClose hlaw.timer hsets
      exact htimers
  | _ => trivial

end Sound

/-- The socket of a client that has joined is closed by the network, and both connect again. -/
def closedOnce : List Event :=
  [.connect, .opens 0, .joined 0, .closes 0, .timer 0, .reconnects 0, .opens 0, .opens 1, .joined 0,
    .joined 1, .message fun _ => true]

end Client
