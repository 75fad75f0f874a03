/-
**Offers of the partner are answered.**

A handler of an offer makes an answer on the way, and sends it on the signalling socket.  But where it
finds a connection that it cannot use, or a rollback fails, it resets the transport of the match that it
is in: with the connection this closes the socket, empties its queue and takes its handlers off, so that
no handler is left that would open one again.  The answer that the handler sets then has no socket to go
to.

Main definitions:

* `Client.VideoChat.AnswerKept` — **when a local answer is set, it has been sent or is queued**, if its
  match is still on and the network has not closed the socket;
* `Client.VideoChat.Calm` — no handler takes down the transport of the match that it is in;
* `Client.VideoChat.Sound` — what calm steps keep.

Main results:

* `Client.VideoChat.Sound.step` — the step lemma;
* `Client.VideoChat.offersAnswered` — **in a run of calm steps every answer is kept**;
* `Client.VideoChat.offersAnswered_fails` — an offer that comes while another is being answered is enough.
-/

import Pairline.Client.VideoChat

set_option relaxedAutoImplicit false
set_option autoImplicit false

namespace Client

open Transition

namespace VideoChat

/-! ### The law -/

/-- The offer of a task is to be answered: its local answer is being set, the match has not changed since
the offer arrived, and there was a usable socket then, which the network has not closed. -/
def Owed (s : VideoChat) (i : ℕ) : Prop :=
  let task := s.tasks i
  task.kind = .offer ∧ task.phase = .setLocal ∧ task.hadSocket = true ∧ task.closes = s.closes ∧
    task.matchNo = s.matchNo ∧ s.sameChat task = true

/-- **When the local answer is set, it has been sent or is queued.** -/
def AnswerKept (s : VideoChat) (e : Event) : Prop :=
  ∀ i t, e = .resolve i → s.Owed i → s.step e = some t → .answer i ∈ t.sent ∨ .answer i ∈ t.webrtcWsQueue

/-- **No handler takes down the transport of the match that it is in**: an offer finds no connection, or
one that is stable or has a local offer; a rollback does not fail; while a task of this chat waits for
the TURN servers, no other makes a connection; and no late effect takes away the session of a socket. -/
def Calm (s : VideoChat) : Event → Prop
  | .offer peer => s.peerId = some peer → ∀ p ∈ s.peerConnection,
      (s.connections p).closed = false ∧
        ((s.connections p).signaling = .stable ∨ (s.connections p).signaling = .haveLocalOffer)
  | .reject i => (s.tasks i).phase ≠ .rollback
  | .resolve i => (s.tasks i).phase = .turn → s.sameChat (s.tasks i) = true → s.peerConnection = none
  | .sessionEffect n => s.sessionIds[n]? = some none → s.webrtcWs = none
  | _ => True

instance (s : VideoChat) (i : ℕ) : Decidable (s.Owed i) :=
  inferInstanceAs (Decidable (_ ∧ _ ∧ _ ∧ _ ∧ _ ∧ _))

instance (s : VideoChat) : DecidablePred (Calm s)
  | .offer peer => inferInstanceAs (Decidable (s.peerId = some peer → ∀ p ∈ s.peerConnection,
      (s.connections p).closed = false ∧
        ((s.connections p).signaling = .stable ∨ (s.connections p).signaling = .haveLocalOffer)))
  | .reject i => inferInstanceAs (Decidable ((s.tasks i).phase ≠ .rollback))
  | .resolve i => inferInstanceAs (Decidable ((s.tasks i).phase = .turn →
      s.sameChat (s.tasks i) = true → s.peerConnection = none))
  | .sessionEffect n =>
      inferInstanceAs (Decidable (s.sessionIds[n]? = some none → s.webrtcWs = none))
  | .connected _ | .matched .. | .webrtcStart _ | .disconnected | .banned | .timeout | .stopped
  | .answer _ | .ice _ | .startSearch | .stopSearch | .skip | .disconnect | .cleanup | .phoenixClosed
  | .socketOpens | .socketDrops | .socketClosed _ | .reconnect | .peerEffect _ | .localCandidate _
  | .negotiationNeeded _ => .isTrue trivial

/-! ### The invariant -/

/-- **What calm steps keep**: the tasks of this match that work on a connection which is open work on the
client's, and if there was a usable socket when one of them began and the network has closed none since,
there is one. -/
structure Sound (s : VideoChat) : Prop where
  notLater : ∀ i, (s.tasks i).matchNo ≤ s.matchNo ∧ (s.tasks i).closes ≤ s.closes
  session : s.webrtcWs ≠ none → s.sessionId ≠ none
  socket : ∀ i, (s.tasks i).matchNo = s.matchNo → (s.tasks i).closes = s.closes →
    (s.tasks i).hadSocket = true → s.hasSocket = true
  current : ∀ p, s.peerConnection = some p → p < s.made
  made : ∀ i, (s.tasks i).phase.onConnection = true → (s.tasks i).pc < s.made
  connection : ∀ i, (s.tasks i).matchNo = s.matchNo → (s.tasks i).phase.onConnection = true →
    (s.connections (s.tasks i).pc).closed = false → s.peerConnection = some (s.tasks i).pc

theorem sound_start : Sound start where
  notLater _ := ⟨Nat.le_refl _, Nat.le_refl _⟩
  session h := absurd rfl h
  socket _ _ _ h := by cases h
  current _ h := by cases h
  made _ h := by cases h
  connection _ _ h := by cases h

section Sound

variable {s t : VideoChat}

/-- A step that leaves the tasks, the connections and the socket alone. -/
theorem Sound.frame (h : Sound s) (htasks : t.tasks = s.tasks) (hmatch : t.matchNo = s.matchNo)
    (hcloses : t.closes = s.closes) (hws : t.webrtcWs = s.webrtcWs)
    (hsession : s.webrtcWs ≠ none → t.sessionId ≠ none) (hmade : t.made = s.made)
    (hpc : t.peerConnection = s.peerConnection)
    (hclosed : ∀ p, (t.connections p).closed = (s.connections p).closed) : Sound t where
  notLater := by
    rw [htasks, hmatch, hcloses]
    exact h.notLater
  session hne := hsession (hws ▸ hne)
  socket := by
    simp only [hasSocket, hws, htasks, hmatch, hcloses]
    exact h.socket
  current := by
    rw [hpc, hmade]
    exact h.current
  made := by
    rw [htasks, hmade]
    exact h.made
  connection := by
    simp only [htasks, hmatch, hpc, hclosed]
    exact h.connection

/-- A step after which another match is on, and no connection is there. -/
theorem Sound.turned (h : Sound s) (htasks : t.tasks = s.tasks) (hmatch : s.matchNo < t.matchNo)
    (hcloses : t.closes = s.closes) (hsession : t.webrtcWs ≠ none → t.sessionId ≠ none)
    (hmade : t.made = s.made) (hpc : t.peerConnection = none) : Sound t where
  notLater i := by
    rw [htasks, hcloses]
    exact ⟨Nat.le_of_lt (Nat.lt_of_le_of_lt (h.notLater i).1 hmatch), (h.notLater i).2⟩
  session := hsession
  socket i hi := by
    have hle := (h.notLater i).1
    rw [htasks] at hi
    omega
  current p hp := by
    rw [hpc] at hp
    cases hp
  made := by
    rw [htasks, hmade]
    exact h.made
  connection i hi := by
    have hle := (h.notLater i).1
    rw [htasks] at hi
    omega

/-- A task gets on, on its connection. -/
theorem Sound.goOn (h : Sound s) (i : ℕ) {phase : Phase}
    (hphase : phase.onConnection = true → (s.tasks i).phase.onConnection = true) :
    Sound (s.goOn i phase) := by
  have htask (j : ℕ) : (s.goOn i phase).tasks j =
      if j = i then { s.tasks i with phase := phase } else s.tasks j := Function.update_apply ..
  refine ⟨?_, h.session, ?_, h.current, ?_, ?_⟩
  · intro j
    rw [htask]
    split_ifs with hj
    · exact h.notLater i
    · exact h.notLater j
  · intro j
    rw [htask]
    split_ifs with hj
    · exact h.socket i
    · exact h.socket j
  · intro j
    rw [htask]
    split_ifs with hj
    · exact fun hon => h.made i (hphase hon)
    · exact h.made j
  · intro j
    rw [htask]
    split_ifs with hj
    · exact fun hm hon => h.connection i hm (hphase hon)
    · exact h.connection j

/-- A task begins, in the match that is on; it works on the client's connection, if on any. -/
theorem Sound.startTask (h : Sound s) {task : Task} (hmatch : task.matchNo = s.matchNo)
    (hcloses : task.closes = s.closes) (hsocket : task.hadSocket = s.hasSocket)
    (hpc : task.phase.onConnection = true → s.peerConnection = some task.pc) :
    Sound (s.startTask task) := by
  have htask (j : ℕ) : (s.startTask task).tasks j = if j = s.started then task else s.tasks j :=
    Function.update_apply ..
  refine ⟨?_, h.session, ?_, h.current, ?_, ?_⟩
  · intro j
    rw [htask]
    split_ifs with hj
    · exact ⟨Nat.le_of_eq hmatch, Nat.le_of_eq hcloses⟩
    · exact h.notLater j
  · intro j
    rw [htask]
    split_ifs with hj
    · intro _ _ hhad
      rw [hsocket] at hhad
      exact hhad
    · exact h.socket j
  · intro j
    rw [htask]
    split_ifs with hj
    · exact fun hon => h.current _ (hpc hon)
    · exact h.made j
  · intro j
    rw [htask]
    split_ifs with hj
    · exact fun _ hon _ => hpc hon
    · exact h.connection j

/-- A new socket, in place of another or of none. -/
theorem Sound.openGoWebSocket (h : Sound s) (session : String) : Sound (s.openGoWebSocket session) where
  notLater := h.notLater
  session _ := by simp [VideoChat.openGoWebSocket]
  socket _ _ _ _ := rfl
  current := h.current
  made := h.made
  connection := h.connection

/-- A task makes a connection, where there is none. -/
theorem Sound.createPeerConnection (h : Sound s) (hnone : s.peerConnection = none) {i : ℕ}
    {phase : Phase} (peer : String) :
    Sound ((s.createPeerConnection peer).setTask i
      { s.tasks i with phase := phase, pc := s.made }) := by
  have htask (j : ℕ) : ((s.createPeerConnection peer).setTask i
      { s.tasks i with phase := phase, pc := s.made }).tasks j =
        if j = i then { s.tasks i with phase := phase, pc := s.made } else s.tasks j :=
    Function.update_apply ..
  refine ⟨?_, h.session, ?_, ?_, ?_, ?_⟩
  · intro j
    rw [htask]
    split_ifs with hj
    · exact h.notLater i
    · exact h.notLater j
  · intro j
    rw [htask]
    split_ifs with hj
    · exact h.socket i
    · exact h.socket j
  · rintro p hp
    cases hp
    exact Nat.lt_succ_self _
  · intro j
    rw [htask]
    split_ifs with hj
    · exact fun _ => Nat.lt_succ_self _
    · exact fun hon => Nat.lt_succ_of_lt (h.made j hon)
  · intro j
    rw [htask]
    split_ifs with hj
    · exact fun _ _ _ => rfl
    · intro hm hon hopen
      -- no other task of this match works on an open connection: the client had none
      have hne : (s.tasks j).pc ≠ s.made := Nat.ne_of_lt (h.made j hon)
      have hconn : ((s.createPeerConnection peer).connections (s.tasks j).pc).closed =
          (s.connections (s.tasks j).pc).closed := by
        simp only [VideoChat.createPeerConnection, Function.update_of_ne hne]
      rw [show ((s.createPeerConnection peer).setTask i _).connections =
        (s.createPeerConnection peer).connections from rfl, hconn] at hopen
      have hcurrent := h.connection j hm hon hopen
      rw [hnone] at hcurrent
      cases hcurrent

/-- What is done to a connection, short of closing it. -/
theorem Sound.updateConnection (h : Sound s) (p : ℕ) {connection : PeerConnection}
    (hclosed : connection.closed = (s.connections p).closed) (applied : List (ℕ × ℕ)) :
    Sound { s with connections := Function.update s.connections p connection, applied := applied } := by
  refine h.frame rfl rfl rfl rfl h.session rfl rfl fun q => ?_
  show (Function.update s.connections p connection q).closed = (s.connections q).closed
  rw [Function.update_apply]
  split_ifs with hq
  · rw [hq, hclosed]
  · rfl

theorem Sound.setSignaling (h : Sound s) (p : ℕ) (signaling : Signaling) :
    Sound (s.setSignaling p signaling) :=
  @Sound.updateConnection s h p { s.connections p with signaling := signaling } rfl s.applied

theorem Sound.apply (h : Sound s) (i p : ℕ) (signaling : Signaling) : Sound (s.apply i p signaling) :=
  @Sound.updateConnection s h p
    { s.connections p with signaling := signaling, remoteDescription := true } rfl _

theorem Sound.sendWebRTC (h : Sound s) (packet : Packet) (peer : String) :
    Sound (s.sendWebRTC packet peer) := by
  obtain ⟨sent, queue, heq⟩ := s.sendWebRTC_eq packet peer
  rw [heq]
  exact h.frame rfl rfl rfl rfl h.session rfl rfl fun _ => rfl

theorem Sound.giveUp (h : Sound s) (i : ℕ) : Sound (s.giveUp i) := by
  obtain ⟨negotiating, heq⟩ := s.giveUp_eq i
  rw [heq]
  refine Sound.goOn ?_ i (by simp [Phase.onConnection])
  exact h.frame rfl rfl rfl rfl h.session rfl rfl fun _ => rfl

theorem Sound.flushIceCandidates (h : Sound s) {i : ℕ} (hon : (s.tasks i).phase.onConnection = true)
    (p : ℕ) (next : Phase) : Sound (s.flushIceCandidates i p next) := by
  obtain ⟨pending, handed, phase, -, heq⟩ := s.flushIceCandidates_eq i p next
  rw [heq]
  refine Sound.goOn ?_ i fun _ => hon
  exact h.frame rfl rfl rfl rfl h.session rfl rfl fun _ => rfl

theorem Sound.startNegotiationIfNeeded (h : Sound s) (peer : String) :
    Sound (s.startNegotiationIfNeeded peer) := by
  obtain heq | ⟨phase, pc, hphase, heq⟩ := s.startNegotiationIfNeeded_eq peer
  · rw [heq]
    exact h
  · rw [heq]
    have hframe : Sound { s with negotiationStarted := true } :=
      h.frame rfl rfl rfl rfl h.session rfl rfl fun _ => rfl
    refine hframe.startTask rfl rfl rfl fun hon => ?_
    rcases hphase with rfl | ⟨-, hpc⟩
    · cases hon
    · exact hpc

/-- A task whose remote description was applied. -/
theorem Sound.afterRemote (h : Sound s) {i : ℕ} (hon : (s.tasks i).phase.onConnection = true) :
    Sound (s.afterRemote i) := by
  unfold VideoChat.afterRemote
  split
  · exact h.goOn i fun _ => hon
  · exact h.flushIceCandidates hon _ _

/-- **A task goes on**, and makes a connection only where there is none. -/
theorem Sound.resolve (h : Sound s) {i : ℕ}
    (hturn : (s.tasks i).phase = .turn → s.sameChat (s.tasks i) = true → s.peerConnection = none)
    (ht : s.resolve i = some t) : Sound t := by
  unfold VideoChat.resolve at ht
  dsimp only at ht
  split at ht
  · -- the local offer is rolled back
    rename_i hphase
    obtain ⟨-, ht⟩ := Option.ite_none_right_eq_some.1 ht
    cases ht
    exact (h.setSignaling _ _).goOn i fun _ => by
      show (s.tasks i).phase.onConnection = true
      rw [hphase]
      rfl
  · -- the TURN servers are there
    rename_i hphase
    split at ht
    · split_ifs at ht with hsame
      · cases ht
        exact h.createPeerConnection (hturn hphase hsame) _
      · cases ht
        exact h.giveUp i
    · split_ifs at ht with hsame
      · cases ht
        exact h.createPeerConnection (hturn hphase hsame) _
      · cases ht
        exact h.goOn i (by simp [Phase.onConnection])
  · -- the remote description is applied
    rename_i hphase
    obtain ⟨-, ht⟩ := Option.ite_none_right_eq_some.1 ht
    cases ht
    have happlied : Sound (s.remoteApplied i) := (h.apply i _ _).goOn i fun _ => by
      show (s.tasks i).phase.onConnection = true
      rw [hphase]
      rfl
    exact happlied.afterRemote (by simp [remoteApplied, VideoChat.goOn, setTask, Phase.onConnection])
  · rename_i p hphase
    obtain ⟨-, ht⟩ := Option.ite_none_right_eq_some.1 ht
    cases ht
    exact h.flushIceCandidates (by rw [hphase]; rfl) _ _
  · rename_i hphase
    cases ht
    exact h.goOn i fun _ => by rw [hphase]; rfl
  · rename_i hphase
    split_ifs at ht
    · cases ht
      exact h.goOn i fun _ => by rw [hphase]; rfl
    · cases ht
      exact h.giveUp i
  · rename_i hphase
    obtain ⟨-, ht⟩ := Option.ite_none_right_eq_some.1 ht
    cases ht
    exact h.goOn i fun _ => by rw [hphase]; rfl
  · -- the local description is set
    obtain ⟨-, ht⟩ := Option.ite_none_right_eq_some.1 ht
    split at ht
    all_goals
      split_ifs at ht
      all_goals cases ht
    · exact ((h.setSignaling _ _).sendWebRTC _ _).goOn i (by simp [Phase.onConnection])
    · exact (h.setSignaling _ _).goOn i (by simp [Phase.onConnection])
    · exact ((h.setSignaling _ _).sendWebRTC _ _).goOn i (by simp [Phase.onConnection])
    · exact (h.setSignaling _ _).giveUp i
  · cases ht
  · cases ht

theorem Sound.reject (h : Sound s) {i : ℕ} (hrollback : (s.tasks i).phase ≠ .rollback)
    (ht : s.reject i = some t) : Sound t := by
  unfold VideoChat.reject at ht
  dsimp only at ht
  split at ht
  · rename_i hphase
    exact absurd hphase hrollback
  · cases ht
    exact h.goOn i (by simp [Phase.onConnection])
  · rename_i p hphase
    cases ht
    exact h.flushIceCandidates (by rw [hphase]; rfl) _ _
  all_goals cases ht
  all_goals exact h.giveUp i

/-- **An offer begins a task**, on the connection that there is if it is usable. -/
theorem Sound.offer (h : Sound s) {peer : String} (hcalm : Calm s (.offer peer)) :
    Sound (s.offer peer) := by
  have hnote : Sound s.noteDescription := h.frame rfl rfl rfl rfl h.session rfl rfl fun _ => rfl
  unfold VideoChat.offer
  split
  · exact h
  · rename_i hignore
    have hpeer : s.peerId = some peer := by simpa [shouldIgnoreIncomingSignal] using hignore
    dsimp only
    split
    · exact hnote.startTask rfl rfl rfl fun hon => by cases hon
    · rename_i p hp
      obtain ⟨hopen, hsignaling⟩ := hcalm hpeer p hp
      split
      · exact hnote.startTask rfl rfl rfl fun _ => hp
      · rename_i hlocal
        split
        · -- the transport would be reset
          rename_i hbad
          exfalso
          have hclosed : (s.connections p).closed = false := hopen
          rcases hbad with hbad | hbad
          · rw [show s.noteDescription.connections = s.connections from rfl, hclosed] at hbad
            cases hbad
          · rcases hsignaling with hstable | hhave
            · exact hbad hstable
            · exact hlocal ⟨hopen, hhave⟩
        · exact hnote.startTask rfl rfl rfl fun _ => hp

theorem Sound.answer (h : Sound s) (peer : Option String) : Sound (s.answer peer) := by
  have hnote : Sound s.noteDescription := h.frame rfl rfl rfl rfl h.session rfl rfl fun _ => rfl
  unfold VideoChat.answer
  split
  · exact h
  · dsimp only
    split
    · exact hnote.startTask rfl rfl rfl fun hon => by cases hon
    · rename_i p hp
      split
      · exact hnote.startTask rfl rfl rfl fun _ => hp
      · exact hnote.startTask rfl rfl rfl fun hon => by cases hon

theorem Sound.ice (h : Sound s) (peer : Option String) : Sound (s.ice peer) := by
  unfold VideoChat.ice
  split
  · exact h
  · split
    · exact h.frame rfl rfl rfl rfl h.session rfl rfl fun _ => rfl
    · split
      · exact h
      · split
        · exact h.frame rfl rfl rfl rfl h.session rfl rfl fun _ => rfl
        · exact h.frame rfl rfl rfl rfl h.session rfl rfl fun _ => rfl

theorem Sound.matched (h : Sound s) (peer : Option String) (videoEnabled : Bool) :
    Sound (s.matched peer videoEnabled) := by
  have hturned : Sound { s.beginNewChatEpoch.turnMatch.closePeerConnection.setPeerId peer with
      pendingIceCandidates := []
      pendingWebrtcStart := none
      negotiationStarted := false
      peerId := peer } :=
    h.turned rfl (Nat.lt_succ_self _) rfl h.session rfl rfl
  unfold VideoChat.matched
  dsimp only
  split
  · exact h.turned rfl (Nat.lt_succ_self _) rfl (fun hne => absurd rfl hne) rfl rfl
  · split
    · exact hturned
    · split
      · split
        · exact hturned
        · exact hturned.openGoWebSocket _
      · exact hturned

/-- The clean-up at the end of a match. -/
theorem Sound.ended (h : Sound s) (htasks : t.tasks = s.tasks) (hmatch : t.matchNo = s.matchNo + 1)
    (hcloses : t.closes = s.closes) (hmade : t.made = s.made) (hws : t.webrtcWs = none)
    (hpc : t.peerConnection = none) : Sound t :=
  h.turned htasks (by omega) hcloses (fun hne => absurd hws hne) hmade hpc

/-- **A calm step keeps the invariant.** -/
theorem Sound.step (h : Sound s) {e : Event} (hcalm : Calm s e) (ht : s.step e = some t) : Sound t := by
  cases e with
  | connected session =>
      cases ht
      unfold VideoChat.connected
      split
      · exact h
      · exact h.openGoWebSocket session
  | matched peer videoEnabled =>
      cases ht
      exact h.matched peer videoEnabled
  | webrtcStart peer =>
      cases ht
      unfold VideoChat.webrtcStart
      split
      · exact h
      · split
        · exact h.startNegotiationIfNeeded peer
        · exact h.frame rfl rfl rfl rfl h.session rfl rfl fun _ => rfl
  | disconnected | banned | timeout | stopped | stopSearch | skip | disconnect | cleanup
  | phoenixClosed =>
      cases ht
      exact h.ended rfl rfl rfl rfl rfl rfl
  | offer peer =>
      cases ht
      exact h.offer hcalm
  | answer peer =>
      cases ht
      exact h.answer peer
  | ice peer =>
      cases ht
      exact h.ice peer
  | startSearch =>
      cases ht
      exact h.frame rfl rfl rfl rfl h.session rfl rfl fun _ => rfl
  | socketOpens =>
      obtain ⟨hws, ht⟩ := Option.ite_none_right_eq_some.1 ht
      cases ht
      have hsession := h.session (by rw [hws]; simp)
      have hopen : Sound { s with
          webrtcWs := some .isOpen
          webrtcSocketOpen := true
          sent := s.sent ++ s.webrtcWsQueue
          webrtcWsQueue := [] } :=
        ⟨h.notLater, fun _ => hsession, fun _ _ _ _ => rfl, h.current, h.made, h.connection⟩
      unfold VideoChat.socketOpens
      dsimp only
      split
      · exact hopen
      · refine Sound.startNegotiationIfNeeded ?_ _
        exact hopen.frame rfl rfl rfl rfl hopen.session rfl rfl fun _ => rfl
  | socketDrops =>
      obtain ⟨hsocket, ht⟩ := Option.ite_none_right_eq_some.1 ht
      cases ht
      refine ⟨fun i => ⟨(h.notLater i).1, Nat.le_succ_of_le (h.notLater i).2⟩, fun _ => ?_, ?_, h.current,
        h.made, h.connection⟩
      · refine h.session fun hnone => ?_
        simp [hasSocket, hnone] at hsocket
      · intro i _ hcloses
        have hle := (h.notLater i).2
        simp only at hcloses
        omega
  | socketClosed exhausted =>
      obtain ⟨hws, ht⟩ := Option.ite_none_right_eq_some.1 ht
      cases ht
      refine ⟨h.notLater, fun hne => absurd rfl hne, ?_, h.current, h.made, h.connection⟩
      intro i hm hcloses hhad
      have hsocket := h.socket i hm hcloses hhad
      simp [hasSocket, hws] at hsocket
  | reconnect =>
      simp only [VideoChat.step] at ht
      split at ht
      · split_ifs at ht
        cases ht
        exact h.openGoWebSocket _
      · cases ht
  | peerEffect n =>
      obtain ⟨peer, -, ht⟩ := Option.map_eq_some_iff.1 ht
      cases ht
      exact h.frame rfl rfl rfl rfl h.session rfl rfl fun _ => rfl
  | sessionEffect n =>
      obtain ⟨session, hn, ht⟩ := Option.map_eq_some_iff.1 ht
      cases ht
      refine h.frame rfl rfl rfl rfl (fun hne => ?_) rfl rfl fun _ => rfl
      show session ≠ none
      rintro rfl
      exact hne (hcalm hn)
  | resolve i => exact h.resolve hcalm ht
  | reject i => exact h.reject hcalm ht
  | localCandidate p =>
      obtain ⟨-, ht⟩ := Option.ite_none_right_eq_some.1 ht
      cases ht
      exact h.sendWebRTC _ _
  | negotiationNeeded p =>
      obtain ⟨hcurrent, ht⟩ := Option.ite_none_right_eq_some.1 ht
      cases ht
      refine h.startTask rfl rfl rfl fun _ => ?_
      simp only [isCurrentPeerConnection, Bool.and_eq_true, decide_eq_true_eq] at hcurrent
      exact hcurrent.1.1.1

/-- An answer that is sent on a usable socket is sent or queued. -/
theorem mem_sendWebRTC (h : Sound s) (hsocket : s.hasSocket = true) {packet : Packet} {peer : String}
    (hpeer : s.peerId = some peer) :
    packet ∈ (s.sendWebRTC packet peer).sent ∨ packet ∈ (s.sendWebRTC packet peer).webrtcWsQueue := by
  have hne : s.webrtcWs ≠ none := by
    intro hnone
    simp [hasSocket, hnone] at hsocket
  have hsend : ¬(s.sessionId = none ∨ s.peerId ≠ some peer) := by
    rw [not_or, not_not]
    exact ⟨h.session hne, hpeer⟩
  rw [VideoChat.sendWebRTC, if_neg hsend]
  simp only [hasSocket, Bool.or_eq_true, decide_eq_true_eq] at hsocket
  rcases hsocket with hws | hws
  · rw [hws]
    exact .inr (by simp)
  · rw [hws]
    exact .inl (by simp)

/-- **The answer of a match that is kept sound is not lost.** -/
theorem Sound.answerKept (h : Sound s) (e : Event) : AnswerKept s e := by
  rintro i t rfl ⟨hkind, hphase, hhad, hcloses, hmatch, hsame⟩ ht
  have hon : (s.tasks i).phase.onConnection = true := by
    rw [hphase]
    rfl
  simp only [VideoChat.step, VideoChat.resolve, hphase, hkind] at ht
  obtain ⟨hopen, ht⟩ := Option.ite_none_right_eq_some.1 ht
  have hcurrent := h.connection i hmatch hon hopen
  have hsound := h.setSignaling (s.tasks i).pc .stable
  have hconnection :
      (s.setSignaling (s.tasks i).pc .stable).sameConnection (s.tasks i) = true := by
    show (s.sameChat (s.tasks i) && decide (s.peerConnection = some (s.tasks i).pc)) = true
    rw [hsame, hcurrent]
    simp
  rw [if_pos hconnection] at ht
  cases ht
  have hpeer : s.peerId = some (s.tasks i).peer := by
    simp only [sameChat, Bool.and_eq_true, decide_eq_true_eq] at hsame
    exact hsame.2
  exact mem_sendWebRTC hsound (h.socket i hmatch hcloses hhad) hpeer

end Sound

/-- **In every run of calm steps, every answer that is set while its match and its socket last is sent or
queued.** -/
theorem offersAnswered {l : List Event} {t : VideoChat} (h : Run step Calm start l t) :
    Run step AnswerKept start l t :=
  h.exchange (I := Sound) (fun _ a _ hs ha ht => ⟨hs.answerKept a, hs.step ha ht⟩) sound_start

/-- An offer is answered on a connection that is made for it. -/
theorem offersAnswered_example : ∃ l t, Run step Calm start l t ∧ Run step AnswerKept start l t ∧
    .answer 0 ∈ t.sent := by
  let l : List Event := [.connected "b", .socketOpens, .matched (some "a") true, .offer "a",
    .resolve 0, .resolve 0, .resolve 0, .resolve 0, .resolve 0, .resolve 0]
  obtain ⟨t, hrun, ht⟩ : ∃ t, Run step Calm start l t ∧ decide (Packet.answer 0 ∈ t.sent) = true :=
    exists_run_of_execWhere (by decide)
  exact ⟨l, t, hrun, offersAnswered hrun, of_decide_eq_true ht⟩

/-- **The law fails**: an offer comes when the remote description of another has just been applied, the
transport is reset, and its answer has no socket to go to. -/
theorem offersAnswered_fails :
    ¬ ∀ l t, Run step Always start l t → Run step AnswerKept start l t := by
  intro hall
  let l : List Event := [.connected "b", .socketOpens, .matched (some "a") true, .offer "a",
    .resolve 0, .resolve 0, .offer "a", .resolve 1, .resolve 1, .resolve 1, .resolve 1, .resolve 1]
  obtain ⟨s, hrun, hs⟩ : ∃ s, Run step Always start l s ∧
      decide (s.Owed 1 ∧ (s.step (.resolve 1)).any fun t =>
        decide (Packet.answer 1 ∉ t.sent ∧ Packet.answer 1 ∉ t.webrtcWsQueue)) = true :=
    exists_run_of_execWhere (by decide)
  obtain ⟨howed, hstep⟩ := of_decide_eq_true hs
  obtain ⟨t, ht, hlost⟩ := (Option.any_eq_true _ _).1 hstep
  obtain ⟨m, hm, hkept, -⟩ := (hall _ t (hrun.append (.single trivial ht))).last
  obtain rfl := hrun.unique hm
  obtain ⟨hsent, hqueue⟩ := of_decide_eq_true hlost
  rcases hkept 1 t rfl howed ht with hin | hin
  · exact hsent hin
  · exact hqueue hin

end VideoChat

end Client
