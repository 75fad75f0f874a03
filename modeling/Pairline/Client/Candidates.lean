/-
**The candidates of the partner.**

A candidate that comes before the connection has a remote description is queued; when a description has
been applied, a loop takes the queue apart, and waits after each candidate that it hands on.  The loop
does not look whether its connection is still the client's, and a candidate that comes while a new
description waits, behind a rollback or by itself, is handed on at once if there is an older description.
A handler that resets the transport empties the queue of the match that it is in.

Main definitions:

* `Client.VideoChat.Watched` — the client, and what it has dropped from the queue;
* `Client.VideoChat.Conserved` — **every candidate of the match is queued, or was handed to its
  connection, once, after the description before it, or was dropped when its connection was closed**;
* `Client.VideoChat.Timely` — candidates are handed on only when the offer or the answer before them has
  been applied, to the connection that is the client's, and none is queued when a late rollback fails;
* `Client.VideoChat.Tidy`, `Client.VideoChat.Followed` — what timely steps keep.

Main results:

* `Client.VideoChat.Tidy.step`, `Client.VideoChat.Followed.step` — timely steps keep the law;
* `Client.VideoChat.Followed.force` — a step that keeps it is timely;
* `Client.VideoChat.conserved_iff` — **a run keeps the law exactly when its steps are timely**;
* `Client.VideoChat.conserved_fails` — a candidate that comes while a local offer is rolled back.
-/

import Pairline.Client.VideoChat

set_option relaxedAutoImplicit false
set_option autoImplicit false

namespace Client

open Transition

namespace VideoChat

/-! ### The law -/

/-- **No candidate is in two places**; those that are queued are of the match that is on, and one that
was handed on went to a connection of its match that was the client's, after the description before it. -/
structure InOrder (s : VideoChat) : Prop where
  once : (s.pendingIceCandidates ++ s.handed.map Handing.candidate).Nodup
  queued : ∀ c ∈ s.pendingIceCandidates, c ∈ s.received ∧ c.matchNo = s.matchNo
  handed : ∀ g ∈ s.handed, g.candidate ∈ s.received ∧ g.current = true ∧ g.ready = true ∧
    (s.connections g.pc).matchNo = g.candidate.matchNo

/-- A candidate that was taken from the queue and not handed on, and whether the connection that the
client had was closed with it. -/
structure Drop where
  candidate : Candidate
  closed : Bool
  deriving DecidableEq

/-- What a step drops. -/
def drops (s t : VideoChat) : List Drop :=
  (s.pendingIceCandidates.filter fun c =>
      c ∉ t.pendingIceCandidates ∧ c ∉ t.handed.map Handing.candidate).map fun c =>
    ⟨c, s.peerConnection.any fun p => (t.connections p).closed⟩

/-- A client, and what it has dropped. -/
structure Watched where
  client : VideoChat
  dropped : List Drop

def Watched.start : Watched := ⟨VideoChat.start, []⟩

def Watched.step (w : Watched) (e : Event) : Option Watched :=
  (w.client.step e).map fun t => ⟨t, w.dropped ++ w.client.drops t⟩

/-- **Every candidate of the match that is on is queued, or was handed on, or was dropped when its
connection was closed.** -/
structure Conserved (w : Watched) : Prop where
  inOrder : w.client.InOrder
  kept : ∀ c ∈ w.client.received, c.matchNo = w.client.matchNo →
    c ∈ w.client.pendingIceCandidates ∨ c ∈ w.client.handed.map Handing.candidate ∨
      ⟨c, true⟩ ∈ w.dropped

/-- The handler of the last description is past applying it, to this connection. -/
def Settled (s : VideoChat) (description : Option ℕ) (p : ℕ) : Prop :=
  ∀ i ∈ description, (s.tasks i).pc = p ∧ (s.tasks i).phase.applied = true

/-- The loop may take the next candidate: its connection is the client's, and the description before the
candidate is settled. -/
def MayFlush (s : VideoChat) (p : ℕ) : Prop :=
  ∀ c ∈ s.pendingIceCandidates.head?, s.peerConnection = some p ∧ s.Settled c.after p

/-- The state in which a step looks at the queue, and the connection for which it does. -/
def flushes (s : VideoChat) : Event → Option (VideoChat × ℕ)
  | .resolve i =>
      match (s.tasks i).phase with
      | .flushing p => if (s.connections p).closed = false then some (s, p) else none
      | .remote =>
          if (s.connections (s.tasks i).pc).closed = false then
            ((s.remoteApplied i).flushTarget i).map fun p => (s.remoteApplied i, p)
          else none
      | _ => none
  | .reject i =>
      match (s.tasks i).phase with
      | .flushing p => some (s, p)
      | _ => none
  | _ => none

/-- A rollback fails, and the transport is reset, of whatever match. -/
def resets (s : VideoChat) : Event → Bool
  | .reject i => (s.tasks i).phase = .rollback
  | _ => false

/-- A candidate that arrives is handed on at once. -/
def handsOn (s : VideoChat) : Event → Option ℕ
  | .ice peer =>
      if peer.any s.shouldIgnoreIncomingSignal then none
      else s.peerConnection.filter fun p =>
        !(s.connections p).closed && (s.connections p).remoteDescription
  | _ => none

/-- **Candidates are handed on in time**: at once, or from the queue, when the description before them is
settled; and a rollback that fails while the client has no connection finds no candidate in the queue. -/
structure Timely (s : VideoChat) (e : Event) : Prop where
  arrives : ∀ p ∈ s.handsOn e, s.Settled s.lastDescription p
  flushed : ∀ m ∈ s.flushes e, m.1.MayFlush m.2
  reset : s.resets e = true → s.peerConnection = none → s.pendingIceCandidates = []

instance (s : VideoChat) (description : Option ℕ) (p : ℕ) : Decidable (s.Settled description p) :=
  inferInstanceAs (Decidable (∀ i ∈ description, _))

instance (s : VideoChat) (p : ℕ) : Decidable (s.MayFlush p) :=
  inferInstanceAs (Decidable (∀ c ∈ s.pendingIceCandidates.head?, _))

instance (s : VideoChat) (e : Event) : Decidable (Timely s e) :=
  decidable_of_iff ((∀ p ∈ s.handsOn e, s.Settled s.lastDescription p) ∧
      (∀ m ∈ s.flushes e, m.1.MayFlush m.2) ∧
      (s.resets e = true → s.peerConnection = none → s.pendingIceCandidates = []))
    ⟨fun h => ⟨h.1, h.2.1, h.2.2⟩, fun h => ⟨h.arrives, h.flushed, h.reset⟩⟩

/-! ### The invariant -/

/-- **What timely steps keep.** -/
structure Tidy (s : VideoChat) : Prop where
  inOrder : s.InOrder
  ids : ∀ c ∈ s.received, c.id < s.received.length ∧ c.matchNo ≤ s.matchNo
  /-- The client's connection is open, and of this match. -/
  current : ∀ p, s.peerConnection = some p →
    p < s.made ∧ (s.connections p).closed = false ∧ (s.connections p).matchNo = s.matchNo
  made : ∀ g ∈ s.handed, g.pc < s.made
  begun : ∀ i, (s.tasks i).phase ≠ .done → i < s.started
  /-- What a candidate counts as the description before it is one. -/
  described : ∀ i, (s.lastDescription = some i ∨ ∃ c ∈ s.received, c.after = some i) →
    i < s.started ∧ (s.tasks i).kind.describes = true
  /-- The descriptions that were applied are those whose handlers are past applying them. -/
  applied : ∀ i, (s.tasks i).kind.describes = true → (s.tasks i).phase.applied = true →
    (i, (s.tasks i).pc) ∈ s.applied
  past : ∀ i p, (i, p) ∈ s.applied →
    i < s.started ∧ (s.tasks i).phase.applied = true ∧ (s.tasks i).pc = p

theorem tidy_start : Tidy start where
  inOrder := ⟨List.nodup_nil, by simp [start], by simp [start]⟩
  ids := by simp [start]
  current := by simp [start]
  made := by simp [start]
  begun := by simp [start]
  described := by simp [start]
  applied := by simp [start, Kind.describes]
  past := by simp [start]

/-! ### What keeps the invariant -/

section Tidy

variable {s t : VideoChat}

/-- A step that changes neither candidates, nor matches, nor tasks; of a connection neither whether it is
closed nor its match. -/
theorem Tidy.frame (h : Tidy s)
    (hsame : (t.pendingIceCandidates, t.handed, t.received, t.matchNo, t.lastDescription, t.applied) =
      (s.pendingIceCandidates, s.handed, s.received, s.matchNo, s.lastDescription, s.applied))
    (htasks : (t.tasks, t.started, t.made, t.peerConnection) =
      (s.tasks, s.started, s.made, s.peerConnection))
    (hconnections : ∀ p, (t.connections p).closed = (s.connections p).closed ∧
      (t.connections p).matchNo = (s.connections p).matchNo) : Tidy t := by
  simp only [Prod.mk.injEq] at hsame htasks
  obtain ⟨hpending, hhanded, hreceived, hmatch, hlast, happlied⟩ := hsame
  obtain ⟨htasks, hstarted, hmade, hpc⟩ := htasks
  refine ⟨⟨?_, ?_, ?_⟩, ?_, ?_, ?_, ?_, ?_, ?_, ?_⟩
  · rw [hpending, hhanded]
    exact h.inOrder.once
  · rw [hpending, hreceived, hmatch]
    exact h.inOrder.queued
  · rw [hhanded, hreceived]
    intro g hg
    rw [(hconnections g.pc).2]
    exact h.inOrder.handed g hg
  · rw [hreceived, hmatch]
    exact h.ids
  · intro p
    rw [hpc, hmade, hmatch, (hconnections p).1, (hconnections p).2]
    exact h.current p
  · rw [hhanded, hmade]
    exact h.made
  · rw [htasks, hstarted]
    exact h.begun
  · rw [hlast, hreceived, hstarted, htasks]
    exact h.described
  · rw [htasks, happlied]
    exact h.applied
  · rw [htasks, happlied, hstarted]
    exact h.past

/-- A task goes on: it does not undo what it has applied, and counts as having applied nothing new. -/
theorem Tidy.setTask (h : Tidy s) {i : ℕ} {task : Task} (hi : i < s.started)
    (hkind : task.kind = (s.tasks i).kind)
    (hnew : task.kind.describes = true → task.phase.applied = true → (s.tasks i).phase.applied = true)
    (hold : (s.tasks i).phase.applied = true → task.phase.applied = true ∧ task.pc = (s.tasks i).pc) :
    Tidy (s.setTask i task) := by
  have htask (j : ℕ) : (s.setTask i task).tasks j = if j = i then task else s.tasks j :=
    Function.update_apply ..
  refine ⟨⟨h.inOrder.once, h.inOrder.queued, h.inOrder.handed⟩, h.ids, h.current,
    h.made, ?_, ?_, ?_, ?_⟩
  · intro j
    rw [htask]
    split_ifs with heq
    · exact fun _ => heq ▸ hi
    · exact h.begun j
  · intro j hj
    rw [htask]
    split_ifs with heq
    · subst heq
      rw [hkind]
      exact h.described j hj
    · exact h.described j hj
  · intro j
    rw [htask]
    split_ifs with heq
    · subst heq
      intro hdescribes hphase
      have hbefore := hnew hdescribes hphase
      rw [(hold hbefore).2]
      exact h.applied j (hkind ▸ hdescribes) hbefore
    · exact h.applied j
  · intro j p hj
    obtain ⟨hlt, hphase, hpc⟩ := h.past j p hj
    rw [htask]
    split_ifs with heq
    · subst heq
      exact ⟨hlt, (hold hphase).1, (hold hphase).2.trans hpc⟩
    · exact ⟨hlt, hphase, hpc⟩

/-- A task gets on, either on this side of its description or beyond. -/
theorem Tidy.goOn (h : Tidy s) {i : ℕ} (hi : i < s.started) {phase : Phase}
    (hphase : phase.applied = (s.tasks i).phase.applied) : Tidy (s.goOn i phase) :=
  h.setTask hi rfl (fun _ hnew => hphase ▸ hnew) fun hold => ⟨hphase.trans hold, rfl⟩

/-- A task begins, which has applied nothing. -/
theorem Tidy.startTask (h : Tidy s) {task : Task}
    (hphase : task.kind.describes = true → task.phase.applied = false) : Tidy (s.startTask task) := by
  have htask (j : ℕ) : (s.startTask task).tasks j = if j = s.started then task else s.tasks j :=
    Function.update_apply ..
  refine ⟨⟨h.inOrder.once, h.inOrder.queued, h.inOrder.handed⟩, h.ids, h.current,
    h.made, ?_, ?_, ?_, ?_⟩
  · intro j
    rw [htask]
    split_ifs with heq
    · exact fun _ => heq ▸ Nat.lt_succ_self _
    · exact fun hj => Nat.lt_succ_of_lt (h.begun j hj)
  · intro j hj
    obtain ⟨hlt, hdescribes⟩ := h.described j hj
    rw [htask, if_neg (Nat.ne_of_lt hlt)]
    exact ⟨Nat.lt_succ_of_lt hlt, hdescribes⟩
  · intro j
    rw [htask]
    split_ifs with heq
    · intro hdescribes happlied
      rw [hphase hdescribes] at happlied
      cases happlied
    · exact h.applied j
  · intro j p hj
    obtain ⟨hlt, hpast⟩ := h.past j p hj
    rw [htask, if_neg (Nat.ne_of_lt hlt)]
    exact ⟨Nat.lt_succ_of_lt hlt, hpast⟩

/-- A description arrives, and its task begins. -/
theorem Tidy.startDescription (h : Tidy s) {task : Task} (hkind : task.kind.describes = true)
    (hphase : task.phase.applied = false) : Tidy (s.noteDescription.startTask task) := by
  have hstart := @Tidy.startTask s h task fun _ => hphase
  have hkeep := hstart.inOrder
  refine ⟨⟨hkeep.once, hkeep.queued, hkeep.handed⟩, hstart.ids, hstart.current, hstart.made,
    hstart.begun, ?_, hstart.applied, hstart.past⟩
  rintro j (hj | hj)
  · have hlast : s.started = j := Option.some.inj hj
    subst hlast
    refine ⟨Nat.lt_succ_self _, ?_⟩
    show (Function.update s.tasks s.started task s.started).kind.describes = true
    rw [Function.update_self]
    exact hkind
  · exact hstart.described j (.inr hj)

/-- A step after which another match is on. -/
theorem Tidy.turned (h : Tidy s)
    (hsame : (t.handed, t.received, t.applied, t.tasks, t.started, t.made) =
      (s.handed, s.received, s.applied, s.tasks, s.started, s.made))
    (hmatch : t.matchNo = s.matchNo + 1) (hpending : t.pendingIceCandidates = [])
    (hlast : t.lastDescription = none) (hpc : t.peerConnection = none)
    (hconnections : ∀ p, (t.connections p).matchNo = (s.connections p).matchNo) : Tidy t := by
  simp only [Prod.mk.injEq] at hsame
  obtain ⟨hhanded, hreceived, happlied, htasks, hstarted, hmade⟩ := hsame
  refine ⟨⟨?_, ?_, ?_⟩, ?_, ?_, ?_, ?_, ?_, ?_, ?_⟩
  · rw [hpending, hhanded]
    exact (List.nodup_append.1 h.inOrder.once).2.1
  · rw [hpending]
    exact fun c hc => absurd hc List.not_mem_nil
  · rw [hhanded, hreceived]
    intro g hg
    rw [hconnections g.pc]
    exact h.inOrder.handed g hg
  · rw [hreceived, hmatch]
    exact fun c hc => ⟨(h.ids c hc).1, Nat.le_succ_of_le (h.ids c hc).2⟩
  · intro p hp
    rw [hpc] at hp
    cases hp
  · rw [hhanded, hmade]
    exact h.made
  · rw [htasks, hstarted]
    exact h.begun
  · rw [hlast, hreceived, hstarted, htasks]
    rintro i (hi | hi)
    · cases hi
    · exact h.described i (.inr hi)
  · rw [htasks, happlied]
    exact h.applied
  · rw [htasks, happlied, hstarted]
    exact h.past

/-- Closing a connection leaves its match. -/
theorem matchNo_closePeerConnection (s : VideoChat) (p : ℕ) :
    (s.closePeerConnection.connections p).matchNo = (s.connections p).matchNo := by
  unfold closePeerConnection
  cases hpc : s.peerConnection with
  | none => rfl
  | some q =>
      show (Function.update s.connections q { s.connections q with closed := true } p).matchNo = _
      rw [Function.update_apply]
      split_ifs with hq
      · rw [hq]
      · rfl

/-- A reset. -/
theorem Tidy.reset (h : Tidy s) : Tidy s.resetWebRTCTransport := by
  have hconnections (p : ℕ) := matchNo_closePeerConnection s.closeGoWebSocket p
  refine ⟨⟨?_, ?_, ?_⟩, h.ids, ?_, h.made, h.begun, h.described, h.applied, h.past⟩
  · exact (List.nodup_append.1 h.inOrder.once).2.1
  · exact fun c hc => absurd hc List.not_mem_nil
  · intro g hg
    obtain ⟨hreceived, hcurrent, hready, hmatch⟩ := h.inOrder.handed g hg
    exact ⟨hreceived, hcurrent, hready, (hconnections g.pc).trans hmatch⟩
  · intro p hp
    cases hp

/-- What is done to a connection, short of closing it. -/
theorem Tidy.updateConnection (h : Tidy s) (p : ℕ) {connection : PeerConnection}
    (hclosed : connection.closed = (s.connections p).closed)
    (hmatch : connection.matchNo = (s.connections p).matchNo) :
    Tidy { s with connections := Function.update s.connections p connection } := by
  refine h.frame rfl rfl fun q => ?_
  show (Function.update s.connections p connection q).closed = _ ∧
    (Function.update s.connections p connection q).matchNo = _
  rw [Function.update_apply]
  split_ifs with hq
  · rw [hq]
    exact ⟨hclosed, hmatch⟩
  · exact ⟨rfl, rfl⟩

theorem Tidy.setSignaling (h : Tidy s) (p : ℕ) (signaling : Signaling) :
    Tidy (s.setSignaling p signaling) :=
  @Tidy.updateConnection s h p { s.connections p with signaling := signaling } rfl rfl

/-- **A description is applied**, and its task is past it. -/
theorem Tidy.remoteApplied (h : Tidy s) {i : ℕ} (hi : i < s.started)
    (hphase : (s.tasks i).phase = .remote) : Tidy (s.remoteApplied i) := by
  have htask (j : ℕ) : (s.remoteApplied i).tasks j =
      if j = i then { s.tasks i with phase := .flushed } else s.tasks j := Function.update_apply ..
  have hconnection := @Tidy.updateConnection s h (s.tasks i).pc
    { s.connections (s.tasks i).pc with
      signaling := if (s.tasks i).kind = .answer then .stable else .haveRemoteOffer
      remoteDescription := true } rfl rfl
  have hkeep := hconnection.inOrder
  refine ⟨⟨hkeep.once, hkeep.queued, hkeep.handed⟩, hconnection.ids, hconnection.current,
    hconnection.made, ?_, ?_, ?_, ?_⟩
  · intro j
    rw [htask]
    split_ifs with heq
    · exact fun _ => heq ▸ hi
    · exact h.begun j
  · intro j hj
    rw [htask]
    split_ifs with heq
    · subst heq
      exact h.described j hj
    · exact h.described j hj
  · intro j
    rw [htask]
    split_ifs with heq
    · subst heq
      intro _ _
      exact List.mem_append_right _ List.mem_cons_self
    · exact fun hdescribes hpast => List.mem_append_left _ (h.applied j hdescribes hpast)
  · intro j p hj
    rw [htask]
    rcases List.mem_append.1 hj with hj | hj
    · have hpast := h.past j p hj
      split_ifs with heq
      · subst heq
        exact ⟨hpast.1, rfl, hpast.2.2⟩
      · exact hpast
    · simp only [List.mem_singleton, Prod.mk.injEq] at hj
      obtain ⟨rfl, rfl⟩ := hj
      rw [if_pos rfl]
      exact ⟨hi, rfl, rfl⟩

/-- The description before a candidate was applied to a connection if its handler is past that. -/
theorem Tidy.ready_iff (h : Tidy s) {c : Candidate} (hc : c.after = s.lastDescription ∨ c ∈ s.received)
    (p : ℕ) : s.ready c p = true ↔ s.Settled c.after p := by
  unfold ready Settled
  cases hafter : c.after with
  | none => simp
  | some i =>
      have hdescribes : i < s.started ∧ (s.tasks i).kind.describes = true := by
        apply h.described i
        rcases hc with hc | hc
        · exact .inl (hc.symm.trans hafter)
        · exact .inr ⟨c, hc, hafter⟩
      simp only [List.contains_iff_mem, Option.mem_some_iff, forall_eq']
      constructor
      · intro happlied
        obtain ⟨-, hphase, hpc⟩ := h.past i p happlied
        exact ⟨hpc, hphase⟩
      · rintro ⟨rfl, hphase⟩
        exact h.applied i hdescribes.2 hphase

/-- **The loop takes a candidate that it may take.** -/
theorem Tidy.flushIceCandidates (h : Tidy s) {i p : ℕ} {next : Phase} (hi : i < s.started)
    (hmay : s.MayFlush p)
    (hphase : (s.tasks i).phase.applied = true) (hnext : next.applied = true) :
    Tidy (s.flushIceCandidates i p next) := by
  unfold VideoChat.flushIceCandidates
  cases hpending : s.pendingIceCandidates with
  | nil => exact h.goOn hi (by rw [hphase, hnext])
  | cons c rest =>
      have hmem : c ∈ s.pendingIceCandidates := by
        rw [hpending]
        exact List.mem_cons_self
      obtain ⟨hreceived, hmatch⟩ := h.inOrder.queued c hmem
      obtain ⟨hcurrent, hsettled⟩ := hmay c (by rw [hpending]; rfl)
      obtain ⟨hlt, -, hpc⟩ := h.current p hcurrent
      have honce := h.inOrder.once
      rw [hpending, List.cons_append] at honce
      have htaken : Tidy ({ s with pendingIceCandidates := rest }.addIceCandidate c p) := by
        refine ⟨⟨?_, ?_, ?_⟩, h.ids, h.current, ?_, h.begun, h.described, h.applied, h.past⟩
        · -- the candidate goes from the queue to those that were handed on
          have hperm : (rest ++ (s.handed.map Handing.candidate ++ [c])).Perm
              (c :: (rest ++ s.handed.map Handing.candidate)) := by
            rw [← List.append_assoc]
            exact List.perm_append_singleton c _
          show (rest ++ (s.handed ++ [_]).map Handing.candidate).Nodup
          rw [List.map_append]
          exact hperm.nodup_iff.2 honce
        · intro d hd
          exact h.inOrder.queued d (by rw [hpending]; exact List.mem_cons_of_mem c hd)
        · intro g hg
          rcases List.mem_append.1 hg with hg | hg
          · exact h.inOrder.handed g hg
          · rw [List.mem_singleton.1 hg]
            exact ⟨hreceived, decide_eq_true hcurrent, (h.ready_iff (.inr hreceived) p).2 hsettled,
              hpc.trans hmatch.symm⟩
        · intro g hg
          rcases List.mem_append.1 hg with hg | hg
          · exact h.made g hg
          · rw [List.mem_singleton.1 hg]
            exact hlt
      exact htaken.goOn hi hphase.symm

/-- A task makes a connection, of the match that is on. -/
theorem Tidy.createPeerConnection (h : Tidy s) {i : ℕ} (hphase : (s.tasks i).phase = .turn)
    {phase : Phase} (hnext : (s.tasks i).kind.describes = true → phase.applied = false) (peer : String) :
    Tidy ((s.createPeerConnection peer).setTask i { s.tasks i with phase := phase, pc := s.made }) := by
  have hi : i < s.started := h.begun i (by simp [hphase])
  have hbefore : (s.tasks i).phase.applied = false := by
    rw [hphase]
    rfl
  have hcreated : Tidy (s.createPeerConnection peer) := by
    refine ⟨⟨h.inOrder.once, h.inOrder.queued, ?_⟩, h.ids, ?_, ?_, h.begun,
      h.described, h.applied, h.past⟩
    · intro g hg
      show _ ∧ _ ∧ _ ∧ (Function.update s.connections s.made _ g.pc).matchNo = _
      rw [Function.update_of_ne (Nat.ne_of_lt (h.made g hg))]
      exact h.inOrder.handed g hg
    · rintro p hp
      cases hp
      refine ⟨Nat.lt_succ_self _, ?_⟩
      show (Function.update s.connections s.made _ s.made).closed = false ∧
        (Function.update s.connections s.made _ s.made).matchNo = s.matchNo
      rw [Function.update_self]
      exact ⟨rfl, rfl⟩
    · exact fun g hg => Nat.lt_succ_of_lt (h.made g hg)
  refine hcreated.setTask hi rfl ?_ ?_
  · intro hdescribes happlied
    rw [hnext hdescribes] at happlied
    cases happlied
  · intro hold
    rw [show (s.createPeerConnection peer).tasks = s.tasks from rfl, hbefore] at hold
    cases hold

/-- The next candidate has not been received yet. -/
theorem Tidy.candidate_fresh (h : Tidy s) : s.candidate ∉ s.received := by
  intro hmem
  have hlt := (h.ids _ hmem).1
  simp [candidate] at hlt

/-- A candidate that has no connection to go to is queued. -/
theorem Tidy.queue (h : Tidy s) :
    Tidy { s.receive s.candidate with
      pendingIceCandidates := s.pendingIceCandidates ++ [s.candidate] } := by
  have hin : ∀ c ∈ s.pendingIceCandidates ++ s.handed.map Handing.candidate, c ∈ s.received := by
    intro c hc
    rcases List.mem_append.1 hc with hc | hc
    · exact (h.inOrder.queued c hc).1
    · obtain ⟨g, hg, rfl⟩ := List.mem_map.1 hc
      exact (h.inOrder.handed g hg).1
  refine ⟨⟨?_, ?_, ?_⟩, ?_, h.current, h.made, h.begun, ?_, h.applied, h.past⟩
  · have hperm : ((s.pendingIceCandidates ++ [s.candidate]) ++ s.handed.map Handing.candidate).Perm
        (s.candidate :: (s.pendingIceCandidates ++ s.handed.map Handing.candidate)) := by
      rw [List.append_assoc]
      exact List.perm_middle
    exact hperm.nodup_iff.2 (List.nodup_cons.2 ⟨fun hmem => h.candidate_fresh (hin _ hmem), h.inOrder.once⟩)
  · intro c hc
    rcases List.mem_append.1 hc with hc | hc
    · have hq := h.inOrder.queued c hc
      exact ⟨List.mem_append_left _ hq.1, hq.2⟩
    · rw [List.mem_singleton.1 hc]
      exact ⟨List.mem_append_right _ List.mem_cons_self, rfl⟩
  · intro g hg
    have hh := h.inOrder.handed g hg
    exact ⟨List.mem_append_left _ hh.1, hh.2⟩
  · intro c hc
    show c.id < (s.received ++ [s.candidate]).length ∧ c.matchNo ≤ s.matchNo
    rw [List.length_append, List.length_singleton]
    rcases List.mem_append.1 hc with hc | hc
    · exact ⟨Nat.lt_succ_of_lt (h.ids c hc).1, (h.ids c hc).2⟩
    · rw [List.mem_singleton.1 hc]
      exact ⟨Nat.lt_succ_self _, Nat.le_refl _⟩
  · rintro i (hi | ⟨c, hc, hafter⟩)
    · exact h.described i (.inl hi)
    · rcases List.mem_append.1 hc with hc | hc
      · exact h.described i (.inr ⟨c, hc, hafter⟩)
      · rw [List.mem_singleton.1 hc] at hafter
        exact h.described i (.inl hafter)

/-- … and one that has is handed on, if the description before it is settled. -/
theorem Tidy.hand (h : Tidy s) {p : ℕ} (hp : s.peerConnection = some p)
    (hsettled : s.Settled s.lastDescription p) :
    Tidy ((s.receive s.candidate).addIceCandidate s.candidate p) := by
  obtain ⟨hlt, -, hmatch⟩ := h.current p hp
  have hqueue := h.queue
  have hkeep := hqueue.inOrder
  have hready : s.ready s.candidate p = true := (h.ready_iff (.inl rfl) p).2 hsettled
  refine ⟨⟨?_, ?_, ?_⟩, hqueue.ids, h.current, ?_, h.begun, hqueue.described, h.applied, h.past⟩
  · have hperm : (s.pendingIceCandidates ++ (s.handed.map Handing.candidate ++ [s.candidate])).Perm
        ((s.pendingIceCandidates ++ [s.candidate]) ++ s.handed.map Handing.candidate) := by
      rw [List.append_assoc]
      exact List.Perm.append_left _ List.perm_append_comm
    show (s.pendingIceCandidates ++ (s.handed ++ [_]).map Handing.candidate).Nodup
    rw [List.map_append]
    exact hperm.nodup_iff.2 hkeep.once
  · exact fun c hc => hkeep.queued c (List.mem_append_left _ hc)
  · intro g hg
    rcases List.mem_append.1 hg with hg | hg
    · exact hkeep.handed g hg
    · rw [List.mem_singleton.1 hg]
      exact ⟨List.mem_append_right _ List.mem_cons_self, decide_eq_true hp, hready, hmatch⟩
  · intro g hg
    rcases List.mem_append.1 hg with hg | hg
    · exact h.made g hg
    · rw [List.mem_singleton.1 hg]
      exact hlt

/-- A task that waits is a task that was started. -/
theorem Tidy.lt_started (h : Tidy s) {i : ℕ} {phase : Phase} (hphase : (s.tasks i).phase = phase)
    (hne : phase ≠ .done) : i < s.started :=
  h.begun i (hphase ▸ hne)

theorem Tidy.sendWebRTC (h : Tidy s) (packet : Packet) (peer : String) :
    Tidy (s.sendWebRTC packet peer) := by
  obtain ⟨sent, queue, heq⟩ := s.sendWebRTC_eq packet peer
  rw [heq]
  exact h.frame rfl rfl fun _ => ⟨rfl, rfl⟩

/-- A negotiation that gives up, or a handler past its description. -/
theorem Tidy.giveUp (h : Tidy s) {i : ℕ} (hi : i < s.started)
    (hpast : (s.tasks i).kind.describes = true → (s.tasks i).phase.applied = true) :
    Tidy (s.giveUp i) := by
  obtain ⟨negotiating, heq⟩ := s.giveUp_eq i
  rw [heq]
  have hframe : Tidy { s with negotiationStarted := negotiating } :=
    h.frame rfl rfl fun _ => ⟨rfl, rfl⟩
  exact hframe.setTask hi rfl (fun hdescribes _ => hpast hdescribes) fun _ => ⟨rfl, rfl⟩

theorem Tidy.startNegotiationIfNeeded (h : Tidy s) (peer : String) :
    Tidy (s.startNegotiationIfNeeded peer) := by
  obtain heq | ⟨phase, pc, -, heq⟩ := s.startNegotiationIfNeeded_eq peer
  · rw [heq]
    exact h
  · rw [heq]
    have hframe : Tidy { s with negotiationStarted := true } := h.frame rfl rfl fun _ => ⟨rfl, rfl⟩
    exact hframe.startTask fun hdescribes => by cases hdescribes

/-- **A task goes on**, and takes a candidate only if it may. -/
theorem Tidy.resolve (h : Tidy s) {i : ℕ} (htimely : Timely s (.resolve i))
    (ht : s.resolve i = some t) : Tidy t := by
  unfold VideoChat.resolve at ht
  dsimp only at ht
  split at ht
  · -- the local offer is rolled back
    rename_i hphase
    obtain ⟨-, ht⟩ := Option.ite_none_right_eq_some.1 ht
    cases ht
    refine (h.setSignaling _ _).goOn (h.lt_started hphase (by simp)) ?_
    show _ = (s.tasks i).phase.applied
    rw [hphase]
    rfl
  · -- the TURN servers are there
    rename_i hphase
    have hi := h.lt_started hphase (by simp)
    split at ht
    · rename_i hkind
      have hnot : (s.tasks i).kind.describes ≠ true := by simp [hkind, Kind.describes]
      split_ifs at ht
      · cases ht
        exact h.createPeerConnection hphase (fun hdescribes => absurd hdescribes hnot) _
      · cases ht
        exact h.giveUp hi fun hdescribes => absurd hdescribes hnot
    · split_ifs at ht
      · cases ht
        exact h.createPeerConnection hphase (fun _ => rfl) _
      · cases ht
        exact h.goOn hi (by rw [hphase]; rfl)
  · -- the remote description is applied
    rename_i hphase
    have hi := h.lt_started hphase (by simp)
    obtain ⟨hopen, ht⟩ := Option.ite_none_right_eq_some.1 ht
    cases ht
    have happlied := h.remoteApplied hi hphase
    have hpast : ((s.remoteApplied i).tasks i).phase.applied = true := by
      simp [VideoChat.remoteApplied, VideoChat.goOn, VideoChat.setTask, Phase.applied]
    unfold VideoChat.afterRemote
    split
    · exact happlied.goOn hi hpast.symm
    · rename_i p htarget
      refine happlied.flushIceCandidates hi ?_ hpast ?_
      · refine htimely.flushed (s.remoteApplied i, p) ?_
        simp [flushes, hphase, hopen, htarget]
      · unfold afterFlush
        split <;> rfl
  · -- the loop goes on
    rename_i p hphase
    obtain ⟨hopen, ht⟩ := Option.ite_none_right_eq_some.1 ht
    cases ht
    refine h.flushIceCandidates (h.lt_started hphase (by simp)) ?_ (by rw [hphase]; rfl) ?_
    · refine htimely.flushed (s, p) ?_
      simp [flushes, hphase, hopen]
    · unfold afterFlush
      split <;> rfl
  · rename_i hphase
    cases ht
    exact h.goOn (h.lt_started hphase (by simp)) (by rw [hphase]; rfl)
  · rename_i hphase
    have hi := h.lt_started hphase (by simp)
    split_ifs at ht
    · cases ht
      exact h.goOn hi (by rw [hphase]; rfl)
    · cases ht
      exact h.giveUp hi fun _ => by rw [hphase]; rfl
  · rename_i hphase
    obtain ⟨-, ht⟩ := Option.ite_none_right_eq_some.1 ht
    cases ht
    exact h.goOn (h.lt_started hphase (by simp)) (by rw [hphase]; rfl)
  · -- the local description is set
    rename_i hphase
    have hi := h.lt_started hphase (by simp)
    have hpast : Phase.applied .done = (s.tasks i).phase.applied := by
      rw [hphase]
      rfl
    have hsent (signaling : Signaling) (packet : Packet) :
        Tidy (((s.setSignaling (s.tasks i).pc signaling).sendWebRTC packet
          (s.tasks i).peer).goOn i .done) := by
      obtain ⟨sent, queue, heq⟩ :=
        (s.setSignaling (s.tasks i).pc signaling).sendWebRTC_eq packet (s.tasks i).peer
      have hsend := (h.setSignaling (s.tasks i).pc signaling).sendWebRTC packet (s.tasks i).peer
      rw [heq] at hsend ⊢
      exact hsend.goOn hi hpast
    obtain ⟨-, ht⟩ := Option.ite_none_right_eq_some.1 ht
    split at ht
    all_goals
      split_ifs at ht
      all_goals cases ht
    · exact hsent _ _
    · exact (h.setSignaling _ _).goOn hi hpast
    · exact hsent _ _
    · exact (h.setSignaling _ _).giveUp hi fun _ => hpast.symm
  · cases ht
  · cases ht

theorem Tidy.reject (h : Tidy s) {i : ℕ} (htimely : Timely s (.reject i))
    (ht : s.reject i = some t) : Tidy t := by
  unfold VideoChat.reject at ht
  dsimp only at ht
  split at ht
  · rename_i hphase
    cases ht
    refine h.reset.goOn (h.lt_started hphase (by simp)) ?_
    show _ = (s.tasks i).phase.applied
    rw [hphase]
    rfl
  · rename_i hphase
    cases ht
    exact h.goOn (h.lt_started hphase (by simp)) (by rw [hphase]; rfl)
  · rename_i p hphase
    cases ht
    refine h.flushIceCandidates (h.lt_started hphase (by simp)) ?_ (by rw [hphase]; rfl) ?_
    · refine htimely.flushed (s, p) ?_
      simp [flushes, hphase]
    · unfold afterFlush
      split <;> rfl
  all_goals cases ht
  all_goals
    rename_i hphase
    exact h.giveUp (h.lt_started hphase (by simp)) fun _ => by rw [hphase]; rfl

theorem Tidy.offer (h : Tidy s) (peer : String) : Tidy (s.offer peer) := by
  unfold VideoChat.offer
  split
  · exact h
  · dsimp only
    split
    · exact h.startDescription rfl rfl
    · split
      · exact h.startDescription rfl rfl
      · split
        · exact h.reset.startDescription rfl rfl
        · exact h.startDescription rfl rfl

theorem Tidy.answer (h : Tidy s) (peer : Option String) : Tidy (s.answer peer) := by
  unfold VideoChat.answer
  split
  · exact h
  · dsimp only
    split
    · exact h.startDescription rfl rfl
    · split
      · exact h.startDescription rfl rfl
      · exact h.startDescription rfl rfl

theorem Tidy.ice (h : Tidy s) {peer : Option String} (htimely : Timely s (.ice peer)) :
    Tidy (s.ice peer) := by
  unfold VideoChat.ice
  split
  · exact h
  · rename_i hignore
    split
    · exact h.queue
    · rename_i p hp
      split
      · exact h
      · rename_i hopen
        split
        · rename_i hremote
          refine h.hand hp (htimely.arrives p ?_)
          simp [handsOn, hignore, hp, hopen, hremote]
        · exact h.queue

theorem Tidy.matched (h : Tidy s) (peer : Option String) (videoEnabled : Bool) :
    Tidy (s.matched peer videoEnabled) := by
  have hturned : Tidy { s.beginNewChatEpoch.turnMatch.closePeerConnection.setPeerId peer with
      pendingIceCandidates := []
      pendingWebrtcStart := none
      negotiationStarted := false
      peerId := peer } :=
    h.turned rfl rfl rfl rfl rfl (matchNo_closePeerConnection s)
  unfold VideoChat.matched
  dsimp only
  split
  · exact hturned.reset
  · split
    · exact hturned
    · split
      · split
        · exact hturned
        · exact hturned.frame rfl rfl fun _ => ⟨rfl, rfl⟩
      · exact hturned

/-- **A timely step keeps the invariant.** -/
theorem Tidy.step (h : Tidy s) {e : Event} (htimely : Timely s e) (ht : s.step e = some t) :
    Tidy t := by
  cases e with
  | connected session =>
      cases ht
      unfold VideoChat.connected
      split
      · exact h
      · exact h.frame rfl rfl fun _ => ⟨rfl, rfl⟩
  | matched peer videoEnabled =>
      cases ht
      exact h.matched peer videoEnabled
  | webrtcStart peer =>
      cases ht
      unfold VideoChat.webrtcStart
      split
      · exact h
      · split
        · exact h.startNegotiationIfNeeded peer
        · exact h.frame rfl rfl fun _ => ⟨rfl, rfl⟩
  | disconnected | banned | timeout | stopped | stopSearch | skip | disconnect | cleanup
  | phoenixClosed =>
      cases ht
      exact h.turned rfl rfl rfl rfl rfl (matchNo_closePeerConnection s)
  | offer peer =>
      cases ht
      exact h.offer peer
  | answer peer =>
      cases ht
      exact h.answer peer
  | ice peer =>
      cases ht
      exact h.ice htimely
  | startSearch =>
      cases ht
      exact h.frame rfl rfl fun _ => ⟨rfl, rfl⟩
  | socketOpens =>
      obtain ⟨-, ht⟩ := Option.ite_none_right_eq_some.1 ht
      cases ht
      have hopen : Tidy { s with
          webrtcWs := some .isOpen
          webrtcSocketOpen := true
          sent := s.sent ++ s.webrtcWsQueue
          webrtcWsQueue := [] } := h.frame rfl rfl fun _ => ⟨rfl, rfl⟩
      unfold VideoChat.socketOpens
      dsimp only
      split
      · exact hopen
      · refine Tidy.startNegotiationIfNeeded ?_ _
        exact hopen.frame rfl rfl fun _ => ⟨rfl, rfl⟩
  | socketDrops | socketClosed exhausted =>
      obtain ⟨-, ht⟩ := Option.ite_none_right_eq_some.1 ht
      cases ht
      exact h.frame rfl rfl fun _ => ⟨rfl, rfl⟩
  | reconnect =>
      simp only [VideoChat.step] at ht
      split at ht
      · split_ifs at ht
        cases ht
        exact h.frame rfl rfl fun _ => ⟨rfl, rfl⟩
      · cases ht
  | peerEffect n | sessionEffect n =>
      obtain ⟨shown, -, ht⟩ := Option.map_eq_some_iff.1 ht
      cases ht
      exact h.frame rfl rfl fun _ => ⟨rfl, rfl⟩
  | resolve i => exact h.resolve htimely ht
  | reject i => exact h.reject htimely ht
  | localCandidate p =>
      obtain ⟨-, ht⟩ := Option.ite_none_right_eq_some.1 ht
      cases ht
      exact h.sendWebRTC _ _
  | negotiationNeeded p =>
      obtain ⟨-, ht⟩ := Option.ite_none_right_eq_some.1 ht
      cases ht
      exact h.startTask fun hdescribes => by cases hdescribes

end Tidy

/-! ### What a step does with candidates -/

/-- **What a step does with the candidates**: nothing; or another match is on; or the next candidate
arrives, and is queued or handed on; or the first of the queue is handed on; or the queue is emptied,
and the client's connection closed, if it had one. -/
inductive Move (s : VideoChat) (e : Event) (t : VideoChat) : Prop
  | still (h : (t.pendingIceCandidates, t.handed, t.received, t.matchNo) =
      (s.pendingIceCandidates, s.handed, s.received, s.matchNo))
  | turned (h : (t.pendingIceCandidates, t.handed, t.received, t.matchNo) =
      ([], s.handed, s.received, s.matchNo + 1))
  | queued (h : (t.pendingIceCandidates, t.handed, t.received, t.matchNo) =
      (s.pendingIceCandidates ++ [s.candidate], s.handed, s.received ++ [s.candidate], s.matchNo))
  | handed {g : Handing} (hg : g.candidate = s.candidate)
      (h : (t.pendingIceCandidates, t.handed, t.received, t.matchNo) =
        (s.pendingIceCandidates, s.handed ++ [g], s.received ++ [s.candidate], s.matchNo))
  | taken {c : Candidate} {rest : List Candidate} {g : Handing}
      (hc : s.pendingIceCandidates = c :: rest) (hg : g.candidate = c)
      (h : (t.pendingIceCandidates, t.handed, t.received, t.matchNo) =
        (rest, s.handed ++ [g], s.received, s.matchNo))
  | reset (h : (t.pendingIceCandidates, t.handed, t.received, t.matchNo) =
        ([], s.handed, s.received, s.matchNo))
      (hclosed : s.peerConnection = none ∧ s.resets e = true ∨
        (s.peerConnection.any fun p => (t.connections p).closed) = true)

section Move

variable {s t : VideoChat} {e : Event}

/-- A flush takes the first candidate, or none. -/
theorem move_flushIceCandidates {m : VideoChat} (i p : ℕ) (next : Phase)
    (hm : (m.pendingIceCandidates, m.handed, m.received, m.matchNo) =
      (s.pendingIceCandidates, s.handed, s.received, s.matchNo)) :
    Move s e (m.flushIceCandidates i p next) := by
  simp only [Prod.mk.injEq] at hm
  obtain ⟨hpending, hhanded, hreceived, hmatch⟩ := hm
  unfold VideoChat.flushIceCandidates
  cases hqueue : m.pendingIceCandidates with
  | nil =>
      refine .still ?_
      simp only [VideoChat.goOn, setTask, hpending, hhanded, hreceived, hmatch]
  | cons c rest =>
      refine @Move.taken s e _ c rest ⟨c, p, m.peerConnection = some p, m.ready c p⟩
        (hpending.symm.trans hqueue) rfl ?_
      simp only [VideoChat.goOn, setTask, addIceCandidate, hhanded, hreceived, hmatch]
      rfl

/-- A reset closes the connection. -/
theorem closed_closePeerConnection (s : VideoChat) {p : ℕ} (hp : s.peerConnection = some p) :
    (s.closePeerConnection.connections p).closed = true := by
  simp [closePeerConnection, hp]

theorem move_resolve {i : ℕ} (ht : s.resolve i = some t) : Move s e t := by
  unfold VideoChat.resolve at ht
  dsimp only at ht
  split at ht
  · obtain ⟨-, ht⟩ := Option.ite_none_right_eq_some.1 ht
    cases ht
    exact .still rfl
  · split at ht
    all_goals
      split_ifs at ht
      all_goals cases ht
    · exact .still rfl
    · obtain ⟨negotiating, heq⟩ := s.giveUp_eq i
      rw [heq]
      exact .still rfl
    · exact .still rfl
    · exact .still rfl
  · obtain ⟨-, ht⟩ := Option.ite_none_right_eq_some.1 ht
    cases ht
    unfold VideoChat.afterRemote
    split
    · exact .still rfl
    · exact move_flushIceCandidates i _ _ rfl
  · obtain ⟨-, ht⟩ := Option.ite_none_right_eq_some.1 ht
    cases ht
    exact move_flushIceCandidates i _ _ rfl
  · cases ht
    exact .still rfl
  · split_ifs at ht
    · cases ht
      exact .still rfl
    · cases ht
      obtain ⟨negotiating, heq⟩ := s.giveUp_eq i
      rw [heq]
      exact .still rfl
  · obtain ⟨-, ht⟩ := Option.ite_none_right_eq_some.1 ht
    cases ht
    exact .still rfl
  · have hsent (signaling : Signaling) (packet : Packet) :
        Move s e (((s.setSignaling (s.tasks i).pc signaling).sendWebRTC packet
          (s.tasks i).peer).goOn i .done) := by
      obtain ⟨sent, queue, heq⟩ :=
        (s.setSignaling (s.tasks i).pc signaling).sendWebRTC_eq packet (s.tasks i).peer
      rw [heq]
      exact .still rfl
    obtain ⟨-, ht⟩ := Option.ite_none_right_eq_some.1 ht
    split at ht
    all_goals
      split_ifs at ht
      all_goals cases ht
    · exact hsent _ _
    · exact .still rfl
    · exact hsent _ _
    · obtain ⟨negotiating, heq⟩ := (s.setSignaling (s.tasks i).pc .haveLocalOffer).giveUp_eq i
      rw [heq]
      exact .still rfl
  · cases ht
  · cases ht

theorem move_reject {i : ℕ} (ht : s.reject i = some t) : Move s (.reject i) t := by
  unfold VideoChat.reject at ht
  dsimp only at ht
  split at ht
  · rename_i hphase
    cases ht
    refine .reset rfl ?_
    cases hp : s.peerConnection with
    | none => exact .inl ⟨rfl, by simp [resets, hphase]⟩
    | some p => exact .inr (closed_closePeerConnection s hp)
  · cases ht
    exact .still rfl
  · cases ht
    exact move_flushIceCandidates i _ _ rfl
  all_goals cases ht
  all_goals
    obtain ⟨negotiating, heq⟩ := s.giveUp_eq i
    rw [heq]
    exact .still rfl

theorem move_offer (peer : String) : Move s e (s.offer peer) := by
  unfold VideoChat.offer
  split
  · exact .still rfl
  · dsimp only
    split
    · exact .still rfl
    · rename_i p hp
      split
      · exact .still rfl
      · split
        · refine .reset rfl (.inr ?_)
          rw [show s.peerConnection = some p from hp]
          exact closed_closePeerConnection s hp
        · exact .still rfl

theorem move_ice (peer : Option String) : Move s e (s.ice peer) := by
  unfold VideoChat.ice
  split
  · exact .still rfl
  · split
    · exact .queued rfl
    · split
      · exact .still rfl
      · split
        · exact @Move.handed s e _ ⟨s.candidate, _, _, _⟩ rfl rfl
        · exact .queued rfl

theorem move_matched (peer : Option String) (videoEnabled : Bool) :
    Move s e (s.matched peer videoEnabled) := by
  unfold VideoChat.matched
  dsimp only
  split
  · exact .turned rfl
  · split
    · exact .turned rfl
    · split
      · split
        · exact .turned rfl
        · exact .turned rfl
      · exact .turned rfl

theorem move_startNegotiationIfNeeded {m : VideoChat} (peer : String)
    (hm : (m.pendingIceCandidates, m.handed, m.received, m.matchNo) =
      (s.pendingIceCandidates, s.handed, s.received, s.matchNo)) :
    Move s e (m.startNegotiationIfNeeded peer) := by
  obtain heq | ⟨phase, pc, -, heq⟩ := m.startNegotiationIfNeeded_eq peer
  · rw [heq]
    exact .still hm
  · rw [heq]
    exact .still hm

/-- **Every step does one of these.** -/
theorem move_of_step (ht : s.step e = some t) : Move s e t := by
  cases e with
  | connected session =>
      cases ht
      unfold VideoChat.connected
      split
      · exact .still rfl
      · exact .still rfl
  | matched peer videoEnabled =>
      cases ht
      exact move_matched peer videoEnabled
  | webrtcStart peer =>
      cases ht
      unfold VideoChat.webrtcStart
      split
      · exact .still rfl
      · split
        · exact move_startNegotiationIfNeeded peer rfl
        · exact .still rfl
  | disconnected | banned | timeout | stopped | stopSearch | skip | disconnect | cleanup
  | phoenixClosed =>
      cases ht
      exact .turned rfl
  | offer peer =>
      cases ht
      exact move_offer peer
  | answer peer =>
      cases ht
      unfold VideoChat.answer
      split
      · exact .still rfl
      · dsimp only
        split
        · exact .still rfl
        · split
          · exact .still rfl
          · exact .still rfl
  | ice peer =>
      cases ht
      exact move_ice peer
  | startSearch =>
      cases ht
      exact .still rfl
  | socketOpens =>
      obtain ⟨-, ht⟩ := Option.ite_none_right_eq_some.1 ht
      cases ht
      unfold VideoChat.socketOpens
      dsimp only
      split
      · exact .still rfl
      · exact move_startNegotiationIfNeeded _ rfl
  | socketDrops | socketClosed exhausted =>
      obtain ⟨-, ht⟩ := Option.ite_none_right_eq_some.1 ht
      cases ht
      exact .still rfl
  | reconnect =>
      simp only [VideoChat.step] at ht
      split at ht
      · split_ifs at ht
        cases ht
        exact .still rfl
      · cases ht
  | peerEffect n | sessionEffect n =>
      obtain ⟨shown, -, ht⟩ := Option.map_eq_some_iff.1 ht
      cases ht
      exact .still rfl
  | resolve i => exact move_resolve ht
  | reject i => exact move_reject ht
  | localCandidate p =>
      obtain ⟨-, ht⟩ := Option.ite_none_right_eq_some.1 ht
      cases ht
      obtain ⟨sent, queue, heq⟩ := s.sendWebRTC_eq .ice (s.connections p).peer
      rw [heq]
      exact .still rfl
  | negotiationNeeded p =>
      obtain ⟨-, ht⟩ := Option.ite_none_right_eq_some.1 ht
      cases ht
      exact .still rfl

end Move

/-! ### Timely steps and the law -/

/-- A client whose candidates are all accounted for. -/
structure Followed (w : Watched) : Prop where
  tidy : Tidy w.client
  kept : ∀ c ∈ w.client.received, c.matchNo = w.client.matchNo →
    c ∈ w.client.pendingIceCandidates ∨ c ∈ w.client.handed.map Handing.candidate ∨
      ⟨c, true⟩ ∈ w.dropped
  gone : ∀ d ∈ w.dropped,
    d.candidate ∈ w.client.received ∧ d.candidate ∉ w.client.pendingIceCandidates

theorem followed_start : Followed .start :=
  ⟨tidy_start, fun _ hc => absurd hc List.not_mem_nil, fun _ hd => absurd hd List.not_mem_nil⟩

theorem Followed.conserved {w : Watched} (h : Followed w) : Conserved w := ⟨h.tidy.inOrder, h.kept⟩

section Followed

variable {s t : VideoChat} {e : Event} {w v : Watched}

theorem mem_drops {d : Drop} : d ∈ s.drops t ↔ d.candidate ∈ s.pendingIceCandidates ∧
    d.candidate ∉ t.pendingIceCandidates ∧ d.candidate ∉ t.handed.map Handing.candidate ∧
      (s.peerConnection.any fun p => (t.connections p).closed) = d.closed := by
  simp only [drops, List.mem_map, List.mem_filter, decide_eq_true_eq]
  constructor
  · rintro ⟨c, ⟨hin, hpending, hhanded⟩, rfl⟩
    exact ⟨hin, hpending, hhanded, rfl⟩
  · rintro ⟨hin, hpending, hhanded, hclosed⟩
    exact ⟨d.candidate, ⟨hin, hpending, hhanded⟩, by rw [hclosed]⟩

/-- Nothing that was received is forgotten, and only what arrives is queued. -/
theorem Move.grows (h : Move s e t) :
    s.received ⊆ t.received ∧ ∀ c ∈ t.pendingIceCandidates, c ∈ s.pendingIceCandidates ∨ c = s.candidate := by
  cases h with
  | still h | turned h | reset h | taken _ _ h =>
      simp only [Prod.mk.injEq] at h
      obtain ⟨hpending, -, hreceived, -⟩ := h
      rw [hpending, hreceived]
      refine ⟨fun _ hc => hc, fun c hc => .inl ?_⟩
      simp_all
  | queued h =>
      simp only [Prod.mk.injEq] at h
      obtain ⟨hpending, -, hreceived, -⟩ := h
      rw [hpending, hreceived]
      refine ⟨List.subset_append_left _ _, fun c hc => ?_⟩
      rcases List.mem_append.1 hc with hc | hc
      · exact .inl hc
      · exact .inr (List.mem_singleton.1 hc)
  | handed _ h =>
      simp only [Prod.mk.injEq] at h
      obtain ⟨hpending, -, hreceived, -⟩ := h
      rw [hpending, hreceived]
      exact ⟨List.subset_append_left _ _, fun c hc => .inl hc⟩

/-- **After a timely step every candidate of the match is still accounted for.** -/
theorem Followed.kept_step (h : Followed w) (htimely : Timely w.client e) (hmove : Move w.client e t)
    {c : Candidate} (hc : c ∈ t.received) (hnow : c.matchNo = t.matchNo) :
    c ∈ t.pendingIceCandidates ∨ c ∈ t.handed.map Handing.candidate ∨
      ⟨c, true⟩ ∈ w.dropped ++ w.client.drops t := by
  cases hmove with
  | still hsame =>
      simp only [Prod.mk.injEq] at hsame
      obtain ⟨hpending, hhanded, hreceived, hmatch⟩ := hsame
      rw [hreceived] at hc
      rw [hmatch] at hnow
      rw [hpending, hhanded]
      rcases h.kept c hc hnow with hin | hin | hin
      · exact .inl hin
      · exact .inr (.inl hin)
      · exact .inr (.inr (List.mem_append_left _ hin))
  | turned hsame =>
      simp only [Prod.mk.injEq] at hsame
      obtain ⟨-, -, hreceived, hmatch⟩ := hsame
      rw [hreceived] at hc
      have hle := (h.tidy.ids c hc).2
      omega
  | queued hsame =>
      simp only [Prod.mk.injEq] at hsame
      obtain ⟨hpending, hhanded, hreceived, hmatch⟩ := hsame
      rw [hreceived, List.mem_append] at hc
      rw [hmatch] at hnow
      rw [hpending, hhanded]
      rcases hc with hc | hc
      · rcases h.kept c hc hnow with hin | hin | hin
        · exact .inl (List.mem_append_left _ hin)
        · exact .inr (.inl hin)
        · exact .inr (.inr (List.mem_append_left _ hin))
      · exact .inl (List.mem_append_right _ hc)
  | @handed g hg hsame =>
      simp only [Prod.mk.injEq] at hsame
      obtain ⟨hpending, hhanded, hreceived, hmatch⟩ := hsame
      rw [hreceived, List.mem_append] at hc
      rw [hmatch] at hnow
      rw [hpending, hhanded, List.map_append, List.mem_append]
      rcases hc with hc | hc
      · rcases h.kept c hc hnow with hin | hin | hin
        · exact .inl hin
        · exact .inr (.inl (.inl hin))
        · exact .inr (.inr (List.mem_append_left _ hin))
      · rw [List.mem_singleton.1 hc]
        exact .inr (.inl (.inr (by simp [hg])))
  | @taken first rest g hfirst hg hsame =>
      simp only [Prod.mk.injEq] at hsame
      obtain ⟨hpending, hhanded, hreceived, hmatch⟩ := hsame
      rw [hreceived] at hc
      rw [hmatch] at hnow
      rw [hpending, hhanded, List.map_append, List.mem_append]
      rcases h.kept c hc hnow with hin | hin | hin
      · rw [hfirst, List.mem_cons] at hin
        rcases hin with rfl | hin
        · exact .inr (.inl (.inr (by simp [hg])))
        · exact .inl hin
      · exact .inr (.inl (.inl hin))
      · exact .inr (.inr (List.mem_append_left _ hin))
  | reset hsame hclosed =>
      simp only [Prod.mk.injEq] at hsame
      obtain ⟨hpending, hhanded, hreceived, hmatch⟩ := hsame
      rw [hreceived] at hc
      rw [hmatch] at hnow
      rcases h.kept c hc hnow with hin | hin | hin
      · -- what was queued is dropped, with the connection that is closed
        right
        by_cases hdone : c ∈ t.handed.map Handing.candidate
        · exact .inl hdone
        · refine .inr (List.mem_append_right _ (mem_drops.2 ⟨hin, ?_, hdone, ?_⟩))
          · rw [hpending]
            exact List.not_mem_nil
          · rcases hclosed with ⟨hnone, hresets⟩ | hclosed
            · rw [htimely.reset hresets hnone] at hin
              exact absurd hin List.not_mem_nil
            · exact hclosed
      · rw [hhanded]
        exact .inr (.inl hin)
      · exact .inr (.inr (List.mem_append_left _ hin))

/-- **A timely step leaves every candidate accounted for.** -/
theorem Followed.step (h : Followed w) (htimely : Timely w.client e) (hv : w.step e = some v) :
    Followed v := by
  obtain ⟨t, ht, rfl⟩ := Option.map_eq_some_iff.1 hv
  have hmove := move_of_step ht
  obtain ⟨hreceived, hpending⟩ := hmove.grows
  refine ⟨h.tidy.step htimely ht, fun c hc hnow => h.kept_step htimely hmove hc hnow, ?_⟩
  intro d hd
  rcases List.mem_append.1 hd with hd | hd
  · obtain ⟨hin, hout⟩ := h.gone d hd
    refine ⟨hreceived hin, fun hqueued => ?_⟩
    rcases hpending _ hqueued with hqueued | hnew
    · exact hout hqueued
    · rw [hnew] at hin
      exact h.tidy.candidate_fresh hin
  · obtain ⟨hin, hout, -⟩ := mem_drops.1 hd
    exact ⟨hreceived (h.tidy.inOrder.queued _ hin).1, hout⟩

/-- What a step that looks at the queue does. -/
theorem Tidy.flushes (h : Tidy s) {m : VideoChat} {p : ℕ} (hm : s.flushes e = some (m, p))
    (ht : s.step e = some t) : Tidy m ∧ ∃ i next, t = m.flushIceCandidates i p next := by
  cases e with
  | resolve i =>
      simp only [VideoChat.flushes] at hm
      simp only [VideoChat.step, VideoChat.resolve] at ht
      split at hm
      · rename_i q hphase
        split_ifs at hm with hopen
        cases hm
        rw [hphase] at ht
        simp only [if_pos hopen] at ht
        cases ht
        exact ⟨h, i, _, rfl⟩
      · rename_i hphase
        split_ifs at hm with hopen
        obtain ⟨q, hq, hm⟩ := Option.map_eq_some_iff.1 hm
        cases hm
        rw [hphase] at ht
        simp only [if_pos hopen, VideoChat.afterRemote, hq] at ht
        cases ht
        exact ⟨h.remoteApplied (h.lt_started hphase (by simp)) hphase, i, _, rfl⟩
      · cases hm
  | reject i =>
      simp only [VideoChat.flushes] at hm
      simp only [VideoChat.step, VideoChat.reject] at ht
      split at hm
      · rename_i q hphase
        cases hm
        rw [hphase] at ht
        cases ht
        exact ⟨h, i, _, rfl⟩
      · cases hm
  | _ => cases hm

/-- **A step after which the law holds is timely.** -/
theorem Followed.force (h : Followed w) (hv : w.step e = some v) (hlaw : Conserved v) :
    Timely w.client e := by
  obtain ⟨t, ht, rfl⟩ := Option.map_eq_some_iff.1 hv
  refine ⟨?_, ?_, ?_⟩
  · -- what arrives and is handed on is ready
    intro p hp
    cases e with
    | ice peer =>
        simp only [handsOn, Option.mem_def] at hp
        split_ifs at hp with hignore
        obtain ⟨hpc, hopen⟩ := Option.filter_eq_some_iff.1 hp
        simp only [Bool.and_eq_true, Bool.not_eq_true'] at hopen
        have hice : w.client.ice peer =
            (w.client.receive w.client.candidate).addIceCandidate w.client.candidate p := by
          simp [VideoChat.ice, hignore, hpc, hopen]
        cases ht
        have hmem : (⟨w.client.candidate, p, w.client.peerConnection = some p,
            w.client.ready w.client.candidate p⟩ : Handing) ∈ (w.client.ice peer).handed := by
          rw [hice]
          exact List.mem_append_right _ List.mem_cons_self
        exact (h.tidy.ready_iff (.inl rfl) p).1 (hlaw.inOrder.handed _ hmem).2.2.1
    | _ => cases hp
  · -- and so is what is taken from the queue, for the client's connection
    rintro ⟨m, p⟩ hm c hc
    obtain ⟨htidy, i, next, rfl⟩ := h.tidy.flushes hm ht
    obtain ⟨rest, hqueue⟩ := List.head?_eq_some_iff.1 hc
    have hmem : (⟨c, p, m.peerConnection = some p, m.ready c p⟩ : Handing) ∈
        (m.flushIceCandidates i p next).handed := by
      simp only [VideoChat.flushIceCandidates]
      rw [hqueue]
      exact List.mem_append_right _ List.mem_cons_self
    obtain ⟨-, hcurrent, hready, -⟩ := hlaw.inOrder.handed _ hmem
    have hin : c ∈ m.pendingIceCandidates := by
      rw [hqueue]
      exact List.mem_cons_self
    exact ⟨of_decide_eq_true hcurrent,
      (htidy.ready_iff (.inr (htidy.inOrder.queued c hin).1) p).1 hready⟩
  · -- a rollback fails: what is queued would be lost
    intro hresets hnone
    cases e with
    | reject i =>
        have hphase : (w.client.tasks i).phase = .rollback := of_decide_eq_true hresets
        simp only [VideoChat.step, VideoChat.reject, hphase, Option.some.injEq] at ht
        subst ht
        refine List.eq_nil_iff_forall_not_mem.2 fun c hc => ?_
        obtain ⟨hreceived, hnow⟩ := h.tidy.inOrder.queued c hc
        rcases hlaw.kept c hreceived hnow with hin | hin | hin
        · cases hin
        · exact (List.nodup_append.1 h.tidy.inOrder.once).2.2 c hc c hin rfl
        · rcases List.mem_append.1 hin with hin | hin
          · exact (h.gone _ hin).2 hc
          · have hclosed := (mem_drops.1 hin).2.2.2
            rw [hnone] at hclosed
            cases hclosed
    | _ => cases hresets

end Followed

/-- **A run keeps the law exactly when its steps are timely.** -/
theorem conserved_iff {l : List Event} {w : Watched} (h : Run Watched.step Always .start l w) :
    (∀ l' v, l' <+: l → Run Watched.step Always .start l' v → Conserved v) ↔
      Run Watched.step (fun w e => Timely w.client e) .start l w :=
  h.law_iff (fun _ _ _ hw htimely hv => hw.step htimely hv) (fun _ hw => hw.conserved)
    (fun _ _ _ hw hv hlaw => hw.force hv hlaw) followed_start

/-- One candidate comes before the offer, waits for the connection, and is handed on when the offer has
been applied; the next is handed on at once. -/
theorem conserved_example : ∃ l w, Run Watched.step Always .start l w ∧
    (∀ l' v, l' <+: l → Run Watched.step Always .start l' v → Conserved v) ∧
    w.client.handed.length = 2 := by
  let l : List Event := [.connected "b", .socketOpens, .matched (some "a") true, .ice (some "a"),
    .offer "a", .resolve 0, .resolve 0, .resolve 0, .ice (some "a")]
  obtain ⟨w, hrun, hw⟩ : ∃ w, Run Watched.step (fun w e => Timely w.client e) .start l w ∧
      decide (w.client.handed.length = 2) = true := exists_run_of_execWhere (by decide)
  exact ⟨l, w, hrun.always, (conserved_iff hrun.always).2 hrun, of_decide_eq_true hw⟩

/-- **The law fails**: the client has made an offer of its own when the partner's comes; while it rolls
its own back, a candidate that belongs to the partner's goes to the connection at once, which still has
the description before. -/
theorem conserved_fails : ¬ ∀ l w, Run Watched.step Always .start l w → Conserved w := by
  intro hall
  let l : List Event := [.connected "b", .socketOpens, .matched (some "a") true, .offer "a",
    .resolve 0, .resolve 0, .resolve 0, .resolve 0, .resolve 0, .resolve 0, .negotiationNeeded 0,
    .resolve 1, .resolve 1, .offer "a", .ice (some "a")]
  obtain ⟨w, hrun, hw⟩ : ∃ w, Run Watched.step Always .start l w ∧
      decide (∃ g ∈ w.client.handed, g.ready = false) = true := exists_run_of_execWhere (by decide)
  obtain ⟨g, hg, hready⟩ := of_decide_eq_true hw
  have hkept := ((hall l w hrun).inOrder.handed g hg).2.2.1
  rw [hready] at hkept
  cases hkept

end VideoChat

end Client
