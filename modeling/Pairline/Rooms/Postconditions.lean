/-
**What skip and stop leave behind.**

Both handlers reset the match of a session and go on, whatever came of that: the reset reads the two
records and needs both, on one shard.  A skip whose reset did not go through queues a session that
still has its partner; a stop leaves it matched.  A stop of a matched session takes it out of no
queue, and a stop that cannot read the session takes it for gone.

Until a handler has its locks, others may make of the store what they like; from then on only its own
commands count, and any of them may fail.

Main definitions:

* `Rooms.HandlerRun` — a handler's turns, undisturbed once it has its locks;
* `Rooms.Skipped`, `Rooms.Stopped` — what a skip and a stop promise;
* `Rooms.ResetGoesThrough` — the condition on the reset.

Main results:

* `Rooms.run_pairUnderLocks` — two sessions that nothing keeps apart are paired;
* `Rooms.skipped_and_stopped_iff` — **the promises are kept exactly when the reset goes through**, and
  for a stop no queue is left out.
-/

import Pairline.Rooms.Store
import Pairline.Sessions.FailedWrites
import Pairline.Turns

set_option relaxedAutoImplicit false
set_option autoImplicit false

namespace Rooms

open Matchmaker (SessionId)
open Sessions (Session Runtime Updates)
open Sessions.SessionLock (orderedIds)
open Program

/-! ### Records -/

section Records

variable {s : RoomStore} {sid sid' : SessionId} {session session' : Session}

theorem id_of_find (h : s.find sid = some session) : session.id = sid := by
  obtain ⟨record, -, rfl⟩ := Option.map_eq_some_iff.1 h
  rfl

theorem find_setRecord_self : (s.setRecord sid (some session)).find sid =
    some { session with id := sid } := by
  simp only [RoomStore.find, RoomStore.setRecord, Function.update_self, Option.map_some]

theorem find_setRecord_of_ne {record : Option Session} (h : sid' ≠ sid) :
    (s.setRecord sid record).find sid' = s.find sid' := by
  simp only [RoomStore.find, RoomStore.setRecord, Function.update_of_ne h]

theorem find_setPair (h : session.id = session'.id → session = session') :
    (s.setPair session session').find session.id = some session := by
  unfold RoomStore.setPair
  by_cases hid : session.id = session'.id
  · rw [hid, find_setRecord_self, h hid]
  · rw [find_setRecord_of_ne hid, find_setRecord_self]

end Records

/-! ### Runs that nobody disturbs -/

section Alone

variable {rt : Runtime} {turns : ℕ → Turn World RoomStore RoomError} {pid : Pid} {sid : SessionId}
  {n : ℕ} {s : RoomStore}

/-- From the turn `n` on, nobody else does anything. -/
def Undisturbed (turns : ℕ → Turn World RoomStore RoomError) (n : ℕ) : Prop :=
  ∀ k, n ≤ k → (turns k).meanwhile = id

theorem Undisturbed.later (h : Undisturbed turns n) {k : ℕ} (hk : n ≤ k) : Undisturbed turns k :=
  fun j hj => h j (hk.trans hj)

/-- A run among the rooms goes forward. -/
theorem le_turnAmong {α : Type} (rt : Runtime) (turns : ℕ → Turn World RoomStore RoomError) (n : ℕ)
    (s : RoomStore) (p : RoomProg α) : n ≤ (p.runAmong (exec rt) turns n s).turn :=
  le_turn_runAmong p

/-- A command that takes effect. -/
theorem run_room_ok (halone : Undisturbed turns n) (hfault : (turns n).fault = none) (op : RoomOp) :
    (room pid op).runAmong (exec rt) turns n s =
      ⟨.ok (exec rt (turns n).world ⟨pid, op⟩ s).1, (exec rt (turns n).world ⟨pid, op⟩ s).2, n + 1⟩ := by
  rw [room, command, runAmong_call, hfault, halone n le_rfl]
  rfl

/-- A command that fails. -/
theorem run_room_error (halone : Undisturbed turns n) {e : RoomError}
    (hfault : (turns n).fault = some e) (op : RoomOp) :
    (room pid op).runAmong (exec rt) turns n s = ⟨.error e, s, n + 1⟩ := by
  rw [room, command, runAmong_call, hfault, halone n le_rfl]
  rfl

theorem turn_room (op : RoomOp) : ((room pid op).runAmong (exec rt) turns n s).turn = n + 1 := by
  rw [room, command, runAmong_call]
  cases (turns n).fault <;> rfl

/-- A look-up finds the session, or it fails. -/
theorem run_readSession (halone : Undisturbed turns n) :
    (readSession pid sid).runAmong (exec rt) turns n s =
      ⟨if (turns n).fault = none then s.find sid else none, s, n + 1⟩ := by
  rw [readSession, bind_eq, runAmong_bind]
  cases hfault : (turns n).fault with
  | none =>
      rw [run_room_ok halone hfault]
      rfl
  | some e =>
      rw [run_room_error halone hfault]
      rfl

/-- A session that was found is in the store, whatever the others did before. -/
theorem find_of_readSession {session : Session}
    (h : ((readSession pid sid).runAmong (exec rt) turns n s).result = some session) :
    ((readSession pid sid).runAmong (exec rt) turns n s).store.find sid = some session := by
  rw [readSession, bind_eq, runAmong_bind] at h ⊢
  rw [room, command, runAmong_call] at h ⊢
  cases hfault : (turns n).fault with
  | none =>
      rw [hfault] at h
      exact h
  | some e =>
      rw [hfault] at h
      cases h

/-- What a release leaves alone: everything but the locks. -/
structure SameRooms (s t : RoomStore) : Prop where
  records : t.records = s.records
  queues : t.queues = s.queues
  listed : t.listed = s.listed

theorem SameRooms.find {t : RoomStore} (h : SameRooms s t) : t.find sid = s.find sid := by
  simp only [RoomStore.find, h.records]

theorem SameRooms.trans {t u : RoomStore} (h : SameRooms s t) (h' : SameRooms t u) : SameRooms s u :=
  ⟨h'.records.trans h.records, h'.queues.trans h.queues, h'.listed.trans h.listed⟩

theorem sameRooms_releaseAll (halone : Undisturbed turns n) (acquired : List SessionId) :
    SameRooms s ((releaseAll pid acquired).runAmong (exec rt) turns n s).store := by
  induction acquired generalizing n s with
  | nil => exact ⟨rfl, rfl, rfl⟩
  | cons sid acquired ih =>
      rw [releaseAll, bind_eq, runAmong_bind, turn_room]
      refine SameRooms.trans ?_ (ih (halone.later (Nat.le_succ n)))
      cases hfault : (turns n).fault with
      | none =>
          rw [run_room_ok halone hfault]
          simp only [exec]
          split <;> exact ⟨rfl, rfl, rfl⟩
      | some e =>
          rw [run_room_error halone hfault]
          exact ⟨rfl, rfl, rfl⟩

/-! ### The end of a match -/

/-- **The reset of a match goes through**: the records of both are read, they are on one shard, and
the script takes effect. -/
def ResetGoesThrough (turns : ℕ → Turn World RoomStore RoomError) (n : ℕ) (s : RoomStore)
    (sid partnerId : SessionId) : Prop :=
  (turns n).fault = none ∧ (turns (n + 1)).fault = none ∧ (turns (n + 2)).fault = none ∧
    ∃ session partnerSession, s.find sid = some session ∧ s.find partnerId = some partnerSession ∧
      session.redisShard = partnerSession.redisShard

/-- Two records on one shard are reset by a script. -/
theorem run_resetPair_ok (halone : Undisturbed turns n) (hfault : (turns n).fault = none)
    {session1 session2 : Session} (h : session1.redisShard = session2.redisShard) :
    (resetPair pid session1 session2).runAmong (exec rt) turns n s =
      ⟨.ok (), (exec rt (turns n).world ⟨pid, .resetPairScript session1 session2⟩ s).2, n + 1⟩ := by
  have hprogram : resetPair pid session1 session2 = room pid (.resetPairScript session1 session2) :=
    if_neg (not_not_intro h)
  rw [hprogram]
  exact run_room_ok halone hfault _

theorem run_resetPair_of_ne {session1 session2 : Session}
    (h : session1.redisShard ≠ session2.redisShard) :
    (resetPair pid session1 session2).runAmong (exec rt) turns n s =
      ⟨.error .crossShardPairingUnsupported, s, n⟩ := by
  have hprogram : resetPair pid session1 session2 = .ret (.error .crossShardPairingUnsupported) :=
    if_pos h
  rw [hprogram]
  rfl

theorem run_resetPair_error (halone : Undisturbed turns n) {e : RoomError}
    (hfault : (turns n).fault = some e) (session1 session2 : Session) :
    ∃ reason, ((resetPair pid session1 session2).runAmong (exec rt) turns n s).result = .error reason ∧
      ((resetPair pid session1 session2).runAmong (exec rt) turns n s).store = s := by
  by_cases h : session1.redisShard = session2.redisShard
  · have hprogram : resetPair pid session1 session2 = room pid (.resetPairScript session1 session2) :=
      if_neg (not_not_intro h)
    have hrun : (room pid (.resetPairScript session1 session2)).runAmong (exec rt) turns n s =
        ⟨.error e, s, n + 1⟩ := run_room_error halone hfault _
    rw [hprogram]
    exact ⟨e, congrArg Ended.result hrun, congrArg Ended.store hrun⟩
  · rw [run_resetPair_of_ne h]
    exact ⟨_, rfl, rfl⟩

/-- A reset that goes through leaves a session without a partner. -/
theorem resetMatch_of_goesThrough (halone : Undisturbed turns n) {partnerId : SessionId}
    {reason : String} (h : ResetGoesThrough turns n s sid partnerId) :
    ∃ session now, s.find sid = some session ∧
      ((resetMatch pid sid partnerId reason).runAmong (exec rt) turns n s).store.find sid =
        some (session.unmatched now) ∧
      ((resetMatch pid sid partnerId reason).runAmong (exec rt) turns n s).store.queues = s.queues ∧
      ((resetMatch pid sid partnerId reason).runAmong (exec rt) turns n s).store.listed = s.listed := by
  obtain ⟨hfirst, hsecond, hthird, session, partnerSession, hsession, hpartner, hshard⟩ := h
  have halone₁ : Undisturbed turns (n + 1) := halone.later (by omega)
  have halone₂ : Undisturbed turns (n + 1 + 1) := halone.later (by omega)
  have halone₃ : Undisturbed turns (n + 1 + 1 + 1) := halone.later (by omega)
  change (turns (n + 1 + 1)).fault = none at hthird
  refine ⟨session, (turns (n + 1 + 1)).world.now, hsession, ?_⟩
  -- the two records are read
  rw [resetMatch, bind_eq, runAmong_bind, run_readSession halone, if_pos hfirst, hsession]
  dsimp only
  rw [bind_eq, runAmong_bind, run_readSession halone₁, if_pos hsecond, hpartner]
  dsimp only
  -- the script writes both
  rw [bind_eq, runAmong_bind, run_resetPair_ok halone₂ hthird hshard]
  dsimp only
  have hid := id_of_find hsession
  have hfind : ((exec rt (turns (n + 1 + 1)).world ⟨pid, .resetPairScript session partnerSession⟩
      s).2).find sid = some (session.unmatched (turns (n + 1 + 1)).world.now) := by
    have hpair := @find_setPair s (session.unmatched (turns (n + 1 + 1)).world.now)
      (partnerSession.unmatched (turns (n + 1 + 1)).world.now) fun heq => by
        have hsame : sid = partnerId :=
          hid.symm.trans (heq.trans (show partnerSession.id = partnerId from id_of_find hpartner))
        subst hsame
        rw [Option.some_inj.1 (hsession.symm.trans hpartner)]
    rw [show (session.unmatched (turns (n + 1 + 1)).world.now).id = sid from hid] at hpair
    exact hpair
  rw [bind_eq, runAmong_bind]
  cases hfault : (turns (n + 1 + 1 + 1)).fault with
  | none =>
      rw [run_room_ok halone₃ hfault]
      exact ⟨hfind, rfl, rfl⟩
  | some e =>
      rw [run_room_error halone₃ hfault]
      exact ⟨hfind, rfl, rfl⟩

/-- A reset that does not go through does nothing. -/
theorem resetMatch_of_not_goesThrough (halone : Undisturbed turns n) {partnerId : SessionId}
    {reason : String} (h : ¬ ResetGoesThrough turns n s sid partnerId) :
    ((resetMatch pid sid partnerId reason).runAmong (exec rt) turns n s).store = s := by
  have halone₁ : Undisturbed turns (n + 1) := halone.later (by omega)
  have halone₂ : Undisturbed turns (n + 1 + 1) := halone.later (by omega)
  rw [resetMatch, bind_eq, runAmong_bind, run_readSession halone]
  dsimp only
  split
  next => rfl
  next session hsession =>
      split_ifs at hsession with hfirst
      rw [bind_eq, runAmong_bind, run_readSession halone₁]
      dsimp only
      split
      next => rfl
      next partnerSession hpartner =>
          split_ifs at hpartner with hsecond
          rw [bind_eq, runAmong_bind]
          cases hfault : (turns (n + 1 + 1)).fault with
          | none =>
              have hshard : session.redisShard ≠ partnerSession.redisShard := fun heq =>
                h ⟨hfirst, hsecond, hfault, session, partnerSession, hsession, hpartner, heq⟩
              rw [run_resetPair_of_ne hshard]
              rfl
          | some e =>
              have hreset : ∃ reason,
                  ((resetPair pid session partnerSession).runAmong (exec rt) turns (n + 1 + 1) s).result =
                    .error reason ∧
                  ((resetPair pid session partnerSession).runAmong (exec rt) turns (n + 1 + 1) s).store = s :=
                run_resetPair_error halone₂ hfault _ _
              obtain ⟨reason, hresult, hstore⟩ := hreset
              rw [hresult, hstore]
              rfl

/-! ### Updates and queues -/

/-- An update that succeeds has merged the fields into the record that it found. -/
theorem run_updateSession (halone : Undisturbed turns n) {updates : Updates} {updated : Session}
    (h : ((updateSession pid sid updates).runAmong (exec rt) turns n s).result = .ok updated) :
    ∃ session now, s.find sid = some session ∧
      ((updateSession pid sid updates).runAmong (exec rt) turns n s).store.find sid =
        some { (session.merge updates).touchLastActivity now with id := sid } ∧
      ((updateSession pid sid updates).runAmong (exec rt) turns n s).store.queues = s.queues ∧
      ((updateSession pid sid updates).runAmong (exec rt) turns n s).store.listed = s.listed := by
  rw [updateSession, bind_eq, runAmong_bind] at h ⊢
  cases hfault : (turns n).fault with
  | some e =>
      rw [run_room_error halone hfault] at h
      cases h
  | none =>
      rw [run_room_ok halone hfault] at h ⊢
      dsimp only [exec] at h ⊢
      cases hfind : s.find sid with
      | none =>
          rw [hfind] at h
          cases h
      | some session =>
          refine ⟨session, (turns n).world.now, rfl, ?_⟩
          dsimp only
          have hset := @find_setRecord_self s sid
            ((session.merge updates).touchLastActivity (turns n).world.now)
          split
          · exact ⟨hset, rfl, rfl⟩
          · exact ⟨hset, rfl, rfl⟩

variable {text : Matchmaker.Text} {config : Matchmaker.Config}

/-- The queues of a session with its preferences, under its route. -/
def queuesToJoin (rt : Runtime) (text : Matchmaker.Text) (config : Matchmaker.Config)
    (preferences : Matchmaker.NormalPreferences) (session : Session) : List String :=
  Matchmaker.initialQueueKeys text config preferences
    (Sessions.routeForSession rt session).mode (Sessions.routeForSession rt session).shard

/-- A join that succeeds has enqueued the session, and its record is as it was. -/
theorem run_joinQueue (halone : Undisturbed turns n) {preferences : Matchmaker.NormalPreferences}
    (h : ((joinQueue text config pid sid preferences).runAmong (exec rt) turns n s).result = .ok ()) :
    ∃ session, s.find sid = some session ∧
      ((joinQueue text config pid sid preferences).runAmong (exec rt) turns n s).store.find sid =
        some session ∧
      ∀ queueKey ∈ queuesToJoin rt text config preferences session, queueKey ∈
        ((joinQueue text config pid sid preferences).runAmong (exec rt) turns n s).store.queues sid := by
  rw [joinQueue, bind_eq, runAmong_bind] at h ⊢
  have halone₁ : Undisturbed turns (n + 1) := halone.later (by omega)
  cases hfault : (turns n).fault with
  | some e =>
      rw [run_room_error halone hfault] at h
      cases h
  | none =>
      rw [run_room_ok halone hfault] at h ⊢
      dsimp only [exec] at h ⊢
      cases hfind : s.find sid with
      | none =>
          rw [hfind] at h
          cases h
      | some session =>
          rw [hfind] at h
          dsimp only [Option.map_some] at h ⊢
          refine ⟨session, rfl, ?_⟩
          cases hfault' : (turns (n + 1)).fault with
          | some e =>
              have hrun : (room pid (.enqueueQueueKeys sid
                    (queuesToJoin rt text config preferences session))).runAmong (exec rt) turns (n + 1) s =
                  ⟨.error e, s, n + 1 + 1⟩ := run_room_error halone₁ hfault' _
              have hresult := (congrArg Ended.result hrun).symm.trans h
              cases hresult
          | none =>
              have hrun := @run_room_ok rt turns pid (n + 1) s halone₁ hfault'
                (.enqueueQueueKeys sid (queuesToJoin rt text config preferences session))
              have hfound := congrArg (fun ended => ended.store.find sid) hrun
              have hqueues := congrArg (fun ended => ended.store.queues sid) hrun
              refine ⟨hfound.trans hfind, fun queueKey hqueueKey => ?_⟩
              refine (congrArg (queueKey ∈ ·) hqueues).mpr ?_
              simp only [exec, Function.update_self]
              exact List.mem_append_right _ hqueueKey

/-! ### Skip -/

/-- Nothing in `pair_users` keeps the session from being paired. -/
def MayBePaired (session : Session) : Prop :=
  Matchmaker.pairableSession session = true ∧ session.banStatus = false

/-- Two sessions of one shard are paired by a script. -/
theorem run_pairSessions_ok (halone : Undisturbed turns n) (hfault : (turns n).fault = none)
    {session1 session2 : Session} (h : session1.redisShard = session2.redisShard) :
    (pairSessions pid session1 session2).runAmong (exec rt) turns n s =
      ⟨.ok (session1.matchedWith session2.id (turns n).world.generation (turns n).world.now,
          session2.matchedWith session1.id (turns n).world.generation (turns n).world.now),
        (exec rt (turns n).world ⟨pid, .pairScript session1 session2⟩ s).2, n + 1⟩ := by
  have hprogram : pairSessions pid session1 session2 = room pid (.pairScript session1 session2) :=
    if_neg (not_not_intro h)
  rw [hprogram]
  exact run_room_ok halone hfault _

/-- **Two sessions that nothing keeps apart are paired.** -/
theorem run_pairUnderLocks (halone : Undisturbed turns n)
    (hfaults : ∀ k, n ≤ k → (turns k).fault = none) {sid1 sid2 : SessionId}
    {session1 session2 : Session} (h1 : s.find sid1 = some session1)
    (h2 : s.find sid2 = some session2) (hpaired1 : MayBePaired session1)
    (hpaired2 : MayBePaired session2)
    (hhuman : ¬ (session1.sessionKind = .bot ∧ session2.sessionKind = .bot))
    (hshard : session1.redisShard = session2.redisShard) :
    ((pairUnderLocks pid sid1 sid2).runAmong (exec rt) turns n s).result = .paired := by
  have halone₁ : Undisturbed turns (n + 1) := halone.later (by omega)
  have halone₂ : Undisturbed turns (n + 1 + 1) := halone.later (by omega)
  have hbanned : bannedOf session1 session2 = [] := by
    simp [bannedOf, hpaired1.2, hpaired2.2]
  rw [pairUnderLocks, bind_eq, runAmong_bind, run_readSession halone, if_pos (hfaults n le_rfl), h1]
  dsimp only
  rw [bind_eq, runAmong_bind, run_readSession halone₁, if_pos (hfaults _ (by omega)), h2]
  dsimp only
  rw [hpaired1.1, hpaired2.1, if_neg (by decide), if_neg hhuman, hbanned, if_neg (not_not_intro rfl),
    pairFound, bind_eq, runAmong_bind, run_pairSessions_ok halone₂ (hfaults _ (by omega)) hshard]
  -- whatever becomes of the queues and the messages, the sessions are paired
  dsimp only
  rw [bind_eq, runAmong_bind, bind_eq, runAmong_bind, bind_eq, runAmong_bind]
  rfl

/-- **What a skip promises**: the record is waiting, without a partner, and the session is enqueued
and can be paired. -/
def Skipped (rt : Runtime) (text : Matchmaker.Text) (config : Matchmaker.Config) (sid : SessionId)
    (s : RoomStore) : Prop :=
  ∃ session, s.find sid = some session ∧ session.status = .waiting ∧ session.partnerId = none ∧
    MayBePaired session ∧ queuesToJoin rt text config session.preferences session ≠ [] ∧
    ∀ queueKey ∈ queuesToJoin rt text config session.preferences session, queueKey ∈ s.queues sid

theorem queuesToJoin_ne_nil (preferences : Matchmaker.NormalPreferences) (session : Session) :
    queuesToJoin rt text config preferences session ≠ [] := by
  unfold queuesToJoin Matchmaker.initialQueueKeys
  split
  · exact List.cons_ne_nil _ _
  next hbuckets =>
      intro hnil
      obtain ⟨bucket, hbucket⟩ := List.exists_mem_of_ne_nil _ hbuckets
      have hmem := List.mem_eraseDups.2 (List.mem_map_of_mem
        (f := Matchmaker.strictBucketQueueKey config (Sessions.routeForSession rt session).mode
          (Sessions.routeForSession rt session).shard) hbucket)
      rw [hnil] at hmem
      exact absurd hmem List.not_mem_nil

/-- **A session that waits again has kept what a skip promises exactly when it has no partner and is
not banned.** -/
theorem skipped_requeue_iff (halone : Undisturbed turns n) {found : Session}
    (hfound : s.find sid = some found)
    (hresult : ((requeue text config pid sid found.preferences).runAmong (exec rt) turns n s).result =
      .skipped) :
    Skipped rt text config sid
        ((requeue text config pid sid found.preferences).runAmong (exec rt) turns n s).store ↔
      found.partnerId = none ∧ found.banStatus = false := by
  have hupdate := @run_updateSession rt turns pid sid n s halone (statusUpdates .waiting)
  have halone' := halone.later (le_turnAmong rt turns n s
    (updateSession pid sid (statusUpdates .waiting)))
  rw [requeue, bind_eq, runAmong_bind] at hresult ⊢
  generalize hfirst : (updateSession pid sid (statusUpdates .waiting)).runAmong (exec rt) turns n s =
    first at hupdate halone' hresult ⊢
  obtain ⟨reply, t, m⟩ := first
  cases reply with
  | error e => cases hresult
  | ok updated =>
      obtain ⟨session, now, hsession, ht, -, -⟩ := hupdate rfl
      obtain rfl := Option.some_inj.1 (hfound.symm.trans hsession)
      dsimp only at halone' ht hresult ⊢
      have hjoin := @run_joinQueue rt turns pid sid m t text config halone' found.preferences
      rw [bind_eq, runAmong_bind] at hresult ⊢
      generalize hsecond : (joinQueue text config pid sid found.preferences).runAmong (exec rt) turns m t =
        second at hjoin hresult ⊢
      obtain ⟨reply, u, k⟩ := second
      cases reply with
      | error e =>
          dsimp only at hresult
          rw [bind_eq, runAmong_bind] at hresult
          cases hresult
      | ok queued =>
          obtain ⟨waiting, hwaiting, hu, hqueues⟩ := hjoin rfl
          obtain rfl := Option.some_inj.1 (ht.symm.trans hwaiting)
          constructor
          · rintro ⟨session, hfind, -, hpartner, ⟨-, hban⟩, -⟩
            obtain rfl := Option.some_inj.1 (hu.symm.trans hfind)
            exact ⟨hpartner, hban⟩
          · rintro ⟨hpartner, hban⟩
            refine ⟨_, hu, rfl, hpartner, ⟨?_, hban⟩, queuesToJoin_ne_nil _ _, hqueues⟩
            simp [Matchmaker.pairableSession, Session.merge, statusUpdates, hpartner,
              Session.touchLastActivity]

/-! ### Stop -/

/-- **What a stop promises**: the record, if there is one, has no partner, and the session is in no
queue. -/
def Stopped (sid : SessionId) (s : RoomStore) : Prop :=
  (∀ session, s.find sid = some session → session.partnerId = none) ∧ s.queues sid = []

/-- **A session that stops waiting has left its queues exactly when they were all listed.** -/
theorem stopped_stopQueue_iff (halone : Undisturbed turns n) {found : Session}
    (hfound : s.find sid = some found) (hpartner : found.partnerId = none)
    (hresult : ((stopQueue pid sid).runAmong (exec rt) turns n s).result = .stopped) :
    Stopped sid ((stopQueue pid sid).runAmong (exec rt) turns n s).store ↔
      ∀ queueKey ∈ s.queues sid, queueKey ∈ s.listed sid := by
  have halone₁ : Undisturbed turns (n + 1) := halone.later (by omega)
  rw [stopQueue, bind_eq, runAmong_bind] at hresult ⊢
  cases hfault : (turns n).fault with
  | some e =>
      rw [run_room_error halone hfault] at hresult
      cases hresult
  | none =>
      rw [run_room_ok halone hfault] at hresult ⊢
      dsimp only at hresult ⊢
      generalize hleft : (exec rt (turns n).world ⟨pid, .leaveQueue sid⟩ s).2 = left at hresult ⊢
      have hfind : left.find sid = some found := by
        rw [← hleft]
        exact hfound
      have hqueues : left.queues sid =
          (s.queues sid).filter fun queueKey => queueKey ∉ s.listed sid := by
        rw [← hleft]
        simp only [exec, hfound, Option.isSome_some, if_true, Function.update_self]
      have hupdate := @run_updateSession rt turns pid sid (n + 1) left halone₁ (statusUpdates .waiting)
      rw [bind_eq, runAmong_bind] at hresult ⊢
      generalize hsecond : (updateSession pid sid (statusUpdates .waiting)).runAmong (exec rt) turns
        (n + 1) left = second at hupdate hresult ⊢
      obtain ⟨reply, t, m⟩ := second
      cases reply with
      | error e => cases hresult
      | ok updated =>
          obtain ⟨session, now, hsession, ht, hkept, -⟩ := hupdate rfl
          obtain rfl := Option.some_inj.1 (hfind.symm.trans hsession)
          have hemptied : t.queues sid =
              (s.queues sid).filter fun queueKey => queueKey ∉ s.listed sid := by
            rw [show t.queues = left.queues from hkept, hqueues]
          constructor
          · rintro ⟨-, hempty⟩ queueKey hqueueKey
            rw [show t.queues sid = [] from hempty] at hemptied
            have hnot := List.filter_eq_nil_iff.1 hemptied.symm queueKey hqueueKey
            simpa using hnot
          · intro hlisted
            refine ⟨fun session hfound' => ?_, ?_⟩
            · obtain rfl := Option.some_inj.1 (ht.symm.trans hfound')
              exact hpartner
            · change t.queues sid = []
              rw [hemptied, List.filter_eq_nil_iff]
              intro queueKey hqueueKey
              simpa using hlisted queueKey hqueueKey

/-! ### Under the locks -/

/-- The session that a handler has under its locks is in the store. -/
theorem find_of_locked {attempts lockRetries partnerRetries : ℕ} {acquired : List SessionId}
    {session : Session}
    (h : ((lockSessionAndPartner pid sid attempts lockRetries partnerRetries).runAmong (exec rt) turns
      n s).result = some ⟨acquired, some session⟩) :
    ((lockSessionAndPartner pid sid attempts lockRetries partnerRetries).runAmong (exec rt) turns
      n s).store.find sid = some session := by
  induction attempts generalizing lockRetries partnerRetries n s with
  | zero => cases h
  | succ attempts ih =>
      match lockRetries, partnerRetries with
      | 0, _ => cases h
      | _ + 1, 0 => cases h
      | lockRetries + 1, partnerRetries + 1 =>
          rw [lockSessionAndPartner, bind_eq, runAmong_bind, bind_eq, runAmong_bind] at h ⊢
          generalize (acquireAll pid _ []).runAmong (exec rt) turns _ _ = first at h ⊢
          obtain ⟨taken, t, m⟩ := first
          cases taken with
          | none => exact ih h
          | some taken =>
              dsimp only at h ⊢
              rw [bind_eq, runAmong_bind] at h ⊢
              have hread := @find_of_readSession rt turns pid sid m t
              generalize (readSession pid sid).runAmong (exec rt) turns m t = second at h hread ⊢
              obtain ⟨found, u, k⟩ := second
              cases found with
              | none =>
                  dsimp only at h
                  simp only [pure_eq, runAmong_ret, Option.some.injEq, Held.mk.injEq, reduceCtorEq,
                    and_false] at h
              | some found =>
                  dsimp only at h ⊢
                  split at h
                  next hchanged =>
                      rw [if_pos hchanged, bind_eq, runAmong_bind]
                      rw [bind_eq, runAmong_bind] at h
                      exact ih h
                  next hsame =>
                      rw [if_neg hsame]
                      simp only [pure_eq, runAmong_ret, Option.some.injEq, Held.mk.injEq] at h ⊢
                      rw [← h.2]
                      exact hread rfl

/-- The function runs, and the locks are given back. -/
theorem run_underLocks (halone : Undisturbed turns n) (body : Option Session → RoomProg Reply)
    (held : Held) :
    ((underLocks pid body (some held)).runAmong (exec rt) turns n s).result =
        ((body held.session).runAmong (exec rt) turns n s).result ∧
      SameRooms ((body held.session).runAmong (exec rt) turns n s).store
        ((underLocks pid body (some held)).runAmong (exec rt) turns n s).store := by
  have halone' := halone.later (le_turnAmong rt turns n s
    (body held.session))
  rw [underLocks, bind_eq, runAmong_bind, bind_eq, runAmong_bind]
  exact ⟨rfl, sameRooms_releaseAll halone' _⟩

theorem skipped_congr {t : RoomStore} (h : SameRooms s t) :
    Skipped rt text config sid t ↔ Skipped rt text config sid s := by
  simp only [Skipped, h.find, h.queues]

theorem stopped_congr {t : RoomStore} (h : SameRooms s t) : Stopped sid t ↔ Stopped sid s := by
  simp only [Stopped, h.find, h.queues]

/-- **A skip under the locks has kept its promise exactly when the reset went through** and the
session is not banned. -/
theorem skipped_skipUnderLocks_iff (halone : Undisturbed turns n) {session : Session}
    {partnerId : SessionId} (hfound : s.find sid = some session)
    (hpartner : session.partnerId = some partnerId)
    (hresult : ((skipUnderLocks text config pid sid (some session)).runAmong (exec rt) turns n
      s).result = .skipped) :
    Skipped rt text config sid
        ((skipUnderLocks text config pid sid (some session)).runAmong (exec rt) turns n s).store ↔
      ResetGoesThrough turns n s sid partnerId ∧ session.banStatus = false := by
  have hprogram : skipUnderLocks text config pid sid (some session) =
      (resetMatch pid sid partnerId "partner skipped").bind fun _ =>
        requeue text config pid sid session.preferences := by
    simp only [skipUnderLocks, hpartner, bind_eq]
  have halone' := halone.later (le_turnAmong rt turns n s
    (resetMatch pid sid partnerId "partner skipped"))
  rw [hprogram, runAmong_bind] at hresult ⊢
  by_cases hthrough : ResetGoesThrough turns n s sid partnerId
  · obtain ⟨session', now, hsession', hreset, -⟩ :=
      @resetMatch_of_goesThrough rt turns pid sid n s halone partnerId "partner skipped" hthrough
    obtain rfl := Option.some_inj.1 (hfound.symm.trans hsession')
    have hiff := skipped_requeue_iff halone' hreset hresult
    exact hiff.trans ⟨fun h => ⟨hthrough, h.2⟩, fun h => ⟨rfl, h.2⟩⟩
  · have hstore := @resetMatch_of_not_goesThrough rt turns pid sid n s halone partnerId
      "partner skipped" hthrough
    have hfound' := (congrArg (fun t : RoomStore => t.find sid) hstore).trans hfound
    have hiff := skipped_requeue_iff halone' hfound' hresult
    rw [hpartner] at hiff
    exact hiff.trans (iff_of_false (fun h => nomatch h.1) fun h => hthrough h.1)

/-- A stop of a matched session leaves the queues as they are. -/
theorem stopped_resetMatch_iff (halone : Undisturbed turns n) {session : Session}
    {partnerId : SessionId} (hfound : s.find sid = some session)
    (hpartner : session.partnerId = some partnerId) :
    Stopped sid ((resetMatch pid sid partnerId "partner cancelled").runAmong (exec rt) turns n s).store ↔
      ResetGoesThrough turns n s sid partnerId ∧ s.queues sid = [] := by
  by_cases hthrough : ResetGoesThrough turns n s sid partnerId
  · obtain ⟨session', now, -, hreset, hqueues, -⟩ :=
      @resetMatch_of_goesThrough rt turns pid sid n s halone partnerId "partner cancelled" hthrough
    rw [Stopped, hqueues]
    refine ⟨fun h => ⟨hthrough, h.2⟩, fun h => ⟨fun found hfind => ?_, h.2⟩⟩
    obtain rfl := Option.some_inj.1 (hreset.symm.trans hfind)
    rfl
  · rw [@resetMatch_of_not_goesThrough rt turns pid sid n s halone partnerId "partner cancelled"
      hthrough]
    refine iff_of_false (fun h => ?_) fun h => hthrough h.1
    have hnone := h.1 session hfound
    rw [hpartner] at hnone
    cases hnone

end Alone

/-! ### The handlers -/

/-- **A run of a handler**: what it finds, and its turns, in which nobody disturbs it any more once it
has its locks. -/
structure HandlerRun (rt : Runtime) where
  pid : Pid
  sid : SessionId
  turns : ℕ → Turn World RoomStore RoomError
  store : RoomStore
  undisturbed : Undisturbed turns
    ((lockSessionAndPartner pid sid 6 3 3).runAmong (exec rt) turns 0 store).turn

namespace HandlerRun

variable {rt : Runtime} (run : HandlerRun rt) (text : Matchmaker.Text) (config : Matchmaker.Config)

/-- The handler once it has its locks, or has given up. -/
def locked : Ended (Option Held) RoomStore :=
  (lockSessionAndPartner run.pid run.sid 6 3 3).runAmong (exec rt) run.turns 0 run.store

def skip : Ended Reply RoomStore :=
  (Rooms.skip text config run.pid run.sid).runAmong (exec rt) run.turns 0 run.store

def stop : Ended Reply RoomStore :=
  (Rooms.stop run.pid run.sid).runAmong (exec rt) run.turns 0 run.store

/-- The reset of the match goes through, once the handler has its locks. -/
def ResetsWith (partnerId : SessionId) : Prop :=
  ResetGoesThrough run.turns run.locked.turn run.locked.store run.sid partnerId

/-- The condition of a skip. -/
def SkipHoldsWhen : Prop :=
  ∀ acquired session partnerId, run.locked.result = some ⟨acquired, some session⟩ →
    session.partnerId = some partnerId → run.ResetsWith partnerId ∧ session.banStatus = false

/-- The condition of a stop: a session that is not found, or whose look-up failed, has no partner and
is in no queue; one without a partner is listed in all its queues; and of one with a partner the match
is reset, and it is in no queue. -/
def StopHoldsWhen : Prop :=
  (∀ acquired, run.locked.result = some ⟨acquired, none⟩ → Stopped run.sid run.locked.store) ∧
  (∀ acquired session, run.locked.result = some ⟨acquired, some session⟩ →
    session.partnerId = none →
      ∀ queueKey ∈ run.locked.store.queues run.sid, queueKey ∈ run.locked.store.listed run.sid) ∧
  ∀ acquired session partnerId, run.locked.result = some ⟨acquired, some session⟩ →
    session.partnerId = some partnerId →
      run.ResetsWith partnerId ∧ run.locked.store.queues run.sid = []

theorem skipped_iff (h : (run.skip text config).result = .skipped) :
    Skipped rt text config run.sid (run.skip text config).store ↔ run.SkipHoldsWhen := by
  have hrun : run.skip text config = (underLocks run.pid (skipUnderLocks text config run.pid run.sid)
      run.locked.result).runAmong (exec rt) run.turns run.locked.turn run.locked.store :=
    runAmong_bind _ _
  have halone : Undisturbed run.turns run.locked.turn := run.undisturbed
  rw [hrun] at h ⊢
  unfold SkipHoldsWhen
  cases hlocked : run.locked.result with
  | none =>
      rw [hlocked] at h
      cases h
  | some held =>
      obtain ⟨acquired, session⟩ := held
      rw [hlocked] at h
      obtain ⟨hresult, hsame⟩ := @run_underLocks rt run.turns run.pid run.locked.turn run.locked.store
        halone (skipUnderLocks text config run.pid run.sid) ⟨acquired, session⟩
      rw [hresult] at h
      rw [skipped_congr hsame]
      cases session with
      | none => cases h
      | some session =>
          cases hpartner : session.partnerId with
          | none =>
              simp only [skipUnderLocks, hpartner] at h
              cases h
          | some partnerId =>
              have hfound : run.locked.store.find run.sid = some session := find_of_locked hlocked
              refine (skipped_skipUnderLocks_iff halone hfound hpartner h).trans ?_
              constructor
              · intro hthrough acquired' session' partnerId' heq hpartner'
                obtain ⟨rfl, hsession⟩ := Held.mk.inj (Option.some_inj.1 heq)
                obtain rfl := Option.some_inj.1 hsession
                obtain rfl := Option.some_inj.1 (hpartner.symm.trans hpartner')
                exact hthrough
              · intro hthrough
                exact hthrough acquired session partnerId rfl hpartner

theorem stopped_iff (h : run.stop.result = .stopped) :
    Stopped run.sid run.stop.store ↔ run.StopHoldsWhen := by
  have hrun : run.stop = (underLocks run.pid (stopUnderLocks run.pid run.sid)
      run.locked.result).runAmong (exec rt) run.turns run.locked.turn run.locked.store :=
    runAmong_bind _ _
  have halone : Undisturbed run.turns run.locked.turn := run.undisturbed
  rw [hrun] at h ⊢
  unfold StopHoldsWhen
  cases hlocked : run.locked.result with
  | none =>
      rw [hlocked] at h
      cases h
  | some held =>
      obtain ⟨acquired, session⟩ := held
      rw [hlocked] at h
      obtain ⟨hresult, hsame⟩ := @run_underLocks rt run.turns run.pid run.locked.turn run.locked.store
        halone (stopUnderLocks run.pid run.sid) ⟨acquired, session⟩
      rw [hresult] at h
      rw [stopped_congr hsame]
      cases session with
      | none =>
          refine ⟨fun hstopped => ⟨fun _ _ => hstopped, ?_, ?_⟩, fun hcondition =>
            hcondition.1 acquired rfl⟩
          · rintro acquired' session heq
            cases (Held.mk.inj (Option.some_inj.1 heq)).2
          · rintro acquired' session partnerId heq
            cases (Held.mk.inj (Option.some_inj.1 heq)).2
      | some session =>
          have hfound : run.locked.store.find run.sid = some session := find_of_locked hlocked
          -- of the three parts of the condition, that for this session decides
          have hothers : ∀ acquired', some (⟨acquired, some session⟩ : Held) ≠ some ⟨acquired', none⟩ :=
            fun acquired' heq => nomatch (Held.mk.inj (Option.some_inj.1 heq)).2
          have hthis : ∀ {acquired' session'}, some (⟨acquired, some session⟩ : Held) =
              some ⟨acquired', some session'⟩ → session' = session :=
            fun heq => (Option.some_inj.1 (Held.mk.inj (Option.some_inj.1 heq)).2).symm
          cases hpartner : session.partnerId with
          | none =>
              have hprogram : stopUnderLocks run.pid run.sid (some session) =
                  stopQueue run.pid run.sid := by
                simp only [stopUnderLocks, hpartner]
              simp only [hprogram] at h ⊢
              rw [stopped_stopQueue_iff halone hfound hpartner h]
              refine ⟨fun hlisted => ⟨fun _ heq => absurd heq (hothers _), fun _ _ _ _ => hlisted, ?_⟩,
                fun hcondition => hcondition.2.1 acquired session rfl hpartner⟩
              intro acquired' session' partnerId heq hpartner'
              rw [hthis heq, hpartner] at hpartner'
              cases hpartner'
          | some partnerId =>
              have hprogram : stopUnderLocks run.pid run.sid (some session) =
                  (resetMatch run.pid run.sid partnerId "partner cancelled").bind fun _ =>
                    .ret .stopped := by
                simp only [stopUnderLocks, hpartner, bind_eq, pure_eq]
              simp only [hprogram, runAmong_bind, runAmong_ret]
              rw [stopped_resetMatch_iff halone hfound hpartner]
              constructor
              · intro hthrough
                refine ⟨fun _ heq => absurd heq (hothers _), ?_, ?_⟩
                · intro acquired' session' heq hpartner'
                  rw [hthis heq, hpartner] at hpartner'
                  cases hpartner'
                · intro acquired' session' partnerId' heq hpartner'
                  rw [hthis heq, hpartner] at hpartner'
                  obtain rfl := Option.some_inj.1 hpartner'
                  exact hthrough
              · exact fun hcondition => hcondition.2.2 acquired session partnerId rfl hpartner

/-- **The promise of a skip is kept exactly when the reset goes through, and that of a stop exactly
when besides the session is left in no queue.** -/
theorem skipped_and_stopped_iff :
    ((run.skip text config).result = .skipped →
      (Skipped rt text config run.sid (run.skip text config).store ↔ run.SkipHoldsWhen)) ∧
    (run.stop.result = .stopped → (Stopped run.sid run.stop.store ↔ run.StopHoldsWhen)) :=
  ⟨run.skipped_iff text config, run.stopped_iff⟩

end HandlerRun

/-! ### Two runs -/

/-- Rooms with these records, and nothing else. -/
def roomsOf (records : SessionId → Option Session) : RoomStore where
  records := records
  queues _ := []
  listed _ := []
  owner _ := none
  lock _ := none
  current _ := none
  matchCount := 0
  history := []

/-- A session in a match. -/
def matchedSession (sid partnerId : SessionId) : Session :=
  { Sessions.waitingSession.matchedWith partnerId "7" 30 with id := sid }

/-- Sessions a and b are matched. -/
def matchedRooms : RoomStore := roomsOf fun sid =>
  if sid = "a" then some (matchedSession "a" "b")
  else if sid = "b" then some (matchedSession "b" "a") else none

/-- Session a is matched with a session whose record is gone. -/
def halfRooms : RoomStore := roomsOf fun sid =>
  if sid = "a" then some (matchedSession "a" "b") else none

/-- Nobody disturbs the handler, and nothing fails. -/
def quietRun (s : RoomStore) : HandlerRun Sessions.asciiRuntime where
  pid := 1
  sid := "a"
  turns _ := ⟨⟨60, "8"⟩, id, none⟩
  store := s
  undisturbed _ _ := rfl

theorem locked_matchedRooms :
    (quietRun matchedRooms).locked.result = some ⟨["a", "b"], some (matchedSession "a" "b")⟩ := by
  decide +kernel

theorem resetsWith_matchedRooms : (quietRun matchedRooms).ResetsWith "b" := by
  have hfind : (quietRun matchedRooms).locked.store.find "a" = some (matchedSession "a" "b") ∧
      (quietRun matchedRooms).locked.store.find "b" = some (matchedSession "b" "a") := by
    decide +kernel
  exact ⟨rfl, rfl, rfl, _, _, hfind.1, hfind.2, rfl⟩

/-- Session a skips its partner, or stops. -/
theorem skipped_and_stopped_iff_match :
    ((quietRun matchedRooms).skip Matchmaker.asciiText Matchmaker.defaultConfig).result = .skipped ∧
    Skipped Sessions.asciiRuntime Matchmaker.asciiText Matchmaker.defaultConfig "a"
      ((quietRun matchedRooms).skip Matchmaker.asciiText Matchmaker.defaultConfig).store ∧
    (quietRun matchedRooms).stop.result = .stopped ∧
    Stopped "a" (quietRun matchedRooms).stop.store := by
  have hskip : ((quietRun matchedRooms).skip Matchmaker.asciiText Matchmaker.defaultConfig).result =
      .skipped := by decide +kernel
  have hstop : (quietRun matchedRooms).stop.result = .stopped := by decide +kernel
  obtain ⟨hskipped, hstopped⟩ := HandlerRun.skipped_and_stopped_iff (quietRun matchedRooms)
    Matchmaker.asciiText Matchmaker.defaultConfig
  have hthis : ∀ {acquired session}, (quietRun matchedRooms).locked.result =
      some ⟨acquired, some session⟩ → session = matchedSession "a" "b" := by
    intro acquired session h
    rw [locked_matchedRooms] at h
    exact (Option.some_inj.1 (Held.mk.inj (Option.some_inj.1 h)).2).symm
  refine ⟨hskip, (hskipped hskip).2 ?_, hstop, (hstopped hstop).2 ⟨?_, ?_, ?_⟩⟩
  · intro acquired session partnerId hlocked hpartner
    rw [hthis hlocked] at hpartner ⊢
    obtain rfl := Option.some_inj.1 hpartner
    exact ⟨resetsWith_matchedRooms, rfl⟩
  · intro acquired hlocked
    rw [locked_matchedRooms] at hlocked
    cases (Held.mk.inj (Option.some_inj.1 hlocked)).2
  · intro acquired session hlocked hpartner
    rw [hthis hlocked] at hpartner
    cases hpartner
  · intro acquired session partnerId hlocked hpartner
    rw [hthis hlocked] at hpartner
    obtain rfl := Option.some_inj.1 hpartner
    have hqueues : (quietRun matchedRooms).locked.store.queues "a" = [] := by decide +kernel
    exact ⟨resetsWith_matchedRooms, hqueues⟩

/-- **A skip whose partner is gone is answered with skipped**, and the session waits in the queue with
the partner that it no longer has. -/
theorem skip_keeps_missing_partner :
    ¬ ∀ run : HandlerRun Sessions.asciiRuntime,
      ((run.skip Matchmaker.asciiText Matchmaker.defaultConfig).result = .skipped →
        Skipped Sessions.asciiRuntime Matchmaker.asciiText Matchmaker.defaultConfig run.sid
          (run.skip Matchmaker.asciiText Matchmaker.defaultConfig).store) ∧
      (run.stop.result = .stopped → Stopped run.sid run.stop.store) := by
  intro h
  have hrun : ((quietRun halfRooms).skip Matchmaker.asciiText Matchmaker.defaultConfig).result =
        .skipped ∧
      (((quietRun halfRooms).skip Matchmaker.asciiText Matchmaker.defaultConfig).store.find "a").map
        Session.partnerId = some (some "b") := by decide +kernel
  obtain ⟨session, hfind, -, hpartner, -⟩ := (h (quietRun halfRooms)).1 hrun.1
  have hkept := hrun.2
  rw [show ((quietRun halfRooms).skip Matchmaker.asciiText
    Matchmaker.defaultConfig).store.find "a" = some session from hfind] at hkept
  rw [Option.map_some, hpartner] at hkept
  cases hkept

end Rooms
