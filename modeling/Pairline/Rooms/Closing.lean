/-
**What the end of a channel leaves behind.**

A channel that ends closes its session, and whatever comes of that, it is gone: a close that is
refused, since a lock stayed taken or the partner kept changing, is not tried again.  A close that
gets its locks resets the match, leaves the queues, gives up the ownership and deletes the record;
here each of these four is followed to the end amid the others, who may do at every moment whatever
is not excluded by name.

Main definitions:

* `Rooms.terminate`, `Rooms.teardownExistingSession` — the two callers of `close_session`;
* `Rooms.TerminateRun` — their runs amid others, in which the store does not fail;
* `Rooms.TerminateRun.Unhindered` — what the others must not do.

Main results:

* `Rooms.names_resetMatch` — a reset that serves its purpose leaves no partner behind;
* `Rooms.TerminateRun.cleanedUp_of_unhindered` — **an unhindered end leaves nothing behind**.
-/

import Pairline.Rooms.Postconditions

set_option relaxedAutoImplicit false
set_option autoImplicit false

namespace Rooms

open Matchmaker (SessionId)
open Sessions (Session Runtime)
open Program

/-! ### The callers -/

/-- `terminate`: the answer of the close is not looked at. -/
def terminate (pid : Pid) (sessionId : Option SessionId) : RoomProg Unit :=
  match sessionId with
  | none => return ()
  | some sid => do
      let _ ← closeSession pid sid "partner disconnected"
      return ()

/-- What a search makes of the answer of a close. -/
def tornDown : Reply → Except String Unit
  | .closed => .ok ()
  | .notFound => .ok ()
  | .refused reason => .error reason
  | _ => .error ""

/-- `teardown_existing_session`. -/
def teardownExistingSession (pid : Pid) (sessionId : Option SessionId) :
    RoomProg (Except String Unit) :=
  match sessionId with
  | none => return .ok ()
  | some sid => do
      let reply ← closeSession pid sid "partner disconnected"
      return tornDown reply

/-! ### Partners -/

/-- The record of a session names a partner. -/
def Names (s : RoomStore) (sid partnerId : SessionId) : Prop :=
  ∃ session, s.find sid = some session ∧ session.partnerId = some partnerId

section Names

variable {s t : RoomStore} {sid sid' partnerId : SessionId}

theorem Names.congr (h : t.find sid = s.find sid) : Names t sid partnerId ↔ Names s sid partnerId := by
  simp only [Names, h]

theorem not_names_of_none (h : s.find sid = none) : ¬ Names s sid partnerId := by
  rintro ⟨session, hfind, -⟩
  rw [h] at hfind
  cases hfind

theorem names_iff_of_find {session : Session} (h : s.find sid = some session) :
    Names s sid partnerId ↔ session.partnerId = some partnerId := by
  refine ⟨?_, fun hpartner => ⟨session, h, hpartner⟩⟩
  rintro ⟨found, hfind, hpartner⟩
  obtain rfl := Option.some_inj.1 (h.symm.trans hfind)
  exact hpartner

/-- A record that names nobody. -/
theorem not_names_setRecord {record : Session} (h : record.partnerId = none) (sid' : SessionId)
    (hs : sid' ≠ sid → ¬ Names s sid' partnerId) :
    ¬ Names (s.setRecord sid (some record)) sid' partnerId := by
  by_cases hsame : sid' = sid
  · subst hsame
    rw [names_iff_of_find find_setRecord_self]
    change record.partnerId ≠ some partnerId
    rw [h]
    exact fun hnames => nomatch hnames
  · rw [Names.congr (find_setRecord_of_ne hsame)]
    exact hs hsame

/-- Two records that name nobody are written by one script. -/
theorem not_names_setPair {session1 session2 : Session} (h1 : session1.partnerId = none)
    (h2 : session2.partnerId = none) (sid' : SessionId)
    (hs : sid' ≠ session2.id → sid' ≠ session1.id → ¬ Names s sid' partnerId) :
    ¬ Names (s.setPair session1 session2) sid' partnerId :=
  not_names_setRecord h2 sid' fun hne => not_names_setRecord h1 sid' (hs hne)

end Names

/-! ### Commands amid others -/

section Amid

variable {rt : Runtime} {turns : ℕ → Turn World RoomStore RoomError} {pid : Pid} {sid : SessionId}
  {n : ℕ} {s : RoomStore}

/-- A command that does not fail. -/
theorem runAmong_room (hfault : (turns n).fault = none) (op : RoomOp) :
    (room pid op).runAmong (exec rt) turns n s =
      ⟨.ok (exec rt (turns n).world ⟨pid, op⟩ ((turns n).meanwhile s)).1,
        (exec rt (turns n).world ⟨pid, op⟩ ((turns n).meanwhile s)).2, n + 1⟩ := by
  rw [room, command, runAmong_call, hfault]
  rfl

theorem runAmong_readSession (hfault : (turns n).fault = none) :
    (readSession pid sid).runAmong (exec rt) turns n s =
      ⟨((turns n).meanwhile s).find sid, (turns n).meanwhile s, n + 1⟩ := by
  rw [readSession, bind_eq, runAmong_bind, runAmong_room hfault]
  rfl

/-- Two records on one shard are reset by a script. -/
theorem runAmong_resetPair (hfault : (turns n).fault = none) {session1 session2 : Session}
    (h : session1.redisShard = session2.redisShard) :
    (resetPair pid session1 session2).runAmong (exec rt) turns n s =
      ⟨.ok (), (exec rt (turns n).world ⟨pid, .resetPairScript session1 session2⟩
        ((turns n).meanwhile s)).2, n + 1⟩ := by
  have hprogram : resetPair pid session1 session2 = room pid (.resetPairScript session1 session2) :=
    if_neg (not_not_intro h)
  rw [hprogram]
  exact runAmong_room hfault _

/-- Locks that are given back. -/
theorem all_releaseAll (acquired : List SessionId) :
    (releaseAll pid acquired).All fun c => ∃ sid, c = ⟨pid, .unlock sid⟩ := by
  induction acquired with
  | nil => trivial
  | cons sid acquired ih => exact (All.command ⟨sid, rfl⟩).bind fun _ => ih

/-- What does not look at locks survives a release. -/
theorem releaseAll_invariant {I : RoomStore → Prop}
    (hlock : ∀ s t, SameRooms s t → t.owner = s.owner → I s → I t)
    (hothers : ∀ k, n ≤ k → ∀ s, I s → I ((turns k).meanwhile s)) (acquired : List SessionId)
    (hs : I s) : I ((releaseAll pid acquired).runAmong (exec rt) turns n s).store := by
  refine (all_releaseAll acquired).runAmong_invariant ?_ hothers hs
  rintro c ⟨sid, rfl⟩ x t ht
  simp only [exec]
  split
  · exact hlock t _ ⟨rfl, rfl, rfl⟩ rfl ht
  · exact ht

/-! ### The reset -/

/-- **The reset serves its purpose**: it finds both records on one shard, or the partner has let go of
the session already. -/
def ResetServes (turns : ℕ → Turn World RoomStore RoomError) (n : ℕ) (s : RoomStore)
    (sid partnerId : SessionId) : Prop :=
  match ((turns n).meanwhile s).find sid with
  | none => ¬ Names ((turns n).meanwhile s) partnerId sid
  | some session => ∀ partnerSession,
      ((turns (n + 1)).meanwhile ((turns n).meanwhile s)).find partnerId = some partnerSession →
        partnerSession.partnerId = some sid → session.redisShard = partnerSession.redisShard

theorem resetServes_of_find {partnerId : SessionId} {session : Session}
    (hfind : ((turns n).meanwhile s).find sid = some session)
    (h : ∀ partnerSession,
      ((turns (n + 1)).meanwhile ((turns n).meanwhile s)).find partnerId = some partnerSession →
        partnerSession.partnerId = some sid → session.redisShard = partnerSession.redisShard) :
    ResetServes turns n s sid partnerId := by
  unfold ResetServes
  rw [hfind]
  exact h

/-- Nobody is given the session as a partner from the turn `n` on. -/
def NotNamedAnew (turns : ℕ → Turn World RoomStore RoomError) (n : ℕ) (sid : SessionId) : Prop :=
  ∀ k, n ≤ k → ∀ s sid', ¬ Names s sid' sid → ¬ Names ((turns k).meanwhile s) sid' sid

theorem NotNamedAnew.later (h : NotNamedAnew turns n sid) {k : ℕ} (hk : n ≤ k) :
    NotNamedAnew turns k sid :=
  fun j hj => h j (hk.trans hj)

/-- **After a reset that serves its purpose the partner does not name the session**, nor does anybody
who did not before. -/
theorem names_resetMatch (hfaults : ∀ k, (turns k).fault = none) (hanew : NotNamedAnew turns n sid)
    {partnerId : SessionId} (reason : String) (h : ResetServes turns n s sid partnerId)
    {sid' : SessionId} (hsid' : sid' = partnerId ∨ ¬ Names s sid' sid) :
    ¬ Names ((resetMatch pid sid partnerId reason).runAmong (exec rt) turns n s).store sid' sid := by
  have hfirst : sid' ≠ partnerId → ¬ Names ((turns n).meanwhile s) sid' sid := fun hne =>
    hanew n le_rfl s sid' (hsid'.resolve_left hne)
  have hsecond : sid' ≠ partnerId →
      ¬ Names ((turns (n + 1)).meanwhile ((turns n).meanwhile s)) sid' sid := fun hne =>
    hanew (n + 1) (by omega) _ sid' (hfirst hne)
  unfold ResetServes at h
  rw [resetMatch, bind_eq, runAmong_bind, runAmong_readSession (hfaults n)]
  dsimp only
  generalize (turns n).meanwhile s = t at h hfirst hsecond ⊢
  cases hsession : t.find sid with
  | none =>
      rw [hsession] at h
      by_cases hne : sid' = partnerId
      · rw [hne]
        exact h
      · exact hfirst hne
  | some session =>
      rw [hsession] at h
      dsimp only at h ⊢
      rw [bind_eq, runAmong_bind, runAmong_readSession (hfaults _)]
      dsimp only
      generalize (turns (n + 1)).meanwhile t = u at h hsecond ⊢
      cases hpartner : u.find partnerId with
      | none =>
          by_cases hne : sid' = partnerId
          · rw [hne]
            exact not_names_of_none hpartner
          · exact hsecond hne
      | some partnerSession =>
          have hthird : sid' ≠ partnerId → ¬ Names ((turns (n + 1 + 1)).meanwhile u) sid' sid :=
            fun hne => hanew _ (by omega) _ sid' (hsecond hne)
          dsimp only
          by_cases hshard : session.redisShard = partnerSession.redisShard
          · -- the script writes both records, and neither names anybody
            rw [bind_eq, runAmong_bind, runAmong_resetPair (hfaults _) hshard]
            dsimp only
            rw [bind_eq, runAmong_bind, runAmong_room (hfaults _)]
            change ¬ Names ((turns (n + 1 + 1 + 1)).meanwhile _) sid' sid
            refine hanew _ (by omega) _ sid' (not_names_setPair rfl rfl sid' fun hne _ => ?_)
            have hid : (partnerSession.unmatched (turns (n + 1 + 1)).world.now).id = partnerId :=
              show partnerSession.id = partnerId from id_of_find hpartner
            exact hthird (hid ▸ hne)
          · rw [bind_eq, runAmong_bind, run_resetPair_of_ne hshard]
            change ¬ Names u sid' sid
            by_cases hne : sid' = partnerId
            · rw [hne, names_iff_of_find hpartner]
              exact fun hnames => hshard (h partnerSession hpartner hnames)
            · exact hsecond hne

/-! ### The end of the session -/

/-- The part of `close_session` that comes before the session is taken out of the queues. -/
def resetPart (pid : Pid) (sid : SessionId) (reason : String) (session : Session) : RoomProg Unit :=
  match session.partnerId with
  | none => return ()
  | some partnerId => resetMatch pid sid partnerId reason

theorem closeUnderLocks_some (reason : String) (session : Session) :
    closeUnderLocks pid sid reason (some session) =
      (resetPart pid sid reason session).bind fun _ => closeAlone pid sid := by
  simp only [closeUnderLocks, resetPart]
  cases session.partnerId <;> rfl

/-- **Nothing is left of a session**: no record, no place in a queue, no owner. -/
structure Gone (sid : SessionId) (s : RoomStore) : Prop where
  record : s.find sid = none
  queues : s.queues sid = []
  owner : s.owner sid = none

theorem Gone.congr {t : RoomStore} (h : Gone sid s) (hrooms : SameRooms s t)
    (howner : t.owner = s.owner) : Gone sid t :=
  ⟨hrooms.find.trans h.record, (congrFun hrooms.queues sid).trans h.queues,
    (congrFun howner sid).trans h.owner⟩

/-- From the turn `n` on nothing is made of a session again that is gone. -/
def NotMadeAnew (turns : ℕ → Turn World RoomStore RoomError) (n : ℕ) (sid : SessionId) : Prop :=
  ∀ k, n ≤ k → ∀ s, Gone sid s → Gone sid ((turns k).meanwhile s)

/-- From the turn `n` on a session that is in no queue is put into none. -/
def NotQueuedAnew (turns : ℕ → Turn World RoomStore RoomError) (n : ℕ) (sid : SessionId) : Prop :=
  ∀ k, n ≤ k → ∀ s, s.queues sid = [] → ((turns k).meanwhile s).queues sid = []

/-- When the session is taken out of its queues they are all listed, or its record is gone. -/
def AllListed (turns : ℕ → Turn World RoomStore RoomError) (n : ℕ) (sid : SessionId)
    (s : RoomStore) : Prop :=
  (((turns n).meanwhile s).find sid).isSome →
    ∀ queueKey ∈ ((turns n).meanwhile s).queues sid, queueKey ∈ ((turns n).meanwhile s).listed sid

/-- **The three commands at the end leave nothing of the session**, when its queues are listed and
nobody puts it into one again. -/
theorem gone_closeAlone (hfaults : ∀ k, (turns k).fault = none) (hlisted : AllListed turns n sid s)
    (hqueued : NotQueuedAnew turns (n + 1) sid) :
    ((closeAlone pid sid).runAmong (exec rt) turns n s).turn = n + 3 ∧
      Gone sid ((closeAlone pid sid).runAmong (exec rt) turns n s).store := by
  rw [closeAlone, bind_eq, runAmong_bind, runAmong_room (hfaults _)]
  dsimp only
  rw [bind_eq, runAmong_bind, runAmong_room (hfaults _)]
  dsimp only
  rw [bind_eq, runAmong_bind, runAmong_room (hfaults _)]
  dsimp only
  generalize hleft : (exec rt (turns n).world ⟨pid, .leaveQueue sid⟩ ((turns n).meanwhile s)).2 = left
  have hempty : left.queues sid = [] := by
    rw [← hleft]
    simp only [exec, Function.update_self]
    split
    next hfound =>
        rw [List.filter_eq_nil_iff]
        intro queueKey hqueueKey
        simpa using hlisted hfound queueKey hqueueKey
    next => rfl
  have hempty₁ := hqueued (n + 1) le_rfl left hempty
  generalize (turns (n + 1)).meanwhile left = left₁ at hempty₁ ⊢
  have hempty₂ := hqueued (n + 1 + 1) (by omega)
    (exec rt (turns (n + 1)).world ⟨pid, .unregister sid⟩ left₁).2 hempty₁
  refine ⟨rfl, ?_, hempty₂, Function.update_self ..⟩
  exact Option.map_eq_none_iff.2 (Function.update_self ..)

/-- Nobody is named by a session whose record is taken away, and nobody else names more. -/
theorem names_closeAlone (hanew : NotNamedAnew turns n sid) {sid' : SessionId}
    (hs : ¬ Names s sid' sid) :
    ¬ Names ((closeAlone pid sid).runAmong (exec rt) turns n s).store sid' sid := by
  have hall : (closeAlone pid sid).All fun c => c.op = .leaveQueue sid ∨ c.op = .unregister sid ∨
      c.op = .deleteSession sid := by
    refine (All.command (.inl rfl)).bind fun reply => ?_
    cases reply with
    | error e => trivial
    | ok left =>
        refine (All.command (.inr (.inl rfl))).bind fun _ => (All.command (.inr (.inr rfl))).bind ?_
        rintro (_ | _) <;> trivial
  refine hall.runAmong_invariant (I := fun t => ¬ Names t sid' sid) ?_
    (fun k hk t ht => hanew k hk t sid' ht) hs
  rintro ⟨pid', op⟩ (rfl | rfl | rfl) x t ht
  · exact ht
  · exact ht
  · by_cases hsame : sid' = sid
    · refine not_names_of_none ?_
      rw [hsame]
      exact Option.map_eq_none_iff.2 (Function.update_self ..)
    · have hkept : ((exec rt x ⟨pid', .deleteSession sid⟩ t).2).find sid' = t.find sid' :=
        find_setRecord_of_ne hsame
      rw [Names.congr hkept]
      exact ht

end Amid

/-! ### Runs -/

/-- **A run at the end of a channel**, or before its next search: what it finds, and its turns, at
which the store does not fail. -/
structure TerminateRun (rt : Runtime) where
  pid : Pid
  sid : SessionId
  turns : ℕ → Turn World RoomStore RoomError
  store : RoomStore
  unfailing : ∀ k, (turns k).fault = none

namespace TerminateRun

variable {rt : Runtime} (run : TerminateRun rt)

def terminate : Ended Unit RoomStore :=
  (Rooms.terminate run.pid (some run.sid)).runAmong (exec rt) run.turns 0 run.store

def teardown : Ended (Except String Unit) RoomStore :=
  (teardownExistingSession run.pid (some run.sid)).runAmong (exec rt) run.turns 0 run.store

/-- Once it has its locks, or has given up. -/
def locked : Ended (Option Held) RoomStore :=
  (lockSessionAndPartner run.pid run.sid 6 3 3).runAmong (exec rt) run.turns 0 run.store

/-- Once the match of the session, as it was read under the locks, is reset. -/
def reset (session : Session) : Ended Unit RoomStore :=
  (resetPart run.pid run.sid "partner disconnected" session).runAmong (exec rt) run.turns
    run.locked.turn run.locked.store

/-- The close itself. -/
def closed : Ended Reply RoomStore :=
  (closeSession run.pid run.sid "partner disconnected").runAmong (exec rt) run.turns 0 run.store

/-- The session was matched with another: at the beginning, or when the locks were taken. -/
def MatchedWith (partnerId : SessionId) : Prop :=
  Names run.store run.sid partnerId ∨ Names run.locked.store run.sid partnerId

/-- **Nothing is left behind**: neither anything of the session, nor a partner that names it. -/
structure CleanedUp (s : RoomStore) : Prop where
  gone : Gone run.sid s
  partner : ∀ partnerId, run.MatchedWith partnerId → ¬ Names s partnerId run.sid

/-- What the others spare when the record was found under the locks. -/
structure Spared (session : Session) : Prop where
  resets : ∀ partnerId, session.partnerId = some partnerId →
    ResetServes run.turns run.locked.turn run.locked.store run.sid partnerId
  listed : AllListed run.turns (run.reset session).turn run.sid (run.reset session).store
  queued : NotQueuedAnew run.turns ((run.reset session).turn + 1) run.sid
  made : NotMadeAnew run.turns ((run.reset session).turn + 3) run.sid

/-- **The close is unhindered**, unless it is refused: a record that is missing under the locks has
left nothing behind; a record that is there is spared; a former partner does not name the session any
more, and nobody is given it as a partner while its lock is held. -/
structure Unhindered : Prop where
  missing : ∀ acquired, run.locked.result = some ⟨acquired, none⟩ →
    run.CleanedUp run.locked.store ∧ NotMadeAnew run.turns run.locked.turn run.sid
  spared : ∀ acquired session, run.locked.result = some ⟨acquired, some session⟩ →
    run.Spared session
  former : ∀ partnerId, Names run.store run.sid partnerId →
    Names run.locked.store partnerId run.sid → Names run.locked.store run.sid partnerId
  named : NotNamedAnew run.turns run.locked.turn run.sid

theorem closed_eq : run.closed = (underLocks run.pid (closeUnderLocks run.pid run.sid
    "partner disconnected") run.locked.result).runAmong (exec rt) run.turns run.locked.turn
      run.locked.store :=
  runAmong_bind _ _

theorem store_terminate : run.terminate.store = run.closed.store := by
  have hterminate : run.terminate = ⟨(), run.closed.store, run.closed.turn⟩ := runAmong_bind _ _
  rw [hterminate]

theorem teardown_eq : run.teardown = ⟨tornDown run.closed.result, run.closed.store,
    run.closed.turn⟩ :=
  runAmong_bind _ _

variable {run}

/-- A close that is refused does nothing beyond its attempts at the locks. -/
theorem store_terminate_of_refused (h : run.locked.result = none) :
    run.terminate.store = run.locked.store := by
  rw [store_terminate, closed_eq, h]
  rfl

/-- The session whose record was found under the locks. -/
theorem cleanedUp_of_spared (h : run.Unhindered) {acquired : List SessionId} {session : Session}
    (hlocked : run.locked.result = some ⟨acquired, some session⟩) :
    run.CleanedUp run.closed.store := by
  obtain ⟨hresets, hlisted, hqueued, hmade⟩ := h.spared acquired session hlocked
  have hfound : run.locked.store.find run.sid = some session := find_of_locked hlocked
  have hturn : run.locked.turn ≤ (run.reset session).turn := le_turn_runAmong _
  -- nobody that it was matched with names it after the reset
  have hreset : ∀ partnerId, run.MatchedWith partnerId →
      ¬ Names (run.reset session).store partnerId run.sid := by
    intro partnerId hmatched
    have hthis : partnerId ∈ session.partnerId ∨ ¬ Names run.locked.store partnerId run.sid := by
      rw [or_iff_not_imp_right, not_not]
      intro hnames
      have hpartner := hmatched.elim (fun hformer => h.former partnerId hformer hnames) id
      exact (names_iff_of_find hfound).1 hpartner
    unfold reset resetPart
    cases hpartner : session.partnerId with
    | none =>
        rw [hpartner] at hthis
        exact hthis.resolve_left (Option.not_mem_none partnerId)
    | some partnerId' =>
        rw [hpartner, Option.mem_some] at hthis
        exact names_resetMatch run.unfailing h.named _ (hresets partnerId' hpartner)
          (hthis.imp Eq.symm id)
  obtain ⟨hend, hgone⟩ := @gone_closeAlone rt run.turns run.pid run.sid (run.reset session).turn
    (run.reset session).store run.unfailing hlisted hqueued
  have hpartner : ∀ partnerId, run.MatchedWith partnerId → ¬ Names ((closeAlone run.pid
      run.sid).runAmong (exec rt) run.turns (run.reset session).turn (run.reset session).store).store
        partnerId run.sid :=
    fun partnerId hmatched => names_closeAlone (h.named.later hturn) (hreset partnerId hmatched)
  rw [closed_eq, hlocked]
  dsimp only [underLocks]
  rw [bind_eq, runAmong_bind, closeUnderLocks_some, runAmong_bind, bind_eq, runAmong_bind]
  change run.CleanedUp ((releaseAll run.pid acquired.reverse).runAmong (exec rt) run.turns
    ((closeAlone run.pid run.sid).runAmong (exec rt) run.turns (run.reset session).turn
      (run.reset session).store).turn
    ((closeAlone run.pid run.sid).runAmong (exec rt) run.turns (run.reset session).turn
      (run.reset session).store).store).store
  rw [hend]
  refine releaseAll_invariant (I := run.CleanedUp) ?_ ?_ _ ⟨hgone, hpartner⟩
  · exact fun s t hrooms howner hs => ⟨hs.gone.congr hrooms howner, fun partnerId hmatched hnames =>
      hs.partner partnerId hmatched ((Names.congr hrooms.find).1 hnames)⟩
  · exact fun k hk s hs => ⟨hmade k hk s hs.gone, fun partnerId hmatched =>
      h.named k (by omega) s partnerId (hs.partner partnerId hmatched)⟩

/-- The session whose record was missing under the locks. -/
theorem cleanedUp_of_missing (h : run.Unhindered) {acquired : List SessionId}
    (hlocked : run.locked.result = some ⟨acquired, none⟩) : run.CleanedUp run.closed.store := by
  obtain ⟨hclean, hmade⟩ := h.missing acquired hlocked
  rw [closed_eq, hlocked]
  dsimp only [underLocks]
  rw [bind_eq, runAmong_bind, bind_eq, runAmong_bind]
  refine releaseAll_invariant (I := run.CleanedUp) ?_ ?_ _ hclean
  · exact fun s t hrooms howner hs => ⟨hs.gone.congr hrooms howner, fun partnerId hmatched hnames =>
      hs.partner partnerId hmatched ((Names.congr hrooms.find).1 hnames)⟩
  · exact fun k hk s hs => ⟨hmade k hk s hs.gone, fun partnerId hmatched =>
      h.named k hk s partnerId (hs.partner partnerId hmatched)⟩

/-- **An end that is not refused and not hindered leaves nothing behind**, and nor does an unhindered
teardown that a search goes on from. -/
theorem cleanedUp_of_unhindered (run : TerminateRun rt) (h : run.Unhindered) :
    (run.locked.result ≠ none → run.CleanedUp run.terminate.store) ∧
      (run.teardown.result = .ok () → run.CleanedUp run.teardown.store) := by
  have hclosed : run.locked.result ≠ none → run.CleanedUp run.closed.store := by
    intro hadmitted
    cases hlocked : run.locked.result with
    | none => exact absurd hlocked hadmitted
    | some held =>
        obtain ⟨acquired, _ | session⟩ := held
        · exact cleanedUp_of_missing h hlocked
        · exact cleanedUp_of_spared h hlocked
  rw [store_terminate, teardown_eq]
  refine ⟨hclosed, fun hok => hclosed fun hrefused => ?_⟩
  have hresult : run.closed.result = .refused "Session busy, please retry" := by
    rw [closed_eq, hrefused]
    rfl
  dsimp only at hok
  rw [hresult] at hok
  cases hok

/-! ### Two runs -/

/-- Nobody else does anything, and nothing fails. -/
def quiet (s : RoomStore) : TerminateRun Sessions.asciiRuntime where
  pid := 1
  sid := "a"
  turns _ := ⟨⟨60, "8"⟩, id, none⟩
  store := s
  unfailing _ := rfl

/-- Session a is matched with b, waits in no queue and ends. -/
theorem cleanedUp_of_unhindered_match :
    (quiet matchedRooms).CleanedUp (quiet matchedRooms).terminate.store := by
  have hlocked : (quiet matchedRooms).locked.result =
      some ⟨["a", "b"], some (matchedSession "a" "b")⟩ := by decide +kernel
  have hfinds : (quiet matchedRooms).locked.store.find "a" = some (matchedSession "a" "b") ∧
      (quiet matchedRooms).locked.store.find "b" = some (matchedSession "b" "a") := by
    decide +kernel
  have hthis : ∀ {acquired session}, (quiet matchedRooms).locked.result =
      some ⟨acquired, some session⟩ → session = matchedSession "a" "b" := by
    intro acquired session h
    rw [hlocked] at h
    exact (Option.some_inj.1 (Held.mk.inj (Option.some_inj.1 h)).2).symm
  have hunhindered : (quiet matchedRooms).Unhindered := by
    refine ⟨fun acquired h => ?_, fun acquired session h => ?_, fun partnerId hformer hnames => ?_,
      fun _ _ _ _ h => h⟩
    · rw [hlocked] at h
      cases (Held.mk.inj (Option.some_inj.1 h)).2
    · obtain rfl := hthis h
      refine ⟨fun partnerId hpartner => ?_, ?_, fun _ _ _ hs => hs, fun _ _ _ hs => hs⟩
      · obtain rfl := Option.some_inj.1 hpartner
        refine resetServes_of_find hfinds.1 fun partnerSession hfind _ => ?_
        obtain rfl := Option.some_inj.1 (hfinds.2.symm.trans hfind)
        rfl
      · intro _ queueKey hqueueKey
        have hqueues : ((quiet matchedRooms).reset (matchedSession "a" "b")).store.queues "a" = [] := by
          decide +kernel
        change queueKey ∈ ((quiet matchedRooms).reset (matchedSession "a" "b")).store.queues "a"
          at hqueueKey
        rw [hqueues] at hqueueKey
        cases hqueueKey
    · exact (names_iff_of_find hfinds.1).2 ((names_iff_of_find rfl).1 hformer)
  exact (cleanedUp_of_unhindered (quiet matchedRooms) hunhindered).1 (by rw [hlocked]; nofun)

/-- Sessions a and b are matched, and another process is at work under the lock of b. -/
def busyRooms : RoomStore :=
  { matchedRooms with lock := Function.update matchedRooms.lock "b" (some 2) }

/-- **A close that is refused leaves everything behind**: three attempts find the lock of the partner
taken, and the answer is thrown away. -/
theorem terminate_leaves_session :
    ¬ ∀ run : TerminateRun Sessions.asciiRuntime, (∀ k, (run.turns k).meanwhile = id) →
      run.CleanedUp run.terminate.store := by
  intro h
  have hkept : ((quiet busyRooms).terminate.store.find "a").isSome := by decide +kernel
  have hgone := (h (quiet busyRooms) fun _ => rfl).gone.record
  change (quiet busyRooms).terminate.store.find "a" = none at hgone
  rw [hgone] at hkept
  cases hkept

end TerminateRun

end Rooms
