/-
**Matches under the locks of their sessions.**

Two sessions are matched, and their match ends, under the locks of both; readiness and the start of
WebRTC are written under these locks as well.  Whoever keeps to this discipline keeps the records of
a match in agreement: each partner names the other, a session is ready exactly when one of its
messages was processed in this match, and whoever has just made the second of them ready still holds
a lock until the start is sent.

Main definitions:

* `Rooms.Core` — the part of a record that tells of a match;
* `Rooms.Settled` — both partners of a match ready, and it has been started;
* `Rooms.Orderly` — what the records of all the matches have in common;
* `Rooms.Disciplined` — the commands that a process may issue;
* `Rooms.Leaves` — what a process may rely on.

Main results:

* `Rooms.orderly_of_disciplined` — **a disciplined command keeps the rooms orderly**;
* `Rooms.leaves_of_disciplined` — **and it leaves alone what is locked by others**.
-/

import Pairline.Rooms.Locks

set_option relaxedAutoImplicit false
set_option autoImplicit false

namespace Rooms

open Matchmaker (SessionId)
open Sessions (Session SessionKind Runtime Updates)

/-! ### What records say of matches -/

/-- The part of a record that tells of a match. -/
structure Core where
  partnerId : Option SessionId
  sessionKind : SessionKind
  redisShard : ℕ
  signalingReady : Bool
  webrtcStarted : Bool

def coreOf (session : Session) : Core where
  partnerId := session.partnerId
  sessionKind := session.sessionKind
  redisShard := session.redisShard
  signalingReady := session.signalingReady
  webrtcStarted := session.webrtcStarted

namespace RoomStore

def core (s : RoomStore) (sid : SessionId) : Option Core := (s.records sid).map coreOf

variable {s : RoomStore} {sid sid' : SessionId} {session session1 session2 : Session}

theorem map_coreOf_find : (s.find sid).map coreOf = s.core sid := by
  rw [find, core, Option.map_map]
  rfl

theorem core_of_find (h : s.find sid = some session) : s.core sid = some (coreOf session) := by
  rw [← map_coreOf_find, h]
  rfl

theorem core_eq_none : s.core sid = none ↔ s.find sid = none := by
  rw [← map_coreOf_find, Option.map_eq_none_iff]

@[simp] theorem core_setRecord_self {record : Option Session} :
    (s.setRecord sid record).core sid = record.map coreOf := by
  simp only [core, setRecord, Function.update_self]

theorem core_setRecord_of_ne {record : Option Session} (h : sid' ≠ sid) :
    (s.setRecord sid record).core sid' = s.core sid' := by
  simp only [core, setRecord, Function.update_of_ne h]

theorem core_setPair_fst (h : session1.id ≠ session2.id) :
    (s.setPair session1 session2).core session1.id = some (coreOf session1) := by
  rw [setPair, core_setRecord_of_ne h, core_setRecord_self]
  rfl

theorem core_setPair_snd : (s.setPair session1 session2).core session2.id = some (coreOf session2) := by
  rw [setPair, core_setRecord_self]
  rfl

theorem core_setPair_of_ne (h1 : sid ≠ session1.id) (h2 : sid ≠ session2.id) :
    (s.setPair session1 session2).core sid = s.core sid := by
  rw [setPair, core_setRecord_of_ne h2, core_setRecord_of_ne h1]

end RoomStore

/-! ### What has happened in a match -/

section History

variable (s : RoomStore)

/-- The match is one of these two. -/
def Matched (sid1 sid2 : SessionId) (matchId : MatchId) : Prop :=
  .matched sid1 sid2 matchId ∈ s.history ∨ .matched sid2 sid1 matchId ∈ s.history

/-- The process has made the session ready while its record was of this match. -/
def Readied (pid : Pid) (sid : SessionId) (matchId : MatchId) : Prop :=
  .ready pid sid (some matchId) ∈ s.history

/-- The session was told to start, with this peer, in this match. -/
def StartSent (sid peerId : SessionId) (matchId : MatchId) : Prop :=
  .sent sid (.webrtcStart peerId) (some matchId) ∈ s.history

def BothReady (sid1 sid2 : SessionId) (matchId : MatchId) : Prop :=
  (∃ pid, Readied s pid sid1 matchId) ∧ ∃ pid, Readied s pid sid2 matchId

def Started (sid1 sid2 : SessionId) (matchId : MatchId) : Prop :=
  StartSent s sid1 sid2 matchId ∧ StartSent s sid2 sid1 matchId

/-- **Nothing is owed to a match**: it has been started, if both partners are ready. -/
def Settled (sid1 sid2 : SessionId) (matchId : MatchId) : Prop :=
  BothReady s sid1 sid2 matchId → Started s sid1 sid2 matchId

/-- The process that has just made a session ready in its match, as the first one that did. -/
def Responsible (pid : Pid) (sid : SessionId) (matchId : MatchId) : Prop :=
  s.lock sid = some pid ∧ s.current sid = some matchId ∧ Readied s pid sid matchId ∧
    ∀ pid', Readied s pid' sid matchId → pid' = pid

end History

section History

variable {s : RoomStore} {sid1 sid2 : SessionId} {matchId : MatchId}

theorem Matched.symm (h : Matched s sid1 sid2 matchId) : Matched s sid2 sid1 matchId := Or.symm h

theorem BothReady.symm (h : BothReady s sid1 sid2 matchId) : BothReady s sid2 sid1 matchId :=
  And.symm h

theorem Started.symm (h : Started s sid1 sid2 matchId) : Started s sid2 sid1 matchId := And.symm h

theorem Settled.symm (h : Settled s sid1 sid2 matchId) : Settled s sid2 sid1 matchId :=
  fun hready => (h hready.symm).symm

end History

/-! ### Orderly rooms -/

/-- **The records of matched sessions agree**, and each match is one of two sessions. -/
structure Paired (s : RoomStore) : Prop where
  created : ∀ {sid core}, s.core sid = some core → .created sid ∈ s.history
  locked : ∀ {sid pid}, s.lock sid = some pid → .created sid ∈ s.history
  named : ∀ {sid core partnerId}, s.core sid = some core → core.partnerId = some partnerId →
    partnerId ≠ sid ∧ ∃ other, s.core partnerId = some other ∧ other.partnerId = some sid ∧
      other.redisShard = core.redisShard
  matched : ∀ {sid core partnerId}, s.core sid = some core → core.partnerId = some partnerId →
    ∃ matchId, s.current sid = some matchId ∧ s.current partnerId = some matchId ∧
      Matched s sid partnerId matchId
  current : ∀ {sid matchId}, s.current sid = some matchId →
    ∃ core partnerId, s.core sid = some core ∧ core.partnerId = some partnerId
  known : ∀ {sid1 sid2 matchId}, Matched s sid1 sid2 matchId → matchId < s.matchCount
  only : ∀ {sid1 sid2 sid3 sid4 matchId}, Matched s sid1 sid2 matchId →
    Matched s sid3 sid4 matchId → (sid3 = sid1 ∧ sid4 = sid2) ∨ (sid3 = sid2 ∧ sid4 = sid1)

/-- **Readiness is what the messages have made of it.** -/
structure Flagged (s : RoomStore) : Prop where
  known : ∀ {pid sid matchId}, Readied s pid sid matchId →
    matchId < s.matchCount ∧ .created sid ∈ s.history
  ready : ∀ {sid core matchId}, s.current sid = some matchId → s.core sid = some core →
    (core.signalingReady = true ↔ ∃ pid, Readied s pid sid matchId)
  human : ∀ {pid sid matchId core}, Readied s pid sid matchId → s.core sid = some core →
    core.sessionKind ≠ .bot
  started : ∀ {sid1 sid2 core matchId}, s.current sid1 = some matchId → s.core sid1 = some core →
    core.webrtcStarted = true → Matched s sid1 sid2 matchId → BothReady s sid1 sid2 matchId

/-- **Starts are sent once, after both have become ready**, and a match to which one is owed has a
process that will see to it. -/
structure StartsOnce (s : RoomStore) : Prop where
  ofMatch : ∀ {sid peerId matchId?}, .sent sid (.webrtcStart peerId) matchId? ∈ s.history →
    ∃ matchId, matchId? = some matchId ∧ Matched s sid peerId matchId
  flag : ∀ {sid peerId matchId sid' core}, StartSent s sid peerId matchId →
    s.current sid' = some matchId → s.core sid' = some core → core.webrtcStarted = true
  once : ∀ sid peerId matchId, s.history.count (.sent sid (.webrtcStart peerId) (some matchId)) ≤ 1
  after : ∀ {past sid peerId matchId},
    past ++ [.sent sid (.webrtcStart peerId) (some matchId)] <+: s.history →
      (∃ pid, .ready pid sid (some matchId) ∈ past) ∧ ∃ pid, .ready pid peerId (some matchId) ∈ past
  owed : ∀ {sid1 sid2 matchId}, Matched s sid1 sid2 matchId → Settled s sid1 sid2 matchId ∨
    ∃ pid, Responsible s pid sid1 matchId ∨ Responsible s pid sid2 matchId

structure Orderly (s : RoomStore) : Prop where
  paired : Paired s
  flagged : Flagged s
  starts : StartsOnce s

/-! ### The discipline -/

/-- The updates that leave a match alone. -/
def Neutral (updates : Updates) : Prop :=
  ∀ session : Session, coreOf (session.merge updates) = coreOf session

/-- A session may be told to start. -/
structure MayStart (pid : Pid) (sid peerId : SessionId) (matchId : MatchId) (s : RoomStore) :
    Prop where
  locks : s.lock sid = some pid ∧ s.lock peerId = some pid
  current : s.current sid = some matchId ∧ s.current peerId = some matchId
  matched : Matched s sid peerId matchId
  ready : BothReady s sid peerId matchId
  flags : ∀ sid' core, sid' = sid ∨ sid' = peerId → s.core sid' = some core →
    core.webrtcStarted = true
  first : ¬ StartSent s sid peerId matchId

/-- Nobody else has locked the session. -/
def Free (pid : Pid) (s : RoomStore) (sid : SessionId) : Prop :=
  ∀ pid', s.lock sid = some pid' → pid' = pid

theorem free_of_lock {pid : Pid} {s : RoomStore} {sid : SessionId} (h : s.lock sid = some pid) :
    Free pid s sid := fun _ h' => Option.some_inj.1 (h'.symm.trans h)

/-- **The commands that a process may issue.** -/
def Disciplined (c : RoomCmd) (s : RoomStore) : Prop :=
  match c with
  | ⟨_, .persistSession session⟩ => .created session.id ∉ s.history ∧ session.partnerId = none
  | ⟨pid, .updateSession sid updates⟩ =>
      Neutral updates ∨
      (∃ status, updates = statusUpdates status) ∧ Free pid s sid ∧
        (∀ core, s.core sid = some core → core.partnerId = none) ∨
      updates = { signalingReady := some true } ∧ s.lock sid = some pid ∧
        (∀ core, s.core sid = some core → core.sessionKind ≠ .bot) ∧
        (∃ core partnerId, s.core sid = some core ∧ core.partnerId = some partnerId ∧
          s.lock partnerId = some pid) ∧ (∀ sid' matchId, ¬ Readied s pid sid' matchId) ∨
      updates = { webrtcStarted := some true } ∧ s.lock sid = some pid ∧
        ∀ sid2 matchId, s.current sid = some matchId → Matched s sid sid2 matchId →
          BothReady s sid sid2 matchId
  | ⟨pid, .pairScript session1 session2⟩ => session1.id ≠ session2.id ∧
      (Free pid s session1.id ∧ Free pid s session2.id) ∧
      (s.core session1.id = some (coreOf session1) ∧ session1.partnerId = none) ∧
      (s.core session2.id = some (coreOf session2) ∧ session2.partnerId = none) ∧
      session1.redisShard = session2.redisShard
  | ⟨pid, .resetPairScript session1 session2⟩ =>
      (Free pid s session1.id ∧ Free pid s session2.id) ∧
      s.core session1.id = some (coreOf session1) ∧ s.core session2.id = some (coreOf session2) ∧
      session1.partnerId = some session2.id ∧ ∀ sid matchId, ¬ Readied s pid sid matchId
  | ⟨_, .emergencyDisconnectScript _⟩ => False
  | ⟨pid, .deleteSession sid⟩ => Free pid s sid ∧
      ∀ core, s.core sid = some core → core.partnerId = none
  | ⟨pid, .unlock sid⟩ => ∀ sid2 matchId, s.lock sid = some pid → s.current sid = some matchId →
      Readied s pid sid matchId → Matched s sid sid2 matchId → Settled s sid sid2 matchId
  | ⟨pid, .send sid (.webrtcStart peerId)⟩ => ∃ matchId, MayStart pid sid peerId matchId s
  | _ => True

/-- **What a process may rely on**: its locks stay its own, and so does what they protect; what has
happened has happened, and a session that is gone is gone. -/
structure Leaves (pid : Pid) (s t : RoomStore) : Prop where
  locks : ∀ sid, t.lock sid = some pid ↔ s.lock sid = some pid
  core : ∀ {sid}, s.lock sid = some pid → t.core sid = s.core sid
  current : ∀ {sid}, s.lock sid = some pid → t.current sid = s.current sid
  readied : ∀ {sid pid' matchId?}, s.lock sid = some pid → .ready pid' sid matchId? ∈ t.history →
    .ready pid' sid matchId? ∈ s.history
  sent : ∀ {sid peerId matchId?}, s.lock sid = some pid →
    .sent sid (.webrtcStart peerId) matchId? ∈ t.history →
      .sent sid (.webrtcStart peerId) matchId? ∈ s.history
  rival : ∀ {sid sid' matchId pid'}, s.lock sid = some pid → Matched s sid sid' matchId →
    Readied t pid' sid' matchId → Readied s pid' sid' matchId
  own : ∀ {sid matchId?}, .ready pid sid matchId? ∈ t.history → .ready pid sid matchId? ∈ s.history
  past : ∀ {happening}, happening ∈ s.history → happening ∈ t.history
  gone : ∀ {sid}, .created sid ∈ s.history → s.core sid = none → t.core sid = none
  human : ∀ {sid}, .created sid ∈ s.history →
    (∀ core, s.core sid = some core → core.sessionKind ≠ .bot) →
      ∀ core, t.core sid = some core → core.sessionKind ≠ .bot

theorem Leaves.refl (pid : Pid) (s : RoomStore) : Leaves pid s s where
  locks _ := Iff.rfl
  core _ := rfl
  current _ := rfl
  readied _ := id
  sent _ := id
  rival _ _ := id
  own := id
  past := id
  gone _ := id
  human _ := id

theorem Leaves.trans {pid : Pid} {s t u : RoomStore} (h : Leaves pid s t) (h' : Leaves pid t u) :
    Leaves pid s u where
  locks sid := (h'.locks sid).trans (h.locks sid)
  core hlock := (h'.core ((h.locks _).2 hlock)).trans (h.core hlock)
  current hlock := (h'.current ((h.locks _).2 hlock)).trans (h.current hlock)
  readied hlock hready := h.readied hlock (h'.readied ((h.locks _).2 hlock) hready)
  sent hlock hsent := h.sent hlock (h'.sent ((h.locks _).2 hlock) hsent)
  rival hlock hmatched hready := h.rival hlock hmatched
    (h'.rival ((h.locks _).2 hlock) (hmatched.imp h.past h.past) hready)
  own hready := h.own (h'.own hready)
  past hpast := h'.past (h.past hpast)
  gone hcreated hnone := h'.gone (h.past hcreated) (h.gone hcreated hnone)
  human hcreated hhuman := h'.human (h.past hcreated) (h.human hcreated hhuman)

/-! ### Locks and messages -/

section Steps

variable {s t : RoomStore} {pid : Pid} {sid sid1 sid2 partnerId peerId : SessionId}
  {matchId : MatchId} {core : Core} {session session1 session2 : Session}

/-- What is responsible for a match does not change with the locks of others. -/
theorem Responsible.relock {lock : SessionId → Option Pid} (h : Responsible s pid sid matchId)
    (hlock : lock sid = s.lock sid) : Responsible { s with lock := lock } pid sid matchId :=
  ⟨hlock.trans h.1, h.2⟩

/-- The partners of a match that is current are those that the records name. -/
theorem Paired.partner_of_current (h : Paired s) (hcurrent : s.current sid = some matchId)
    (hmatched : Matched s sid partnerId matchId) :
    ∃ core, s.core sid = some core ∧ core.partnerId = some partnerId := by
  obtain ⟨core, partnerId', hcore, hnames⟩ := h.current hcurrent
  obtain ⟨matchId', hcurrent', -, hmatched'⟩ := h.matched hcore hnames
  obtain rfl := Option.some_inj.1 (hcurrent.symm.trans hcurrent')
  rcases h.only hmatched hmatched' with ⟨-, rfl⟩ | ⟨rfl, rfl⟩
  · exact ⟨core, hcore, hnames⟩
  · exact ⟨core, hcore, hnames⟩

/-- A session without a partner is in no match. -/
theorem Paired.current_eq_none (h : Paired s)
    (hcore : ∀ core, s.core sid = some core → core.partnerId = none) : s.current sid = none := by
  cases hcurrent : s.current sid with
  | none => rfl
  | some matchId =>
      obtain ⟨core, partnerId, hfound, hnames⟩ := h.current hcurrent
      rw [hcore core hfound] at hnames
      cases hnames

theorem Orderly.lock (h : Orderly s) (hfound : s.core sid = some core) (hfree : s.lock sid = none) :
    Orderly { s with lock := Function.update s.lock sid (some pid) } where
  paired :=
    { h.paired with
      locked := by
        intro sid' pid' hlock
        rcases eq_or_ne sid' sid with rfl | hne
        · exact h.paired.created hfound
        · exact h.paired.locked ((Function.update_of_ne hne _ _).symm.trans hlock) }
  flagged := { h.flagged with }
  starts :=
    { h.starts with
      owed := by
        -- who was responsible held a lock, which is not the one that was free
        have hother : ∀ {pid' sid' matchId}, Responsible s pid' sid' matchId → Responsible
            { s with lock := Function.update s.lock sid (some pid) } pid' sid' matchId := by
          intro pid' sid' matchId hresponsible
          refine hresponsible.relock (Function.update_of_ne ?_ _ _)
          rintro rfl
          exact absurd (hfree.symm.trans hresponsible.1) nofun
        intro sid1 sid2 matchId hmatched
        exact (h.starts.owed hmatched).imp id fun ⟨pid', hpid⟩ => ⟨pid', hpid.imp hother hother⟩ }

theorem Orderly.unlock (h : Orderly s) (hheld : s.lock sid = some pid)
    (hsettled : ∀ sid2 matchId, s.current sid = some matchId → Readied s pid sid matchId →
      Matched s sid sid2 matchId → Settled s sid sid2 matchId) :
    Orderly { s with lock := Function.update s.lock sid none } where
  paired :=
    { h.paired with
      locked := by
        intro sid' pid' hlock
        rcases eq_or_ne sid' sid with rfl | hne
        · exact nomatch (Function.update_self sid' none s.lock).symm.trans hlock
        · exact h.paired.locked ((Function.update_of_ne hne _ _).symm.trans hlock) }
  flagged := { h.flagged with }
  starts :=
    { h.starts with
      owed := by
        -- who was responsible and gives back the lock owes nothing
        have hother : ∀ {pid' sid' sid'' matchId}, Matched s sid' sid'' matchId →
            Responsible s pid' sid' matchId → Settled s sid' sid'' matchId ∨ Responsible
              { s with lock := Function.update s.lock sid none } pid' sid' matchId := by
          intro pid' sid' sid'' matchId hmatched hresponsible
          rcases eq_or_ne sid' sid with rfl | hne
          · obtain rfl := Option.some_inj.1 (hheld.symm.trans hresponsible.1)
            exact .inl (hsettled sid'' matchId hresponsible.2.1 hresponsible.2.2.1 hmatched)
          · exact .inr (hresponsible.relock (Function.update_of_ne hne _ _))
        intro sid1 sid2 matchId hmatched
        rcases h.starts.owed hmatched with hdone | ⟨pid', hpid | hpid⟩
        · exact .inl hdone
        · exact (hother hmatched hpid).imp id fun hpid => ⟨pid', .inl hpid⟩
        · exact (hother hmatched.symm hpid).imp Settled.symm fun hpid => ⟨pid', .inr hpid⟩ }

/-- The same has happened, as far as matches are concerned. -/
structure SameEvents (s t : RoomStore) : Prop where
  created : ∀ sid, .created sid ∈ s.history → .created sid ∈ t.history
  matched : ∀ sid1 sid2 matchId, Matched t sid1 sid2 matchId ↔ Matched s sid1 sid2 matchId
  readied : ∀ pid sid matchId, Readied t pid sid matchId ↔ Readied s pid sid matchId
  sent : ∀ sid peerId matchId?, .sent sid (.webrtcStart peerId) matchId? ∈ t.history ↔
    .sent sid (.webrtcStart peerId) matchId? ∈ s.history

theorem SameEvents.of_history (h : t.history = s.history) : SameEvents s t := by
  constructor <;> simp [Matched, Readied, h]

theorem SameEvents.bothReady (h : SameEvents s t) :
    BothReady t sid1 sid2 matchId ↔ BothReady s sid1 sid2 matchId :=
  and_congr (exists_congr fun _ => h.readied _ _ _) (exists_congr fun _ => h.readied _ _ _)

theorem SameEvents.settled (h : SameEvents s t) :
    Settled t sid1 sid2 matchId ↔ Settled s sid1 sid2 matchId :=
  imp_congr h.bothReady (and_congr (h.sent _ _ _) (h.sent _ _ _))

theorem SameEvents.responsible (h : SameEvents s t) (hlock : t.lock = s.lock)
    (hcurrent : t.current = s.current) :
    Responsible t pid sid matchId ↔ Responsible s pid sid matchId := by
  refine and_congr (by rw [hlock]) (and_congr (by rw [hcurrent]) (and_congr (h.readied _ _ _) ?_))
  exact forall_congr' fun _ => imp_congr_left (h.readied _ _ _)

/-- The two cores agree on the partner. -/
structure Core.Same (core core' : Core) : Prop where
  partnerId : core'.partnerId = core.partnerId
  sessionKind : core'.sessionKind = core.sessionKind
  redisShard : core'.redisShard = core.redisShard

theorem Paired.congr (h : Paired s) (hcreated : ∀ {sid}, .created sid ∈ s.history → .created sid ∈ t.history)
    (hmatches : ∀ {sid1 sid2 matchId}, Matched t sid1 sid2 matchId ↔ Matched s sid1 sid2 matchId)
    (hto : ∀ {sid core'}, t.core sid = some core' → ∃ core, s.core sid = some core ∧ core.Same core')
    (hfrom : ∀ {sid core}, s.core sid = some core → ∃ core', t.core sid = some core' ∧ core.Same core')
    (hlock : t.lock = s.lock) (hcurrent : t.current = s.current) (hcount : t.matchCount = s.matchCount) :
    Paired t where
  created hfound := by
    obtain ⟨core, hold, -⟩ := hto hfound
    exact hcreated (h.created hold)
  locked hheld := hcreated (h.locked ((congrFun hlock _).symm.trans hheld))
  named hfound hnames := by
    obtain ⟨core, hold, hsame⟩ := hto hfound
    obtain ⟨hne, other, hother, hback, hshard⟩ := h.named hold (hsame.partnerId.symm.trans hnames)
    obtain ⟨other', hother', hsame'⟩ := hfrom hother
    exact ⟨hne, other', hother', hsame'.partnerId.trans hback,
      (hsame'.redisShard.trans hshard).trans hsame.redisShard.symm⟩
  matched hfound hnames := by
    obtain ⟨core, hold, hsame⟩ := hto hfound
    obtain ⟨matchId, hfirst, hsecond, hmatched⟩ := h.matched hold (hsame.partnerId.symm.trans hnames)
    rw [hcurrent]
    exact ⟨matchId, hfirst, hsecond, hmatches.2 hmatched⟩
  current hthis := by
    obtain ⟨core, partnerId, hfound, hnames⟩ := h.current ((congrFun hcurrent _).symm.trans hthis)
    obtain ⟨core', hfound', hsame⟩ := hfrom hfound
    exact ⟨core', partnerId, hfound', hsame.partnerId.trans hnames⟩
  known hmatched := by
    rw [hcount]
    exact h.known (hmatches.1 hmatched)
  only hmatched hmatched' :=
    h.only (hmatches.1 hmatched) (hmatches.1 hmatched')

/-- Records with the same cores. -/
theorem Paired.congr_core (h : Paired s) (hevents : SameEvents s t)
    (hcore : ∀ sid, t.core sid = s.core sid) (hlock : t.lock = s.lock)
    (hcurrent : t.current = s.current) (hcount : t.matchCount = s.matchCount) : Paired t :=
  h.congr (hevents.created _) (hevents.matched _ _ _)
    (fun hfound => ⟨_, (hcore _).symm.trans hfound, rfl, rfl, rfl⟩)
    (fun hfound => ⟨_, (hcore _).trans hfound, rfl, rfl, rfl⟩) hlock hcurrent hcount

theorem Flagged.congr (h : Flagged s) (hevents : SameEvents s t)
    (hcore : ∀ sid, t.core sid = s.core sid) (hcurrent : t.current = s.current)
    (hcount : t.matchCount = s.matchCount) : Flagged t where
  known hready := by
    rw [hcount]
    exact (h.known ((hevents.readied _ _ _).1 hready)).imp id (hevents.created _)
  ready hthis hfound :=
    (h.ready ((congrFun hcurrent _).symm.trans hthis) ((hcore _).symm.trans hfound)).trans
      (exists_congr fun _ => (hevents.readied _ _ _).symm)
  human hready hfound := h.human ((hevents.readied _ _ _).1 hready) ((hcore _).symm.trans hfound)
  started hthis hfound hflag hmatched :=
    hevents.bothReady.2 (h.started ((congrFun hcurrent _).symm.trans hthis)
      ((hcore _).symm.trans hfound) hflag ((hevents.matched _ _ _).1 hmatched))

/-- **What does not show in the core of a record changes nothing**, and neither does what happens
besides. -/
theorem Orderly.congr (h : Orderly s) (hevents : SameEvents s t)
    (hcore : ∀ sid, t.core sid = s.core sid) (hlock : t.lock = s.lock)
    (hcurrent : t.current = s.current) (hcount : t.matchCount = s.matchCount)
    (honce : ∀ sid peerId matchId,
      t.history.count (.sent sid (.webrtcStart peerId) (some matchId)) ≤ 1)
    (hafter : ∀ {past sid peerId matchId},
      past ++ [.sent sid (.webrtcStart peerId) (some matchId)] <+: t.history →
        (∃ pid, .ready pid sid (some matchId) ∈ past) ∧
          ∃ pid, .ready pid peerId (some matchId) ∈ past) : Orderly t where
  paired := h.paired.congr_core hevents hcore hlock hcurrent hcount
  flagged := h.flagged.congr hevents hcore hcurrent hcount
  starts :=
    { once := honce
      after := hafter
      ofMatch := by
        intro sid peerId matchId? hsent
        obtain ⟨matchId, hthis, hmatched⟩ := h.starts.ofMatch ((hevents.sent _ _ _).1 hsent)
        exact ⟨matchId, hthis, (hevents.matched _ _ _).2 hmatched⟩
      flag := fun hsent hthis hfound => h.starts.flag ((hevents.sent _ _ _).1 hsent)
        ((congrFun hcurrent _).symm.trans hthis) ((hcore _).symm.trans hfound)
      owed := by
        intro sid1 sid2 matchId hmatched
        refine (h.starts.owed ((hevents.matched _ _ _).1 hmatched)).imp hevents.settled.2 ?_
        exact Exists.imp fun pid => Or.imp (hevents.responsible hlock hcurrent).2
          (hevents.responsible hlock hcurrent).2 }

/-- Something other than a start. -/
def NotStart (happening : Happening) : Prop :=
  ∀ sid peerId matchId?, .sent sid (.webrtcStart peerId) matchId? ≠ happening

theorem notStart_matched : NotStart (.matched sid1 sid2 matchId) := nofun

theorem notStart_created : NotStart (.created sid) := nofun

theorem notStart_ready {matchId? : Option MatchId} : NotStart (.ready pid sid matchId?) := nofun

theorem mem_log {happening happening' : Happening} : happening' ∈ (s.log happening).history ↔
    happening' ∈ s.history ∨ happening' = happening := by
  rw [RoomStore.log, List.mem_append, List.mem_singleton]

theorem mem_log_of_ne {happening happening' : Happening} (h : happening' ≠ happening) :
    happening' ∈ (s.log happening).history ↔ happening' ∈ s.history := by
  rw [mem_log, or_iff_left h]

/-- No further start. -/
theorem once_log {happening : Happening} (hevent : NotStart happening)
    (h : ∀ sid peerId matchId,
      s.history.count (.sent sid (.webrtcStart peerId) (some matchId)) ≤ 1) :
    ∀ sid peerId matchId,
      (s.log happening).history.count (.sent sid (.webrtcStart peerId) (some matchId)) ≤ 1 := by
  intro sid peerId matchId
  rw [RoomStore.log, List.count_append, List.count_singleton, if_neg]
  · exact h sid peerId matchId
  · intro heq
    exact hevent sid peerId (some matchId) (eq_of_beq heq).symm

/-- A start in the history is followed by what has happened since. -/
theorem after_log {happening : Happening} (hevent : NotStart happening)
    (h : ∀ {past sid peerId matchId},
      past ++ [.sent sid (.webrtcStart peerId) (some matchId)] <+: s.history →
        (∃ pid, .ready pid sid (some matchId) ∈ past) ∧
          ∃ pid, .ready pid peerId (some matchId) ∈ past) :
    ∀ {past sid peerId matchId},
      past ++ [.sent sid (.webrtcStart peerId) (some matchId)] <+: (s.log happening).history →
        (∃ pid, .ready pid sid (some matchId) ∈ past) ∧
          ∃ pid, .ready pid peerId (some matchId) ∈ past := by
  intro past sid peerId matchId hinitial
  rcases List.prefix_concat_iff.1 hinitial with heq | hinitial
  · obtain ⟨-, hlast⟩ := List.append_inj' heq rfl
    exact absurd (List.singleton_inj.1 hlast) (hevent _ _ _)
  · exact h hinitial

/-- A message that starts nothing. -/
theorem Orderly.send (h : Orderly s) {message : RouterMessage} {matchId? : Option MatchId}
    (hmessage : ∀ peerId, message ≠ .webrtcStart peerId) :
    Orderly (s.log (.sent sid message matchId?)) := by
  have hevent : NotStart (.sent sid message matchId?) := by
    intro sid' peerId matchId'? heq
    exact hmessage peerId (Happening.sent.inj heq).2.1.symm
  refine h.congr ⟨fun _ hcreated => mem_log.2 (.inl hcreated), ?_, fun _ _ _ => mem_log_of_ne nofun,
    fun _ _ _ => mem_log_of_ne (hevent _ _ _)⟩ (fun _ => rfl) rfl rfl rfl
    (once_log hevent h.starts.once) (after_log hevent h.starts.after)
  exact fun _ _ _ => or_congr (mem_log_of_ne nofun) (mem_log_of_ne nofun)

/-! ### Records -/

/-- A session that names no partner is named by none. -/
theorem Paired.not_named (h : Paired s)
    (hsid : ∀ core, s.core sid = some core → core.partnerId = none) {sid' : SessionId}
    (hfound : s.core sid' = some core) : core.partnerId ≠ some sid := by
  intro hnames
  obtain ⟨-, other, hother, hback, -⟩ := h.named hfound hnames
  rw [hsid other hother] at hback
  cases hback

/-- **The record of a session without a partner** is written, or is gone, and it has no partner
afterwards. -/
theorem Orderly.alone (h : Orderly s) (hevents : SameEvents s t)
    (hsid : ∀ core, s.core sid = some core → core.partnerId = none)
    (hsid' : ∀ core, t.core sid = some core → core.partnerId = none ∧ .created sid ∈ t.history ∧
      ∀ pid matchId, Readied s pid sid matchId → core.sessionKind ≠ .bot)
    (hcore : ∀ sid', sid' ≠ sid → t.core sid' = s.core sid') (hlock : t.lock = s.lock)
    (hcurrent : t.current = s.current) (hcount : t.matchCount = s.matchCount)
    (honce : ∀ sid peerId matchId,
      t.history.count (.sent sid (.webrtcStart peerId) (some matchId)) ≤ 1)
    (hafter : ∀ {past sid peerId matchId},
      past ++ [.sent sid (.webrtcStart peerId) (some matchId)] <+: t.history →
        (∃ pid, .ready pid sid (some matchId) ∈ past) ∧
          ∃ pid, .ready pid peerId (some matchId) ∈ past) : Orderly t := by
  -- a session in a match is another one, and its record is as it was
  have hnone : s.current sid = none := h.paired.current_eq_none hsid
  have hother : ∀ {sid' matchId}, t.current sid' = some matchId → t.core sid' = s.core sid' := by
    intro sid' matchId hthis
    refine hcore sid' ?_
    rintro rfl
    rw [hcurrent, hnone] at hthis
    cases hthis
  have hpartner : ∀ {sid' core partnerId}, t.core sid' = some core →
      core.partnerId = some partnerId → s.core sid' = some core := by
    intro sid' core partnerId hfound hnames
    refine (hcore sid' ?_).symm.trans hfound
    rintro rfl
    rw [(hsid' core hfound).1] at hnames
    cases hnames
  refine ⟨⟨?_, ?_, ?_, ?_, ?_, ?_, ?_⟩, ⟨?_, ?_, ?_, ?_⟩, ⟨?_, ?_, honce, hafter, ?_⟩⟩
  · intro sid' core hfound
    rcases eq_or_ne sid' sid with rfl | hne
    · exact (hsid' core hfound).2.1
    · exact hevents.created _ (h.paired.created ((hcore sid' hne).symm.trans hfound))
  · exact fun hheld => hevents.created _ (h.paired.locked ((congrFun hlock _).symm.trans hheld))
  · intro sid' core partnerId hfound hnames
    obtain ⟨hne, other, hfound', hback⟩ := h.paired.named (hpartner hfound hnames) hnames
    refine ⟨hne, other, (hcore partnerId ?_).trans hfound', hback⟩
    rintro rfl
    exact h.paired.not_named hsid (hpartner hfound hnames) hnames
  · intro sid' core partnerId hfound hnames
    obtain ⟨matchId, hfirst, hsecond, hmatched⟩ := h.paired.matched (hpartner hfound hnames) hnames
    rw [hcurrent]
    exact ⟨matchId, hfirst, hsecond, (hevents.matched _ _ _).2 hmatched⟩
  · intro sid' matchId hthis
    rw [hother hthis]
    exact h.paired.current ((congrFun hcurrent _).symm.trans hthis)
  · intro sid1 sid2 matchId hmatched
    rw [hcount]
    exact h.paired.known ((hevents.matched _ _ _).1 hmatched)
  · exact fun hmatched hmatched' =>
      h.paired.only ((hevents.matched _ _ _).1 hmatched) ((hevents.matched _ _ _).1 hmatched')
  · intro pid sid' matchId hready
    rw [hcount]
    exact (h.flagged.known ((hevents.readied _ _ _).1 hready)).imp id (hevents.created _)
  · intro sid' core matchId hthis hfound
    rw [hother hthis] at hfound
    exact (h.flagged.ready ((congrFun hcurrent _).symm.trans hthis) hfound).trans
      (exists_congr fun _ => (hevents.readied _ _ _).symm)
  · intro pid sid' matchId core hready hfound
    have hready' := (hevents.readied _ _ _).1 hready
    rcases eq_or_ne sid' sid with rfl | hne
    · exact (hsid' core hfound).2.2 pid matchId hready'
    · exact h.flagged.human hready' ((hcore sid' hne).symm.trans hfound)
  · intro sid1 sid2 core matchId hthis hfound hflag hmatched
    rw [hother hthis] at hfound
    exact hevents.bothReady.2 (h.flagged.started ((congrFun hcurrent _).symm.trans hthis) hfound hflag
      ((hevents.matched _ _ _).1 hmatched))
  · intro sid' peerId matchId? hsent
    obtain ⟨matchId, hthis, hmatched⟩ := h.starts.ofMatch ((hevents.sent _ _ _).1 hsent)
    exact ⟨matchId, hthis, (hevents.matched _ _ _).2 hmatched⟩
  · intro sid' peerId matchId sid'' core hsent hthis hfound
    rw [hother hthis] at hfound
    exact h.starts.flag ((hevents.sent _ _ _).1 hsent) ((congrFun hcurrent _).symm.trans hthis) hfound
  · intro sid1 sid2 matchId hmatched
    refine (h.starts.owed ((hevents.matched _ _ _).1 hmatched)).imp hevents.settled.2 ?_
    exact Exists.imp fun pid => Or.imp (hevents.responsible hlock hcurrent).2
      (hevents.responsible hlock hcurrent).2

/-! ### The beginning and the end of a match -/

/-- The core of a record whose match begins, or ends. -/
def Core.withPartner (core : Core) (partnerId : Option SessionId) : Core :=
  { core with partnerId := partnerId, signalingReady := false, webrtcStarted := false }

/-- A match has a number below the next. -/
theorem Paired.ne_matchCount (h : Paired s) (hmatched : Matched s sid1 sid2 matchId) :
    matchId ≠ s.matchCount := (h.known hmatched).ne

/-- Two sessions without partners are matched from now on. -/
structure Begins (s t : RoomStore) (sid1 sid2 : SessionId) (core1 core2 : Core) : Prop where
  ne : sid1 ≠ sid2
  found1 : s.core sid1 = some core1
  alone1 : core1.partnerId = none
  found2 : s.core sid2 = some core2
  alone2 : core2.partnerId = none
  shard : core1.redisShard = core2.redisShard
  core1 : t.core sid1 = some (core1.withPartner (some sid2))
  core2 : t.core sid2 = some (core2.withPartner (some sid1))
  core : ∀ sid, sid ≠ sid1 → sid ≠ sid2 → t.core sid = s.core sid
  lock : t.lock = s.lock
  current : t.current = Function.update (Function.update s.current sid1 (some s.matchCount)) sid2
    (some s.matchCount)
  count : t.matchCount = s.matchCount + 1
  history : t.history = (s.log (.matched sid1 sid2 s.matchCount)).history

namespace Begins

variable {core1 core2 : Core} (hb : Begins s t sid1 sid2 core1 core2)

include hb

theorem past {happening : Happening} (h : happening ∈ s.history) : happening ∈ t.history := by
  rw [hb.history]
  exact mem_log.2 (.inl h)

theorem matched {a b : SessionId} {m : MatchId} : Matched t a b m ↔ Matched s a b m ∨
    m = s.matchCount ∧ (a = sid1 ∧ b = sid2 ∨ a = sid2 ∧ b = sid1) := by
  simp only [Matched, hb.history, mem_log, Happening.matched.injEq]
  tauto

theorem readied {a : SessionId} {m : MatchId} : Readied t pid a m ↔ Readied s pid a m := by
  rw [Readied, hb.history]
  exact mem_log_of_ne nofun

theorem sent {a b : SessionId} {m? : Option MatchId} :
    .sent a (.webrtcStart b) m? ∈ t.history ↔ .sent a (.webrtcStart b) m? ∈ s.history := by
  rw [hb.history]
  exact mem_log_of_ne nofun

theorem current1 : t.current sid1 = some s.matchCount := by
  rw [hb.current, Function.update_of_ne hb.ne, Function.update_self]

theorem current2 : t.current sid2 = some s.matchCount := by
  rw [hb.current, Function.update_self]

theorem current_of_ne (h1 : sid ≠ sid1) (h2 : sid ≠ sid2) : t.current sid = s.current sid := by
  rw [hb.current, Function.update_of_ne h2, Function.update_of_ne h1]

/-- A session is one of the two, or another whose record and match are as they were. -/
theorem cases (sid : SessionId) : sid = sid1 ∨ sid = sid2 ∨
    sid ≠ sid1 ∧ sid ≠ sid2 ∧ t.core sid = s.core sid ∧ t.current sid = s.current sid := by
  by_cases h1 : sid = sid1
  · exact .inl h1
  · by_cases h2 : sid = sid2
    · exact .inr (.inl h2)
    · exact .inr (.inr ⟨h1, h2, hb.core sid h1 h2, hb.current_of_ne h1 h2⟩)

theorem alone (h : sid = sid1 ∨ sid = sid2) :
    ∀ core, s.core sid = some core → core.partnerId = none := by
  intro core hfound
  rcases h with rfl | rfl
  · rw [Option.some_inj.1 (hfound.symm.trans hb.found1), hb.alone1]
  · rw [Option.some_inj.1 (hfound.symm.trans hb.found2), hb.alone2]

theorem paired (h : Paired s) : Paired t where
  created {sid core} hfound := by
    rcases hb.cases sid with rfl | rfl | ⟨-, -, hcore, -⟩
    · exact hb.past (h.created hb.found1)
    · exact hb.past (h.created hb.found2)
    · exact hb.past (h.created (hcore.symm.trans hfound))
  locked hheld := hb.past (h.locked ((congrFun hb.lock _).symm.trans hheld))
  named {sid core partnerId} hfound hnames := by
    rcases hb.cases sid with rfl | rfl | ⟨-, -, hcore, -⟩
    · obtain rfl := Option.some_inj.1 (hfound.symm.trans hb.core1)
      obtain rfl := Option.some_inj.1 hnames
      exact ⟨hb.ne.symm, _, hb.core2, rfl, hb.shard.symm⟩
    · obtain rfl := Option.some_inj.1 (hfound.symm.trans hb.core2)
      obtain rfl := Option.some_inj.1 hnames
      exact ⟨hb.ne, _, hb.core1, rfl, hb.shard⟩
    · have hold := hcore.symm.trans hfound
      obtain ⟨hne, other, hother, hback⟩ := h.named hold hnames
      rcases hb.cases partnerId with rfl | rfl | ⟨-, -, hcore', -⟩
      · exact absurd hnames (h.not_named (hb.alone (.inl rfl)) hold)
      · exact absurd hnames (h.not_named (hb.alone (.inr rfl)) hold)
      · exact ⟨hne, other, hcore'.trans hother, hback⟩
  matched {sid core partnerId} hfound hnames := by
    rcases hb.cases sid with rfl | rfl | ⟨-, -, hcore, hcurrent⟩
    · obtain rfl := Option.some_inj.1 (hfound.symm.trans hb.core1)
      obtain rfl := Option.some_inj.1 hnames
      exact ⟨_, hb.current1, hb.current2, hb.matched.2 (.inr ⟨rfl, .inl ⟨rfl, rfl⟩⟩)⟩
    · obtain rfl := Option.some_inj.1 (hfound.symm.trans hb.core2)
      obtain rfl := Option.some_inj.1 hnames
      exact ⟨_, hb.current2, hb.current1, hb.matched.2 (.inr ⟨rfl, .inr ⟨rfl, rfl⟩⟩)⟩
    · have hold := hcore.symm.trans hfound
      obtain ⟨m, hfirst, hsecond, hm⟩ := h.matched hold hnames
      rcases hb.cases partnerId with rfl | rfl | ⟨-, -, -, hcurrent'⟩
      · exact absurd hnames (h.not_named (hb.alone (.inl rfl)) hold)
      · exact absurd hnames (h.not_named (hb.alone (.inr rfl)) hold)
      · exact ⟨m, hcurrent.trans hfirst, hcurrent'.trans hsecond, hb.matched.2 (.inl hm)⟩
  current {sid m} hthis := by
    rcases hb.cases sid with rfl | rfl | ⟨-, -, hcore, hcurrent⟩
    · exact ⟨_, _, hb.core1, rfl⟩
    · exact ⟨_, _, hb.core2, rfl⟩
    · obtain ⟨core, partnerId, hold, hnames⟩ := h.current (hcurrent.symm.trans hthis)
      exact ⟨core, partnerId, hcore.trans hold, hnames⟩
  known {a b m} hm := by
    rw [hb.count]
    rcases hb.matched.1 hm with hm | ⟨rfl, -⟩
    · exact Nat.lt_succ_of_lt (h.known hm)
    · exact Nat.lt_succ_self _
  only {a b c d m} hm hm' := by
    rcases hb.matched.1 hm with hold | ⟨hnew, hpair⟩ <;>
      rcases hb.matched.1 hm' with hold' | ⟨hnew', hpair'⟩
    · exact h.only hold hold'
    · exact absurd hnew' (h.ne_matchCount hold)
    · exact absurd hnew (h.ne_matchCount hold')
    · rcases hpair with ⟨rfl, rfl⟩ | ⟨rfl, rfl⟩ <;>
        rcases hpair' with ⟨rfl, rfl⟩ | ⟨rfl, rfl⟩ <;> simp

theorem flagged (h : Flagged s) (hp : Paired s) : Flagged t where
  known hready := by
    obtain ⟨hlt, hcreated⟩ := h.known (hb.readied.1 hready)
    rw [hb.count]
    exact ⟨Nat.lt_succ_of_lt hlt, hb.past hcreated⟩
  ready {sid core m} hthis hfound := by
    -- nobody has become ready yet in the new match
    have hunready : ∀ {sid}, ¬ ∃ pid, Readied t pid sid s.matchCount := fun ⟨pid, hready⟩ =>
      (h.known (hb.readied.1 hready)).1.ne rfl
    rcases hb.cases sid with rfl | rfl | ⟨-, -, hcore, hcurrent⟩
    · obtain rfl := Option.some_inj.1 (hfound.symm.trans hb.core1)
      obtain rfl := Option.some_inj.1 (hthis.symm.trans hb.current1)
      exact iff_of_false nofun hunready
    · obtain rfl := Option.some_inj.1 (hfound.symm.trans hb.core2)
      obtain rfl := Option.some_inj.1 (hthis.symm.trans hb.current2)
      exact iff_of_false nofun hunready
    · exact (h.ready (hcurrent.symm.trans hthis) (hcore.symm.trans hfound)).trans
        (exists_congr fun _ => hb.readied.symm)
  human {pid sid m core} hready hfound := by
    have hready' := hb.readied.1 hready
    rcases hb.cases sid with rfl | rfl | ⟨-, -, hcore, -⟩
    · obtain rfl := Option.some_inj.1 (hfound.symm.trans hb.core1)
      exact (h.human hready' hb.found1 :)
    · obtain rfl := Option.some_inj.1 (hfound.symm.trans hb.core2)
      exact (h.human hready' hb.found2 :)
    · exact h.human hready' (hcore.symm.trans hfound)
  started {a b core m} hthis hfound hflag hm := by
    rcases hb.cases a with rfl | rfl | ⟨-, -, hcore, hcurrent⟩
    · obtain rfl := Option.some_inj.1 (hfound.symm.trans hb.core1)
      cases hflag
    · obtain rfl := Option.some_inj.1 (hfound.symm.trans hb.core2)
      cases hflag
    · have hold := hcore.symm.trans hfound
      have hthis' := hcurrent.symm.trans hthis
      obtain ⟨core', partnerId, hcore', hnames⟩ := hp.current hthis'
      obtain ⟨m', hm', -, hmatched⟩ := hp.matched hcore' hnames
      obtain rfl := Option.some_inj.1 (hm'.symm.trans hthis')
      rcases hb.matched.1 hm with hm | ⟨hnew, -⟩
      · exact (h.started hthis' hold hflag hm).imp (Exists.imp fun _ => hb.readied.2)
          (Exists.imp fun _ => hb.readied.2)
      · exact absurd hnew (hp.ne_matchCount hmatched)

theorem starts (h : StartsOnce s) (hp : Paired s) (hf : Flagged s) : StartsOnce t where
  ofMatch hsent := by
    obtain ⟨m, rfl, hm⟩ := h.ofMatch (hb.sent.1 hsent)
    exact ⟨m, rfl, hb.matched.2 (.inl hm)⟩
  flag {a b m sid core} hsent hthis hfound := by
    obtain ⟨m', hm', hold⟩ := h.ofMatch (hb.sent.1 hsent)
    obtain rfl := Option.some_inj.1 hm'
    rcases hb.cases sid with rfl | rfl | ⟨-, -, hcore, hcurrent⟩
    · exact absurd (Option.some_inj.1 (hthis.symm.trans hb.current1)) (hp.ne_matchCount hold)
    · exact absurd (Option.some_inj.1 (hthis.symm.trans hb.current2)) (hp.ne_matchCount hold)
    · exact h.flag (hb.sent.1 hsent) (hcurrent.symm.trans hthis) (hcore.symm.trans hfound)
  once := by
    rw [hb.history]
    exact once_log notStart_matched h.once
  after := by
    rw [hb.history]
    exact after_log notStart_matched h.after
  owed {a b m} hm := by
    rcases hb.matched.1 hm with hm | ⟨rfl, -⟩
    · -- the sessions of the new match were in no match
      have hother : ∀ {pid sid}, Responsible s pid sid m → Responsible t pid sid m := by
        intro pid sid hresponsible
        obtain ⟨hheld, hthis, hready, hsole⟩ := hresponsible
        have hne : ∀ {sid'}, sid' = sid1 ∨ sid' = sid2 → sid' ≠ sid := by
          rintro sid' hsid' rfl
          exact absurd ((hp.current_eq_none (hb.alone hsid')).symm.trans hthis) nofun
        have hcurrent := hb.current_of_ne (hne (.inl rfl)).symm (hne (.inr rfl)).symm
        exact ⟨(congrFun hb.lock sid).trans hheld, hcurrent.trans hthis, hb.readied.2 hready,
          fun pid' hready' => hsole pid' (hb.readied.1 hready')⟩
      refine (h.owed hm).imp ?_ fun ⟨pid, hpid⟩ => ⟨pid, hpid.imp hother hother⟩
      rintro hsettled ⟨⟨i, hi⟩, j, hj⟩
      exact (hsettled ⟨⟨i, hb.readied.1 hi⟩, j, hb.readied.1 hj⟩).imp hb.sent.2 hb.sent.2
    · refine .inl fun hready => ?_
      obtain ⟨⟨pid, hpid⟩, -⟩ := hready
      exact absurd rfl (hf.known (hb.readied.1 hpid)).1.ne

/-- **Rooms in which a match begins are orderly.** -/
theorem orderly (h : Orderly s) : Orderly t :=
  ⟨hb.paired h.paired, hb.flagged h.flagged h.paired, hb.starts h.starts h.paired h.flagged⟩

end Begins

/-- The match of two sessions is over. -/
structure Ends (s t : RoomStore) (sid1 sid2 : SessionId) (core1 core2 : Core) : Prop where
  found1 : s.core sid1 = some core1
  names1 : core1.partnerId = some sid2
  found2 : s.core sid2 = some core2
  core1 : t.core sid1 = some (core1.withPartner none)
  core2 : t.core sid2 = some (core2.withPartner none)
  core : ∀ sid, sid ≠ sid1 → sid ≠ sid2 → t.core sid = s.core sid
  lock : t.lock = s.lock
  current : t.current = Function.update (Function.update s.current sid1 none) sid2 none
  count : t.matchCount = s.matchCount
  history : t.history = s.history

namespace Ends

variable {core1 core2 : Core} (he : Ends s t sid1 sid2 core1 core2)

include he

theorem current_eq_none (h : sid = sid1 ∨ sid = sid2) : t.current sid = none := by
  rw [he.current]
  by_cases h2 : sid = sid2
  · rw [h2, Function.update_self]
  · rw [Function.update_of_ne h2, h.resolve_right h2, Function.update_self]

/-- A session is one of the two, or another whose record and match are as they were. -/
theorem cases (sid : SessionId) : sid = sid1 ∨ sid = sid2 ∨
    sid ≠ sid1 ∧ sid ≠ sid2 ∧ t.core sid = s.core sid ∧ t.current sid = s.current sid := by
  by_cases h1 : sid = sid1
  · exact .inl h1
  · by_cases h2 : sid = sid2
    · exact .inr (.inl h2)
    · refine .inr (.inr ⟨h1, h2, he.core sid h1 h2, ?_⟩)
      rw [he.current, Function.update_of_ne h2, Function.update_of_ne h1]

/-- A session in a match afterwards is another one. -/
theorem of_current (h : t.current sid = some matchId) :
    s.current sid = some matchId ∧ t.core sid = s.core sid := by
  rcases he.cases sid with rfl | rfl | ⟨-, -, hcore, hcurrent⟩
  · exact absurd ((he.current_eq_none (.inl rfl)).symm.trans h) nofun
  · exact absurd ((he.current_eq_none (.inr rfl)).symm.trans h) nofun
  · exact ⟨hcurrent.symm.trans h, hcore⟩

/-- The two of the match name each other. -/
theorem names2 (h : Paired s) : core2.partnerId = some sid1 := by
  obtain ⟨-, other, hother, hback, -⟩ := h.named he.found1 he.names1
  rwa [Option.some_inj.1 (hother.symm.trans he.found2)] at hback

/-- A session with a partner afterwards is another one, and so is its partner. -/
theorem of_names (h : Paired s) (hfound : t.core sid = some core)
    (hnames : core.partnerId = some partnerId) : s.core sid = some core ∧
      t.core partnerId = s.core partnerId ∧ t.current sid = s.current sid ∧
        t.current partnerId = s.current partnerId := by
  rcases he.cases sid with rfl | rfl | ⟨hne1, hne2, hcore, hcurrent⟩
  · obtain rfl := Option.some_inj.1 (hfound.symm.trans he.core1)
    cases hnames
  · obtain rfl := Option.some_inj.1 (hfound.symm.trans he.core2)
    cases hnames
  · have hold := hcore.symm.trans hfound
    obtain ⟨-, other, hother, hback, -⟩ := h.named hold hnames
    rcases he.cases partnerId with rfl | rfl | ⟨-, -, hcore', hcurrent'⟩
    · obtain rfl := Option.some_inj.1 (hother.symm.trans he.found1)
      exact absurd (Option.some_inj.1 (he.names1.symm.trans hback)) hne2.symm
    · obtain rfl := Option.some_inj.1 (hother.symm.trans he.found2)
      exact absurd (Option.some_inj.1 ((he.names2 h).symm.trans hback)) hne1.symm
    · exact ⟨hold, hcore', hcurrent, hcurrent'⟩

theorem events : SameEvents s t := .of_history he.history

theorem paired (h : Paired s) : Paired t where
  created {sid core} hfound := by
    rcases he.cases sid with rfl | rfl | ⟨-, -, hcore, -⟩
    · exact he.events.created _ (h.created he.found1)
    · exact he.events.created _ (h.created he.found2)
    · exact he.events.created _ (h.created (hcore.symm.trans hfound))
  locked hheld := he.events.created _ (h.locked ((congrFun he.lock _).symm.trans hheld))
  named hfound hnames := by
    obtain ⟨hold, hcore, -, -⟩ := he.of_names h hfound hnames
    rw [hcore]
    exact h.named hold hnames
  matched hfound hnames := by
    obtain ⟨hold, -, hcurrent, hcurrent'⟩ := he.of_names h hfound hnames
    obtain ⟨m, hfirst, hsecond, hm⟩ := h.matched hold hnames
    exact ⟨m, hcurrent.trans hfirst, hcurrent'.trans hsecond, (he.events.matched _ _ _).2 hm⟩
  current hthis := by
    obtain ⟨hold, hcore⟩ := he.of_current hthis
    rw [hcore]
    exact h.current hold
  known hm := by
    rw [he.count]
    exact h.known ((he.events.matched _ _ _).1 hm)
  only hm hm' := h.only ((he.events.matched _ _ _).1 hm) ((he.events.matched _ _ _).1 hm')

theorem flagged (h : Flagged s) : Flagged t where
  known hready := by
    rw [he.count]
    exact (h.known ((he.events.readied _ _ _).1 hready)).imp id (he.events.created _)
  ready hthis hfound := by
    obtain ⟨hold, hcore⟩ := he.of_current hthis
    exact (h.ready hold (hcore.symm.trans hfound)).trans
      (exists_congr fun _ => (he.events.readied _ _ _).symm)
  human {pid sid m core} hready hfound := by
    have hready' := (he.events.readied _ _ _).1 hready
    rcases he.cases sid with rfl | rfl | ⟨-, -, hcore, -⟩
    · obtain rfl := Option.some_inj.1 (hfound.symm.trans he.core1)
      exact (h.human hready' he.found1 :)
    · obtain rfl := Option.some_inj.1 (hfound.symm.trans he.core2)
      exact (h.human hready' he.found2 :)
    · exact h.human hready' (hcore.symm.trans hfound)
  started hthis hfound hflag hm := by
    obtain ⟨hold, hcore⟩ := he.of_current hthis
    exact he.events.bothReady.2
      (h.started hold (hcore.symm.trans hfound) hflag ((he.events.matched _ _ _).1 hm))

/-- Who ends a match that nobody else has locked is not responsible for it. -/
theorem starts (h : StartsOnce s) (hlock1 : Free pid s sid1) (hlock2 : Free pid s sid2) (hunready : ∀ sid matchId, ¬ Readied s pid sid matchId) :
    StartsOnce t where
  ofMatch hsent := by
    obtain ⟨m, rfl, hm⟩ := h.ofMatch ((he.events.sent _ _ _).1 hsent)
    exact ⟨m, rfl, (he.events.matched _ _ _).2 hm⟩
  flag hsent hthis hfound := by
    obtain ⟨hold, hcore⟩ := he.of_current hthis
    exact h.flag ((he.events.sent _ _ _).1 hsent) hold (hcore.symm.trans hfound)
  once := by
    rw [he.history]
    exact h.once
  after := by
    rw [he.history]
    exact h.after
  owed {a b m} hm := by
    have hother : ∀ {pid' sid}, Responsible s pid' sid m → Responsible t pid' sid m := by
      intro pid' sid hresponsible
      obtain ⟨hheld, hthis, hready, hsole⟩ := hresponsible
      have hnot : ∀ {sid'}, Free pid s sid' → sid' ≠ sid := by
        rintro sid' hfree rfl
        obtain rfl := hfree pid' hheld
        exact hunready _ _ hready
      rcases he.cases sid with rfl | rfl | ⟨-, -, -, hcurrent⟩
      · exact absurd rfl (hnot hlock1)
      · exact absurd rfl (hnot hlock2)
      · exact ⟨(congrFun he.lock sid).trans hheld, hcurrent.trans hthis,
          (he.events.readied _ _ _).2 hready,
          fun pid'' hready' => hsole pid'' ((he.events.readied _ _ _).1 hready')⟩
    exact (h.owed ((he.events.matched _ _ _).1 hm)).imp he.events.settled.2
      fun ⟨pid', hpid⟩ => ⟨pid', hpid.imp hother hother⟩

theorem orderly (h : Orderly s) (hlock1 : Free pid s sid1) (hlock2 : Free pid s sid2)
    (hunready : ∀ sid matchId, ¬ Readied s pid sid matchId) : Orderly t :=
  ⟨he.paired h.paired, he.flagged h.flagged, he.starts h.starts hlock1 hlock2 hunready⟩

end Ends

/-! ### Readiness and the start -/

/-- Only the two partners of a match have records of it. -/
theorem Paired.party (h : Paired s) (hthis : s.current sid = some matchId)
    (hmatched : Matched s sid1 sid2 matchId) : sid = sid1 ∨ sid = sid2 := by
  obtain ⟨core, partnerId, hcore, hnames⟩ := h.current hthis
  obtain ⟨matchId', hthis', -, hmatched'⟩ := h.matched hcore hnames
  obtain rfl := Option.some_inj.1 (hthis.symm.trans hthis')
  exact (h.only hmatched hmatched').imp And.left And.left

/-- **Who holds the locks of both partners and has made nobody ready finds their match settled.** -/
theorem Orderly.settled_of_locks (h : Orderly s) (hmatched : Matched s sid1 sid2 matchId)
    (hlock1 : s.lock sid1 = some pid) (hlock2 : s.lock sid2 = some pid)
    (hunready : ∀ sid, ¬ Readied s pid sid matchId) : Settled s sid1 sid2 matchId := by
  refine (h.starts.owed hmatched).resolve_right ?_
  rintro ⟨pid', hpid | hpid⟩
  · obtain rfl := Option.some_inj.1 (hlock1.symm.trans hpid.1)
    exact hunready _ hpid.2.2.1
  · obtain rfl := Option.some_inj.1 (hlock2.symm.trans hpid.1)
    exact hunready _ hpid.2.2.1

/-- The record of one session is written; the partner stays. -/
structure Writes (s t : RoomStore) (sid : SessionId) (core core' : Core) : Prop where
  found : s.core sid = some core
  same : core.Same core'
  now : t.core sid = some core'
  core : ∀ sid', sid' ≠ sid → t.core sid' = s.core sid'
  lock : t.lock = s.lock
  current : t.current = s.current
  count : t.matchCount = s.matchCount

namespace Writes

variable {core' : Core} (hw : Writes s t sid core core')

include hw

theorem old_of {sid' : SessionId} {new : Core} (h : t.core sid' = some new) :
    ∃ old, s.core sid' = some old ∧ old.Same new := by
  rcases eq_or_ne sid' sid with rfl | hne
  · obtain rfl := Option.some_inj.1 (h.symm.trans hw.now)
    exact ⟨core, hw.found, hw.same⟩
  · exact ⟨new, (hw.core sid' hne).symm.trans h, rfl, rfl, rfl⟩

theorem new_of {sid' : SessionId} {old : Core} (h : s.core sid' = some old) :
    ∃ new, t.core sid' = some new ∧ old.Same new := by
  rcases eq_or_ne sid' sid with rfl | hne
  · obtain rfl := Option.some_inj.1 (h.symm.trans hw.found)
    exact ⟨core', hw.now, hw.same⟩
  · exact ⟨old, (hw.core sid' hne).trans h, rfl, rfl, rfl⟩

end Writes

/-- **A session is told that WebRTC is started**, once both are ready. -/
theorem Orderly.start (h : Orderly s) (hw : Writes s t sid core { core with webrtcStarted := true })
    (hhistory : t.history = s.history)
    (hready : ∀ sid2 matchId, s.current sid = some matchId → Matched s sid sid2 matchId →
      BothReady s sid sid2 matchId) : Orderly t := by
  obtain ⟨records, queues, listed, owner, lock, current, matchCount, history⟩ := t
  obtain rfl : history = s.history := hhistory
  obtain rfl : lock = s.lock := hw.lock
  obtain rfl : current = s.current := hw.current
  obtain rfl : matchCount = s.matchCount := hw.count
  refine ⟨h.paired.congr id Iff.rfl hw.old_of hw.new_of rfl rfl rfl,
    { h.flagged with ready := ?_, human := ?_, started := ?_ }, { h.starts with flag := ?_ }⟩
  · intro sid' core' matchId hthis hfound
    rcases eq_or_ne sid' sid with rfl | hne
    · obtain rfl := Option.some_inj.1 (hfound.symm.trans hw.now)
      exact (h.flagged.ready hthis hw.found :)
    · exact h.flagged.ready hthis ((hw.core sid' hne).symm.trans hfound)
  · intro pid sid' matchId core' hready hfound
    obtain ⟨old, hold, hsame⟩ := hw.old_of hfound
    rw [hsame.sessionKind]
    exact h.flagged.human hready hold
  · intro sid1 sid2 core' matchId hthis hfound hflag hmatched
    rcases eq_or_ne sid1 sid with rfl | hne
    · exact hready sid2 matchId hthis hmatched
    · exact h.flagged.started hthis ((hw.core sid1 hne).symm.trans hfound) hflag hmatched
  · intro sid1 peerId matchId sid' core' hsent hthis hfound
    rcases eq_or_ne sid' sid with rfl | hne
    · obtain rfl := Option.some_inj.1 (hfound.symm.trans hw.now)
      rfl
    · exact h.starts.flag hsent hthis ((hw.core sid' hne).symm.trans hfound)

/-- **A session becomes ready**, by a process that has not made anybody ready before. -/
theorem Orderly.ready (h : Orderly s) (hw : Writes s t sid core { core with signalingReady := true })
    (hhistory : t.history = (s.log (.ready pid sid (s.current sid))).history)
    (hhuman : core.sessionKind ≠ .bot) (hnames : core.partnerId = some partnerId)
    (hlock1 : s.lock sid = some pid) (hlock2 : s.lock partnerId = some pid)
    (hunready : ∀ sid' matchId, ¬ Readied s pid sid' matchId) : Orderly t := by
  obtain ⟨matchId, hthis, -, hmatched⟩ := h.paired.matched hw.found hnames
  rw [hthis] at hhistory
  have hreadied : ∀ {i a m}, Readied t i a m ↔ Readied s i a m ∨ i = pid ∧ a = sid ∧ m = matchId := by
    intro i a m
    rw [Readied, hhistory, mem_log]
    simp [Readied]
  have hcreated : ∀ {a}, .created a ∈ t.history ↔ .created a ∈ s.history := by
    rw [hhistory]
    exact mem_log_of_ne nofun
  have hmatches : ∀ {a b m}, Matched t a b m ↔ Matched s a b m := by
    intro a b m
    rw [Matched, hhistory]
    exact or_congr (mem_log_of_ne nofun) (mem_log_of_ne nofun)
  have hsents : ∀ {a b m?}, .sent a (.webrtcStart b) m? ∈ t.history ↔
      .sent a (.webrtcStart b) m? ∈ s.history := by
    rw [hhistory]
    exact mem_log_of_ne nofun
  have hboth : ∀ {a b m}, BothReady s a b m → BothReady t a b m := fun hboth =>
    hboth.imp (Exists.imp fun _ hi => hreadied.2 (.inl hi)) (Exists.imp fun _ hj => hreadied.2 (.inl hj))
  refine ⟨h.paired.congr hcreated.2 hmatches hw.old_of hw.new_of
    hw.lock hw.current hw.count, ⟨?_, ?_, ?_, ?_⟩, ⟨?_, ?_, ?_, ?_, ?_⟩⟩
  · intro i a m hready
    rw [hw.count, hcreated]
    rcases hreadied.1 hready with hold | ⟨-, rfl, rfl⟩
    · exact h.flagged.known hold
    · exact ⟨h.paired.known hmatched, h.paired.created hw.found⟩
  · intro a core' m hthis' hfound
    have hcur := (congrFun hw.current a).symm.trans hthis'
    rcases eq_or_ne a sid with rfl | hne
    · obtain rfl := Option.some_inj.1 (hfound.symm.trans hw.now)
      obtain rfl := Option.some_inj.1 (hcur.symm.trans hthis)
      exact iff_of_true rfl ⟨pid, hreadied.2 (.inr ⟨rfl, rfl, rfl⟩)⟩
    · refine (h.flagged.ready hcur ((hw.core a hne).symm.trans hfound)).trans
        (exists_congr fun i => ?_)
      rw [hreadied, or_iff_left]
      exact fun hnew => hne hnew.2.1
  · intro i a m core' hready hfound
    obtain ⟨old, hold, hsame⟩ := hw.old_of hfound
    rw [hsame.sessionKind]
    rcases hreadied.1 hready with hready' | ⟨-, rfl, -⟩
    · exact h.flagged.human hready' hold
    · rwa [Option.some_inj.1 (hold.symm.trans hw.found)]
  · intro a b core' m hthis' hfound hflag hm
    have hcur := (congrFun hw.current a).symm.trans hthis'
    rcases eq_or_ne a sid with rfl | hne
    · obtain rfl := Option.some_inj.1 (hfound.symm.trans hw.now)
      exact hboth (h.flagged.started hcur hw.found hflag (hmatches.1 hm))
    · exact hboth (h.flagged.started hcur ((hw.core a hne).symm.trans hfound) hflag (hmatches.1 hm))
  · intro a b m? hsent
    obtain ⟨m, rfl, hm⟩ := h.starts.ofMatch (hsents.1 hsent)
    exact ⟨m, rfl, hmatches.2 hm⟩
  · intro a b m c core' hsent hthis' hfound
    have hcur := (congrFun hw.current c).symm.trans hthis'
    have hold := hsents.1 hsent
    rcases eq_or_ne c sid with rfl | hne
    · obtain rfl := Option.some_inj.1 (hfound.symm.trans hw.now)
      exact (h.starts.flag hold hcur hw.found :)
    · exact h.starts.flag hold hcur ((hw.core c hne).symm.trans hfound)
  · rw [hhistory]
    exact once_log notStart_ready h.starts.once
  · rw [hhistory]
    exact after_log notStart_ready h.starts.after
  · intro a b m hm
    have hold := hmatches.1 hm
    by_cases hthat : m = matchId
    · subst hthat
      have howed : Settled t sid partnerId m ∨ Responsible t pid sid m := by
        have hsettled := h.settled_of_locks hmatched hlock1 hlock2 fun a => hunready a m
        by_cases hready : BothReady t sid partnerId m ∧ ¬ BothReady s sid partnerId m
        · -- the partner was ready before, so this is the first message that makes the session so
          obtain ⟨⟨-, j, hj⟩, hnot⟩ := hready
          have hpartner : Readied s j partnerId m :=
            (hreadied.1 hj).resolve_right fun hnew => (h.paired.named hw.found hnames).1 hnew.2.1
          refine .inr ⟨(congrFun hw.lock sid).trans hlock1, (congrFun hw.current sid).trans hthis,
            hreadied.2 (.inr ⟨rfl, rfl, rfl⟩), fun k hk => ?_⟩
          rcases hreadied.1 hk with hk | ⟨hk, -⟩
          · exact absurd ⟨⟨k, hk⟩, j, hpartner⟩ hnot
          · exact hk
        · refine .inl fun hnow => ?_
          have hbefore : BothReady s sid partnerId m := by
            by_contra hnot
            exact hready ⟨hnow, hnot⟩
          exact (hsettled hbefore).imp hsents.2 hsents.2
      rcases h.paired.only hmatched hold with ⟨rfl, rfl⟩ | ⟨rfl, rfl⟩
      · exact howed.imp id fun hpid => ⟨pid, .inl hpid⟩
      · exact howed.imp Settled.symm fun hpid => ⟨pid, .inr hpid⟩
    · -- another match, in which nobody has become ready
      have hsame : ∀ {i c}, Readied t i c m ↔ Readied s i c m := fun {i c} =>
        hreadied.trans (or_iff_left fun hnew => hthat hnew.2.2)
      have hother : ∀ {i c}, Responsible s i c m → Responsible t i c m :=
        fun {i c} ⟨hheld, hcur, hready, hsole⟩ => ⟨(congrFun hw.lock c).trans hheld,
          (congrFun hw.current c).trans hcur, hsame.2 hready, fun k hk => hsole k (hsame.1 hk)⟩
      refine (h.starts.owed hold).imp ?_ fun ⟨i, hi⟩ => ⟨i, hi.imp hother hother⟩
      rintro hsettled ⟨⟨i, hi⟩, j, hj⟩
      exact (hsettled ⟨⟨i, hsame.1 hi⟩, j, hsame.1 hj⟩).imp hsents.2 hsents.2

/-- **A start is sent**, the first one to this session in its match. -/
theorem Orderly.sendStart (h : Orderly s) (hmay : MayStart pid sid peerId matchId s)
    (ht : t = s.log (.sent sid (.webrtcStart peerId) (some matchId))) : Orderly t := by
  have hhistory : t.history = s.history ++ [.sent sid (.webrtcStart peerId) (some matchId)] :=
    congrArg RoomStore.history ht
  have hcore : ∀ a, t.core a = s.core a := fun a => (congrArg (RoomStore.core · a) ht :)
  have hcurrent : t.current = s.current := (congrArg RoomStore.current ht :)
  have hlock : t.lock = s.lock := (congrArg RoomStore.lock ht :)
  have hcount : t.matchCount = s.matchCount := (congrArg RoomStore.matchCount ht :)
  have hpast : ∀ {happening}, happening ∈ s.history → happening ∈ t.history := by
    intro happening hmem
    rw [hhistory]
    exact List.mem_append_left _ hmem
  have hmatches : ∀ {a b m}, Matched t a b m ↔ Matched s a b m := by
    intro a b m
    simp [Matched, hhistory]
  have hreadied : ∀ {i a m}, Readied t i a m ↔ Readied s i a m := by
    intro i a m
    simp [Readied, hhistory]
  have hsent : ∀ {a b m?}, .sent a (.webrtcStart b) m? ∈ t.history →
      .sent a (.webrtcStart b) m? ∈ s.history ∨ a = sid ∧ b = peerId ∧ m? = some matchId := by
    intro a b m? hmem
    simpa [hhistory] using hmem
  refine ⟨h.paired.congr hpast hmatches (fun hfound => ⟨_, (hcore _).symm.trans hfound, rfl, rfl, rfl⟩)
    (fun hfound => ⟨_, (hcore _).trans hfound, rfl, rfl, rfl⟩) hlock hcurrent hcount,
    ⟨?_, ?_, ?_, ?_⟩, ⟨?_, ?_, ?_, ?_, ?_⟩⟩
  · intro i a m hready
    rw [hcount]
    exact (h.flagged.known (hreadied.1 hready)).imp id hpast
  · intro a core m hthis hfound
    exact (h.flagged.ready ((congrFun hcurrent _).symm.trans hthis) ((hcore _).symm.trans hfound)).trans
      (exists_congr fun _ => hreadied.symm)
  · exact fun hready hfound => h.flagged.human (hreadied.1 hready) ((hcore _).symm.trans hfound)
  · intro a b core m hthis hfound hflag hm
    exact (h.flagged.started ((congrFun hcurrent _).symm.trans hthis) ((hcore _).symm.trans hfound)
      hflag (hmatches.1 hm)).imp (Exists.imp fun _ => hreadied.2) (Exists.imp fun _ => hreadied.2)
  · intro a b m? hmem
    rcases hsent hmem with hold | ⟨rfl, rfl, rfl⟩
    · obtain ⟨m, rfl, hm⟩ := h.starts.ofMatch hold
      exact ⟨m, rfl, hmatches.2 hm⟩
    · exact ⟨matchId, rfl, hmatches.2 hmay.matched⟩
  · intro a b m c core hmem hthis hfound
    have hthis' := (congrFun hcurrent c).symm.trans hthis
    have hfound' := (hcore c).symm.trans hfound
    rcases hsent hmem with hold | ⟨rfl, rfl, hm⟩
    · exact h.starts.flag hold hthis' hfound'
    · obtain rfl := Option.some_inj.1 hm
      exact hmay.flags c core (h.paired.party hthis' hmay.matched) hfound'
  · intro a b m
    rw [hhistory, List.count_append]
    by_cases hnew : a = sid ∧ b = peerId ∧ m = matchId
    · obtain ⟨rfl, rfl, rfl⟩ := hnew
      rw [List.count_eq_zero.2 hmay.first, Nat.zero_add]
      exact List.count_le_length
    · rw [List.count_singleton, if_neg]
      · exact h.starts.once a b m
      · intro heq
        have hsame := eq_of_beq heq
        simp only [Happening.sent.injEq, RouterMessage.webrtcStart.injEq, Option.some.injEq] at hsame
        exact hnew ⟨hsame.1.symm, hsame.2.1.symm, hsame.2.2.symm⟩
  · intro past a b m hinitial
    rw [hhistory] at hinitial
    rcases List.prefix_concat_iff.1 hinitial with heq | hold
    · obtain ⟨rfl, hlast⟩ := List.append_inj' heq rfl
      simp only [List.cons.injEq, Happening.sent.injEq, RouterMessage.webrtcStart.injEq,
        Option.some.injEq, and_true] at hlast
      obtain ⟨rfl, rfl, rfl⟩ := hlast
      exact hmay.ready
    · exact h.starts.after hold
  · intro a b m hm
    have hother : ∀ {i c}, Responsible s i c m → Responsible t i c m :=
      fun {i c} ⟨hheld, hthis, hready, hsole⟩ => ⟨(congrFun hlock c).trans hheld,
        (congrFun hcurrent c).trans hthis, hreadied.2 hready, fun k hk => hsole k (hreadied.1 hk)⟩
    refine (h.starts.owed (hmatches.1 hm)).imp ?_ fun ⟨i, hi⟩ => ⟨i, hi.imp hother hother⟩
    rintro hsettled ⟨⟨i, hi⟩, j, hj⟩
    exact (hsettled ⟨⟨i, hreadied.1 hi⟩, j, hreadied.1 hj⟩).imp hpast hpast

end Steps

/-! ### Disciplined commands -/

section Discipline

variable {rt : Runtime} {s t : RoomStore} {x : World} {pid : Pid} {sid : SessionId}
  {session session1 session2 : Session}

/-- What shows neither in a core nor in the history. -/
theorem Orderly.quiet (h : Orderly s) (hcore : ∀ sid, t.core sid = s.core sid)
    (hlock : t.lock = s.lock) (hcurrent : t.current = s.current)
    (hcount : t.matchCount = s.matchCount) (hhistory : t.history = s.history) : Orderly t := by
  refine h.congr (.of_history hhistory) hcore hlock hcurrent hcount ?_ ?_
  · rw [hhistory]
    exact h.starts.once
  · rw [hhistory]
    exact h.starts.after

/-- An update that leaves matches alone makes nobody ready. -/
theorem signalingReady_of_neutral {updates : Updates} (h : Neutral updates) (session : Session) :
    updates.signalingReady ≠ some true := by
  intro hready
  have hsame := congrArg Core.signalingReady (h { session with signalingReady := false })
  simp [coreOf, Session.merge, hready] at hsame

/-- The record of one session after an update. -/
theorem core_update {record : Session} (sid' : SessionId) :
    (s.setRecord sid (some (record.touchLastActivity x.now))).core sid' =
      if sid' = sid then some (coreOf record) else s.core sid' := by
  split
  next heq =>
      rw [heq, RoomStore.core_setRecord_self]
      rfl
  next hne => exact RoomStore.core_setRecord_of_ne hne

/-- Two records after a script. -/
theorem core_setPair (hne : session1.id ≠ session2.id) (sid : SessionId) :
    (s.setPair session1 session2).core sid =
      if sid = session1.id then some (coreOf session1)
      else if sid = session2.id then some (coreOf session2) else s.core sid := by
  split
  next heq => rw [heq, RoomStore.core_setPair_fst hne]
  next hne1 =>
      split
      next heq => rw [heq, RoomStore.core_setPair_snd]
      next hne2 => exact RoomStore.core_setPair_of_ne hne1 hne2

/-- **An update is disciplined**: the rooms stay orderly. -/
theorem Orderly.update (h : Orderly s) {updates : Updates}
    (hc : Disciplined ⟨pid, .updateSession sid updates⟩ s) :
    Orderly (exec rt x ⟨pid, .updateSession sid updates⟩ s).2 := by
  simp only [exec]
  cases hfind : s.find sid with
  | none => exact h
  | some session =>
      dsimp only
      have hfound := RoomStore.core_of_find hfind
      have hcore := fun record => @core_update s x sid record
      rcases hc with hneutral | ⟨⟨status, rfl⟩, -, halone⟩ | ⟨rfl, hlock, hhuman, hpartner, hunready⟩ |
        ⟨rfl, hlock, hready⟩
      · rw [if_neg (signalingReady_of_neutral hneutral session)]
        refine h.quiet (fun sid' => ?_) rfl rfl rfl rfl
        rw [hcore, hneutral]
        split
        next heq => rw [heq, hfound]
        next => rfl
      · rw [if_neg (by simp [statusUpdates])]
        have hpartner := halone _ hfound
        have hhuman := fun i m (hi : Readied s i sid m) => h.flagged.human hi hfound
        refine h.alone (.of_history rfl) halone (fun core hnow => ?_) (fun sid' hne => ?_) rfl rfl rfl
          h.starts.once h.starts.after
        · rw [hcore, if_pos rfl] at hnow
          obtain rfl := Option.some_inj.1 hnow
          exact ⟨hpartner, h.paired.created hfound, hhuman⟩
        · rw [hcore, if_neg hne]
      · rw [if_pos rfl]
        obtain ⟨core, partnerId, hcore', hnames, hlock'⟩ := hpartner
        obtain rfl := Option.some_inj.1 (hfound.symm.trans hcore')
        refine h.ready ⟨hfound, ⟨rfl, rfl, rfl⟩, ?_, fun sid' hne => ?_, rfl, rfl, rfl⟩ rfl
          (hhuman _ hfound) hnames hlock hlock' hunready
        · exact (hcore _ sid).trans (if_pos rfl)
        · exact (hcore _ sid').trans (if_neg hne)
      · rw [if_neg (by simp)]
        refine h.start ⟨hfound, ⟨rfl, rfl, rfl⟩, ?_, fun sid' hne => ?_, rfl, rfl, rfl⟩ rfl hready
        · exact (hcore _ sid).trans (if_pos rfl)
        · exact (hcore _ sid').trans (if_neg hne)

/-- **A disciplined command keeps the rooms orderly.** -/
theorem orderly_of_disciplined (h : Orderly s) {c : RoomCmd} (hc : Disciplined c s) :
    Orderly (exec rt x c s).2 := by
  obtain ⟨pid, op⟩ := c
  cases op with
  | getSession sid => exact h
  | persistSession session =>
      obtain ⟨hfresh, halone⟩ := hc
      have hnew : s.core session.id = none := by
        by_contra hsome
        obtain ⟨core, hfound⟩ := Option.ne_none_iff_exists'.1 hsome
        exact hfresh (h.paired.created hfound)
      have hpast : ∀ {happening}, happening ∈ s.history →
          happening ∈ ((s.setRecord session.id (some session)).log (.created session.id)).history :=
        fun hmem => mem_log.2 (.inl hmem)
      refine h.alone ⟨fun _ => hpast, fun _ _ _ => ?_, fun _ _ _ => mem_log_of_ne (by simp),
        fun _ _ _ => mem_log_of_ne (by simp)⟩ (fun core hfound => ?_) (fun core hfound => ?_)
        (fun sid' hne => RoomStore.core_setRecord_of_ne hne) rfl rfl rfl
        (once_log notStart_created h.starts.once) (after_log notStart_created h.starts.after)
      · exact or_congr (mem_log_of_ne (by simp)) (mem_log_of_ne (by simp))
      · exact absurd (hnew.symm.trans hfound) (Option.some_ne_none _).symm
      · obtain rfl := Option.some_inj.1 (hfound.symm.trans RoomStore.core_setRecord_self)
        exact ⟨halone, mem_log.2 (.inr rfl), fun i m hi => absurd (h.flagged.known hi).2 hfresh⟩
  | updateSession sid updates => exact h.update hc
  | refreshSession sid =>
      simp only [exec]
      split
      next => exact h
      next session hfind =>
          refine h.quiet (fun sid' => ?_) rfl rfl rfl rfl
          rw [core_update]
          split
          next heq => rw [heq, RoomStore.core_of_find hfind]
          next => rfl
  | pairScript session1 session2 =>
      obtain ⟨hne, -, ⟨hfound1, halone1⟩, ⟨hfound2, halone2⟩, hshard⟩ := hc
      have hcore := @core_setPair s (session1.matchedWith session2.id x.generation x.now)
        (session2.matchedWith session1.id x.generation x.now) hne
      refine Begins.orderly ⟨hne, hfound1, halone1, hfound2, halone2, hshard, ?_, ?_,
        fun sid h1 h2 => ?_, rfl, rfl, rfl, rfl⟩ h
      · exact (hcore session1.id).trans (if_pos rfl)
      · exact (hcore session2.id).trans ((if_neg hne.symm).trans (if_pos rfl))
      · exact (hcore sid).trans ((if_neg h1).trans (if_neg h2))
  | resetPairScript session1 session2 =>
      obtain ⟨⟨hlock1, hlock2⟩, hfound1, hfound2, hnames, hunready⟩ := hc
      have hne : session1.id ≠ session2.id := (h.paired.named hfound1 hnames).1.symm
      have hcore := @core_setPair s (session1.unmatched x.now) (session2.unmatched x.now) hne
      refine Ends.orderly ⟨hfound1, hnames, hfound2, ?_, ?_, fun sid h1 h2 => ?_, rfl, rfl, rfl, rfl⟩ h
        hlock1 hlock2 hunready
      · exact (hcore session1.id).trans (if_pos rfl)
      · exact (hcore session2.id).trans ((if_neg hne.symm).trans (if_pos rfl))
      · exact (hcore sid).trans ((if_neg h1).trans (if_neg h2))
  | emergencyDisconnectScript sid => exact hc.elim
  | deleteSession sid =>
      obtain ⟨-, halone⟩ := hc
      refine h.alone (.of_history rfl) halone (fun core hfound => ?_)
        (fun sid' hne => RoomStore.core_setRecord_of_ne hne) rfl ?_ rfl h.starts.once h.starts.after
      · exact absurd (RoomStore.core_setRecord_self.symm.trans hfound) (Option.some_ne_none _).symm
      · exact Function.update_eq_self_iff.2 (h.paired.current_eq_none halone).symm
  | getSessionRoute sid => exact h
  | enqueueQueueKeys sid queueKeys => exact h.quiet (fun _ => rfl) rfl rfl rfl rfl
  | leaveQueue sid => exact h.quiet (fun _ => rfl) rfl rfl rfl rfl
  | register sid => exact h.quiet (fun _ => rfl) rfl rfl rfl rfl
  | unregister sid => exact h.quiet (fun _ => rfl) rfl rfl rfl rfl
  | lock sid =>
      simp only [exec]
      split_ifs with hgone hheld
      · exact h
      · exact h
      · obtain ⟨session, hfind⟩ := Option.ne_none_iff_exists'.1 (by simpa using hgone)
        exact h.lock (RoomStore.core_of_find hfind) (by simpa using hheld)
  | unlock sid =>
      simp only [exec]
      split_ifs with hheld
      · exact h.unlock hheld fun sid2 matchId => hc sid2 matchId hheld
      · exact h
  | send sid message =>
      cases message with
      | webrtcStart peerId =>
          obtain ⟨matchId, hmay⟩ := hc
          refine h.sendStart hmay ?_
          simp only [exec, hmay.current.1]
      | routerMatch partnerId generation => exact h.send (by simp)
      | routerDisconnect reason generation => exact h.send (by simp)
      | routerTimeout => exact h.send (by simp)

/-! ### What others may rely on -/

/-- What a process may add to the history: it makes sessions ready under the locks of both partners,
and starts them under theirs. -/
def Adds (pid : Pid) (s : RoomStore) : Happening → Prop
  | .ready pid' sid matchId? => pid' = pid ∧ s.lock sid = some pid ∧
      ∃ partnerId matchId, matchId? = some matchId ∧ Matched s sid partnerId matchId ∧
        s.lock partnerId = some pid
  | .sent sid (.webrtcStart _) _ => s.lock sid = some pid
  | _ => True

/-- **What a process changes**: locks of its own, or free ones, and what nobody else has locked. -/
structure Changes (pid : Pid) (s t : RoomStore) : Prop where
  locks : ∀ pid' sid, pid' ≠ pid → (t.lock sid = some pid' ↔ s.lock sid = some pid')
  core : ∀ sid, t.core sid = s.core sid ∨ Free pid s sid ∨ .created sid ∉ s.history
  current : ∀ sid, t.current sid = s.current sid ∨ Free pid s sid
  history : ∃ added, t.history = s.history ++ added ∧ ∀ happening ∈ added, Adds pid s happening
  gone : ∀ sid, .created sid ∈ s.history → s.core sid = none → t.core sid = none
  kind : ∀ {sid core core'}, s.core sid = some core → t.core sid = some core' →
    core'.sessionKind = core.sessionKind

theorem Changes.leaves (h : Changes pid s t) (hs : Orderly s) {pid' : Pid} (hne : pid' ≠ pid) :
    Leaves pid' s t := by
  obtain ⟨added, hhistory, hadded⟩ := h.history
  have hmem : ∀ {happening}, happening ∈ t.history → happening ∈ s.history ∨ Adds pid s happening := by
    intro happening hmem
    rw [hhistory] at hmem
    exact (List.mem_append.1 hmem).imp id (hadded happening)
  -- a session that the process may change is not locked by another
  have hfree : ∀ {sid}, s.lock sid = some pid' → ¬ Free pid s sid := fun hheld hfree =>
    hne (hfree pid' hheld)
  exact
    { locks := fun sid => h.locks pid' sid hne
      core := fun {sid} hheld => by
        rcases h.core sid with hsame | hother | hnew
        · exact hsame
        · exact absurd hother (hfree hheld)
        · exact absurd (hs.paired.locked hheld) hnew
      current := fun {sid} hheld => (h.current sid).resolve_right (hfree hheld)
      readied := fun hheld hready => (hmem hready).resolve_right fun hadds =>
        hfree hheld (free_of_lock hadds.2.1)
      rival := fun {sid sid' matchId i} hheld hmatched hready => by
        refine (hmem hready).resolve_right fun hadds => ?_
        -- whoever makes the partner ready has the lock of this session as well
        obtain ⟨-, hheld', partnerId, matchId', hthis, hmatched', hlock⟩ := hadds
        obtain rfl := Option.some_inj.1 hthis
        rcases hs.paired.only hmatched hmatched' with ⟨rfl, -⟩ | ⟨-, rfl⟩
        · exact hfree hheld (free_of_lock hheld')
        · exact hfree hheld (free_of_lock hlock)
      sent := fun hheld hsent => (hmem hsent).resolve_right fun hadds =>
        hfree hheld (free_of_lock hadds)
      own := fun hready => (hmem hready).resolve_right fun hadds => hne hadds.1
      past := fun hpast => by
        rw [hhistory]
        exact List.mem_append_left _ hpast
      gone := fun {sid} => h.gone sid
      human := fun {sid} hcreated hhuman core hfound => by
        cases hold : s.core sid with
        | none => exact absurd ((h.gone sid hcreated hold).symm.trans hfound) nofun
        | some old =>
            rw [h.kind hold hfound]
            exact hhuman old hold }

/-- What leaves the cores and the history as they are, and the locks. -/
theorem Changes.quiet (hcore : ∀ sid, t.core sid = s.core sid) (hlock : t.lock = s.lock)
    (hcurrent : t.current = s.current) (hhistory : t.history = s.history) : Changes pid s t where
  locks pid' sid _ := by rw [hlock]
  core sid := .inl (hcore sid)
  current sid := .inl (congrFun hcurrent sid)
  history := ⟨[], by rw [hhistory, List.append_nil], fun _ h => absurd h List.not_mem_nil⟩
  gone sid _ hnone := (hcore sid).trans hnone
  kind hold hnew := by rw [Option.some_inj.1 (hold.symm.trans ((hcore _).symm.trans hnew))]

/-- What a process does with locks of its own and with free ones. -/
theorem Changes.relock {lock : SessionId → Option Pid}
    (h : ∀ pid' sid, pid' ≠ pid → (lock sid = some pid' ↔ s.lock sid = some pid')) :
    Changes pid s { s with lock := lock } where
  locks := h
  core _ := .inl rfl
  current _ := .inl rfl
  history := ⟨[], (List.append_nil _).symm, fun _ h => absurd h List.not_mem_nil⟩
  gone _ _ hnone := hnone
  kind hold hnew := by rw [Option.some_inj.1 (hold.symm.trans hnew)]

/-- What a process adds to the history, and nothing else. -/
theorem Changes.log {happening : Happening} (h : Adds pid s happening) :
    Changes pid s (s.log happening) where
  locks _ _ _ := Iff.rfl
  core _ := .inl rfl
  current _ := .inl rfl
  history := ⟨[happening], rfl, fun _ hmem => List.mem_singleton.1 hmem ▸ h⟩
  gone _ _ hnone := hnone
  kind hold hnew := by rw [Option.some_inj.1 (hold.symm.trans hnew)]

/-- What a process writes, over records that there are and that nobody else has locked. -/
theorem Changes.write (hlock : t.lock = s.lock)
    (hcore : ∀ sid, ¬ Free pid s sid → t.core sid = s.core sid ∧ t.current sid = s.current sid)
    (hold : ∀ sid core', t.core sid = some core' → ∃ core, s.core sid = some core ∧
      core'.sessionKind = core.sessionKind)
    (hhistory : ∃ added, t.history = s.history ++ added ∧ ∀ happening ∈ added, Adds pid s happening) :
    Changes pid s t where
  locks pid' sid _ := by rw [hlock]
  core sid := by
    by_cases hheld : Free pid s sid
    · exact .inr (.inl hheld)
    · exact .inl (hcore sid hheld).1
  current sid := by
    by_cases hheld : Free pid s sid
    · exact .inr hheld
    · exact .inl (hcore sid hheld).2
  history := hhistory
  gone sid _ hnone := by
    refine Option.eq_none_iff_forall_ne_some.2 fun core' hnow => ?_
    obtain ⟨core, hfound, -⟩ := hold sid core' hnow
    exact absurd (hnone.symm.trans hfound) nofun
  kind {sid core core'} hfound hnow := by
    obtain ⟨old, hfound', hkind⟩ := hold sid core' hnow
    rw [Option.some_inj.1 (hfound.symm.trans hfound'), hkind]

/-- The records of two sessions that nobody else has locked. -/
theorem Changes.pair {session1' session2' : Session} (hne : session1.id ≠ session2.id)
    (hlock1 : Free pid s session1.id) (hlock2 : Free pid s session2.id)
    (hfound1 : s.core session1.id = some (coreOf session1))
    (hfound2 : s.core session2.id = some (coreOf session2))
    (hid1 : session1'.id = session1.id) (hid2 : session2'.id = session2.id)
    (hkind1 : session1'.sessionKind = session1.sessionKind)
    (hkind2 : session2'.sessionKind = session2.sessionKind)
    (hcore : ∀ sid, t.core sid = (s.setPair session1' session2').core sid) {m? : Option MatchId}
    (hcurrent : t.current = Function.update (Function.update s.current session1.id m?) session2.id m?)
    (hlock : t.lock = s.lock)
    (hhistory : ∃ added, t.history = s.history ++ added ∧ ∀ happening ∈ added, Adds pid s happening) :
    Changes pid s t := by
  have hcores := fun sid => (hcore sid).trans (@core_setPair s _ _ (by rwa [hid1, hid2]) sid)
  rw [hid1, hid2] at hcores
  refine .write hlock (fun sid hnot => ?_) (fun sid core' hnow => ?_) hhistory
  · have h1 : sid ≠ session1.id := by
      rintro rfl
      exact hnot hlock1
    have h2 : sid ≠ session2.id := by
      rintro rfl
      exact hnot hlock2
    rw [hcores, if_neg h1, if_neg h2, hcurrent, Function.update_of_ne h2, Function.update_of_ne h1]
    exact ⟨rfl, rfl⟩
  · rw [hcores] at hnow
    split_ifs at hnow with h1 h2
    · obtain rfl := Option.some_inj.1 hnow
      exact ⟨coreOf session1, h1 ▸ hfound1, hkind1⟩
    · obtain rfl := Option.some_inj.1 hnow
      exact ⟨coreOf session2, h2 ▸ hfound2, hkind2⟩
    · exact ⟨core', hnow, rfl⟩

/-- An update changes a record that is locked, or nothing of its core. -/
theorem changes_update {updates : Updates} (h : Orderly s)
    (hc : Disciplined ⟨pid, .updateSession sid updates⟩ s) :
    Changes pid s (exec rt x ⟨pid, .updateSession sid updates⟩ s).2 := by
  simp only [exec]
  cases hfind : s.find sid with
  | none => exact .quiet (fun _ => rfl) rfl rfl rfl
  | some session =>
      dsimp only
      have hfound := RoomStore.core_of_find hfind
      have hcore := @core_update s x sid (session.merge updates)
      by_cases hneutral : Neutral updates
      · rw [if_neg (signalingReady_of_neutral hneutral session)]
        refine .quiet (fun sid' => ?_) rfl rfl rfl
        rw [hcore, hneutral]
        split
        next heq => rw [heq, hfound]
        next => rfl
      · have hheld : Free pid s sid ∧
            (session.merge updates).sessionKind = session.sessionKind ∧
            (updates.signalingReady = some true → Adds pid s (.ready pid sid (s.current sid))) := by
          rcases hc with h | ⟨⟨status, rfl⟩, hheld, -⟩ | ⟨rfl, hheld, -, hpartner, -⟩ | ⟨rfl, hheld, -⟩
          · exact absurd h hneutral
          · exact ⟨hheld, rfl, by simp [statusUpdates]⟩
          · obtain ⟨core, partnerId, hcore', hnames, hlock⟩ := hpartner
            obtain ⟨matchId, hthis, -, hmatched⟩ := h.paired.matched hcore' hnames
            exact ⟨free_of_lock hheld, rfl, fun _ =>
              ⟨rfl, hheld, partnerId, matchId, hthis, hmatched, hlock⟩⟩
          · exact ⟨free_of_lock hheld, rfl, fun h => absurd h (Option.some_ne_none _).symm⟩
        have hadded : ∃ added, (if updates.signalingReady = some true then
            (s.setRecord sid (some ((session.merge updates).touchLastActivity x.now))).log
              (.ready pid sid (s.current sid))
            else s.setRecord sid (some ((session.merge updates).touchLastActivity x.now))).history =
              s.history ++ added ∧ ∀ happening ∈ added, Adds pid s happening := by
          split
          next hready =>
              refine ⟨_, rfl, fun happening hmem => ?_⟩
              obtain rfl := List.mem_singleton.1 hmem
              exact hheld.2.2 hready
          next => exact ⟨[], (List.append_nil _).symm, fun _ h => absurd h List.not_mem_nil⟩
        refine .write ?_ (fun sid' hnot => ?_) (fun sid' core' hnow => ?_) hadded
        · split <;> rfl
        · have hne : sid' ≠ sid := by
            rintro rfl
            exact hnot hheld.1
          split
          · exact ⟨(hcore sid').trans (if_neg hne), rfl⟩
          · exact ⟨(hcore sid').trans (if_neg hne), rfl⟩
        · have hnow' : (if sid' = sid then some (coreOf (session.merge updates)) else s.core sid') =
              some core' := by
            rw [← hcore]
            split at hnow <;> exact hnow
          split_ifs at hnow' with heq
          · obtain rfl := Option.some_inj.1 hnow'
            exact ⟨coreOf session, heq ▸ hfound, hheld.2.1⟩
          · exact ⟨core', hnow', rfl⟩

/-- **A disciplined command changes what is locked by its process.** -/
theorem changes_of_disciplined (h : Orderly s) {c : RoomCmd} (hc : Disciplined c s) :
    Changes c.pid s (exec rt x c s).2 := by
  obtain ⟨pid, op⟩ := c
  cases op with
  | getSession sid => exact .quiet (fun _ => rfl) rfl rfl rfl
  | persistSession session =>
      obtain ⟨hfresh, -⟩ := hc
      have hne : ∀ sid, .created sid ∈ s.history → sid ≠ session.id := by
        rintro sid hcreated rfl
        exact hfresh hcreated
      exact
        { locks := fun _ _ _ => Iff.rfl
          core := fun sid => by
            by_cases hcreated : .created sid ∈ s.history
            · exact .inl (RoomStore.core_setRecord_of_ne (hne sid hcreated))
            · exact .inr (.inr hcreated)
          current := fun _ => .inl rfl
          history := ⟨_, rfl, fun _ hmem => List.mem_singleton.1 hmem ▸ trivial⟩
          gone := fun sid hcreated hnone =>
            (RoomStore.core_setRecord_of_ne (hne sid hcreated)).trans hnone
          kind := fun {sid core core'} hold hnow => by
            have hnow' : s.core sid = some core' :=
              (RoomStore.core_setRecord_of_ne (hne sid (h.paired.created hold))).symm.trans hnow
            rw [Option.some_inj.1 (hold.symm.trans hnow')] }
  | updateSession sid updates => exact changes_update h hc
  | refreshSession sid =>
      simp only [exec]
      split
      next => exact .quiet (fun _ => rfl) rfl rfl rfl
      next session hfind =>
          refine .quiet (fun sid' => ?_) rfl rfl rfl
          rw [core_update]
          split
          next heq => rw [heq, RoomStore.core_of_find hfind]
          next => rfl
  | pairScript session1 session2 =>
      obtain ⟨hne, ⟨hlock1, hlock2⟩, ⟨hfound1, -⟩, ⟨hfound2, -⟩, -⟩ := hc
      refine .pair hne hlock1 hlock2 hfound1 hfound2 ?_ ?_ ?_ ?_ (fun _ => rfl) rfl rfl
        ⟨_, rfl, fun _ hmem => List.mem_singleton.1 hmem ▸ trivial⟩ <;> rfl
  | resetPairScript session1 session2 =>
      obtain ⟨⟨hlock1, hlock2⟩, hfound1, hfound2, hnames, -⟩ := hc
      refine .pair (h.paired.named hfound1 hnames).1.symm hlock1 hlock2 hfound1 hfound2 ?_ ?_ ?_ ?_
        (fun _ => rfl) rfl rfl ⟨[], (List.append_nil _).symm, fun _ h => absurd h List.not_mem_nil⟩ <;>
        rfl
  | emergencyDisconnectScript sid => exact hc.elim
  | deleteSession sid =>
      obtain ⟨hheld, -⟩ := hc
      refine .write rfl (fun sid' hnot => ?_) (fun sid' core' hnow => ?_)
        ⟨[], (List.append_nil _).symm, fun _ h => absurd h List.not_mem_nil⟩
      · have hne : sid' ≠ sid := by
          rintro rfl
          exact hnot hheld
        exact ⟨RoomStore.core_setRecord_of_ne hne, Function.update_of_ne hne _ _⟩
      · rcases eq_or_ne sid' sid with rfl | hne
        · exact absurd (RoomStore.core_setRecord_self.symm.trans hnow) (Option.some_ne_none _).symm
        · exact ⟨core', (RoomStore.core_setRecord_of_ne hne).symm.trans hnow, rfl⟩
  | getSessionRoute sid => exact .quiet (fun _ => rfl) rfl rfl rfl
  | enqueueQueueKeys sid queueKeys => exact .quiet (fun _ => rfl) rfl rfl rfl
  | leaveQueue sid => exact .quiet (fun _ => rfl) rfl rfl rfl
  | register sid => exact .quiet (fun _ => rfl) rfl rfl rfl
  | unregister sid => exact .quiet (fun _ => rfl) rfl rfl rfl
  | lock sid =>
      simp only [exec]
      split_ifs with hgone hheld
      · exact .quiet (fun _ => rfl) rfl rfl rfl
      · exact .quiet (fun _ => rfl) rfl rfl rfl
      · refine .relock fun pid' sid' hne => ?_
        rcases eq_or_ne sid' sid with rfl | hsid
        · have hfree : s.lock sid' = none := by simpa using hheld
          rw [Function.update_self, hfree]
          exact iff_of_false (fun h => hne (Option.some_inj.1 h).symm) (Option.some_ne_none _).symm
        · rw [Function.update_of_ne hsid]
  | unlock sid =>
      simp only [exec]
      split_ifs with hheld
      · refine .relock fun pid' sid' hne => ?_
        rcases eq_or_ne sid' sid with rfl | hsid
        · rw [Function.update_self, hheld]
          exact iff_of_false (Option.some_ne_none _).symm fun h => hne (Option.some_inj.1 h).symm
        · rw [Function.update_of_ne hsid]
      · exact .quiet (fun _ => rfl) rfl rfl rfl
  | send sid message =>
      cases message with
      | webrtcStart peerId =>
          obtain ⟨matchId, hmay⟩ := hc
          exact .log hmay.locks.1
      | routerMatch partnerId generation => exact .log trivial
      | routerDisconnect reason generation => exact .log trivial
      | routerTimeout => exact .log trivial

/-- **A disciplined command leaves alone what is locked by others.** -/
theorem leaves_of_disciplined (h : Orderly s) {c : RoomCmd} (hc : Disciplined c s) {pid' : Pid}
    (hne : pid' ≠ c.pid) : Leaves pid' s (exec rt x c s).2 :=
  (changes_of_disciplined h hc).leaves h hne

end Discipline

end Rooms
