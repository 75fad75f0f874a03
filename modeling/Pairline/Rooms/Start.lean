/-
**WebRTC is started once in a match.**

All the handlers of channels, the matchmaker and the workers of bots run side by side, each with
locks of its own; new sessions come in, and others do what they like as far as it touches no match.
Every handler is shown to keep to the discipline of the locks.  So any message that makes the second
partner ready starts the match before it gives back the locks, and no other message starts it again.

Main definitions:

* `Rooms.RoomTask`, `Rooms.roomSystem` — the handlers side by side;
* `Rooms.taskContract` — what a handler relies on, keeps to and leaves behind;
* `Rooms.StartedOnce` — the law.

Main results:

* `Rooms.kept_task` — **every handler keeps to the discipline**;
* `Rooms.started_once` — **a match is started at most once, after both partners have become ready, and
  it is started when a message of each has been processed**.
-/

import Pairline.Rooms.Matches

set_option relaxedAutoImplicit false
set_option autoImplicit false

namespace Rooms

open Matchmaker (SessionId)
open Sessions (Session Runtime Updates)
open Sessions.SessionLock (orderedIds mem_orderedIds)
open Program Transition

/-! ### What a handler relies on and keeps to -/

section Contract

variable (rt : Runtime)

/-- The rooms are orderly, and nobody meddles with what the process has locked. -/
def Relies (pid : Pid) (s t : RoomStore) : Prop := Orderly t ∧ Leaves pid s t

/-- The process issues disciplined commands under its own name. -/
def Guards (pid : Pid) (c : RoomCmd) (s : RoomStore) : Prop := c.pid = pid ∧ Disciplined c s

variable {α : Type}

def Keeps (pid : Pid) (p : RoomProg α) (Φ : α → RoomStore → Prop) (s : RoomStore) : Prop :=
  Kept rt (Relies pid) (Guards pid) p Φ s

/-- A process that owes nothing to any match. -/
structure Idle (pid : Pid) (s : RoomStore) : Prop where
  orderly : Orderly s
  unready : ∀ sid matchId, ¬ Readied s pid sid matchId

def Known (sid : SessionId) (s : RoomStore) : Prop := .created sid ∈ s.history

variable {rt} {pid : Pid} {sid partnerId : SessionId} {s t : RoomStore} {matchId : MatchId}

theorem Idle.relies (h : Idle pid s) (ht : Relies pid s t) : Idle pid t :=
  ⟨ht.1, fun sid matchId hready => h.unready sid matchId (ht.2.own hready)⟩

/-- A process that owes nothing may give back any lock. -/
theorem Idle.unlock (h : Idle pid s) (sid : SessionId) : Disciplined ⟨pid, .unlock sid⟩ s :=
  fun _ matchId _ _ hready => absurd hready (h.unready sid matchId)

theorem history_lock (rt : Runtime) (x : World) (s : RoomStore) (pid : Pid) (sid : SessionId) :
    (exec rt x ⟨pid, .lock sid⟩ s).2.history = s.history ∧
      (exec rt x ⟨pid, .unlock sid⟩ s).2.history = s.history := by
  constructor
  · simp only [exec]
    split_ifs <;> rfl
  · simp only [exec]
    split <;> rfl

theorem core_lock (rt : Runtime) (x : World) (s : RoomStore) (pid : Pid) (sid : SessionId) :
    (exec rt x ⟨pid, .lock sid⟩ s).2.core = s.core ∧
      (exec rt x ⟨pid, .unlock sid⟩ s).2.core = s.core := by
  constructor
  · simp only [exec]
    split_ifs <;> rfl
  · simp only [exec]
    split <;> rfl

/-- **The rules of the locks hold here.** -/
theorem lockRules (rt : Runtime) (pid : Pid) :
    LockRules rt (Relies pid) (Guards pid) pid (fun _ => True) Known (Idle pid) where
  locks ht sid := ht.2.locks sid
  idle ht h := h.relies ht
  known ht h := ht.2.past h
  gone ht _ h hnone := RoomStore.core_eq_none.1 (ht.2.gone h (RoomStore.core_eq_none.2 hnone))
  seen ht hfind hnames _ := by
    obtain ⟨-, other, hother, -⟩ := ht.1.paired.named (RoomStore.core_of_find hfind) hnames
    exact ht.1.paired.created hother
  relock {s} x sid h := by
    obtain ⟨hlock, hunlock⟩ := history_lock rt x s pid sid
    refine ⟨⟨orderly_of_disciplined h.orderly trivial, fun sid' matchId hready => ?_⟩,
      ⟨orderly_of_disciplined h.orderly (h.unlock sid), fun sid' matchId hready => ?_⟩⟩
    · rw [Readied, hlock] at hready
      exact h.unready sid' matchId hready
    · rw [Readied, hunlock] at hready
      exact h.unready sid' matchId hready
  reknow _ h := h
  look _ _ := ⟨rfl, trivial⟩
  take _ _ := ⟨rfl, trivial⟩
  give sid h := ⟨rfl, h.unlock sid⟩

/-! ### Handlers that make nobody ready -/

/-- Only an update to ready makes a session ready. -/
theorem readied_exec {x : World} {op : RoomOp} {i : Pid}
    (hop : ∀ sid updates, op = .updateSession sid updates → updates.signalingReady ≠ some true)
    (h : Readied (exec rt x ⟨pid, op⟩ s).2 i sid matchId) : Readied s i sid matchId := by
  cases op with
  | updateSession sid' updates =>
      simp only [exec, if_neg (hop sid' updates rfl)] at h
      split at h <;> exact h
  | persistSession session => exact (mem_log.1 h).resolve_right (by simp)
  | pairScript session1 session2 => exact (mem_log.1 h).resolve_right (by simp)
  | send sid' message => exact (mem_log.1 h).resolve_right (by simp)
  | refreshSession sid' =>
      simp only [exec] at h
      split at h <;> exact h
  | emergencyDisconnectScript sid' =>
      simp only [exec] at h
      split at h <;> exact h
  | lock sid' => rwa [Readied, (history_lock rt x s pid sid').1] at h
  | unlock sid' => rwa [Readied, (history_lock rt x s pid sid').2] at h
  | getSession sid' => exact h
  | resetPairScript session1 session2 => exact h
  | deleteSession sid' => exact h
  | getSessionRoute sid' => exact h
  | enqueueQueueKeys sid' queueKeys => exact h
  | leaveQueue sid' => exact h
  | register sid' => exact h
  | unregister sid' => exact h

theorem Idle.exec (h : Idle pid s) {x : World} {op : RoomOp} (hc : Disciplined ⟨pid, op⟩ s)
    (hop : ∀ sid updates, op = .updateSession sid updates → updates.signalingReady ≠ some true) :
    Idle pid (Rooms.exec rt x ⟨pid, op⟩ s).2 :=
  ⟨orderly_of_disciplined h.orderly hc,
    fun sid matchId hready => h.unready sid matchId (readied_exec hop hready)⟩

/-- Commands other than those on locks leave the locks alone. -/
theorem lock_exec {x : World} {op : RoomOp} (hop : ∀ sid, op ≠ .lock sid ∧ op ≠ .unlock sid) :
    (Rooms.exec rt x ⟨pid, op⟩ s).2.lock = s.lock := by
  cases op with
  | lock sid' => exact absurd rfl (hop sid').1
  | unlock sid' => exact absurd rfl (hop sid').2
  | updateSession sid' updates =>
      simp only [Rooms.exec]
      split
      next => rfl
      next => split <;> rfl
  | refreshSession sid' =>
      simp only [Rooms.exec]
      split <;> rfl
  | emergencyDisconnectScript sid' =>
      simp only [Rooms.exec]
      split <;> rfl
  | _ => rfl

/-- A process that has these locks, and owes nothing to any match. -/
structure Holding (pid : Pid) (acquired : List SessionId) (s : RoomStore) : Prop where
  idle : Idle pid s
  exactly : HoldsExactly pid acquired s

variable {acquired : List SessionId}

theorem Holding.relies (h : Holding pid acquired s) (ht : Relies pid s t) : Holding pid acquired t :=
  ⟨h.idle.relies ht, fun sid => (ht.2.locks sid).trans (h.exactly sid)⟩

theorem Holding.exec (h : Holding pid acquired s) {x : World} {op : RoomOp}
    (hc : Disciplined ⟨pid, op⟩ s) (hlock : ∀ sid, op ≠ .lock sid ∧ op ≠ .unlock sid)
    (hop : ∀ sid updates, op = .updateSession sid updates → updates.signalingReady ≠ some true) :
    Holding pid acquired (Rooms.exec rt x ⟨pid, op⟩ s).2 := by
  refine ⟨h.idle.exec hc hop, fun sid => ?_⟩
  rw [lock_exec hlock]
  exact h.exactly sid

/-- **The process has locked a session that has no partner**, and owes nothing. -/
structure Alone (pid : Pid) (sid : SessionId) (acquired : List SessionId) (s : RoomStore) : Prop where
  holding : Holding pid acquired s
  lock : s.lock sid = some pid
  partner : ∀ core, s.core sid = some core → core.partnerId = none

theorem Alone.relies (h : Alone pid sid acquired s) (ht : Relies pid s t) :
    Alone pid sid acquired t where
  holding := h.holding.relies ht
  lock := (ht.2.locks sid).2 h.lock
  partner core hfound := h.partner core ((ht.2.core h.lock).symm.trans hfound)

/-- Queues, owners and messages are no matter of the records. -/
def Apart : RoomOp → Prop
  | .getSessionRoute _ => True
  | .enqueueQueueKeys _ _ => True
  | .leaveQueue _ => True
  | .unregister _ => True
  | .send _ (.webrtcStart _) => False
  | .send _ _ => True
  | _ => False

theorem disciplined_of_apart {op : RoomOp} (h : Apart op) : Disciplined ⟨pid, op⟩ s := by
  cases op with
  | send sid message =>
      cases message with
      | webrtcStart peerId => exact h.elim
      | _ => trivial
  | _ => trivial

/-- What such a command leaves as it is. -/
theorem apart_exec {x : World} {op : RoomOp} (h : Apart op) :
    (exec rt x ⟨pid, op⟩ s).2.lock = s.lock ∧ ∀ sid, (exec rt x ⟨pid, op⟩ s).2.core sid = s.core sid := by
  cases op with
  | _ => first | exact ⟨rfl, fun _ => rfl⟩ | exact h.elim

theorem Alone.apart (h : Alone pid sid acquired s) {x : World} {op : RoomOp} (hop : Apart op) :
    Alone pid sid acquired (exec rt x ⟨pid, op⟩ s).2 := by
  obtain ⟨hlock, hcore⟩ := @apart_exec rt pid s x op hop
  refine ⟨h.holding.exec (disciplined_of_apart hop) ?_ ?_, (congrFun hlock sid).trans h.lock, fun core hfound =>
    h.partner core ((hcore sid).symm.trans hfound)⟩
  · rintro sid'
    constructor <;> rintro rfl <;> exact hop.elim
  · rintro sid' updates rfl
    exact hop.elim

/-- A session without a partner is given a status. -/
theorem Alone.update (h : Alone pid sid acquired s) {x : World} {status : Sessions.Status} :
    Disciplined ⟨pid, .updateSession sid (statusUpdates status)⟩ s ∧
      Alone pid sid acquired (exec rt x ⟨pid, .updateSession sid (statusUpdates status)⟩ s).2 := by
  have hc : Disciplined ⟨pid, .updateSession sid (statusUpdates status)⟩ s :=
    .inr (.inl ⟨⟨status, rfl⟩, free_of_lock h.lock, h.partner⟩)
  refine ⟨hc, h.holding.exec hc (by simp) ?_, ?_, ?_⟩
  · rintro sid' updates ⟨⟩
    nofun
  · simp only [exec]
    split <;> exact h.lock
  · intro core hfound
    simp only [exec] at hfound
    split at hfound
    next => exact h.partner core hfound
    next session hfind =>
        rw [if_neg (by simp [statusUpdates]), core_update, if_pos rfl] at hfound
        obtain rfl := Option.some_inj.1 hfound
        exact (h.partner _ (RoomStore.core_of_find hfind) :)

section Programs

variable {β : Type} {Φ : β → RoomStore → Prop}

/-- A command apart from the records, of a process with a lonely session. -/
theorem Alone.keeps_apart {op : RoomOp} {f : Except RoomError (RoomCmd.Reply ⟨pid, op⟩) → RoomProg β}
    (h : Alone pid sid acquired s) (hop : Apart op)
    (hf : ∀ t reply, Alone pid sid acquired t → Keeps rt pid (f (.ok reply)) Φ t) :
    Keeps rt pid ((room pid op).bind f) Φ s :=
  kept_room (fun _ _ => ⟨rfl, disciplined_of_apart hop⟩) fun _ _ ht =>
    hf _ _ ((h.relies ht).apart hop)

theorem Alone.keeps_status {f : Except RoomError Session → RoomProg β} {status : Sessions.Status}
    (h : Alone pid sid acquired s) (hf : ∀ t result, Alone pid sid acquired t → Keeps rt pid (f result) Φ t) :
    Keeps rt pid ((updateSession pid sid (statusUpdates status)).bind f) Φ s := by
  have hupdate := fun t (ht : Relies pid s t) x => @Alone.update rt pid sid t acquired (h.relies ht) x status
  refine kept_updateSession (fun t ht => ⟨rfl, (hupdate t ht ⟨0, ""⟩).1⟩) (fun t ht _ => ?_)
    fun t x session ht _ => ?_
  · exact hf t _ (h.relies ht)
  · exact hf _ _ (hupdate t ht x).2

variable {text : Matchmaker.Text} {config : Matchmaker.Config}

theorem Alone.keeps_joinQueue {f : Except RoomError Unit → RoomProg β}
    {preferences : Matchmaker.NormalPreferences} (h : Alone pid sid acquired s)
    (hf : ∀ t result, Alone pid sid acquired t → Keeps rt pid (f result) Φ t) :
    Keeps rt pid ((joinQueue text config pid sid preferences).bind f) Φ s := by
  unfold joinQueue
  rw [bind_eq, bind_assoc]
  refine h.keeps_apart trivial fun t reply ht => ?_
  split
  · exact ht.keeps_apart trivial fun u _ hu => hf u _ hu
  · exact hf t _ ht
  · exact hf t _ ht

theorem Alone.keeps_requeue {preferences : Matchmaker.NormalPreferences} (h : Alone pid sid acquired s) :
    Keeps rt pid (requeue text config pid sid preferences) (fun _ t => Holding pid acquired t) s := by
  unfold requeue
  rw [bind_eq]
  refine h.keeps_status fun t result ht => ?_
  cases result with
  | error reason => exact ht.holding
  | ok updated =>
      rw [bind_eq]
      refine ht.keeps_joinQueue fun u result hu => ?_
      cases result with
      | ok _ => exact hu.holding
      | error reason => exact hu.keeps_status fun v _ hv => hv.holding

theorem Alone.keeps_stopQueue (h : Alone pid sid acquired s) :
    Keeps rt pid (stopQueue pid sid) (fun _ t => Holding pid acquired t) s := by
  unfold stopQueue
  rw [bind_eq]
  refine h.keeps_apart trivial fun t reply ht => ?_
  refine ht.keeps_status fun u result hu => ?_
  cases result <;> exact hu.holding

/-- A session that is closed has no partner any more. -/
theorem Alone.keeps_closeAlone (h : Alone pid sid acquired s) :
    Keeps rt pid (closeAlone pid sid) (fun _ t => Holding pid acquired t) s := by
  unfold closeAlone
  rw [bind_eq]
  refine h.keeps_apart trivial fun t _ ht => ?_
  dsimp only
  rw [bind_eq]
  refine ht.keeps_apart trivial fun u _ hu => ?_
  rw [bind_eq]
  have hdelete : ∀ v, Relies pid u v → Disciplined ⟨pid, .deleteSession sid⟩ v := fun v hv =>
    ⟨free_of_lock (hu.relies hv).lock, (hu.relies hv).partner⟩
  refine kept_room (fun v hv => ⟨rfl, hdelete v hv⟩) fun v x hv => ?_
  have hholding : Holding pid acquired (exec rt x ⟨pid, .deleteSession sid⟩ v).2 :=
    (hu.relies hv).holding.exec (hdelete v hv) (by simp) (by simp)
  exact hholding

/-- **The reset of a match goes through under the locks of both**: they are on one shard, as the records
of a match agree. -/
theorem keeps_resetMatch {core : Core} {reason : String} (h : Holding pid acquired s)
    (hlock1 : s.lock sid = some pid) (hlock2 : s.lock partnerId = some pid)
    (hfound : s.core sid = some core) (hnames : core.partnerId = some partnerId) :
    Keeps rt pid (resetMatch pid sid partnerId reason) (fun _ t => Alone pid sid acquired t) s := by
  unfold resetMatch
  rw [bind_eq]
  refine kept_readSession (fun t ht => ⟨rfl, trivial⟩) fun t ht => ?_
  have hcore := (ht.2.core hlock1).trans hfound
  obtain ⟨-, other, hother, hback, hshard⟩ := ht.1.paired.named hcore hnames
  have hlock1t := (ht.2.locks sid).2 hlock1
  have hlock2t := (ht.2.locks partnerId).2 hlock2
  cases hfind : t.find sid with
  | none => exact absurd (hcore.symm.trans (RoomStore.core_eq_none.2 hfind)) nofun
  | some session =>
      dsimp only
      rw [bind_eq]
      refine kept_readSession (fun u hu => ⟨rfl, trivial⟩) fun u hu => ?_
      have hother' := (hu.2.core hlock2t).trans hother
      cases hfind' : u.find partnerId with
      | none => exact absurd (hother'.symm.trans (RoomStore.core_eq_none.2 hfind')) nofun
      | some partnerSession =>
          obtain rfl := Option.some_inj.1 (hcore.symm.trans (RoomStore.core_of_find hfind))
          obtain rfl := Option.some_inj.1 (hother'.symm.trans (RoomStore.core_of_find hfind'))
          have hprogram : resetPair pid session partnerSession =
              room pid (.resetPairScript session partnerSession) :=
            if_neg (not_not_intro hshard.symm)
          have hid := id_of_find hfind
          have hid' := id_of_find hfind'
          subst hid hid'
          have hcoreu := (hu.2.core hlock1t).trans hcore
          have hlock1u := (hu.2.locks session.id).2 hlock1t
          have hlock2u := (hu.2.locks partnerSession.id).2 hlock2t
          have hidle := (h.relies ht).relies hu
          have hreset : ∀ v, Relies pid u v →
              Disciplined ⟨pid, .resetPairScript session partnerSession⟩ v := fun v hv =>
            ⟨⟨free_of_lock ((hv.2.locks _).2 hlock1u), free_of_lock ((hv.2.locks _).2 hlock2u)⟩,
              (hv.2.core hlock1u).trans hcoreu,
              (hv.2.core hlock2u).trans hother', hnames, (hidle.relies hv).idle.unready⟩
          dsimp only
          rw [bind_eq, hprogram]
          refine kept_room (fun v hv => ⟨rfl, hreset v hv⟩) fun v x hv => ?_
          have halone : Alone pid session.id acquired
              (exec rt x ⟨pid, .resetPairScript session partnerSession⟩ v).2 := by
            refine ⟨(hidle.relies hv).exec (hreset v hv) (by simp) (by simp), (hv.2.locks _).2 hlock1u,
              fun core hnow => ?_⟩
            have hne : (session.unmatched x.now).id ≠ (partnerSession.unmatched x.now).id :=
              (hu.1.paired.named hcoreu hnames).1.symm
            obtain rfl := Option.some_inj.1
              (hnow.symm.trans ((core_setPair hne session.id).trans (if_pos rfl)))
            rfl
          dsimp only
          rw [bind_eq]
          exact halone.keeps_apart trivial fun w _ hw => hw

/-! ### The handlers of a channel -/

/-- The locks are given back by a process that owes nothing. -/
theorem Holding.keeps_releaseAll (h : Holding pid acquired s) :
    Keeps rt pid (releaseAll pid acquired.reverse) (fun _ t => HoldsNone pid t) s := by
  have hkept := (lockRules rt pid).kept_releaseAll h.idle
    fun sid hheld => List.mem_reverse.2 ((h.exactly sid).1 hheld)
  exact hkept.mono fun _ t ht => ht.2.2

/-- **A handler under the locks of its session and the partner.** -/
theorem keeps_withSessionPartnerLock {body : Option Session → RoomProg Reply} (hidle : Idle pid s)
    (hknown : Known sid s) (hnone : HoldsNone pid s)
    (hbody : ∀ t held, Idle pid t → Known sid t → Locked pid (fun _ => True) sid held t →
      Keeps rt pid (body held.session) (fun _ t => Holding pid held.acquired t) t) :
    Keeps rt pid (withSessionPartnerLock pid sid body) (fun _ t => HoldsNone pid t) s := by
  unfold withSessionPartnerLock
  rw [bind_eq]
  refine Kept.bind (((lockRules rt pid).kept_lockSessionAndPartner hidle hknown hnone).mono ?_)
  rintro (_ | held) t ⟨hidle, hknown, hlocked⟩
  · exact hlocked
  · unfold underLocks
    dsimp only
    rw [bind_eq]
    refine Kept.bind ((hbody t held hidle hknown hlocked).mono fun reply u hu => ?_)
    rw [bind_eq]
    exact Kept.bind (hu.keeps_releaseAll.mono fun _ v hv => hv)

/-- **What a handler finds under its locks**: nothing, a lonely session, or one whose partner is
locked too. -/
theorem locked_cases {held : Held} (hidle : Idle pid s)
    (hlocked : Locked pid (fun _ => True) sid held s) :
    held.session = none ∨
    (∃ session, held.session = some session ∧ session.partnerId = none ∧
      Alone pid sid held.acquired s) ∨
    ∃ session partnerId, held.session = some session ∧ session.partnerId = some partnerId ∧
      s.lock sid = some pid ∧ s.lock partnerId = some pid ∧ s.core sid = some (coreOf session) := by
  cases hsession : held.session with
  | none => exact .inl rfl
  | some session =>
      have hfind : s.find sid = some session := hlocked.session.symm.trans hsession
      have hcore := RoomStore.core_of_find hfind
      have hlock := (hlocked.own trivial).resolve_right fun hnone => absurd (hfind.symm.trans hnone) nofun
      cases hpartner : session.partnerId with
      | none =>
          refine .inr (.inl ⟨session, rfl, hpartner, ⟨hidle, hlocked.exactly⟩, hlock, ?_⟩)
          intro core hfound
          obtain rfl := Option.some_inj.1 (hfound.symm.trans hcore)
          exact hpartner
      | some partnerId =>
          refine .inr (.inr ⟨session, partnerId, rfl, hpartner, hlock, ?_, hcore⟩)
          obtain ⟨-, other, hother, -⟩ := hidle.orderly.paired.named hcore hpartner
          refine (hlocked.partner session partnerId hsession hpartner trivial).resolve_right ?_
          exact fun hnone => absurd (hother.symm.trans (RoomStore.core_eq_none.2 hnone)) nofun

theorem keeps_skip (hidle : Idle pid s) (hknown : Known sid s) (hnone : HoldsNone pid s) :
    Keeps rt pid (skip text config pid sid) (fun _ t => HoldsNone pid t) s := by
  refine keeps_withSessionPartnerLock hidle hknown hnone fun t held hidle _ hlocked => ?_
  have hholding : Holding pid held.acquired t := ⟨hidle, hlocked.exactly⟩
  rcases locked_cases hidle hlocked with hnone | ⟨session, hsession, hpartner, -⟩ |
    ⟨session, partnerId, hsession, hpartner, hlock1, hlock2, hcore⟩
  · rw [hnone]
    exact hholding
  · rw [hsession]
    simp only [skipUnderLocks, hpartner]
    exact hholding
  · rw [hsession]
    simp only [skipUnderLocks, hpartner]
    rw [bind_eq]
    refine Kept.bind ((keeps_resetMatch hholding hlock1 hlock2 hcore hpartner).mono fun _ u hu => ?_)
    exact hu.keeps_requeue

theorem keeps_stop (hidle : Idle pid s) (hknown : Known sid s) (hnone : HoldsNone pid s) :
    Keeps rt pid (stop pid sid) (fun _ t => HoldsNone pid t) s := by
  refine keeps_withSessionPartnerLock hidle hknown hnone fun t held hidle _ hlocked => ?_
  have hholding : Holding pid held.acquired t := ⟨hidle, hlocked.exactly⟩
  rcases locked_cases hidle hlocked with hnone | ⟨session, hsession, hpartner, halone⟩ |
    ⟨session, partnerId, hsession, hpartner, hlock1, hlock2, hcore⟩
  · rw [hnone]
    exact hholding
  · rw [hsession]
    simp only [stopUnderLocks, hpartner]
    exact halone.keeps_stopQueue
  · rw [hsession]
    simp only [stopUnderLocks, hpartner]
    rw [bind_eq]
    refine Kept.bind ((keeps_resetMatch hholding hlock1 hlock2 hcore hpartner).mono fun _ u hu => ?_)
    exact hu.holding

theorem keeps_closeSession {reason : String} (hidle : Idle pid s) (hknown : Known sid s)
    (hnone : HoldsNone pid s) :
    Keeps rt pid (closeSession pid sid reason) (fun _ t => HoldsNone pid t) s := by
  refine keeps_withSessionPartnerLock hidle hknown hnone fun t held hidle _ hlocked => ?_
  have hholding : Holding pid held.acquired t := ⟨hidle, hlocked.exactly⟩
  rcases locked_cases hidle hlocked with hnone | ⟨session, hsession, hpartner, halone⟩ |
    ⟨session, partnerId, hsession, hpartner, hlock1, hlock2, hcore⟩
  · rw [hnone]
    exact hholding
  · rw [hsession]
    simp only [closeUnderLocks, hpartner]
    exact halone.keeps_closeAlone
  · rw [hsession]
    simp only [closeUnderLocks, hpartner]
    rw [bind_eq]
    refine Kept.bind ((keeps_resetMatch hholding hlock1 hlock2 hcore hpartner).mono fun _ u hu => ?_)
    exact hu.keeps_closeAlone

/-! ### The matchmaker and the workers of bots -/

theorem Holding.keeps_apart {op : RoomOp}
    {f : Except RoomError (RoomCmd.Reply ⟨pid, op⟩) → RoomProg β} (h : Holding pid acquired s)
    (hop : Apart op) (hf : ∀ t reply, Holding pid acquired t → Keeps rt pid (f (.ok reply)) Φ t) :
    Keeps rt pid ((room pid op).bind f) Φ s := by
  refine kept_room (fun _ _ => ⟨rfl, disciplined_of_apart hop⟩) fun _ _ ht => hf _ _ ?_
  refine (h.relies ht).exec (disciplined_of_apart hop) (fun sid => ?_) ?_
  · constructor <;> rintro rfl <;> exact hop.elim
  · rintro sid updates rfl
    exact hop.elim

theorem Holding.keeps_leaveQueues {sids : List SessionId} (h : Holding pid acquired s) :
    Keeps rt pid (leaveQueues pid sids) (fun _ t => Holding pid acquired t) s := by
  induction sids generalizing s with
  | nil => exact h
  | cons sid sids ih => exact h.keeps_apart trivial fun t _ ht => ih ht

/-- **Two lonely sessions that are locked are paired**, if they are on one shard. -/
theorem keeps_pairSessions {session1 session2 : Session}
    {f : Except RoomError (Session × Session) → RoomProg β} (h : Holding pid acquired s)
    (hne : session1.id ≠ session2.id) (hlock1 : s.lock session1.id = some pid)
    (hlock2 : s.lock session2.id = some pid)
    (hfound1 : s.core session1.id = some (coreOf session1)) (hpartner1 : session1.partnerId = none)
    (hfound2 : s.core session2.id = some (coreOf session2)) (hpartner2 : session2.partnerId = none)
    (hf : ∀ t result, Holding pid acquired t → Keeps rt pid (f result) Φ t) :
    Keeps rt pid ((pairSessions pid session1 session2).bind f) Φ s := by
  by_cases hshard : session1.redisShard = session2.redisShard
  · have hprogram : pairSessions pid session1 session2 = room pid (.pairScript session1 session2) :=
      if_neg (not_not_intro hshard)
    have hpair : ∀ t, Relies pid s t → Disciplined ⟨pid, .pairScript session1 session2⟩ t := fun t ht =>
      ⟨hne, ⟨free_of_lock ((ht.2.locks _).2 hlock1), free_of_lock ((ht.2.locks _).2 hlock2)⟩,
        ⟨(ht.2.core hlock1).trans hfound1, hpartner1⟩, ⟨(ht.2.core hlock2).trans hfound2, hpartner2⟩,
        hshard⟩
    rw [hprogram]
    refine kept_room (fun t ht => ⟨rfl, hpair t ht⟩) fun t x ht => hf _ _ ?_
    exact (h.relies ht).exec (hpair t ht) (by simp) (by simp)
  · have hprogram : pairSessions pid session1 session2 =
        .ret (.error .crossShardPairingUnsupported) := if_pos hshard
    rw [hprogram]
    exact hf s _ h

/-- A bot whose record goes leaves the others to themselves. -/
theorem keeps_disconnectBot {others : SessionId → Prop} (h : Alone pid sid acquired s)
    (hothers : ∀ sid', others sid' → sid' ≠ sid ∧ Alone pid sid' acquired s) :
    Keeps rt pid (disconnectBot pid sid) (fun _ t => Holding pid acquired t ∧
      ∀ sid', others sid' → Alone pid sid' acquired t) s := by
  unfold disconnectBot
  have hrelies : ∀ {t u}, (∀ sid', others sid' → sid' ≠ sid ∧ Alone pid sid' acquired t) →
      Relies pid t u → ∀ sid', others sid' → sid' ≠ sid ∧ Alone pid sid' acquired u :=
    fun ht hu sid' hsid' => (ht sid' hsid').imp id fun halone => halone.relies hu
  have happart : ∀ {t x op}, Apart op → (∀ sid', others sid' → sid' ≠ sid ∧
      Alone pid sid' acquired t) → ∀ sid', others sid' → sid' ≠ sid ∧
        Alone pid sid' acquired (exec rt x ⟨pid, op⟩ t).2 :=
    fun hop ht sid' hsid' => (ht sid' hsid').imp id fun halone => halone.apart hop
  rw [bind_eq]
  refine kept_room (fun _ _ => ⟨rfl, trivial⟩) fun t x ht => ?_
  have halone : Alone pid sid acquired (exec rt x ⟨pid, .leaveQueue sid⟩ t).2 :=
    (h.relies ht).apart trivial
  have hothers' := @happart t x (.leaveQueue sid) trivial (hrelies hothers ht)
  rw [bind_eq]
  refine kept_room (fun _ _ => ⟨rfl, trivial⟩) fun u y hu => ?_
  have halone' : Alone pid sid acquired
      (exec rt y ⟨pid, .send sid (.routerDisconnect "bot collision" none)⟩ u).2 :=
    (halone.relies hu).apart trivial
  have hothers'' := @happart u y (.send sid (.routerDisconnect "bot collision" none)) trivial
    (hrelies hothers' hu)
  rw [bind_eq]
  have hdelete : ∀ v, Relies pid (exec rt y ⟨pid, .send sid (.routerDisconnect "bot collision" none)⟩
      u).2 v → Disciplined ⟨pid, .deleteSession sid⟩ v := fun v hv =>
    ⟨free_of_lock (halone'.relies hv).lock, (halone'.relies hv).partner⟩
  refine kept_room (fun v hv => ⟨rfl, hdelete v hv⟩) fun v z hv => ?_
  have hholding : Holding pid acquired (exec rt z ⟨pid, .deleteSession sid⟩ v).2 :=
    (halone'.relies hv).holding.exec (hdelete v hv) (by simp) (by simp)
  refine ⟨hholding, fun sid' hsid' => ?_⟩
  obtain ⟨hne, hother⟩ := hrelies hothers'' hv sid' hsid'
  exact ⟨hholding, hother.lock, fun core hfound =>
    hother.partner core ((RoomStore.core_setRecord_of_ne hne).symm.trans hfound)⟩

/-- The lock of a session, or nothing that it could protect. -/
def Secured (pid : Pid) (sid : SessionId) (s : RoomStore) : Prop :=
  s.lock sid = some pid ∨ Known sid s ∧ s.core sid = none

theorem Secured.relies (h : Secured pid sid s) (ht : Relies pid s t) : Secured pid sid t :=
  h.imp (ht.2.locks sid).2 fun ⟨hknown, hnone⟩ => ⟨ht.2.past hknown, ht.2.gone hknown hnone⟩

/-- A session that is found is locked. -/
theorem Secured.lock {session : Session} (h : Secured pid sid s) (hfind : s.find sid = some session) :
    s.lock sid = some pid :=
  h.resolve_right fun hnone => absurd ((RoomStore.core_of_find hfind).symm.trans hnone.2) nofun

/-- **A function under the locks of some sessions.** -/
theorem keeps_withLocks {ids : List (Option SessionId)} {body : RoomProg Reply} (hidle : Idle pid s)
    (hknown : ∀ sid, some sid ∈ ids → Known sid s) (hnone : HoldsNone pid s)
    (hbody : ∀ t acquired, Holding pid acquired t → (∀ sid, some sid ∈ ids → Secured pid sid t) →
      Keeps rt pid body (fun _ t => Holding pid acquired t) t) :
    Keeps rt pid (withLocks pid ids body) (fun _ t => HoldsNone pid t) s := by
  unfold withLocks
  rw [bind_eq]
  have hempty : HoldsExactly pid [] s := fun sid =>
    ⟨fun h => absurd h (hnone sid), fun h => absurd h List.not_mem_nil⟩
  refine Kept.bind (((lockRules rt pid).kept_acquireAll hidle
    (fun sid hsid _ => hknown sid (mem_orderedIds.1 hsid)) hempty).mono ?_)
  rintro (_ | acquired) t ⟨hidle, hsince, hresult⟩
  · exact hresult
  · obtain ⟨hexactly, -, hall⟩ := hresult
    dsimp only
    rw [bind_eq]
    refine Kept.bind ((hbody t acquired ⟨hidle, hexactly⟩ fun sid hsid => ?_).mono fun reply u hu => ?_)
    · refine (hall sid (mem_orderedIds.2 hsid) trivial).imp (hexactly sid).2 fun hgone => ?_
      exact ⟨hsince.known (hknown sid hsid), RoomStore.core_eq_none.2 hgone⟩
    · rw [bind_eq]
      exact Kept.bind (hu.keeps_releaseAll.mono fun _ v hv => hv)

theorem partnerId_of_pairable {session : Session} (h : Matchmaker.pairableSession session = true) :
    session.partnerId = none := by
  simp only [Matchmaker.pairableSession, Bool.and_eq_true, Option.isNone_iff_eq_none] at h
  exact h.2

theorem both_pairable {session1 session2 : Session}
    (h : ¬ (!Matchmaker.pairableSession session1 || !Matchmaker.pairableSession session2) = true) :
    Matchmaker.pairableSession session1 = true ∧ Matchmaker.pairableSession session2 = true := by
  simpa using h

/-- Two sessions as they were read, both locked and without partners. -/
structure Candidates (pid : Pid) (acquired : List SessionId) (session1 session2 : Session)
    (s : RoomStore) : Prop where
  ne : session1.id ≠ session2.id
  alone1 : Alone pid session1.id acquired s
  alone2 : Alone pid session2.id acquired s
  found1 : s.core session1.id = some (coreOf session1)
  found2 : s.core session2.id = some (coreOf session2)
  partner1 : session1.partnerId = none
  partner2 : session2.partnerId = none

/-- The sessions of two look-ups under the locks. -/
theorem candidates {sid1 sid2 : SessionId} {session1 session2 : Session} (hne : sid1 ≠ sid2)
    (h : Holding pid acquired s) (hsecured1 : Secured pid sid1 s) (hsecured2 : Secured pid sid2 s)
    (hfind1 : s.find sid1 = some session1) (ht : Relies pid s t)
    (hfind2 : t.find sid2 = some session2) (hpairable1 : Matchmaker.pairableSession session1 = true)
    (hpairable2 : Matchmaker.pairableSession session2 = true) :
    Candidates pid acquired session1 session2 t := by
  have hid1 := id_of_find hfind1
  have hid2 := id_of_find hfind2
  subst hid1 hid2
  have hlock1 := hsecured1.lock hfind1
  have hfound1 := (ht.2.core hlock1).trans (RoomStore.core_of_find hfind1)
  have hfound2 := RoomStore.core_of_find hfind2
  have hpartner1 := partnerId_of_pairable hpairable1
  have hpartner2 := partnerId_of_pairable hpairable2
  refine ⟨hne, ⟨h.relies ht, (ht.2.locks _).2 hlock1, fun core hfound => ?_⟩,
    ⟨h.relies ht, (hsecured2.relies ht).lock hfind2, fun core hfound => ?_⟩, hfound1, hfound2,
    hpartner1, hpartner2⟩
  · obtain rfl := Option.some_inj.1 (hfound.symm.trans hfound1)
    exact hpartner1
  · obtain rfl := Option.some_inj.1 (hfound.symm.trans hfound2)
    exact hpartner2

/-- Candidates are paired, unless they are on two shards. -/
theorem Candidates.keeps_pairSessions {session1 session2 : Session}
    {f : Except RoomError (Session × Session) → RoomProg β}
    (h : Candidates pid acquired session1 session2 s)
    (hf : ∀ t result, Holding pid acquired t → Keeps rt pid (f result) Φ t) :
    Keeps rt pid ((pairSessions pid session1 session2).bind f) Φ s :=
  Rooms.keeps_pairSessions h.alone1.holding h.ne h.alone1.lock h.alone2.lock h.found1 h.partner1
    h.found2 h.partner2 hf

theorem Candidates.keeps_pairFound {session1 session2 : Session}
    (h : Candidates pid acquired session1 session2 s) :
    Keeps rt pid (pairFound pid session1 session2) (fun _ t => Holding pid acquired t) s := by
  unfold pairFound
  rw [bind_eq]
  refine h.keeps_pairSessions fun t result ht => ?_
  cases result with
  | error reason => exact ht
  | ok updated =>
      dsimp only
      rw [bind_eq]
      refine Kept.bind (ht.keeps_leaveQueues.mono fun _ u hu => ?_)
      rw [bind_eq]
      refine hu.keeps_apart trivial fun v _ hv => ?_
      rw [bind_eq]
      exact hv.keeps_apart trivial fun w _ hw => hw

theorem keeps_pairUsers {sid1 sid2 : SessionId} (hidle : Idle pid s) (hne : sid1 ≠ sid2)
    (hknown1 : Known sid1 s) (hknown2 : Known sid2 s) (hnone : HoldsNone pid s) :
    Keeps rt pid (pairUsers pid sid1 sid2) (fun _ t => HoldsNone pid t) s := by
  refine keeps_withLocks hidle (by simp [hknown1, hknown2]) hnone fun t acquired hholding hsecured => ?_
  unfold pairUnderLocks
  rw [bind_eq]
  refine kept_readSession (fun _ _ => ⟨rfl, trivial⟩) fun u hu => ?_
  rw [bind_eq]
  refine kept_readSession (fun _ _ => ⟨rfl, trivial⟩) fun v hv => ?_
  have hheld := (hholding.relies hu).relies hv
  cases hfind1 : u.find sid1 with
  | none => exact hheld
  | some session1 =>
      cases hfind2 : v.find sid2 with
      | none => exact hheld
      | some session2 =>
          dsimp only
          split_ifs with hpairable hbots hbanned
          · exact hheld
          · have hboth := both_pairable hpairable
            have hcandidates := candidates hne (hholding.relies hu)
              ((hsecured sid1 (by simp)).relies hu) ((hsecured sid2 (by simp)).relies hu) hfind1 hv
              hfind2 hboth.1 hboth.2
            rw [bind_eq]
            refine Kept.bind ((@keeps_disconnectBot rt pid session1.id v acquired
              (fun sid => sid = session2.id) hcandidates.alone1 ?_).mono fun _ w hw => ?_)
            · rintro sid rfl
              exact ⟨hcandidates.ne.symm, hcandidates.alone2⟩
            · rw [bind_eq]
              refine Kept.bind ((@keeps_disconnectBot rt pid session2.id w acquired
                (fun _ => False) (hw.2 _ rfl) fun _ => False.elim).mono fun _ r hr => ?_)
              exact hr.1
          · rw [bind_eq]
            exact Kept.bind (hheld.keeps_leaveQueues.mono fun _ w hw => hw)
          · have hboth := both_pairable hpairable
            exact (candidates hne (hholding.relies hu) ((hsecured sid1 (by simp)).relies hu)
              ((hsecured sid2 (by simp)).relies hu) hfind1 hv hfind2 hboth.1 hboth.2).keeps_pairFound

theorem keeps_pairWithHuman {sid1 sid2 : SessionId} (hidle : Idle pid s) (hne : sid1 ≠ sid2)
    (hknown1 : Known sid1 s) (hknown2 : Known sid2 s) (hnone : HoldsNone pid s) :
    Keeps rt pid (pairWithHuman pid sid1 sid2) (fun _ t => HoldsNone pid t) s := by
  refine keeps_withLocks hidle (by simp [hknown1, hknown2]) hnone fun t acquired hholding hsecured => ?_
  unfold pairWithHumanUnderLocks
  rw [bind_eq]
  refine kept_readSession (fun _ _ => ⟨rfl, trivial⟩) fun u hu => ?_
  cases hfind1 : u.find sid1 with
  | none => exact hholding.relies hu
  | some session1 =>
      dsimp only
      rw [bind_eq]
      refine kept_readSession (fun _ _ => ⟨rfl, trivial⟩) fun v hv => ?_
      have hheld := (hholding.relies hu).relies hv
      cases hfind2 : v.find sid2 with
      | none => exact hheld
      | some session2 =>
          dsimp only
          split_ifs with hpairable
          · exact hheld
          · have hboth := both_pairable hpairable
            have hcandidates := candidates hne (hholding.relies hu)
              ((hsecured sid1 (by simp)).relies hu) ((hsecured sid2 (by simp)).relies hu) hfind1 hv
              hfind2 hboth.1 hboth.2
            rw [bind_eq]
            refine hcandidates.keeps_pairSessions fun w result hw => ?_
            cases result with
            | error reason => exact hw
            | ok updated =>
                dsimp only
                rw [bind_eq]
                refine hw.keeps_apart trivial fun a _ ha => ?_
                rw [bind_eq]
                refine ha.keeps_apart trivial fun b _ hb => ?_
                rw [bind_eq]
                exact hb.keeps_apart trivial fun c _ hc => hc

/-! ### A message that makes a session ready -/

/-- **The process has made a session ready in its match**, and still has both locks. -/
structure Serving (pid : Pid) (sid partnerId : SessionId) (matchId : MatchId)
    (acquired : List SessionId) (s : RoomStore) : Prop where
  ne : partnerId ≠ sid
  orderly : Orderly s
  exactly : HoldsExactly pid acquired s
  locks : s.lock sid = some pid ∧ s.lock partnerId = some pid
  current : s.current sid = some matchId ∧ s.current partnerId = some matchId
  matched : Matched s sid partnerId matchId
  readied : Readied s pid sid matchId
  own : ∀ {sid' matchId'}, Readied s pid sid' matchId' → sid' = sid ∧ matchId' = matchId

theorem Serving.relies (h : Serving pid sid partnerId matchId acquired s) (ht : Relies pid s t) :
    Serving pid sid partnerId matchId acquired t where
  ne := h.ne
  orderly := ht.1
  exactly sid' := (ht.2.locks sid').trans (h.exactly sid')
  locks := h.locks.imp (ht.2.locks _).2 (ht.2.locks _).2
  current := ⟨(ht.2.current h.locks.1).trans h.current.1, (ht.2.current h.locks.2).trans h.current.2⟩
  matched := h.matched.imp ht.2.past ht.2.past
  readied := ht.2.past h.readied
  own hready := h.own (ht.2.own hready)

/-- The partner of a match is told by its number. -/
theorem Serving.partner (h : Serving pid sid partnerId matchId acquired s) {sid2 : SessionId}
    (hmatched : Matched s sid sid2 matchId) : sid2 = partnerId := by
  rcases h.orderly.paired.only h.matched hmatched with ⟨-, rfl⟩ | ⟨heq, -⟩
  · rfl
  · exact absurd heq.symm h.ne

/-- What is owed to a match that a process serves stays settled, as nobody else can make one of the
two ready. -/
theorem settled_of_relies (hmatched : Matched s sid partnerId matchId) (hlock : s.lock sid = some pid)
    (h : Settled s sid partnerId matchId) (ht : Relies pid s t) :
    Settled t sid partnerId matchId := by
  rintro ⟨⟨i, hi⟩, j, hj⟩
  exact (h ⟨⟨i, ht.2.readied hlock hi⟩, j, ht.2.rival hlock hmatched hj⟩).imp ht.2.past ht.2.past

/-- A process that is done with a match. -/
structure Served (pid : Pid) (sid partnerId : SessionId) (matchId : MatchId) (s : RoomStore) :
    Prop where
  orderly : Orderly s
  ne : partnerId ≠ sid
  matched : Matched s sid partnerId matchId
  own : ∀ {sid' matchId'}, Readied s pid sid' matchId' → sid' = sid ∧ matchId' = matchId
  settled : s.lock sid = some pid → Settled s sid partnerId matchId

theorem Served.relies (h : Served pid sid partnerId matchId s) (ht : Relies pid s t) :
    Served pid sid partnerId matchId t where
  orderly := ht.1
  ne := h.ne
  matched := h.matched.imp ht.2.past ht.2.past
  own hready := h.own (ht.2.own hready)
  settled hlock :=
    have hlock' := (ht.2.locks sid).1 hlock
    settled_of_relies h.matched hlock' (h.settled hlock') ht

/-- A process that is done may give back its locks. -/
theorem Served.unlock (h : Served pid sid partnerId matchId s) (sid' : SessionId) :
    Disciplined ⟨pid, .unlock sid'⟩ s := by
  intro sid2 matchId' hlock _ hready hmatched
  obtain ⟨rfl, rfl⟩ := h.own hready
  rcases h.orderly.paired.only h.matched hmatched with ⟨-, rfl⟩ | ⟨heq, -⟩
  · exact h.settled hlock
  · exact absurd heq.symm h.ne

theorem Served.keeps_releaseAll (h : Served pid sid partnerId matchId s)
    (hexactly : HoldsExactly pid acquired s) :
    Keeps rt pid (releaseAll pid acquired.reverse) (fun _ t => HoldsNone pid t) s := by
  have hkept := @kept_releaseAll rt (Relies pid) (Guards pid) pid s (Served pid sid partnerId matchId)
    (fun _ _ h ht => h.relies ht) (fun _ _ ht => ht.2.locks) (fun sid' _ h => ⟨rfl, h.unlock sid'⟩)
    (fun x sid' t h => ?_) acquired.reverse h fun sid' hheld => List.mem_reverse.2 ((hexactly sid').1 hheld)
  · exact hkept.mono fun _ t ht => ht.2
  · have hhistory := (history_lock rt x t pid sid').2
    refine ⟨orderly_of_disciplined h.orderly (h.unlock sid'), h.ne, ?_, fun hready => h.own ?_,
      fun hlock => ?_⟩
    · rw [Matched, hhistory]
      exact h.matched
    · rwa [Readied, hhistory] at hready
    · have hsettled := h.settled (lock_unlock.1 hlock).1
      simp only [Settled, BothReady, Started, Readied, StartSent, hhistory]
      exact hsettled

theorem Serving.served (h : Serving pid sid partnerId matchId acquired s)
    (hsettled : Settled s sid partnerId matchId) : Served pid sid partnerId matchId s :=
  ⟨h.orderly, h.ne, h.matched, h.own, fun _ => hsettled⟩

/-- A step of a process that starts its match: a session is marked, or told. -/
def Starts (sid partnerId : SessionId) (op : RoomOp) : Prop :=
  ∃ sid' peerId, (sid' = sid ∧ peerId = partnerId ∨ sid' = partnerId ∧ peerId = sid) ∧
    (op = .updateSession sid' { webrtcStarted := some true } ∨ op = .send sid' (.webrtcStart peerId))

theorem current_exec_start {x : World} {op : RoomOp} (hop : Starts sid partnerId op) :
    (exec rt x ⟨pid, op⟩ s).2.current = s.current := by
  obtain ⟨sid', peerId, -, rfl | rfl⟩ := hop
  · simp only [exec]
    split
    next => rfl
    next => split <;> rfl
  · rfl

theorem Serving.exec (h : Serving pid sid partnerId matchId acquired s) {x : World} {op : RoomOp}
    (hop : Starts sid partnerId op) (hc : Disciplined ⟨pid, op⟩ s) :
    Serving pid sid partnerId matchId acquired (Rooms.exec rt x ⟨pid, op⟩ s).2 := by
  have hlock : (Rooms.exec rt x ⟨pid, op⟩ s).2.lock = s.lock := by
    refine lock_exec fun sid' => ?_
    obtain ⟨sid'', peerId, -, rfl | rfl⟩ := hop <;> simp
  have hcurrent := @current_exec_start rt pid sid partnerId s x op hop
  have hpast : ∀ {happening}, happening ∈ s.history →
      happening ∈ (Rooms.exec rt x ⟨pid, op⟩ s).2.history := by
    intro happening hmem
    obtain ⟨added, hhistory, -⟩ := (@changes_of_disciplined rt s x h.orderly _ hc).history
    rw [hhistory]
    exact List.mem_append_left _ hmem
  refine ⟨h.ne, orderly_of_disciplined h.orderly hc, fun sid' => ?_, ?_, ?_, h.matched.imp hpast hpast,
    hpast h.readied, fun hready => h.own (readied_exec ?_ hready)⟩
  · rw [hlock]
    exact h.exactly sid'
  · rw [hlock]
    exact h.locks
  · rw [hcurrent]
    exact h.current
  · obtain ⟨sid'', peerId, -, rfl | rfl⟩ := hop
    · rintro sid' updates ⟨⟩
      nofun
    · simp

/-- **The process is to start its match**: both are ready, and neither has been told. -/
structure Starting (pid : Pid) (sid partnerId : SessionId) (matchId : MatchId)
    (acquired : List SessionId) (s : RoomStore) : Prop where
  serving : Serving pid sid partnerId matchId acquired s
  ready : BothReady s sid partnerId matchId

theorem Starting.relies (h : Starting pid sid partnerId matchId acquired s) (ht : Relies pid s t) :
    Starting pid sid partnerId matchId acquired t :=
  ⟨h.serving.relies ht, h.ready.imp (Exists.imp fun _ hi => ht.2.past hi)
    (Exists.imp fun _ hj => ht.2.past hj)⟩

/-- A session that the process has locked is marked as started. -/
def Marked (sid : SessionId) (s : RoomStore) : Prop :=
  ∀ core, s.core sid = some core → core.webrtcStarted = true

theorem Marked.relies (h : Marked sid s) (hlock : s.lock sid = some pid) (ht : Relies pid s t) :
    Marked sid t := fun core hfound => h core ((ht.2.core hlock).symm.trans hfound)

/-- A start that was not sent to a session is not sent by others. -/
theorem unsent_of_relies (h : ¬ StartSent s sid partnerId matchId) (hlock : s.lock sid = some pid)
    (ht : Relies pid s t) : ¬ StartSent t sid partnerId matchId := fun hsent => h (ht.2.sent hlock hsent)

/-- The two partners, from the side of either. -/
theorem Starting.side (h : Starting pid sid partnerId matchId acquired s) {sid' peerId : SessionId}
    (hsid : sid' = sid ∧ peerId = partnerId ∨ sid' = partnerId ∧ peerId = sid) :
    (s.lock sid' = some pid ∧ s.lock peerId = some pid) ∧
      (s.current sid' = some matchId ∧ s.current peerId = some matchId) ∧
      Matched s sid' peerId matchId ∧ BothReady s sid' peerId matchId := by
  rcases hsid with ⟨rfl, rfl⟩ | ⟨rfl, rfl⟩
  · exact ⟨h.serving.locks, h.serving.current, h.serving.matched, h.ready⟩
  · exact ⟨h.serving.locks.symm, h.serving.current.symm, h.serving.matched.symm, h.ready.symm⟩

/-- **A session is marked as started.** -/
theorem Starting.mark (h : Starting pid sid partnerId matchId acquired s) {x : World}
    {sid' peerId : SessionId}
    (hsid : sid' = sid ∧ peerId = partnerId ∨ sid' = partnerId ∧ peerId = sid) :
    Disciplined ⟨pid, .updateSession sid' { webrtcStarted := some true }⟩ s ∧
      Starting pid sid partnerId matchId acquired
        (exec rt x ⟨pid, .updateSession sid' { webrtcStarted := some true }⟩ s).2 ∧
      (∀ other, other = sid' ∨ Marked other s →
        Marked other (exec rt x ⟨pid, .updateSession sid' { webrtcStarted := some true }⟩ s).2) ∧
      (exec rt x ⟨pid, .updateSession sid' { webrtcStarted := some true }⟩ s).2.history = s.history := by
  obtain ⟨hlocks, hcurrent, hmatched, hready⟩ := h.side hsid
  have hc : Disciplined ⟨pid, .updateSession sid' { webrtcStarted := some true }⟩ s := by
    refine .inr (.inr (.inr ⟨rfl, hlocks.1, fun sid2 m hthis hm => ?_⟩))
    obtain rfl := Option.some_inj.1 (hthis.symm.trans hcurrent.1)
    rcases h.serving.orderly.paired.only hmatched hm with ⟨-, rfl⟩ | ⟨heq, rfl⟩
    · exact hready
    · exact heq ▸ hready
  have hhistory : (exec rt x ⟨pid, .updateSession sid' { webrtcStarted := some true }⟩ s).2.history =
      s.history := by
    simp only [exec]
    split
    next => rfl
    next => rw [if_neg (by simp)]; rfl
  refine ⟨hc, ⟨h.serving.exec ⟨sid', peerId, hsid, .inl rfl⟩ hc, ?_⟩, fun other hother core hfound => ?_,
    hhistory⟩
  · simp only [BothReady, Readied, hhistory]
    exact h.ready
  · simp only [exec] at hfound
    split at hfound
    next hfind =>
        rcases hother with rfl | hmarked
        · exact absurd ((RoomStore.core_eq_none.2 hfind).symm.trans hfound)
            (Option.some_ne_none _).symm
        · exact hmarked core hfound
    next session hfind =>
        rw [if_neg (by simp), core_update] at hfound
        split_ifs at hfound with heq
        · obtain rfl := Option.some_inj.1 hfound
          rfl
        · exact hother.resolve_left heq core hfound

/-- **A session is told to start.** -/
theorem Starting.tell (h : Starting pid sid partnerId matchId acquired s) {x : World}
    {sid' peerId : SessionId}
    (hsid : sid' = sid ∧ peerId = partnerId ∨ sid' = partnerId ∧ peerId = sid)
    (hmarked : Marked sid' s ∧ Marked peerId s) (hunsent : ¬ StartSent s sid' peerId matchId) :
    Disciplined ⟨pid, .send sid' (.webrtcStart peerId)⟩ s ∧
      Starting pid sid partnerId matchId acquired
        (exec rt x ⟨pid, .send sid' (.webrtcStart peerId)⟩ s).2 ∧
      StartSent (exec rt x ⟨pid, .send sid' (.webrtcStart peerId)⟩ s).2 sid' peerId matchId ∧
      (∀ other, Marked other s → Marked other (exec rt x ⟨pid, .send sid' (.webrtcStart peerId)⟩ s).2) ∧
      (∀ {sid2 peer2}, sid2 ≠ sid' → ¬ StartSent s sid2 peer2 matchId →
        ¬ StartSent (exec rt x ⟨pid, .send sid' (.webrtcStart peerId)⟩ s).2 sid2 peer2 matchId) := by
  obtain ⟨hlocks, hcurrent, hmatched, hready⟩ := h.side hsid
  have hc : Disciplined ⟨pid, .send sid' (.webrtcStart peerId)⟩ s := by
    refine ⟨matchId, hlocks, hcurrent, hmatched, hready, ?_, hunsent⟩
    rintro sid'' core (rfl | rfl) hfound
    · exact hmarked.1 core hfound
    · exact hmarked.2 core hfound
  have hpast : ∀ {happening}, happening ∈ s.history →
      happening ∈ (exec rt x ⟨pid, .send sid' (.webrtcStart peerId)⟩ s).2.history :=
    fun hmem => mem_log.2 (.inl hmem)
  refine ⟨hc, ⟨h.serving.exec ⟨sid', peerId, hsid, .inr rfl⟩ hc, h.ready.imp (Exists.imp fun _ => hpast)
    (Exists.imp fun _ => hpast)⟩, mem_log.2 (.inr ?_), fun other hother core hfound => hother core hfound, ?_⟩
  · rw [hcurrent.1]
  · intro sid2 peer2 hne hnot hsent
    refine hnot ((mem_log.1 hsent).resolve_right fun heq => ?_)
    exact hne (Happening.sent.inj heq).1

/-- A session in a match is there. -/
theorem Starting.find_ne_none (h : Starting pid sid partnerId matchId acquired s)
    {sid' peerId : SessionId}
    (hsid : sid' = sid ∧ peerId = partnerId ∨ sid' = partnerId ∧ peerId = sid) : s.find sid' ≠ none := by
  intro hnone
  obtain ⟨core, -, hfound, -⟩ := h.serving.orderly.paired.current (h.side hsid).2.1.1
  exact absurd ((RoomStore.core_eq_none.2 hnone).symm.trans hfound) nofun

/-- **A process on its way to the start**: which of the two are marked, and who has not been told. -/
structure Midway (pid : Pid) (sid partnerId : SessionId) (matchId : MatchId)
    (acquired marked : List SessionId) (untold : List (SessionId × SessionId)) (s : RoomStore) :
    Prop where
  starting : Starting pid sid partnerId matchId acquired s
  mark : ∀ sid' ∈ marked, s.lock sid' = some pid ∧ Marked sid' s
  unsent : ∀ told ∈ untold, s.lock told.1 = some pid ∧ ¬ StartSent s told.1 told.2 matchId

section Midway

variable {marked : List SessionId} {untold : List (SessionId × SessionId)} {sid' peerId : SessionId}

theorem Midway.relies (h : Midway pid sid partnerId matchId acquired marked untold s)
    (ht : Relies pid s t) : Midway pid sid partnerId matchId acquired marked untold t where
  starting := h.starting.relies ht
  mark sid' hmem := by
    obtain ⟨hlock, hmarked⟩ := h.mark sid' hmem
    exact ⟨(ht.2.locks _).2 hlock, hmarked.relies hlock ht⟩
  unsent told hmem := by
    obtain ⟨hlock, hunsent⟩ := h.unsent told hmem
    exact ⟨(ht.2.locks _).2 hlock, unsent_of_relies hunsent hlock ht⟩

/-- One of the two is marked. -/
theorem Midway.keeps_mark {f : Except RoomError Session → RoomProg β}
    (h : Midway pid sid partnerId matchId acquired marked untold s)
    (hsid : sid' = sid ∧ peerId = partnerId ∨ sid' = partnerId ∧ peerId = sid)
    (hf : ∀ t result, Midway pid sid partnerId matchId acquired (sid' :: marked) untold t →
      Keeps rt pid (f result) Φ t) :
    Keeps rt pid ((updateSession pid sid' { webrtcStarted := some true }).bind f) Φ s := by
  have hmark := fun t (ht : Relies pid s t) x =>
    @Starting.mark rt pid sid partnerId t matchId acquired (h.relies ht).starting x sid' peerId hsid
  refine kept_updateSession (fun t ht => ⟨rfl, (hmark t ht ⟨0, ""⟩).1⟩) (fun t ht hnone => ?_)
    fun t x session ht _ => hf _ _ ?_
  · exact absurd hnone ((h.relies ht).starting.find_ne_none hsid)
  · obtain ⟨-, hstarting, hmarked, hhistory⟩ := hmark t ht x
    have hlock := @lock_exec rt pid t x (.updateSession sid' { webrtcStarted := some true }) (by simp)
    refine ⟨hstarting, ?_, fun told hmem => ?_⟩
    · rw [hlock]
      refine List.forall_mem_cons.2 ⟨⟨((h.relies ht).starting.side hsid).1.1, hmarked sid' (.inl rfl)⟩,
        fun other hmem => ?_⟩
      exact ((h.relies ht).mark other hmem).imp id fun hother => hmarked other (.inr hother)
    · rw [hlock, StartSent, hhistory]
      exact (h.relies ht).unsent told hmem

/-- One of the two is told, when both are marked. -/
theorem Midway.keeps_tell {f : Except RoomError Unit → RoomProg β}
    (h : Midway pid sid partnerId matchId acquired marked ((sid', peerId) :: untold) s)
    (hsid : sid' = sid ∧ peerId = partnerId ∨ sid' = partnerId ∧ peerId = sid)
    (hmarked : sid' ∈ marked ∧ peerId ∈ marked) (hother : ∀ told ∈ untold, told.1 ≠ sid')
    (hf : ∀ t, Midway pid sid partnerId matchId acquired marked untold t →
      StartSent t sid' peerId matchId → (∀ happening ∈ s.history, happening ∈ t.history) →
        Keeps rt pid (f (.ok ())) Φ t) :
    Keeps rt pid ((room pid (.send sid' (.webrtcStart peerId))).bind f) Φ s := by
  have htell := fun t (ht : Relies pid s t) x =>
    @Starting.tell rt pid sid partnerId t matchId acquired (h.relies ht).starting x sid' peerId hsid
      ⟨((h.relies ht).mark _ hmarked.1).2, ((h.relies ht).mark _ hmarked.2).2⟩
      ((h.relies ht).unsent _ List.mem_cons_self).2
  refine kept_room (fun t ht => ⟨rfl, (htell t ht ⟨0, ""⟩).1⟩) fun t x ht => ?_
  obtain ⟨-, hstarting, hsent, hkept, hunsent⟩ := htell t ht x
  refine hf _ ⟨hstarting, fun other hmem => ?_, fun told hmem => ?_⟩ hsent
    fun _ hmem => mem_log.2 (.inl (ht.2.past hmem))
  · exact ((h.relies ht).mark other hmem).imp id (hkept other)
  · exact ((h.relies ht).unsent told (List.mem_cons_of_mem _ hmem)).imp id (hunsent (hother told hmem))

end Midway

/-- **The match is started**: both sessions are marked and told. -/
theorem Starting.keeps_startWebrtc (h : Starting pid sid partnerId matchId acquired s)
    (hunsent1 : ¬ StartSent s sid partnerId matchId) (hunsent2 : ¬ StartSent s partnerId sid matchId) :
    Keeps rt pid (startWebrtc pid sid partnerId)
      (fun _ t => Serving pid sid partnerId matchId acquired t ∧ Settled t sid partnerId matchId) s := by
  have hside1 : sid = sid ∧ partnerId = partnerId ∨ sid = partnerId ∧ partnerId = sid := .inl ⟨rfl, rfl⟩
  have hside2 : partnerId = sid ∧ sid = partnerId ∨ partnerId = partnerId ∧ sid = sid := .inr ⟨rfl, rfl⟩
  have hmidway : Midway pid sid partnerId matchId acquired [] [(sid, partnerId), (partnerId, sid)] s := by
    refine ⟨h, fun _ hmem => absurd hmem List.not_mem_nil, fun told hmem => ?_⟩
    rcases List.mem_cons.1 hmem with rfl | hmem
    · exact ⟨h.serving.locks.1, hunsent1⟩
    · obtain rfl := List.mem_singleton.1 hmem
      exact ⟨h.serving.locks.2, hunsent2⟩
  unfold startWebrtc
  rw [bind_eq]
  refine hmidway.keeps_mark hside1 fun t _ ht => ?_
  rw [bind_eq]
  refine ht.keeps_mark hside2 fun u _ hu => ?_
  rw [bind_eq]
  refine hu.keeps_tell hside1 (by simp) ?_ fun v hv hsent1 _ => ?_
  · rintro told hmem
    obtain rfl := List.mem_singleton.1 hmem
    exact h.serving.ne
  · rw [bind_eq]
    refine hv.keeps_tell hside2 (by simp) (by simp) fun w hw hsent2 hpast => ?_
    exact ⟨hw.starting.serving, fun _ => ⟨hpast _ hsent1, hsent2⟩⟩

/-- **What becomes of a session that is ready now**: its match is started, or nothing is owed to it. -/
theorem Serving.keeps_afterReady {session : Session}
    (h : Serving pid sid partnerId matchId acquired s) (hfound : s.core sid = some (coreOf session))
    (hpartner : session.partnerId = some partnerId)
    (hbegun : ∀ sid' core, sid' = sid ∨ sid' = partnerId → s.core sid' = some core →
      core.webrtcStarted = true → Started s sid partnerId matchId) :
    Keeps rt pid (afterReady pid sid session)
      (fun _ t => Serving pid sid partnerId matchId acquired t ∧ Settled t sid partnerId matchId) s := by
  unfold afterReady
  simp only [hpartner]
  rw [bind_eq]
  refine kept_readSession (fun t ht => ⟨rfl, trivial⟩) fun t ht => ?_
  have hserving := h.relies ht
  have hfound' := (ht.2.core h.locks.1).trans hfound
  have hbegun' : ∀ sid' core, sid' = sid ∨ sid' = partnerId → t.core sid' = some core →
      core.webrtcStarted = true → Started t sid partnerId matchId := by
    intro sid' core hsid' hcore hflag
    have hlock : s.lock sid' = some pid := by
      rcases hsid' with rfl | rfl
      · exact h.locks.1
      · exact h.locks.2
    exact (hbegun sid' core hsid' ((ht.2.core hlock).symm.trans hcore) hflag).imp ht.2.past ht.2.past
  cases hfind : t.find partnerId with
  | none =>
      obtain ⟨core, -, hcore, -⟩ := ht.1.paired.current hserving.current.2
      exact absurd ((RoomStore.core_eq_none.2 hfind).symm.trans hcore) nofun
  | some partnerSession =>
      have hother := RoomStore.core_of_find hfind
      have hready := ht.1.flagged.ready hserving.current.2 hother
      dsimp only
      split_ifs with hmay
      · simp only [mayStart, Bool.and_eq_true, Bool.not_eq_true'] at hmay
        obtain ⟨⟨⟨⟨hflag, -⟩, -⟩, hunmarked⟩, -⟩ := hmay
        have hstarting : Starting pid sid partnerId matchId acquired t :=
          ⟨hserving, ⟨pid, hserving.readied⟩, hready.1 hflag⟩
        -- a start that was sent would show in the record
        have hunsent : ∀ {sid' peerId}, ¬ StartSent t sid' peerId matchId := fun hsent =>
          absurd (ht.1.starts.flag hsent hserving.current.1 hfound') (by simp [coreOf, hunmarked])
        exact hstarting.keeps_startWebrtc hunsent hunsent
      · refine ⟨hserving, fun hboth => ?_⟩
        -- both are ready and neither is a bot, so one of them is marked
        by_contra hnot
        have hunmarked1 : session.webrtcStarted = false := Bool.eq_false_iff.2 fun hflag =>
          hnot (hbegun' sid _ (.inl rfl) hfound' hflag)
        have hunmarked2 : partnerSession.webrtcStarted = false := Bool.eq_false_iff.2 fun hflag =>
          hnot (hbegun' partnerId _ (.inr rfl) hother hflag)
        have hhuman1 : session.sessionKind ≠ .bot := ht.1.flagged.human hserving.readied hfound'
        obtain ⟨j, hj⟩ := hboth.2
        have hhuman2 : partnerSession.sessionKind ≠ .bot := ht.1.flagged.human hj hother
        have hflag : partnerSession.signalingReady = true := hready.2 ⟨j, hj⟩
        exact hmay (by simp [mayStart, hflag, hhuman1, hhuman2, hunmarked1, hunmarked2])

/-- **A session has just been made ready**: its process serves the match from now on, and a mark from
before belongs to a match that has been started. -/
theorem serving_of_ready {core : Core} (h : Orderly s) (hunready : ∀ sid matchId, ¬ Readied s pid sid matchId)
    (hexactly : HoldsExactly pid acquired s) (hlock1 : s.lock sid = some pid)
    (hlock2 : s.lock partnerId = some pid) (hfound : s.core sid = some core)
    (hpartner : core.partnerId = some partnerId) (hthis1 : s.current sid = some matchId)
    (hthis2 : s.current partnerId = some matchId) (hmatched : Matched s sid partnerId matchId)
    (hc : Disciplined ⟨pid, .updateSession sid { signalingReady := some true }⟩ s) (x : World) :
    Serving pid sid partnerId matchId acquired
        (exec rt x ⟨pid, .updateSession sid { signalingReady := some true }⟩ s).2 ∧
      ∀ sid' core, sid' = sid ∨ sid' = partnerId →
        (exec rt x ⟨pid, .updateSession sid { signalingReady := some true }⟩ s).2.core sid' = some core →
          core.webrtcStarted = true →
            Started (exec rt x ⟨pid, .updateSession sid { signalingReady := some true }⟩ s).2 sid partnerId
              matchId := by
  have horderly := @orderly_of_disciplined rt s x h _ hc
  obtain ⟨session, hfind⟩ : ∃ session, s.find sid = some session := by
    refine Option.ne_none_iff_exists'.1 fun hnone => ?_
    exact absurd (hfound.symm.trans (RoomStore.core_eq_none.2 hnone)) nofun
  have hexec : (exec rt x ⟨pid, .updateSession sid { signalingReady := some true }⟩ s).2 =
      (s.setRecord sid (some ((session.merge { signalingReady := some true }).touchLastActivity x.now))).log
        (.ready pid sid (some matchId)) := by
    simp only [exec, hfind, hthis1, if_true]
  rw [hexec] at horderly ⊢
  have hpast : ∀ {happening}, happening ∈ s.history → happening ∈ ((s.setRecord sid (some ((session.merge
      { signalingReady := some true }).touchLastActivity x.now))).log
        (.ready pid sid (some matchId))).history := fun hmem => mem_log.2 (.inl hmem)
  refine ⟨⟨(h.paired.named hfound hpartner).1, horderly, hexactly, ⟨hlock1, hlock2⟩, ⟨hthis1, hthis2⟩,
    hmatched.imp hpast hpast, mem_log.2 (.inr rfl), fun {sid' matchId'} hready => ?_⟩,
    fun sid' core' hsid' hcore' hflag => ?_⟩
  · rcases mem_log.1 hready with hold | hnew
    · exact absurd hold (hunready sid' matchId')
    · obtain ⟨-, hsid', hmatch⟩ := Happening.ready.inj hnew
      exact ⟨hsid', Option.some_inj.1 hmatch⟩
  · -- a mark from before is that of a match with both ready, which has been settled
    have hold : ∃ old, s.core sid' = some old ∧ old.webrtcStarted = true := by
      have hcore := (@core_update s x sid (session.merge { signalingReady := some true }) sid').symm.trans
        hcore'
      split_ifs at hcore with heq
      · obtain rfl := Option.some_inj.1 hcore
        exact ⟨coreOf session, heq ▸ RoomStore.core_of_find hfind, hflag⟩
      · exact ⟨core', hcore, hflag⟩
    obtain ⟨old, hfound', hflag'⟩ := hold
    have hsettled := h.settled_of_locks hmatched hlock1 hlock2 fun sid' => hunready sid' matchId
    have hboth : BothReady s sid partnerId matchId := by
      rcases hsid' with rfl | rfl
      · exact h.flagged.started hthis1 hfound' hflag' hmatched
      · exact (h.flagged.started hthis2 hfound' hflag' hmatched.symm).symm
    exact (hsettled hboth).imp hpast hpast

/-- **A handler that makes a session ready under both locks** serves its match until nothing is owed to
it. -/
theorem keeps_webrtcReadyUnderLocks {session : Session} (hidle : Idle pid s)
    (hexactly : HoldsExactly pid acquired s) (hknown : Known sid s)
    (hhuman : ∀ core, s.core sid = some core → core.sessionKind ≠ .bot)
    (hpartner : session.partnerId = some partnerId) (hlock1 : s.lock sid = some pid)
    (hlock2 : s.lock partnerId = some pid) (hcore : s.core sid = some (coreOf session)) :
    Keeps rt pid (webrtcReadyUnderLocks pid sid (some session))
      (fun _ t => ∃ matchId, Serving pid sid partnerId matchId acquired t ∧
        Settled t sid partnerId matchId) s := by
  unfold webrtcReadyUnderLocks
  simp only [Option.bind_some, hpartner]
  rw [bind_eq]
  have hfound : ∀ t, Relies pid s t → t.core sid = some (coreOf session) := fun t ht =>
    (ht.2.core hlock1).trans hcore
  have hready : ∀ t, Relies pid s t →
      Disciplined ⟨pid, .updateSession sid { signalingReady := some true }⟩ t := by
    intro t ht
    exact .inr (.inr (.inl ⟨rfl, (ht.2.locks sid).2 hlock1, ht.2.human hknown hhuman,
      ⟨_, partnerId, hfound t ht, hpartner, (ht.2.locks partnerId).2 hlock2⟩, (hidle.relies ht).unready⟩))
  refine kept_updateSession (fun t ht => ⟨rfl, hready t ht⟩) (fun t ht hnone => ?_)
    fun t x found ht hfind => ?_
  · exact absurd ((hfound t ht).symm.trans (RoomStore.core_eq_none.2 hnone)) nofun
  · obtain ⟨matchId, hthis1, hthis2, hmatched⟩ := ht.1.paired.matched (hfound t ht) hpartner
    have hserving := @serving_of_ready rt pid sid partnerId t matchId acquired _ ht.1 (hidle.relies ht).unready
      (fun sid' => (ht.2.locks sid').trans (hexactly sid')) ((ht.2.locks sid).2 hlock1)
      ((ht.2.locks partnerId).2 hlock2) (hfound t ht) hpartner hthis1 hthis2 hmatched (hready t ht) x
    have hpartner' : (found.merge { signalingReady := some true }).partnerId = some partnerId := by
      have hsame : coreOf session = coreOf found :=
        Option.some_inj.1 ((hfound t ht).symm.trans (RoomStore.core_of_find hfind))
      exact (congrArg Core.partnerId hsame).symm.trans hpartner
    refine Kept.mono (Serving.keeps_afterReady hserving.1 ?_ hpartner' hserving.2) fun _ u hu =>
      ⟨matchId, hu⟩
    simp only [exec, hfind]
    exact (core_update sid).trans (if_pos rfl)

/-- **Every message that makes a session ready keeps to the discipline.** -/
theorem keeps_runWebrtcReady (hidle : Idle pid s) (hknown : Known sid s)
    (hhuman : ∀ core, s.core sid = some core → core.sessionKind ≠ .bot) (hnone : HoldsNone pid s) :
    Keeps rt pid (runWebrtcReady pid sid) (fun _ t => HoldsNone pid t) s := by
  -- a session that is no bot's stays so
  let Human (t : RoomStore) : Prop :=
    Known sid t ∧ ∀ core, t.core sid = some core → core.sessionKind ≠ .bot
  have hrules := (lockRules rt pid).and (K := Human)
    (fun ht h => ⟨ht.2.past h.1, ht.2.human h.1 h.2⟩) fun {t} x sid' h => ⟨?_, ?_⟩
  · unfold runWebrtcReady withSessionPartnerLock
    rw [bind_eq]
    refine Kept.bind ((hrules.kept_lockSessionAndPartner ⟨hidle, hknown, hhuman⟩ hknown hnone).mono ?_)
    rintro (_ | held) t ⟨⟨hidle, -, hhuman⟩, hknown, hlocked⟩
    · exact hlocked
    · unfold underLocks
      dsimp only
      rw [bind_eq]
      have hholding : Holding pid held.acquired t := ⟨hidle, hlocked.exactly⟩
      have hrelease : ∀ u (reply : Reply), Holding pid held.acquired u →
          Keeps rt pid ((releaseAll pid held.acquired.reverse).bind fun _ => .ret reply)
            (fun _ t => HoldsNone pid t) u := fun u reply hu =>
        Kept.bind (hu.keeps_releaseAll.mono fun _ v hv => hv)
      rcases locked_cases hidle hlocked with hnone | ⟨session, hsession, hpartner, -⟩ |
        ⟨session, partnerId, hsession, hpartner, hlock1, hlock2, hcore⟩
      · rw [hnone]
        exact hrelease t _ hholding
      · have hprogram : webrtcReadyUnderLocks pid sid (some session) = .ret (.refused "No partner") := by
          simp only [webrtcReadyUnderLocks, Option.bind_some, hpartner, pure_eq]
        rw [hsession, hprogram]
        exact hrelease t _ hholding
      · rw [hsession]
        refine Kept.bind ((keeps_webrtcReadyUnderLocks hidle hlocked.exactly hknown hhuman hpartner
          hlock1 hlock2 hcore).mono fun reply u hu => ?_)
        obtain ⟨matchId, hserving, hsettled⟩ := hu
        rw [bind_eq]
        exact Kept.bind (((hserving.served hsettled).keeps_releaseAll hserving.exactly).mono
          fun _ v hv => hv)
  · refine ⟨?_, ?_⟩
    · rw [Known, (history_lock rt x t pid sid').1]
      exact h.1
    · rw [(core_lock rt x t pid sid').1]
      exact h.2
  · refine ⟨?_, ?_⟩
    · rw [Known, (history_lock rt x t pid sid').2]
      exact h.1
    · rw [(core_lock rt x t pid sid').2]
      exact h.2

end Programs

end Contract

/-! ### The handlers side by side -/

inductive RoomTask
  | skip (pid : Pid) (sid : SessionId)
  | stop (pid : Pid) (sid : SessionId)
  | close (pid : Pid) (sid : SessionId) (reason : String)
  | webrtcReady (pid : Pid) (sid : SessionId)
  | pairUsers (pid : Pid) (sid1 sid2 : SessionId)
  | pairWithHuman (pid : Pid) (humanSessionId botSessionId : SessionId)

def RoomTask.pid : RoomTask → Pid
  | .skip pid _ => pid
  | .stop pid _ => pid
  | .close pid _ _ => pid
  | .webrtcReady pid _ => pid
  | .pairUsers pid _ _ => pid
  | .pairWithHuman pid _ _ => pid

section System

variable (rt : Runtime) (text : Matchmaker.Text) (config : Matchmaker.Config)

def RoomTask.program : RoomTask → RoomProg Reply
  | .skip pid sid => Rooms.skip text config pid sid
  | .stop pid sid => Rooms.stop pid sid
  | .close pid sid reason => closeSession pid sid reason
  | .webrtcReady pid sid => runWebrtcReady pid sid
  | .pairUsers pid sid1 sid2 => Rooms.pairUsers pid sid1 sid2
  | .pairWithHuman pid humanSessionId botSessionId =>
      Rooms.pairWithHuman pid humanSessionId botSessionId

/-- **Any number of handlers**, and commands of others in between. -/
def roomSystem :
    Pool.System RoomTask World (World × RoomCmd) RoomCmd.Reply RoomError RoomStore Reply where
  program := RoomTask.program text config
  exec := exec rt
  spawns _ _ := []
  env n s := some (exec rt n.1 n.2 s).2

end System

abbrev RoomConfig := Pool.Config RoomTask RoomCmd.Reply RoomError RoomStore Reply

abbrev RoomEvent := Pool.Event RoomTask World (World × RoomCmd) RoomError

/-! ### The law -/

/-- A task fits the rooms: its sessions have been created, and only the channel of a human tells that it is
ready. -/
def RoomTask.Fits (s : RoomStore) : RoomTask → Prop
  | .skip _ sid => Known sid s
  | .stop _ sid => Known sid s
  | .close _ sid _ => Known sid s
  | .webrtcReady _ sid => Known sid s ∧
      ∀ session, s.find sid = some session → session.sessionKind ≠ .bot
  | .pairUsers _ sid1 sid2 => sid1 ≠ sid2 ∧ Known sid1 s ∧ Known sid2 s
  | .pairWithHuman _ sid1 sid2 => sid1 ≠ sid2 ∧ Known sid1 s ∧ Known sid2 s

/-- **What others may do besides**: they create sessions, keep queues and owners, take locks of their own,
update what is no matter of matches, and write the records of a match as they are, when nobody else
has locked them. -/
def Besides (c : RoomCmd) (s : RoomStore) : Prop :=
  match c with
  | ⟨_, .persistSession session⟩ => .created session.id ∉ s.history ∧ session.partnerId = none
  | ⟨_, .updateSession _ updates⟩ => updates.partnerId = none ∧ updates.sessionKind = none ∧
      updates.redisShard = none ∧ updates.signalingReady = none ∧ updates.webrtcStarted = none
  | ⟨pid, .pairScript session1 session2⟩ => session1.id ≠ session2.id ∧
      (Free pid s session1.id ∧ Free pid s session2.id) ∧
      (s.core session1.id = some (coreOf session1) ∧ session1.partnerId = none) ∧
      (s.core session2.id = some (coreOf session2) ∧ session2.partnerId = none) ∧
      session1.redisShard = session2.redisShard
  | ⟨pid, .resetPairScript session1 session2⟩ =>
      (Free pid s session1.id ∧ Free pid s session2.id) ∧
      s.core session1.id = some (coreOf session1) ∧ s.core session2.id = some (coreOf session2) ∧
      session1.partnerId = some session2.id
  | ⟨_, .emergencyDisconnectScript _⟩ => False
  | ⟨pid, .deleteSession sid⟩ => Free pid s sid ∧
      ∀ core, s.core sid = some core → core.partnerId = none
  | ⟨_, .send _ (.webrtcStart _)⟩ => False
  | _ => True

/-- A token of its own: no handler has it, no lock was taken with it, and it has made nobody ready. -/
def Unused (pid : Pid) (cfg : RoomConfig) : Prop :=
  (∀ p ∈ cfg.procs, p.op.pid ≠ pid) ∧ ∀ sid matchId, ¬ Readied cfg.store pid sid matchId

/-- **Locks are held as the handlers hold them**, and no command fails. -/
def Permitted (cfg : RoomConfig) : RoomEvent → Prop
  | .start task => Unused task.pid cfg ∧ HoldsNone task.pid cfg.store ∧ task.Fits cfg.store
  | .advance _ _ => True
  | .fail _ _ => False
  | .env n => Unused n.2.pid cfg ∧ Besides n.2 cfg.store

/-- A message that makes the session ready has been processed while its record was of this match, and its
handler is done. -/
def Processed (cfg : RoomConfig) (sid : SessionId) (matchId : MatchId) : Prop :=
  ∃ p ∈ cfg.procs, (∃ pid, p.op = .webrtcReady pid sid ∧ Readied cfg.store pid sid matchId) ∧
    ∃ reply, p.rest = .ret reply

/-- **The start of a match**: each partner is told at most once, and nobody else; by then a message of each
partner has been processed in this match; and when one of each is fully processed, both are told. -/
def StartedOnce (cfg : RoomConfig) : Prop :=
  (∀ sid peerId matchId?, .sent sid (.webrtcStart peerId) matchId? ∈ cfg.store.history →
    ∃ matchId, matchId? = some matchId ∧ Matched cfg.store sid peerId matchId) ∧
  ∀ sid1 sid2 matchId, Matched cfg.store sid1 sid2 matchId →
    cfg.store.history.count (.sent sid1 (.webrtcStart sid2) (some matchId)) ≤ 1 ∧
    (∀ past, past ++ [.sent sid1 (.webrtcStart sid2) (some matchId)] <+: cfg.store.history →
      (∃ pid, .ready pid sid1 (some matchId) ∈ past) ∧ ∃ pid, .ready pid sid2 (some matchId) ∈ past) ∧
    (Processed cfg sid1 matchId → Processed cfg sid2 matchId →
      StartSent cfg.store sid1 sid2 matchId ∧ StartSent cfg.store sid2 sid1 matchId)

/-! ### The proof of the law -/

def taskContract : Pool.Contract RoomTask RoomCmd RoomError RoomStore Reply where
  inv := Orderly
  rely task := Relies task.pid
  guard task := Guards task.pid
  post task _ s := HoldsNone task.pid s
  faults _ := False

theorem lawful_taskContract : taskContract.Lawful where
  refl _ s h := ⟨h, .refl _ s⟩
  trans _ _ _ _ h h' := ⟨h'.1, h.2.trans h'.2⟩
  stable _ _ _ _ hpost h sid hheld := hpost sid ((h.2.locks sid).1 hheld)

section Law

variable {rt : Runtime} {text : Matchmaker.Text} {config : Matchmaker.Config} {s : RoomStore}
  {cfg cfg' : RoomConfig} {sid : SessionId} {matchId : MatchId}

/-- **Every handler keeps to the discipline**, and leaves no lock behind. -/
theorem keeps_task {task : RoomTask} (hs : Orderly s) (hfits : task.Fits s)
    (hnone : HoldsNone task.pid s) (hunready : ∀ sid matchId, ¬ Readied s task.pid sid matchId) :
    Keeps rt task.pid (task.program text config) (fun _ t => HoldsNone task.pid t) s := by
  cases task with
  | skip pid sid => exact keeps_skip ⟨hs, hunready⟩ hfits hnone
  | stop pid sid => exact keeps_stop ⟨hs, hunready⟩ hfits hnone
  | close pid sid reason => exact keeps_closeSession ⟨hs, hunready⟩ hfits hnone
  | webrtcReady pid sid =>
      refine keeps_runWebrtcReady ⟨hs, hunready⟩ hfits.1 (fun core hfound => ?_) hnone
      rw [← RoomStore.map_coreOf_find] at hfound
      obtain ⟨session, hfind, rfl⟩ := Option.map_eq_some_iff.1 hfound
      exact hfits.2 session hfind
  | pairUsers pid sid1 sid2 => exact keeps_pairUsers ⟨hs, hunready⟩ hfits.1 hfits.2.1 hfits.2.2 hnone
  | pairWithHuman pid sid1 sid2 =>
      exact keeps_pairWithHuman ⟨hs, hunready⟩ hfits.1 hfits.2.1 hfits.2.2 hnone

/-- What others do besides is disciplined. -/
theorem disciplined_of_besides {c : RoomCmd} (h : Besides c s)
    (hunready : ∀ sid matchId, ¬ Readied s c.pid sid matchId) : Disciplined c s := by
  obtain ⟨pid, op⟩ := c
  cases op with
  | persistSession session => exact h
  | updateSession sid updates =>
      obtain ⟨hpartner, hkind, hshard, hready, hstarted⟩ := h
      exact .inl fun session => by simp [coreOf, Session.merge, hpartner, hkind, hshard, hready, hstarted]
  | pairScript session1 session2 => exact h
  | resetPairScript session1 session2 => exact ⟨h.1, h.2.1, h.2.2.1, h.2.2.2, hunready⟩
  | emergencyDisconnectScript sid => exact h
  | deleteSession sid => exact h
  | unlock sid => exact fun _ matchId _ _ hready => absurd hready (hunready sid matchId)
  | send sid message =>
      cases message with
      | webrtcStart peerId => exact h.elim
      | _ => trivial
  | _ => trivial

/-- No two handlers have the same token. -/
def Distinct (cfg : RoomConfig) : Prop := (cfg.procs.map fun p => p.op.pid).Nodup

theorem distinct_step {ev : RoomEvent} (h : Distinct cfg) (hok : Permitted cfg ev)
    (hs : Pool.step (roomSystem rt text config) cfg ev = some cfg') : Distinct cfg' := by
  refine Pool.nodup_token_step (fun _ _ => rfl) ?_ hs h
  rintro task rfl p hp
  exact hok.1.1 p hp

/-- Another process has another token. -/
theorem Distinct.ne (h : Distinct cfg) {i j : ℕ}
    {p q : Pool.Process RoomTask RoomCmd.Reply RoomError Reply} (hne : j ≠ i)
    (hi : cfg.procs[i]? = some p) (hj : cfg.procs[j]? = some q) : q.op.pid ≠ p.op.pid :=
  Pool.token_ne h hne hi hj

theorem keeps_of_run {l : List RoomEvent}
    (hrun : Run (Pool.step (roomSystem rt text config)) Permitted (Pool.idle s) l cfg)
    (hs : Orderly s) : taskContract.Keeps (roomSystem rt text config) cfg := by
  have hrun' := hrun.strengthen (I := Distinct) (fun cfg ev cfg' h hok hs => distinct_step h hok hs)
    List.nodup_nil
  have h₀ : taskContract.Keeps (roomSystem rt text config) (Pool.idle s) :=
    ⟨hs, fun p hp => absurd hp List.not_mem_nil⟩
  refine Pool.Contract.keeps_of_run lawful_taskContract ?_ ?_ ?_ ?_ h₀ hrun'
  · rintro cfg task hkeeps ⟨⟨⟨-, hunready⟩, hnone, hfits⟩, -⟩
    exact keeps_task hkeeps.1 hfits hnone hunready
  · rintro cfg i x task c next hkeeps ⟨-, hdistinct⟩ hget ⟨hpid, hc⟩
    refine ⟨orderly_of_disciplined hkeeps.1 hc, fun _ h => absurd h List.not_mem_nil, fun j p hne hj => ?_⟩
    have hother : p.op.pid ≠ c.pid := by
      rw [hpid]
      exact hdistinct.ne hne hget hj
    exact .inl ⟨orderly_of_disciplined hkeeps.1 hc, leaves_of_disciplined hkeeps.1 hc hother⟩
  · rintro cfg ⟨x, c⟩ store hkeeps ⟨⟨⟨hunused, hunready⟩, hbesides⟩, -⟩ hstore
    obtain rfl := Option.some_inj.1 hstore
    have hc := disciplined_of_besides hbesides hunready
    have hs := @orderly_of_disciplined rt cfg.store x hkeeps.1 c hc
    exact ⟨hs, fun p hp => .inl ⟨hs, leaves_of_disciplined hkeeps.1 hc (hunused p hp)⟩⟩
  · rintro cfg i e ⟨hfalse, -⟩
    exact hfalse

/-- Nothing has happened yet. -/
theorem orderly_roomsOf : Orderly (roomsOf fun _ => none) where
  paired := by constructor <;> simp [roomsOf, RoomStore.core, Matched]
  flagged := by constructor <;> simp [roomsOf, RoomStore.core, Readied, Matched]
  starts := by constructor <;> simp [roomsOf, RoomStore.core, StartSent, Matched]

/-- **A match is started once**, whatever the interleaving. -/
theorem started_once {l : List RoomEvent}
    (hrun : Run (Pool.step (roomSystem rt text config)) Permitted
      (Pool.idle (roomsOf fun _ => none)) l cfg) : StartedOnce cfg := by
  obtain ⟨hs, hprocs⟩ := keeps_of_run hrun orderly_roomsOf
  -- a handler that is done holds no lock
  have hdone : ∀ {p reply}, p ∈ cfg.procs → p.rest = .ret reply → HoldsNone p.op.pid cfg.store := by
    intro p reply hp hret
    have hsecure := hprocs p hp
    rw [Pool.Contract.Secures, hret] at hsecure
    exact hsecure
  refine ⟨fun sid peerId matchId? hsent => hs.starts.ofMatch hsent, fun sid1 sid2 matchId hmatched =>
    ⟨hs.starts.once sid1 sid2 matchId, fun past hpast => hs.starts.after hpast, ?_⟩⟩
  rintro ⟨p, hp, ⟨i, hpi, hi⟩, replyP, hretP⟩ ⟨q, hq, ⟨j, hqj, hj⟩, replyQ, hretQ⟩
  rcases hs.starts.owed hmatched with hsettled | ⟨pid, ⟨hheld, -, -, hsole⟩ | ⟨hheld, -, -, hsole⟩⟩
  · exact hsettled ⟨⟨i, hi⟩, j, hj⟩
  · -- the handler that is responsible would be the one that is done
    obtain rfl := hsole i hi
    have hnone := hdone hp hretP
    rw [hpi] at hnone
    exact absurd hheld (hnone sid1)
  · obtain rfl := hsole j hj
    have hnone := hdone hq hretQ
    rw [hqj] at hnone
    exact absurd hheld (hnone sid2)

end Law

/-! ### A run -/

/-- A session that waits. -/
def waitingAs (sid : SessionId) : Session := { Sessions.waitingSession with id := sid }

def startWorld : World := ⟨60, "8"⟩

def exampleSystem : Pool.System RoomTask World (World × RoomCmd) RoomCmd.Reply RoomError RoomStore Reply :=
  roomSystem Sessions.asciiRuntime Matchmaker.asciiText Matchmaker.defaultConfig

/-- Sessions a and b are matched, and a message of each comes in. -/
def matchedEvents : List RoomEvent :=
  [.env (startWorld, ⟨9, .persistSession (waitingAs "a")⟩),
    .env (startWorld, ⟨9, .persistSession (waitingAs "b")⟩),
    .env (startWorld, ⟨9, .pairScript (waitingAs "a") (waitingAs "b")⟩),
    .start (.webrtcReady 1 "a"), .start (.webrtcReady 2 "b")]

/-- The handler of b finds the locks taken at first. -/
def handlerSteps : List RoomEvent :=
  List.replicate 3 (.advance 0 startWorld) ++ List.replicate 2 (.advance 1 startWorld) ++
    List.replicate 5 (.advance 0 startWorld) ++ List.replicate 12 (.advance 1 startWorld)

def matchedConfig : RoomConfig :=
  (Transition.exec (Pool.step exampleSystem) (Pool.idle (roomsOf fun _ => none)) matchedEvents).getD
    (Pool.idle (roomsOf fun _ => none))

theorem run_matchedEvents : Run (Pool.step exampleSystem) Permitted (Pool.idle (roomsOf fun _ => none))
    matchedEvents matchedConfig := by
  have hunused : ∀ pid, Unused pid (Pool.idle (roomsOf fun _ => none) : RoomConfig) := by
    intro pid
    simp [Unused, Pool.idle, Readied, roomsOf]
  refine .head ⟨hunused 9, ?_⟩ rfl (.head ⟨?_, ?_⟩ rfl (.head ⟨?_, ?_⟩ rfl
    (.head ⟨?_, ?_, ?_⟩ rfl (.head ⟨?_, ?_, ?_⟩ rfl (.refl _)))))
  · simp [Besides, waitingAs, Sessions.waitingSession, Pool.idle, roomsOf]
  · simp [Unused, Pool.idle, roomsOf, Readied, exec, RoomStore.log, RoomStore.setRecord]
  · simp [Besides, waitingAs, Sessions.waitingSession, Pool.idle, roomsOf, exec, RoomStore.log,
      RoomStore.setRecord]
  · simp [Unused, Pool.idle, roomsOf, Readied, exec, RoomStore.log, RoomStore.setRecord]
  · simp [Besides, Free, waitingAs, Sessions.waitingSession, Pool.idle, roomsOf, exec, RoomStore.log,
      RoomStore.setRecord, RoomStore.core, coreOf]
  · simp [Unused, Pool.idle, roomsOf, Readied, exec, RoomStore.log, RoomStore.setRecord,
      RoomStore.setPair, RoomStore.setMatch]
  · simp [HoldsNone, Pool.idle, roomsOf, exec, RoomStore.log, RoomStore.setRecord, RoomStore.setPair,
      RoomStore.setMatch]
  · refine ⟨?_, ?_⟩
    · simp [Known, Pool.idle, roomsOf, exec, RoomStore.log, RoomStore.setRecord, RoomStore.setPair,
        RoomStore.setMatch, waitingAs]
    · simp [RoomStore.find, Pool.idle, roomsOf, exec, RoomStore.log, RoomStore.setRecord,
        RoomStore.setPair, RoomStore.setMatch, waitingAs, Sessions.Session.matchedWith,
        Sessions.waitingSession]
  · simp [Unused, Pool.idle, roomsOf, Readied, exec, RoomStore.log, RoomStore.setRecord,
      RoomStore.setPair, RoomStore.setMatch, Pool.System.launch, RoomTask.pid]
  · simp [HoldsNone, Pool.idle, roomsOf, exec, RoomStore.log, RoomStore.setRecord, RoomStore.setPair,
      RoomStore.setMatch]
  · refine ⟨?_, ?_⟩
    · simp [Known, Pool.idle, roomsOf, exec, RoomStore.log, RoomStore.setRecord, RoomStore.setPair,
        RoomStore.setMatch, waitingAs]
    · simp [RoomStore.find, Pool.idle, roomsOf, exec, RoomStore.log, RoomStore.setRecord,
        RoomStore.setPair, RoomStore.setMatch, waitingAs, Sessions.Session.matchedWith,
        Sessions.waitingSession]

/-- A handler takes its next command. -/
def IsAdvance : RoomEvent → Bool
  | .advance _ _ => true
  | _ => false

/-- **Both are ready, and both are told to start.** -/
theorem started_once_both_ready : ∃ cfg, Run (Pool.step exampleSystem) Permitted
    (Pool.idle (roomsOf fun _ => none)) (matchedEvents ++ handlerSteps) cfg ∧
      StartSent cfg.store "a" "b" 0 ∧ StartSent cfg.store "b" "a" 0 ∧ StartedOnce cfg := by
  have hsteps : (Transition.execWhere (Pool.step exampleSystem) (fun _ ev => IsAdvance ev = true)
      matchedConfig handlerSteps).any (fun cfg =>
        decide (.sent "a" (.webrtcStart "b") (some 0) ∈ cfg.store.history) &&
          decide (.sent "b" (.webrtcStart "a") (some 0) ∈ cfg.store.history)) = true := by
    decide +kernel
  obtain ⟨cfg, hrun, hsent⟩ := exists_run_of_execWhere hsteps
  have hadvance : ∀ (cfg : RoomConfig) (ev : RoomEvent), IsAdvance ev = true → Permitted cfg ev := by
    rintro cfg (task | ⟨i, x⟩ | ⟨i, e⟩ | n) hev
    · cases hev
    · trivial
    · cases hev
    · cases hev
  have hall := run_matchedEvents.append (hrun.mono hadvance)
  simp only [Bool.and_eq_true, decide_eq_true_eq] at hsent
  exact ⟨cfg, hall, hsent.1, hsent.2, started_once hall⟩

end Rooms
