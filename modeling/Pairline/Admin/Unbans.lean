/-
**Lifting one ban of several.**

A ban in the database is for a session, an address, or both; lifting it publishes an unban for each
of its targets that has no other active ban.  A session has one flag for all its bans.  The handler
for a session clears it whether or not the address of the session is banned, and the handler for an
address clears it for all sessions of the address, also those with bans of their own.

Here bans are created and lifted one after another, and what each publishes is handled at once.

Main definitions:

* `Admin.Moderation`, `Admin.Moderation.step` — **a ban is created or lifted, from the database to
  the records of the sessions**;
* `Admin.KeepsCovered` — a banned session that an active ban still covers stays banned;
* `Admin.LiftsAlone` — no session that is unbanned has an active ban by its other target.

Main results:

* `Admin.records_unbanned` — which sessions a lifted ban unbans;
* `Admin.unbanPrecision_iff` — **the sessions that are covered stay banned in exactly those runs in
  which bans are lifted alone**;
* `Admin.ownBan_is_lifted` — with the ban of an address the own ban of a session is lifted.
-/

import Mathlib.Logic.Basic
import Pairline.Admin.Published
import Pairline.Bans.Calls

set_option relaxedAutoImplicit false
set_option autoImplicit false

namespace Admin

open Transition
open Bans (Ban Target Instr AdminAction activeBanLookup deactivate findBan newBan newest remainingBan
  Request)
open Matchmaker (SessionId)
open Sessions (Session)

/-! ### Bans from the database to the records -/

/-- The transaction of `CreateOrRefreshBan`, alone. -/
def createOrRefreshBan (rows : List Ban) (request : Request) (id : String) (now : ℤ) : Bans.Outcome :=
  match newest (activeBanLookup rows request now) with
  | some ban => .existing ban
  | none => .created (newBan request id now)

/-- The transaction of `DeleteBan`, alone. -/
def deleteBan (rows : List Ban) (banIdentifier : String) (now : ℤ) : Option Bans.Outcome :=
  (findBan rows banIdentifier).map fun ban =>
    .deleted ban (remainingBan rows ban (.session ban.sessionId) now)
      (remainingBan rows ban (.ip ban.ipAddress) now)

/-- The commands of a propagation, one after another. -/
def propagate (now : ℤ) : Option ℤ → List Instr → Bans.Redis → Bans.Redis
  | _, [], redis => redis
  | ttl, instr :: instrs, redis =>
      propagate now (redis.exec now ttl instr).2 instrs (redis.exec now ttl instr).1

/-- The handlers of some actions, one after another. -/
def handleAll (reader : Reader) (x : World) : List AdminAction → Shared → Shared
  | [], d => d
  | action :: actions, d =>
      handleAll reader x actions ((handlePublished reader action).run (fun c d => d.exec x c) d).2

structure Moderation where
  now : ℤ
  rows : List Ban
  shared : Shared

inductive ModerationEvent
  | ban (request : Request) (id : String)
  | lift (banIdentifier : String)
  | tick (d : ℕ)

/-- **A transaction is committed, propagated, and the entries that this publishes are handled.** -/
def Moderation.settle (reader : Reader) (m : Moderation) (outcome : Bans.Outcome) : Moderation :=
  let redis := propagate m.now none outcome.propagation m.shared.redis
  { m with
    rows := outcome.apply m.rows
    shared := handleAll reader ⟨m.now, []⟩ (redis.stream.drop m.shared.redis.stream.length)
      { m.shared with redis := redis } }

/-- **One event**: a ban is created, with a new id, or lifted, or time passes. -/
def Moderation.step (reader : Reader) (m : Moderation) : ModerationEvent → Option Moderation
  | .ban request id =>
      if m.rows.all fun row => row.id ≠ id then
        some (m.settle reader (createOrRefreshBan m.rows request id m.now))
      else none
  | .lift banIdentifier => (deleteBan m.rows banIdentifier m.now).map (m.settle reader)
  | .tick d => some { m with now := m.now + d }

/-! ### The law -/

/-- An active ban covers a session, by its id or by its address. -/
def StillCovered (rows : List Ban) (sid : SessionId) (session : Session) (now : ℤ) : Prop :=
  ∃ row ∈ rows, row.activeAt now = true ∧ ∃ target ∈ row.targets, target ∈ Bans.targets sid session.ip

/-- **A banned session that an active ban still covers stays banned.** -/
def KeepsCovered (reader : Reader) (m : Moderation) (ev : ModerationEvent) : Prop :=
  ∀ m', m.step reader ev = some m' → ∀ sid, ∀ session ∈ m.shared.store.records sid,
    session.banStatus = true → StillCovered m'.rows sid session m'.now →
      ∀ session' ∈ m'.shared.store.records sid, session'.banStatus = true

/-- The handlers accept a target: the id is a UUID, the address is one. -/
def accepted (reader : Reader) : Target → Bool
  | .session sid => uuid sid
  | .ip ip => reader.validIp ip

/-- The sessions that are unbanned with a target. -/
def sessionsOf (s : AdminStore) : Target → List SessionId
  | .session sid => [sid]
  | .ip ip => s.ipSessions ip

/-- **A ban is lifted alone**: a banned session that is unbanned with one of its targets, because it
was the last active ban of the target, has no active ban by its other target, which is its address
or its id. -/
def LiftsAlone (reader : Reader) (m : Moderation) : ModerationEvent → Prop
  | .lift banIdentifier => ∀ ban ∈ findBan m.rows banIdentifier, ∀ target ∈ ban.targets,
      accepted reader target = true → remainingBan m.rows ban target m.now = none →
        ∀ sid ∈ sessionsOf m.shared.store target, ∀ session ∈ m.shared.store.records sid,
          session.banStatus = true → ∀ other ∈ Bans.targets sid session.ip, other ≠ target →
            ∀ row ∈ deactivate m.rows ban.id, other ∈ row.targets → row.activeAt m.now = false
  | _ => True

/-! ### Handlers that ban -/

section Banning

variable {reader : Reader} {x : World} {c : AdminOp} {sid : SessionId} {d d' : Shared} {α β : Type}

/-- A command that merges updates into a record. -/
def AdminOp.isUpdate : AdminOp → Bool
  | .updateSession _ _ => true
  | _ => false

/-- A program that merges no updates. -/
abbrev OnlyBans (p : AdminProg α) : Prop := p.All fun c => c.isUpdate = false

theorem onlyBans_andThen {p : AdminProg (Outcome α)} {f : α → AdminProg (Outcome β)}
    (hp : OnlyBans p) (hf : ∀ a, OnlyBans (f a)) : OnlyBans (andThen p f) := by
  refine hp.bind fun a => ?_
  cases a with
  | ended a => exact hf a
  | raised => trivial

theorem onlyBans_zrem (sid : SessionId) (queueKeys : List String) :
    OnlyBans (Program.pipeline (queueKeys.map (AdminOp.zrem · sid))) := by
  refine Program.All.pipeline fun c hc => ?_
  obtain ⟨queueKey, -, rfl⟩ := List.mem_map.1 hc
  rfl

theorem onlyBans_leaveQueue (sid : SessionId) : OnlyBans (leaveQueue sid) := by
  refine ⟨rfl, fun reply => ?_⟩
  match reply with
  | .ok (some []) => trivial
  | .ok (some (queueKey :: queueKeys)) => exact onlyBans_zrem sid _
  | .ok none =>
      refine ⟨rfl, fun reply => ?_⟩
      match reply with
      | .ok queueKeys => exact onlyBans_zrem sid queueKeys
      | .error _ => trivial
  | .error _ => trivial

theorem onlyBans_disconnectKnownPartner (partnerId sid : SessionId) :
    OnlyBans (disconnectKnownPartner partnerId sid) := by
  refine ⟨rfl, fun partner => ⟨rfl, fun reply => ?_⟩⟩
  match reply with
  | .ok .ok => exact ⟨rfl, fun _ => trivial⟩
  | .ok .notFound => trivial
  | .ok .partnerChanged => trivial
  | .error _ => trivial

theorem onlyBans_cutOff (sid : SessionId) (message : AdminMessage) (partnerId : Option SessionId) :
    OnlyBans (cutOff sid message partnerId) := by
  refine (onlyBans_leaveQueue sid).bind fun _ => ⟨rfl, fun _ => ?_⟩
  cases partnerId with
  | some partnerId => exact onlyBans_disconnectKnownPartner partnerId sid
  | none => trivial

theorem onlyBans_emergencyBan (sid : SessionId) (reason : Json) :
    OnlyBans (emergencyBan sid reason) := by
  unfold emergencyBan
  split
  next => trivial
  next text _ =>
      refine ⟨rfl, fun reply => ?_⟩
      match reply with
      | .ok .notFound => trivial
      | .ok .alreadyBanned => trivial
      | .ok (.parted partnerId) => exact (onlyBans_cutOff sid _ partnerId).bind fun _ => trivial
      | .error _ => trivial

theorem onlyBans_emergencyBanAll (reason : Json) (sids : List SessionId) :
    OnlyBans (emergencyBanAll reason sids) := by
  induction sids with
  | nil => trivial
  | cons sid sids ih =>
      exact onlyBans_andThen (onlyBans_emergencyBan sid reason) fun _ =>
        onlyBans_andThen ih fun _ => trivial

theorem onlyBans_pruneStaleSessionIds (ip : String) (sids : List SessionId) :
    OnlyBans (pruneStaleSessionIds ip sids) := by
  cases sids with
  | nil => trivial
  | cons sid sids => exact ⟨rfl, fun _ => trivial⟩

theorem onlyBans_getSessionsByIp (ip : String) : OnlyBans (getSessionsByIp ip) := by
  refine ⟨rfl, fun reply => ?_⟩
  match reply with
  | .error _ => trivial
  | .ok sids =>
      refine ⟨rfl, fun reply => ?_⟩
      match reply with
      | .error _ => trivial
      | .ok found => exact (onlyBans_pruneStaleSessionIds ip _).bind fun _ => trivial

theorem onlyBans_emergencyBanIp (ip : String) (reason : Json) :
    OnlyBans (emergencyBanIp ip reason) := by
  refine (onlyBans_getSessionsByIp ip).bind fun answer => ?_
  match answer with
  | .error _ => trivial
  | .ok sids =>
      refine onlyBans_andThen (onlyBans_emergencyBanAll reason sids) fun _ => ?_
      split
      · trivial
      · refine ⟨rfl, fun reply => ?_⟩
        match reply with
        | .ok _ => trivial
        | .error _ => trivial

theorem onlyBans_logged (value : Json) : OnlyBans (logged value) := by
  unfold logged
  split <;> trivial

/-- What a ban publishes. -/
def AdminAction.isBan : AdminAction → Bool
  | .ban _ _ _ => true
  | .banIP _ _ => true
  | _ => false

theorem onlyBans_handlePublished {action : AdminAction} (h : AdminAction.isBan action = true) :
    OnlyBans (handlePublished reader action) := by
  cases action with
  | ban sessionId ipAddress reason =>
      simp only [handlePublished, published, handleAdminAction]
      split
      · exact onlyBans_andThen (onlyBans_emergencyBan _ _) fun _ => onlyBans_logged _
      · trivial
  | banIP ipAddress reason =>
      simp only [handlePublished, published, handleAdminAction]
      split
      · refine onlyBans_andThen (onlyBans_emergencyBanIp _ _) fun answer => ?_
        match answer with
        | .ok _ => exact onlyBans_logged _
        | .error _ => trivial
      · trivial
  | unban _ _ => cases h
  | unbanIP _ => cases h

/-- What a program that merges no updates does to a record keeps the flag. -/
theorem banStatus_setRecord {s : AdminStore} {session session' : Session} {other : SessionId}
    (hget : s.records other = some session)
    (hother : session.banStatus = true → session'.banStatus = true) (h : ∀ session ∈ s.records sid, session.banStatus = true) :
    ∀ session ∈ (s.setRecord other session').records sid, session.banStatus = true := by
  by_cases hsid : sid = other
  · subst hsid
    have hbanned := hother (h session hget)
    simpa [AdminStore.setRecord] using hbanned
  · simpa [AdminStore.setRecord, hsid] using h

theorem banStatus_exec {s : AdminStore} (hc : c.isUpdate = false)
    (h : ∀ session ∈ s.records sid, session.banStatus = true) :
    ∀ session ∈ (exec x c s).2.records sid, session.banStatus = true := by
  cases c with
  | atomicEmergencyBan other reason =>
      cases hget : s.records other with
      | none => simpa only [exec, hget] using h
      | some session =>
          cases hstatus : session.banStatus
          · have hset : ∀ other' ∈ (s.setRecord other (session.banned reason x.now)).records sid,
                other'.banStatus = true := banStatus_setRecord hget (fun _ => rfl) h
            simpa [exec, hget, hstatus] using hset
          · simpa [exec, hget, hstatus] using h
  | atomicEmergencyDisconnect other =>
      cases hget : s.records other with
      | none => simpa only [exec, hget] using h
      | some session =>
          have hset : ∀ other' ∈ (s.setRecord other (session.disconnected x.now)).records sid,
              other'.banStatus = true := banStatus_setRecord hget id h
          simpa only [exec, hget] using hset
  | atomicDisconnectPartner partnerId expectedPeerId =>
      cases hget : s.records partnerId with
      | none => simpa only [exec, hget] using h
      | some session =>
          have hset : ∀ other' ∈ (s.setRecord partnerId (session.parted x.now)).records sid,
              other'.banStatus = true := banStatus_setRecord hget id h
          by_cases hpartner : session.partnerId = some expectedPeerId
          · simpa only [exec, hget, if_pos hpartner] using hset
          · simpa only [exec, hget, if_neg hpartner] using h
  | updateSession _ _ => cases hc
  | _ => exact h

/-- **Who was banned is banned.** -/
def StayBanned (d d' : Shared) : Prop :=
  ∀ sid, (∀ session ∈ d.store.records sid, session.banStatus = true) →
    ∀ session ∈ d'.store.records sid, session.banStatus = true

theorem stayBanned_run {p : AdminProg α} (h : OnlyBans p) :
    StayBanned d (p.run (fun c d => d.exec x c) d).2 := by
  have hstep : ∀ c : AdminOp, c.isUpdate = false → ∀ d' : Shared, StayBanned d d' →
      StayBanned d (d'.exec x c).2 :=
    fun c hc d' hstay sid hbanned => banStatus_exec (s := d'.view) hc (hstay sid hbanned)
  exact h.run_invariant hstep fun _ => id

end Banning

/-! ### Handlers that unban -/

section Unbanning

variable {reader : Reader} {x : World} {sid : SessionId} {d d' : Shared}

/-- **Some sessions are unbanned**, and the records of the others stay as they are. -/
structure Unbanned (sids : List SessionId) (d d' : Shared) : Prop where
  others : ∀ sid ∉ sids, d'.store.records sid = d.store.records sid
  found : ∀ sid, (d'.store.records sid).isSome = (d.store.records sid).isSome
  unbanned : ∀ sid ∈ sids, ∀ session ∈ d'.store.records sid, session.banStatus = false

theorem unbanned_of_eq (h : d'.store.records = d.store.records) : Unbanned [] d d' :=
  ⟨fun _ _ => by rw [h], fun _ => by rw [h], fun _ hsid => absurd hsid List.not_mem_nil⟩

theorem Unbanned.trans {sids sids' : List SessionId} {d'' : Shared} (h : Unbanned sids d d')
    (h' : Unbanned sids' d' d'') : Unbanned (sids ++ sids') d d'' := by
  refine ⟨fun sid hsid => ?_, fun sid => (h'.found sid).trans (h.found sid), fun sid hsid => ?_⟩
  · rw [List.mem_append, not_or] at hsid
    exact (h'.others sid hsid.2).trans (h.others sid hsid.1)
  · by_cases hlater : sid ∈ sids'
    · exact h'.unbanned sid hlater
    · rw [h'.others sid hlater]
      exact h.unbanned sid ((List.mem_append.1 hsid).resolve_right hlater)

theorem records_updateSession (x : World) (d : Shared) (sid : SessionId) (updates : Sessions.Updates)
    (other : SessionId) : (d.exec x (.updateSession sid updates)).2.store.records other =
      if other = sid then
        (d.store.records sid).map fun session => (session.merge updates).touchLastActivity x.now
      else d.store.records other := by
  cases hget : d.store.records sid with
  | none =>
      by_cases hother : other = sid
      · subst hother
        simp [Shared.exec, exec, Shared.view, Shared.put, hget]
      · simp [Shared.exec, exec, Shared.view, Shared.put, hget, hother]
  | some session =>
      by_cases hother : other = sid
      · subst hother
        simp [Shared.exec, exec, Shared.view, Shared.put, AdminStore.setRecord, hget]
      · simp [Shared.exec, exec, Shared.view, Shared.put, AdminStore.setRecord, hget, hother]

theorem ipSessions_updateSession (x : World) (d : Shared) (sid : SessionId)
    (updates : Sessions.Updates) :
    (d.exec x (.updateSession sid updates)).2.store.ipSessions = d.store.ipSessions := by
  cases hget : d.store.records sid with
  | none => simp [Shared.exec, exec, Shared.view, Shared.put, hget]
  | some session => simp [Shared.exec, exec, Shared.view, Shared.put, AdminStore.setRecord, hget]

theorem run_emergencyUnban (x : World) (d : Shared) (sid : SessionId) :
    ((emergencyUnban sid).run (fun c d => d.exec x c) d).2 =
      (d.exec x (.updateSession sid unbanUpdates)).2 := by
  simp only [emergencyUnban, admin, Program.command, Program.bind_eq, Program.call_bind,
    Program.ret_bind, Program.run]
  split <;> rfl

/-- `emergency_unban`. -/
theorem unbanned_emergencyUnban (x : World) (d : Shared) (sid : SessionId) :
    Unbanned [sid] d ((emergencyUnban sid).run (fun c d => d.exec x c) d).2 := by
  rw [run_emergencyUnban]
  refine ⟨fun other hother => ?_, fun other => ?_, fun other hother => ?_⟩
  · rw [records_updateSession, if_neg fun heq => hother (List.mem_singleton.2 heq)]
  · rw [records_updateSession]
    split
    next heq => rw [heq, Option.isSome_map]
    next => rfl
  · intro session hsession
    rw [records_updateSession, if_pos (List.mem_singleton.1 hother)] at hsession
    obtain ⟨before, -, rfl⟩ := Option.map_eq_some_iff.1 hsession
    rfl

theorem unbanned_emergencyUnbanAll (x : World) (sids : List SessionId) (d : Shared) :
    Unbanned sids d ((emergencyUnbanAll sids).run (fun c d => d.exec x c) d).2 := by
  induction sids generalizing d with
  | nil => exact unbanned_of_eq rfl
  | cons sid sids ih =>
      have hfirst := unbanned_emergencyUnban x d sid
      have hrest := ih ((emergencyUnban sid).run (fun c d => d.exec x c) d).2
      have hrun : ((emergencyUnbanAll (sid :: sids)).run (fun c d => d.exec x c) d).2 =
          ((emergencyUnbanAll sids).run (fun c d => d.exec x c)
            ((emergencyUnban sid).run (fun c d => d.exec x c) d).2).2 := by
        rw [emergencyUnbanAll, Program.bind_eq, Program.run_bind]
      rw [hrun]
      exact hfirst.trans hrest

/-- The sessions of an address that are found. -/
theorem run_getSessionsByIp (x : World) (d : Shared) (ip : String) :
    ((getSessionsByIp ip).run (fun c d => d.exec x c) d).1 =
        .ok ((d.store.ipSessions ip).filter fun sid => (d.store.records sid).isSome) ∧
      ((getSessionsByIp ip).run (fun c d => d.exec x c) d).2.store.records = d.store.records := by
  have hprune : ∀ (sids : List SessionId) (d : Shared),
      ((pruneStaleSessionIds ip sids).run (fun c d => d.exec x c) d).2.store.records =
        d.store.records := by
    intro sids d
    cases sids <;> rfl
  simp only [getSessionsByIp, admin, Program.command, Program.bind_eq, Program.call_bind,
    Program.ret_bind, Program.run, Program.run_bind]
  exact ⟨rfl, hprune _ _⟩

/-- `emergency_unban_ip`. -/
theorem unbanned_emergencyUnbanIp (x : World) (d : Shared) (ip : String) :
    Unbanned (d.store.ipSessions ip) d
      ((emergencyUnbanIp ip).run (fun c d => d.exec x c) d).2 := by
  obtain ⟨hfound, hrecords⟩ := run_getSessionsByIp x d ip
  have hrun : ((emergencyUnbanIp ip).run (fun c d => d.exec x c) d).2.store.records =
      ((emergencyUnbanAll ((d.store.ipSessions ip).filter fun sid => (d.store.records sid).isSome)).run
        (fun c d => d.exec x c)
        ((getSessionsByIp ip).run (fun c d => d.exec x c) d).2).2.store.records := by
    rw [emergencyUnbanIp, Program.bind_eq, Program.run_bind, hfound]
    simp only [Program.bind_eq, Program.run_bind]
    rfl
  have h := ((unbanned_of_eq hrecords).trans (unbanned_emergencyUnbanAll x _ _)).trans
    (unbanned_of_eq hrun)
  simp only [List.nil_append, List.append_nil] at h
  refine ⟨fun sid hsid => h.others sid fun hfound => hsid (List.mem_of_mem_filter hfound), h.found,
    fun sid hsid session hsession => ?_⟩
  have hsome : (d.store.records sid).isSome := by
    rw [← h.found sid]
    exact Option.isSome_iff_exists.2 ⟨session, hsession⟩
  exact h.unbanned sid (List.mem_filter.2 ⟨hsid, hsome⟩) session hsession

theorem run_ending {α : Type} (p : AdminProg α) (x : World) (d : Shared) :
    ((ending p).run (fun c d => d.exec x c) d).2 = (p.run (fun c d => d.exec x c) d).2 := by
  rw [ending, Program.bind_eq, Program.run_bind]
  rfl

/-- What the handler of an unban of a session comes down to. -/
theorem handlePublished_unban (sid ipAddress : String) :
    handlePublished reader (.unban sid ipAddress) =
      if uuid sid then ending (emergencyUnban sid) else .ret (.ended ()) := by
  by_cases huuid : uuid sid = true <;>
    simp [handlePublished, published, handleAdminAction, sessionTarget, member, List.lookup_cons, huuid]

theorem handlePublished_unbanIP (ip : String) :
    handlePublished reader (.unbanIP ip) =
      if reader.validIp ip then ending (emergencyUnbanIp ip) else .ret (.ended ()) := by
  by_cases hvalid : reader.validIp ip = true <;>
    simp [handlePublished, published, handleAdminAction, ipTarget, member, hvalid]

/-- The handler of an unban of a session. -/
theorem unbanned_handlePublished_unban (x : World) (d : Shared) (sid ipAddress : String) :
    Unbanned (if uuid sid then [sid] else []) d
      ((handlePublished reader (.unban sid ipAddress)).run (fun c d => d.exec x c) d).2 := by
  rw [handlePublished_unban]
  split
  · rw [run_ending]
    exact unbanned_emergencyUnban x d sid
  · exact unbanned_of_eq rfl

theorem ipSessions_handlePublished_unban (x : World) (d : Shared) (sid ipAddress : String) :
    ((handlePublished reader (.unban sid ipAddress)).run
      (fun c d => d.exec x c) d).2.store.ipSessions = d.store.ipSessions := by
  rw [handlePublished_unban]
  split
  · rw [run_ending, run_emergencyUnban, ipSessions_updateSession]
  · rfl

/-- The handler of an unban of an address. -/
theorem unbanned_handlePublished_unbanIP (x : World) (d : Shared) (ip : String) :
    Unbanned (if reader.validIp ip then d.store.ipSessions ip else []) d
      ((handlePublished reader (.unbanIP ip)).run (fun c d => d.exec x c) d).2 := by
  rw [handlePublished_unbanIP]
  split
  · rw [run_ending]
    exact unbanned_emergencyUnbanIp x d ip
  · exact unbanned_of_eq rfl

end Unbanning

/-! ### What is published -/

section Publishing

variable {reader : Reader} {x : World} {m m' : Moderation} {d : Shared} {now : ℤ}

def publishes : Instr → Option AdminAction
  | .publish action => some action
  | _ => none

theorem stream_propagate (ttl : Option ℤ) (instrs : List Instr) (redis : Bans.Redis) :
    (propagate now ttl instrs redis).stream = redis.stream ++ instrs.filterMap publishes := by
  induction instrs generalizing ttl redis with
  | nil => exact (List.append_nil _).symm
  | cons instr instrs ih =>
      rw [propagate, ih]
      cases instr <;> simp [Bans.Redis.exec, publishes, List.filterMap_cons]

/-- What the handlers of a settled transaction do. -/
theorem shared_settle (outcome : Bans.Outcome) : (m.settle reader outcome).shared =
    handleAll reader ⟨m.now, []⟩ (outcome.propagation.filterMap publishes)
      { m.shared with redis := propagate m.now none outcome.propagation m.shared.redis } := by
  have hnew : (propagate m.now none outcome.propagation m.shared.redis).stream.drop
      m.shared.redis.stream.length = outcome.propagation.filterMap publishes := by
    rw [stream_propagate, List.drop_left]
  simp only [Moderation.settle, hnew]

theorem publishes_propagateBan {ban : Ban} {action : AdminAction}
    (h : action ∈ (Bans.propagateBan ban).filterMap publishes) : AdminAction.isBan action = true := by
  obtain ⟨instr, hinstr, hpublishes⟩ := List.mem_filterMap.1 h
  cases instr with
  | publish published =>
      obtain rfl := Option.some_inj.1 hpublishes
      unfold Bans.propagateBan Bans.setIndexedValue at hinstr
      by_cases hsession : ban.sessionId = "" <;> by_cases hip : ban.ipAddress = "" <;>
        simp [hsession, hip] at hinstr
      · rw [hinstr]
        rfl
      · rw [hinstr]
        rfl
      · rcases hinstr with rfl | rfl <;> rfl
  | _ => cases hpublishes

theorem publishes_refreshOrDelete (target : Target) (action : AdminAction) (remaining : Option Ban) :
    (Bans.refreshOrDelete target action remaining).filterMap publishes =
      if remaining = none then [action] else [] := by
  cases remaining <;> rfl

/-- Bans that are published unban nobody. -/
theorem stayBanned_handleAll {actions : List AdminAction}
    (h : ∀ action ∈ actions, AdminAction.isBan action = true) :
    StayBanned d (handleAll reader x actions d) := by
  induction actions generalizing d with
  | nil => exact fun _ => id
  | cons action actions ih =>
      intro sid hbanned
      have hfirst : StayBanned d
          ((handlePublished reader action).run (fun c d => d.exec x c) d).2 :=
        stayBanned_run (onlyBans_handlePublished (h action List.mem_cons_self))
      exact ih (fun other hother => h other (List.mem_cons_of_mem _ hother)) sid
        (hfirst sid hbanned)

theorem handleAll_append (actions actions' : List AdminAction) :
    handleAll reader x (actions ++ actions') d =
      handleAll reader x actions' (handleAll reader x actions d) := by
  induction actions generalizing d with
  | nil => rfl
  | cons action actions ih => exact ih

/-- The sessions that are unbanned with a target of a lifted ban, when no other ban of the target
remains. -/
def liftedWith (reader : Reader) (rows : List Ban) (now : ℤ) (s : AdminStore) (ban : Ban)
    (target : Target) : List SessionId :=
  if target ∈ ban.targets ∧ accepted reader target = true ∧ remainingBan rows ban target now = none
  then sessionsOf s target else []

/-- The part of the propagation that is about the session of a ban. -/
theorem unbanned_session {ban : Ban} :
    Unbanned (liftedWith reader m.rows m.now d.store ban (.session ban.sessionId)) d
        (handleAll reader x ((if ban.sessionId = "" then [] else
          Bans.refreshOrDelete (.session ban.sessionId) (.unban ban.sessionId ban.ipAddress)
            (remainingBan m.rows ban (.session ban.sessionId) m.now)).filterMap publishes) d) ∧
      (handleAll reader x ((if ban.sessionId = "" then [] else
        Bans.refreshOrDelete (.session ban.sessionId) (.unban ban.sessionId ban.ipAddress)
          (remainingBan m.rows ban (.session ban.sessionId) m.now)).filterMap publishes)
            d).store.ipSessions = d.store.ipSessions := by
  unfold liftedWith
  by_cases hempty : ban.sessionId = ""
  · have htarget : Target.session ban.sessionId ∉ ban.targets := by simp [Ban.targets, hempty]
    rw [if_pos hempty, if_neg fun h => htarget h.1]
    exact ⟨unbanned_of_eq rfl, rfl⟩
  · have htarget : Target.session ban.sessionId ∈ ban.targets := by simp [Ban.targets, hempty]
    rw [if_neg hempty, publishes_refreshOrDelete]
    by_cases hremaining : remainingBan m.rows ban (.session ban.sessionId) m.now = none
    · rw [if_pos hremaining]
      simp only [htarget, hremaining, and_true, true_and]
      exact ⟨unbanned_handlePublished_unban x d ban.sessionId ban.ipAddress,
        ipSessions_handlePublished_unban x d ban.sessionId ban.ipAddress⟩
    · rw [if_neg hremaining, if_neg fun h => hremaining h.2.2]
      exact ⟨unbanned_of_eq rfl, rfl⟩

/-- The part that is about its address. -/
theorem unbanned_ip {ban : Ban} :
    Unbanned (liftedWith reader m.rows m.now d.store ban (.ip ban.ipAddress)) d
      (handleAll reader x ((if ban.ipAddress = "" then [] else
        Bans.refreshOrDelete (.ip ban.ipAddress) (.unbanIP ban.ipAddress)
          (remainingBan m.rows ban (.ip ban.ipAddress) m.now)).filterMap publishes) d) := by
  unfold liftedWith
  by_cases hempty : ban.ipAddress = ""
  · have htarget : Target.ip ban.ipAddress ∉ ban.targets := by simp [Ban.targets, hempty]
    rw [if_pos hempty, if_neg fun h => htarget h.1]
    exact unbanned_of_eq rfl
  · have htarget : Target.ip ban.ipAddress ∈ ban.targets := by simp [Ban.targets, hempty]
    rw [if_neg hempty, publishes_refreshOrDelete]
    by_cases hremaining : remainingBan m.rows ban (.ip ban.ipAddress) m.now = none
    · rw [if_pos hremaining]
      simp only [htarget, hremaining, and_true, true_and]
      exact unbanned_handlePublished_unbanIP x d ban.ipAddress
    · rw [if_neg hremaining, if_neg fun h => hremaining h.2.2]
      exact unbanned_of_eq rfl

/-- **Which sessions a lifted ban unbans.** -/
theorem records_unbanned {ban : Ban} :
    Unbanned (liftedWith reader m.rows m.now d.store ban (.session ban.sessionId) ++
        liftedWith reader m.rows m.now d.store ban (.ip ban.ipAddress)) d
      (handleAll reader x ((Bans.propagateUnban ban
        (remainingBan m.rows ban (.session ban.sessionId) m.now)
        (remainingBan m.rows ban (.ip ban.ipAddress) m.now)).filterMap publishes) d) := by
  rw [Bans.propagateUnban, List.filterMap_append, handleAll_append]
  obtain ⟨hsession, hlisted⟩ := @unbanned_session reader x m d ban
  have hsame : ∀ d' : Shared, d'.store.ipSessions = d.store.ipSessions →
      liftedWith reader m.rows m.now d'.store ban (.ip ban.ipAddress) =
        liftedWith reader m.rows m.now d.store ban (.ip ban.ipAddress) := by
    intro d' h
    simp only [liftedWith, sessionsOf, h]
  rw [← hsame _ hlisted]
  exact hsession.trans unbanned_ip

theorem mem_liftedWith {ban : Ban} {sid : SessionId} {s : AdminStore} {target : Target} :
    sid ∈ liftedWith reader m.rows m.now s ban target ↔
      target ∈ ban.targets ∧ accepted reader target = true ∧
        remainingBan m.rows ban target m.now = none ∧ sid ∈ sessionsOf s target := by
  unfold liftedWith
  split
  next h => exact ⟨fun hsid => ⟨h.1, h.2.1, h.2.2, hsid⟩, fun hsid => hsid.2.2.2⟩
  next h => exact ⟨fun hsid => absurd hsid List.not_mem_nil,
      fun hsid => absurd ⟨hsid.1, hsid.2.1, hsid.2.2.1⟩ h⟩

/-- Which sessions are unbanned with a target of the ban. -/
theorem mem_lifted {ban : Ban} {sid : SessionId} {s : AdminStore} :
    sid ∈ liftedWith reader m.rows m.now s ban (.session ban.sessionId) ++
        liftedWith reader m.rows m.now s ban (.ip ban.ipAddress) ↔
      ∃ target ∈ ban.targets, accepted reader target = true ∧
        remainingBan m.rows ban target m.now = none ∧ sid ∈ sessionsOf s target := by
  rw [List.mem_append, mem_liftedWith, mem_liftedWith]
  constructor
  · rintro (h | h)
    · exact ⟨_, h⟩
    · exact ⟨_, h⟩
  · rintro ⟨target, htarget, h⟩
    rcases Bans.mem_targets.1 htarget with ⟨-, rfl⟩ | ⟨-, rfl⟩
    · exact .inl ⟨htarget, h⟩
    · exact .inr ⟨htarget, h⟩

end Publishing

/-! ### One event -/

variable {reader : Reader} {m m' : Moderation}

/-- No active ban of a target remains. -/
theorem remainingBan_eq_none {rows : List Ban} {ban : Ban} {target : Target} {now : ℤ}
    (htarget : target ∈ ban.targets) (h : remainingBan rows ban target now = none) :
    ∀ row ∈ deactivate rows ban.id, target ∈ row.targets → row.activeAt now = false := by
  rw [remainingBan, if_pos htarget, Bans.latestActiveBan_eq_none] at h
  exact fun row hrow hrowTarget => Bool.of_not_eq_true
    (h row hrow (Bans.mem_targets_iff_covers.1 hrowTarget).1)

/-- **A ban that is created unbans nobody.** -/
theorem keepsCovered_ban (request : Request) (id : String) :
    KeepsCovered reader m (.ban request id) := by
  intro m' hs sid session hsession hbanned _
  simp only [Moderation.step] at hs
  split at hs
  next =>
      obtain rfl := Option.some_inj.1 hs
      have hbans : ∀ action ∈ (createOrRefreshBan m.rows request id m.now).propagation.filterMap
          publishes, AdminAction.isBan action = true := by
        intro action haction
        unfold createOrRefreshBan at haction
        split at haction
        next => exact publishes_propagateBan haction
        next => exact publishes_propagateBan haction
      rw [shared_settle]
      refine stayBanned_handleAll hbans sid fun session' hsession' => ?_
      obtain rfl := Option.mem_unique hsession hsession'
      exact hbanned
  next => cases hs

/-- The board after a ban has been lifted. -/
def Moderation.lifted (reader : Reader) (m : Moderation) (ban : Ban) : Moderation :=
  m.settle reader (.deleted ban (remainingBan m.rows ban (.session ban.sessionId) m.now)
    (remainingBan m.rows ban (.ip ban.ipAddress) m.now))

theorem unbanned_lifted (m : Moderation) (ban : Ban) :
    Unbanned (liftedWith reader m.rows m.now m.shared.store ban (.session ban.sessionId) ++
      liftedWith reader m.rows m.now m.shared.store ban (.ip ban.ipAddress)) m.shared
        (m.lifted reader ban).shared := by
  rw [Moderation.lifted, shared_settle]
  have h := @records_unbanned reader ⟨m.now, []⟩ m { m.shared with
    redis := propagate m.now none (Bans.propagateUnban ban
      (remainingBan m.rows ban (.session ban.sessionId) m.now)
      (remainingBan m.rows ban (.ip ban.ipAddress) m.now)) m.shared.redis } ban
  exact ⟨h.others, h.found, h.unbanned⟩

theorem step_lift {banIdentifier : String} {ban : Ban}
    (hfound : findBan m.rows banIdentifier = some ban) :
    m.step reader (.lift banIdentifier) = some (m.lifted reader ban) := by
  simp only [Moderation.step, deleteBan, hfound, Option.map_some, Moderation.lifted]

/-- **When a ban is lifted, the sessions that are covered stay banned iff it is lifted alone.** -/
theorem keepsCovered_lift_iff (banIdentifier : String) :
    KeepsCovered reader m (.lift banIdentifier) ↔ LiftsAlone reader m (.lift banIdentifier) := by
  cases hfound : findBan m.rows banIdentifier with
  | none =>
      refine ⟨fun _ ban hban => ?_, fun _ m' hs => ?_⟩
      · rw [hfound] at hban
        cases hban
      · simp [Moderation.step, deleteBan, hfound] at hs
  | some ban =>
      have hunbanned : Unbanned _ m.shared (m.lifted reader ban).shared := unbanned_lifted m ban
      constructor
      · intro hkeeps ban' hban' target htarget haccepted hremaining sid hsid session hsession hbanned
          other hother hne row hrow hrowTarget
        obtain rfl := Option.some_inj.1 (hfound.symm.trans hban')
        by_contra hactive
        have hcovered : StillCovered (m.lifted reader ban).rows sid session m.now :=
          ⟨row, hrow, Bool.of_not_eq_false hactive, other, hrowTarget, hother⟩
        -- its record is there, and is not banned any more
        have hsome : ((m.lifted reader ban).shared.store.records sid).isSome := by
          rw [hunbanned.found sid]
          exact Option.isSome_iff_exists.2 ⟨session, hsession⟩
        obtain ⟨session', hsession'⟩ := Option.isSome_iff_exists.1 hsome
        have hstays := hkeeps _ (step_lift hfound) sid session hsession hbanned hcovered session'
          hsession'
        have hflag := hunbanned.unbanned sid
          (mem_lifted.2 ⟨target, htarget, haccepted, hremaining, hsid⟩) session' hsession'
        rw [hflag] at hstays
        cases hstays
      · intro halone m' hs sid session hsession hbanned hcovered session' hsession'
        obtain rfl := Option.some_inj.1 ((step_lift hfound).symm.trans hs)
        by_cases hsid : sid ∈ liftedWith reader m.rows m.now m.shared.store ban
            (.session ban.sessionId) ++ liftedWith reader m.rows m.now m.shared.store ban
              (.ip ban.ipAddress)
        · obtain ⟨target, htarget, haccepted, hremaining, hmem⟩ := mem_lifted.1 hsid
          obtain ⟨row, hrow, hactive, other, hrowTarget, hother⟩ := hcovered
          have hinactive : row.activeAt m.now = false := by
            by_cases hne : other = target
            · subst hne
              exact remainingBan_eq_none htarget hremaining row hrow hrowTarget
            · exact halone ban hfound target htarget haccepted hremaining sid hmem session hsession
                hbanned other hother hne row hrow hrowTarget
          exact absurd hactive (by simp [Moderation.lifted, Moderation.settle, hinactive])
        · rw [hunbanned.others sid hsid] at hsession'
          obtain rfl := Option.mem_unique hsession hsession'
          exact hbanned

theorem keepsCovered_iff (m : Moderation) (ev : ModerationEvent) :
    KeepsCovered reader m ev ↔ LiftsAlone reader m ev := by
  cases ev with
  | ban request id => exact ⟨fun _ => trivial, fun _ => keepsCovered_ban request id⟩
  | lift banIdentifier => exact keepsCovered_lift_iff banIdentifier
  | tick d =>
      refine ⟨fun _ => trivial, fun _ m' hs sid session hsession hbanned _ session' hsession' => ?_⟩
      obtain rfl := Option.some_inj.1 hs
      obtain rfl := Option.mem_unique hsession hsession'
      exact hbanned

/-- **The sessions that are covered stay banned in exactly those runs in which bans are lifted
alone.** -/
theorem unbanPrecision_iff (reader : Reader) (m₀ m : Moderation) (l : List ModerationEvent) :
    Run (Moderation.step reader) (KeepsCovered reader) m₀ l m ↔
      Run (Moderation.step reader) (LiftsAlone reader) m₀ l m := by
  constructor
  · exact fun hrun => hrun.mono fun m ev hok => (keepsCovered_iff m ev).1 hok
  · exact fun hrun => hrun.mono fun m ev hok => (keepsCovered_iff m ev).2 hok

/-! ### A session with two bans -/

section Example

instance (reader : Reader) (m : Moderation) : (ev : ModerationEvent) →
    Decidable (LiftsAlone reader m ev)
  | .lift banIdentifier => inferInstanceAs (Decidable (∀ ban ∈ findBan m.rows banIdentifier,
      ∀ target ∈ ban.targets, accepted reader target = true →
        remainingBan m.rows ban target m.now = none → ∀ sid ∈ sessionsOf m.shared.store target,
          ∀ session ∈ m.shared.store.records sid, session.banStatus = true →
            ∀ other ∈ Bans.targets sid session.ip, other ≠ target →
              ∀ row ∈ deactivate m.rows ban.id, other ∈ row.targets → row.activeAt m.now = false))
  | .ban _ _ | .tick _ => .isTrue trivial

def twiceBannedId : SessionId := "00000000-0000-4000-8000-000000000002"

def twiceBanned : Session where
  id := twiceBannedId
  token := "t"
  ip := "203.0.113.7"
  sessionKind := .human
  redisShard := 0
  matchGeneration := none
  status := .waiting
  partnerId := none
  lastPartnerId := none
  signalingReady := false
  webrtcStarted := false
  preferences := ⟨"text", ""⟩
  createdAt := 0
  lastActivity := 0
  banStatus := false
  banReason := none

/-- One session, with its address, and no bans. -/
def beforeBans : Moderation where
  now := 0
  rows := []
  shared := ⟨⟨fun _ => none, fun _ => false, []⟩,
    { records := fun sid => if sid = twiceBannedId then some twiceBanned else none
      queues := fun _ => []
      registry := []
      ipSessions := fun ip => if ip = "203.0.113.7" then [twiceBannedId] else []
      ipBan := fun _ => none
      acked := [] }⟩

/-- A reader of its address. -/
def oneAddressReader : Reader where
  decode _ := none
  validIp ip := ip = "203.0.113.7"

/-- The session is banned, then its address; then the ban of the address is lifted. -/
def twoBans : List ModerationEvent :=
  [.ban ⟨twiceBannedId, "", "spam", none, by decide⟩ "1",
    .ban ⟨"", "203.0.113.7", "abuse", none, by decide⟩ "2", .lift "2"]

/-- **With the ban of the address the own ban of the session is lifted.** -/
theorem ownBan_is_lifted : ¬ ∀ (reader : Reader) (m₀ m : Moderation) (l : List ModerationEvent),
    Run (Moderation.step reader) Always m₀ l m →
      Run (Moderation.step reader) (KeepsCovered reader) m₀ l m := by
  intro h
  obtain ⟨m, hrun, -⟩ : ∃ m, Run (Moderation.step oneAddressReader) Always beforeBans twoBans m ∧
      decide ((m.shared.store.records twiceBannedId).map Session.banStatus = some false) = true :=
    exists_run_of_execWhere (by decide +kernel)
  have halone : Run (Moderation.step oneAddressReader) (LiftsAlone oneAddressReader) beforeBans
      twoBans m :=
    (h oneAddressReader beforeBans m twoBans hrun).mono fun m ev hok => (keepsCovered_iff m ev).1 hok
  have hnone : (execWhere (Moderation.step oneAddressReader) (LiftsAlone oneAddressReader) beforeBans
      twoBans).isSome = false := by decide +kernel
  simp [execWhere_of_run halone] at hnone

end Example

end Admin
