/-
**What a failed command leaves of a session.**

An operation on an existing session issues commands one after another, and any of them may fail.
The claim on such a failure: the operation returns an error and the session is as it was.  It holds
as long as nothing was written.  The write of a whole record is undone as if it had been a creation,
whatever was there before; the writes that come after an update in place fail unreported.

Main definitions:

* `Sessions.Existing` — a session that its locator leads to;
* `Sessions.Kept`, `Sessions.Harmless` — what should be left of it after a failure;
* `Sessions.FailsBeforeWriting` — the failing commands that come before any write.

Main results:

* `Sessions.runFault_persistSession` — a failed write of a whole record takes the session away;
* `Sessions.harmless_iff_failsBeforeWriting` — **a failure is harmless exactly when the failing
  command comes before any write**;
* `Sessions.failed_persist_deletes` — a failed update after which the session is gone.
-/

import Pairline.Sessions.RedisState

set_option relaxedAutoImplicit false
set_option autoImplicit false

namespace Sessions

open Matchmaker (SessionId)
open Program

variable (rt : Runtime)

/-! ### The claim on a failure -/

/-- The operations on an existing session. -/
inductive Operation
  | updateSession (updates : Updates)
  | persistUpdatedSession (updates : Updates)
  | moveSessionShard (newShard : ℤ)

def Operation.program (sid : SessionId) (now : ℤ) : Operation → Prog (Except Reason Session)
  | .updateSession updates => Sessions.updateSession rt sid updates now
  | .persistUpdatedSession updates => Sessions.persistUpdatedSession rt sid updates now
  | .moveSessionShard newShard => Sessions.moveSessionShard rt sid newShard now

/-- A session exists: its locator leads to its record. -/
structure Existing (s : Store) (sid : SessionId) (route : Route) (session : Session) : Prop where
  locator : (s sid).locator = some route
  data : ((s sid).hot route).data = some session
  id : session.id = sid

/-- Record, token and IP entries, queue metadata, active locators and memberships are the same. -/
structure Kept (route : Route) (entry entry' : Entry) : Prop where
  data : (entry'.hot route).data = (entry.hot route).data
  ip : (entry'.hot route).ip = (entry.hot route).ip
  token : (entry'.hot route).token = (entry.hot route).token
  queueMeta : (entry'.hot route).queueMeta = (entry.hot route).queueMeta
  locator : entry'.locator = entry.locator
  ipLocator : entry'.ipLocator = entry.ipLocator
  active : entry'.active = entry.active
  ipSessions : entry'.ipSessions = entry.ipSessions

theorem Kept.refl (route : Route) (entry : Entry) : Kept route entry entry :=
  ⟨rfl, rfl, rfl, rfl, rfl, rfl, rfl, rfl⟩

/-- An error is returned and the session is still fully there. -/
structure Outcome (route : Route) (before : Entry) (sid : SessionId)
    (result : Except Reason Session × Store) : Prop where
  error : ∃ reason, result.1 = .error reason
  kept : Kept route before (result.2 sid)

/-- **The claim**: the failure of the command number `k` is harmless. -/
def Harmless (op : Operation) (s : Store) (sid : SessionId) (route : Route) (now : ℤ) (k : ℕ)
    (text : String) : Prop :=
  Outcome route (s sid) sid ((op.program rt sid now).runFault exec (.redis text) k s)

/-- The IP entry of a session, if there is one. -/
def ownIp (entry : Entry) (route : Route) : Option String := (entry.hot route).ip.filter (· ≠ "")

/-- The IP with which the locators of a session are refreshed. -/
def activeLocatorIp (entry : Entry) (route : Route) : Option String :=
  (ownIp entry route).or (entry.ipLocator.filter (· ≠ ""))

/-- How many commands it takes to refresh the locators of a session. -/
def refreshCommands (entry : Entry) (route : Route) : ℕ :=
  (if (ownIp entry route).isSome then 1 else 2) +
    (if (activeLocatorIp entry route).isSome then 2 else 0)

/-- **The failing command comes before any write**, and nothing is written after it.  The script
that updates in place is the only write that fails without a trace; an update of no field ends with
two reads, which may fail when the refresh has changed nothing; an update of the identity writes
another session. -/
def FailsBeforeWriting (entry : Entry) (route : Route) (session : Session) (now : ℤ) (k : ℕ) :
    Operation → Prop
  | .updateSession updates =>
      if updates = {} then
        k < 3 ∨ (3 + refreshCommands entry route ≤ k ∧ now = session.lastActivity ∧
          ∀ ip, activeLocatorIp entry route = some ip → entry.ipLocator = some ip)
      else if updates.partialUpdateSupported then
        if (entry.hot route).queueMeta.isSome then k < 4 else k < 5
      else k < 2 ∨ (session.merge updates).id ≠ session.id
  | .persistUpdatedSession updates => k < 2 ∨ (session.merge updates).id ≠ session.id
  | .moveSessionShard newShard => k < 2 ∨ session.redisShard = normalizedShard rt newShard

/-! ### Reads -/

section Reads

variable {s : Store} {sid : SessionId} {route : Route} {session : Session} {e : Reason}

theorem reads_redis {op : Op} {v : op.Reply} (h : op.exec (s sid) = (v, s sid)) :
    Reads exec e (redis sid op) s v 1 := by
  refine Reads.command ?_
  unfold exec
  dsimp only
  rw [h, Function.update_eq_self]

theorem reads_resolveSessionRoute_unverified (h : (s sid).locator = some route) :
    Reads exec e (resolveSessionRoute rt sid false) s route 1 := by
  have hget : Reads exec e (redis sid .getLocator) s (some route) 1 :=
    reads_redis (by rw [Op.exec, h])
  refine Reads.bind (m := 0) hget ?_ ?_
  · rfl
  · exact .ret

theorem reads_resolveSessionRoute (h : (s sid).locator = some route)
    (hdata : ((s sid).hot route).data.isSome = true) (he : e ≠ .notFound) :
    Reads exec e (resolveSessionRoute rt sid true) s route 2 := by
  have hget : Reads exec e (redis sid .getLocator) s (some route) 1 :=
    reads_redis (by rw [Op.exec, h])
  have hexists : Reads exec e (redis sid (.exists route)) s true 1 :=
    reads_redis (by rw [Op.exec, hdata])
  have hverify : Reads exec e (maybeVerifySessionExists sid route true) s () 1 := by
    refine Reads.bind (m := 0) hexists ?_ ?_
    · rfl
    · exact .ret
  refine Reads.bind (m := 1) hget ?_ (Reads.bind (m := 0) hverify ?_ ?_)
  · rfl
  · cases e with
    | notFound => exact absurd rfl he
    | missingQueueMeta => rfl
    | redis text => rfl
  · exact .ret

theorem reads_getSession (h : (s sid).locator = some route)
    (hdata : ((s sid).hot route).data = some session) :
    Reads exec e (getSession rt sid) s session 2 := by
  have hget : Reads exec e (redis sid (.get route)) s (some session) 1 :=
    reads_redis (by rw [Op.exec, hdata])
  refine Reads.bind (m := 1) (reads_resolveSessionRoute_unverified rt h) ?_
    (Reads.bind (m := 0) hget ?_ ?_)
  · rfl
  · rfl
  · exact .ret

end Reads

/-! ### Writing a whole record -/

section Persist

variable {rt} {s : Store} {session : Session} {e : Reason}

/-- Every command of `persist_session` is on the session of the record. -/
theorem all_persistSession : (persistSession rt session).All fun c => c.sid = session.id := by
  have hpipeline (ops : List Op) : (pipeline session.id ops).All fun c => c.sid = session.id := by
    refine All.pipeline fun c hc => ?_
    obtain ⟨op, -, rfl⟩ := List.mem_map.1 hc
    rfl
  have hredis (op : Op) : (redis session.id op).All fun c => c.sid = session.id :=
    All.command rfl
  refine All.bind (All.bind (hredis _) fun reply => ?_) fun result => ?_
  · cases reply with
    | ok => exact hpipeline _
    | error => trivial
  · cases result with
    | ok => trivial
    | error =>
        exact All.bind (All.bind (hpipeline _) fun _ => All.bind (hpipeline _) fun _ =>
          All.bind (hredis _) fun _ => trivial) fun _ => trivial

/-- Writing one record leaves every other session alone, whatever fails. -/
theorem runFault_persistSession_of_ne {sid : SessionId} (h : session.id ≠ sid) (k : ℕ) :
    ((persistSession rt session).runFault exec e k s).2 sid = s sid := by
  refine All.runFault_invariant (I := fun s' : Store => s' sid = s sid) all_persistSession ?_ k rfl
  intro c hc s' hs'
  rw [exec_snd_of_ne (by rw [hc]; exact h), hs']

theorem issued_writeSession : (writeSession rt session).issued exec s = 6 := rfl

theorem run_writeSession : ((writeSession rt session).run exec s).1 = .ok () := rfl

theorem runFault_writeSession {k : ℕ} (hk : k < 6) :
    ((writeSession rt session).runFault exec e k s).1 = .error e := by
  cases k with
  | zero => rfl
  | succ k => exact runFault_pipeline _ (by simpa using Nat.lt_of_succ_lt_succ hk)

/-- Taking back a write deletes the locator of the session. -/
theorem locator_rollbackSession :
    (((rollbackSession rt session).run exec s).2 session.id).locator = none := by
  have hhot (s : Store) :
      ((rollbackHotSession session.id (routeForSession rt session)).run exec s).2 =
        (exec ⟨session.id, .delHot (routeForSession rt session)⟩ s).2 := rfl
  simp [rollbackSession, cleanupLocators, rollbackIndexes, pipeline, run_bind, run_pipeline, hhot,
    exec, Op.exec, Entry.atRoute]

theorem issued_persistSession : (persistSession rt session).issued exec s = 6 := by
  rw [persistSession, bind_eq, issued_bind, issued_writeSession, run_writeSession]
  rfl

theorem run_persistSession : ((persistSession rt session).run exec s).1 = .ok () := by
  rw [persistSession, bind_eq, run_bind, run_writeSession]
  rfl

/-- **A failed write of a whole record takes the session away**: the error is returned, and the
locator is deleted. -/
theorem runFault_persistSession (rt : Runtime) (session : Session) {s : Store} {e : Reason} {k : ℕ}
    (hk : k < 6) :
    ((persistSession rt session).runFault exec e k s).1 = .error e ∧
      (((persistSession rt session).runFault exec e k s).2 session.id).locator = none := by
  rw [persistSession, bind_eq, runFault_bind_of_lt _ (issued_writeSession.symm ▸ hk),
    runFault_writeSession hk]
  simp only [bind_eq, run_bind, pure_eq, run, true_and]
  exact locator_rollbackSession

end Persist

/-! ### Refreshing the locators -/

section Refresh

variable {s : Store} {sid : SessionId} {route : Route} {e : Reason}

/-- What is left of the keys of a session when its locators are refreshed. -/
def Entry.refreshed (entry : Entry) (route : Route) : Entry :=
  match activeLocatorIp entry route with
  | some ip => { entry with locator := some route, ipLocator := some ip }
  | none => entry

theorem run_fromLocator : (loadActiveLocatorIp.fromLocator sid).run exec s =
    ((s sid).ipLocator.filter (· ≠ ""), s) := by
  simp only [loadActiveLocatorIp.fromLocator, redis, command, bind_eq, call_bind, ret_bind, run,
    exec, Op.exec, Function.update_eq_self]
  cases (s sid).ipLocator with
  | none => rfl
  | some ip =>
      by_cases hip : ip = ""
      · simp [hip, run, Option.filter]
      · simp [hip, run, Option.filter]

theorem issued_fromLocator : (loadActiveLocatorIp.fromLocator sid).issued exec s = 1 := by
  simp only [loadActiveLocatorIp.fromLocator, redis, command, bind_eq, call_bind, ret_bind, issued,
    exec, Op.exec]
  cases (s sid).ipLocator with
  | none => rfl
  | some ip =>
      by_cases hip : ip = ""
      · simp [hip, issued]
      · simp [hip, issued]

theorem run_loadActiveLocatorIp :
    (loadActiveLocatorIp sid route).run exec s = (activeLocatorIp (s sid) route, s) := by
  simp only [loadActiveLocatorIp, redis, command, bind_eq, call_bind, ret_bind, run, exec, Op.exec,
    Function.update_eq_self, activeLocatorIp, ownIp]
  cases ((s sid).hot route).ip with
  | none => exact run_fromLocator
  | some ip =>
      by_cases hip : ip = ""
      · simp [hip, run_fromLocator, Option.filter]
      · simp [hip, run, Option.filter]

theorem issued_loadActiveLocatorIp : (loadActiveLocatorIp sid route).issued exec s =
    if (ownIp (s sid) route).isSome then 1 else 2 := by
  rcases hstored : ((s sid).hot route).ip with _ | ip
  · simp [loadActiveLocatorIp, redis, command, issued, exec, Op.exec, hstored, issued_fromLocator,
      ownIp]
  · by_cases hip : ip = ""
    · simp [loadActiveLocatorIp, redis, command, issued, exec, Op.exec, hstored, hip,
        issued_fromLocator, ownIp, Option.filter]
    · simp [loadActiveLocatorIp, redis, command, issued, exec, Op.exec, hstored, hip, ownIp,
        Option.filter]

theorem run_doRefreshActiveLocators {ops : List Op} {attempts : ℕ} :
    ((doRefreshActiveLocators sid ops attempts).run exec s).2 =
      ((pipeline sid ops).run exec s).2 := by
  cases attempts with
  | zero => rfl
  | succ n =>
      rw [doRefreshActiveLocators, bind_eq, run_bind, pipeline, run_pipeline]
      rfl

theorem issued_doRefreshActiveLocators {ops : List Op} {attempts : ℕ} :
    (doRefreshActiveLocators sid ops attempts).issued exec s = ops.length := by
  cases attempts with
  | zero => rw [doRefreshActiveLocators, pipeline, issued_pipeline, List.length_map]
  | succ n =>
      rw [doRefreshActiveLocators, bind_eq, issued_bind, pipeline, run_pipeline, issued_pipeline,
        List.length_map]
      rfl

theorem run_refreshActiveLocators : ((refreshActiveLocators sid route).run exec s).2 =
    Function.update s sid ((s sid).refreshed route) := by
  rw [refreshActiveLocators, bind_eq, run_bind, run_loadActiveLocatorIp, Entry.refreshed]
  cases activeLocatorIp (s sid) route with
  | none => simp [run]
  | some ip =>
      simp only [bind_eq, run_bind, run_doRefreshActiveLocators, pure_eq, run, pipeline,
        run_pipeline]
      simp [exec, Op.exec]

theorem issued_refreshActiveLocators : (refreshActiveLocators sid route).issued exec s =
    refreshCommands (s sid) route := by
  rw [refreshActiveLocators, bind_eq, issued_bind, run_loadActiveLocatorIp,
    issued_loadActiveLocatorIp, refreshCommands]
  cases activeLocatorIp (s sid) route with
  | none => rfl
  | some ip =>
      simp only [bind_eq, issued_bind, issued_doRefreshActiveLocators]
      rfl

/-- Refreshing the locators keeps the records, and the locator leads where it led, whatever
fails. -/
theorem runFault_refreshActiveLocators (h : (s sid).locator = some route) (k : ℕ) :
    (((refreshActiveLocators sid route).runFault exec e k s).2 sid).locator = some route ∧
      (((refreshActiveLocators sid route).runFault exec e k s).2 sid).hot = (s sid).hot := by
  let Refreshes (c : Cmd) : Prop := c.sid = sid ∧ (c.op = .getIp route ∨ c.op = .getIpLocator ∨
    c.op = .setexLocator route ∨ ∃ ip, c.op = .setexIpLocator ip)
  have hlocator : (loadActiveLocatorIp.fromLocator sid).All Refreshes := by
    refine All.bind (All.command ⟨rfl, .inr (.inl rfl)⟩) fun reply => ?_
    split
    · split <;> trivial
    · trivial
  have hload : (loadActiveLocatorIp sid route).All Refreshes := by
    refine All.bind (All.command ⟨rfl, .inl rfl⟩) fun reply => ?_
    split
    · split
      · exact hlocator
      · trivial
    · exact hlocator
    · trivial
  have hpipeline (ip : String) :
      (pipeline sid [.setexLocator route, .setexIpLocator ip]).All Refreshes := by
    refine All.pipeline fun c hc => ?_
    obtain ⟨op, hop, rfl⟩ := List.mem_map.1 hc
    rcases List.mem_pair.1 hop with rfl | rfl
    · exact ⟨rfl, .inr (.inr (.inl rfl))⟩
    · exact ⟨rfl, .inr (.inr (.inr ⟨ip, rfl⟩))⟩
  have hagain (ip : String) (attempts : ℕ) : (doRefreshActiveLocators sid
      [.setexLocator route, .setexIpLocator ip] attempts).All Refreshes := by
    induction attempts with
    | zero => exact hpipeline ip
    | succ n ih =>
        refine All.bind (hpipeline ip) fun result => ?_
        cases result with
        | ok => trivial
        | error => exact ih
  have hall : (refreshActiveLocators sid route).All Refreshes := by
    refine All.bind hload fun ip => ?_
    cases ip with
    | none => trivial
    | some ip => exact All.bind (hagain ip 2) fun _ => trivial
  refine hall.runFault_invariant
    (I := fun s' : Store => (s' sid).locator = some route ∧ (s' sid).hot = (s sid).hot)
    ?_ k ⟨h, rfl⟩
  rintro ⟨sid', op⟩ ⟨rfl, hop⟩ s' ⟨hs', hhot⟩
  rcases hop with rfl | rfl | rfl | ⟨ip, rfl⟩
  all_goals simp [exec, Op.exec, hs', hhot]

/-- A script that fails does nothing, and what fails after it is not reported. -/
theorem runFault_execAndRefresh {op : Op} {v : op.Reply} {entry : Entry}
    (hexec : op.exec (s sid) = (v, entry)) (hlocator : entry.locator = some route) (k : ℕ) :
    (k = 0 ∧ (execAndRefresh sid route op).runFault exec e k s = (.error e, s)) ∨
      (0 < k ∧ ((execAndRefresh sid route op).runFault exec e k s).1 = .ok v ∧
        (((execAndRefresh sid route op).runFault exec e k s).2 sid).locator = some route ∧
        (((execAndRefresh sid route op).runFault exec e k s).2 sid).hot = entry.hot) := by
  cases k with
  | zero => exact .inl ⟨rfl, rfl⟩
  | succ k =>
      have hreply : exec ⟨sid, op⟩ s = (v, Function.update s sid entry) := by
        simp only [exec, hexec]
        rfl
      have hat : Function.update s sid entry sid = entry := Function.update_self _ _ _
      have hrefresh := runFault_refreshActiveLocators (e := e) (s := Function.update s sid entry)
        (by rw [hat, hlocator]) k
      rw [hat] at hrefresh
      have hrun : (execAndRefresh sid route op).runFault exec e (k + 1) s =
          (.ok v, ((refreshActiveLocators sid route).runFault exec e k
            (Function.update s sid entry)).2) := by
        rw [execAndRefresh, redis, command, bind_eq, call_bind, runFault, hreply]
        exact runFault_bind_ret _ _ _ _
      rw [hrun]
      exact .inr ⟨Nat.succ_pos k, rfl, hrefresh⟩

theorem run_execAndRefresh (route : Route) {op : Op} {v : op.Reply} {entry : Entry}
    (hexec : op.exec (s sid) = (v, entry)) : (execAndRefresh sid route op).run exec s =
      (.ok v, Function.update s sid (entry.refreshed route)) := by
  have hreply : exec ⟨sid, op⟩ s = (v, Function.update s sid entry) := by
    simp only [exec, hexec]
    rfl
  rw [execAndRefresh, redis, command, bind_eq, call_bind, run, hreply]
  dsimp only
  rw [ret_bind]
  dsimp only
  rw [bind_eq, run_bind, run_refreshActiveLocators, Function.update_self, Function.update_idem]
  rfl

theorem issued_execAndRefresh (route : Route) {op : Op} {v : op.Reply} {entry : Entry}
    (hexec : op.exec (s sid) = (v, entry)) : (execAndRefresh sid route op).issued exec s =
      refreshCommands entry route + 1 := by
  have hreply : exec ⟨sid, op⟩ s = (v, Function.update s sid entry) := by
    simp only [exec, hexec]
    rfl
  rw [execAndRefresh, redis, command, bind_eq, call_bind, issued, hreply]
  dsimp only
  rw [ret_bind]
  dsimp only
  rw [bind_eq, issued_bind, issued_refreshActiveLocators, Function.update_self]
  rfl

end Refresh

/-! ### The operations -/

section Operations

variable {s : Store} {sid : SessionId} {route : Route} {session : Session} {now : ℤ} {k : ℕ}
  {e : Reason} {updates : Updates}

theorem outcome_error : Outcome route (s sid) sid (.error e, s) :=
  ⟨⟨e, rfl⟩, Kept.refl _ _⟩

theorem not_outcome_of_ok {before : Entry} {result : Except Reason Session × Store}
    (h : ∃ updated, result.1 = .ok updated) : ¬ Outcome route before sid result := by
  obtain ⟨updated, hupdated⟩ := h
  rintro ⟨⟨reason, hreason⟩, -⟩
  rw [hupdated] at hreason
  cases hreason

/-- A failed write of a whole record is harmless to the sessions that the record is not of. -/
theorem outcome_persistSession_iff {record : Session} {f : Except Reason Unit →
    Prog (Except Reason Session)} (hlocator : (s sid).locator = some route)
    (hf : f (.error e) = .ret (.error e)) (hk : k < 6) :
    Outcome route (s sid) sid (((persistSession rt record).bind f).runFault exec e k s) ↔
      record.id ≠ sid := by
  obtain ⟨herror, hgone⟩ := runFault_persistSession rt record (s := s)
    (e := e) hk
  rw [runFault_bind_of_lt f (issued_persistSession.symm ▸ hk), herror, hf, run]
  constructor
  · rintro ⟨-, hkept⟩ rfl
    have hsame := hkept.locator
    rw [hgone, hlocator] at hsame
    cases hsame
  · intro hne
    refine ⟨⟨e, rfl⟩, ?_⟩
    rw [runFault_persistSession_of_ne hne]
    exact Kept.refl _ _

theorem outcome_persistUpdatedSession_iff (updates : Updates) (now : ℤ)
    (h : Existing s sid route session)
    (hk : k < (persistUpdatedSession rt sid updates now).issued exec s) :
    Outcome route (s sid) sid ((persistUpdatedSession rt sid updates now).runFault exec e k s) ↔
      k < 2 ∨ (session.merge updates).id ≠ session.id := by
  have hread := reads_getSession rt (e := e) h.locator h.data
  rw [persistUpdatedSession, bind_eq] at hk ⊢
  by_cases hlt : k < 2
  · rw [hread.runFault_of_lt hlt]
    exact iff_of_true outcome_error (.inl hlt)
  · rw [hread.issued_bind] at hk
    rw [hread.runFault_of_le (by omega)]
    dsimp only at hk ⊢
    have hpersist : k - 2 < 6 := by
      rw [bind_eq, issued_bind, issued_persistSession, run_persistSession] at hk
      simp only [pure_eq, issued] at hk
      omega
    rw [bind_eq, outcome_persistSession_iff rt h.locator rfl hpersist,
      Session.id_touchLastActivity, h.id]
    simp [hlt]

theorem outcome_moveSessionShard_iff {newShard : ℤ} (h : Existing s sid route session)
    (hk : k < (moveSessionShard rt sid newShard now).issued exec s) :
    Outcome route (s sid) sid ((moveSessionShard rt sid newShard now).runFault exec e k s) ↔
      k < 2 ∨ session.redisShard = normalizedShard rt newShard := by
  have hread := reads_getSession rt (e := e) h.locator h.data
  rw [moveSessionShard, bind_eq] at hk ⊢
  by_cases hlt : k < 2
  · rw [hread.runFault_of_lt hlt]
    exact iff_of_true outcome_error (.inl hlt)
  · rw [hread.issued_bind] at hk
    rw [hread.runFault_of_le (by omega)]
    dsimp only at hk ⊢
    by_cases hshard : session.redisShard = normalizedShard rt newShard
    · rw [if_pos hshard, pure_eq, issued] at hk
      exact absurd hk (by omega)
    · rw [if_neg hshard]
      simp only [hlt, hshard, or_self, iff_false]
      by_cases hpersist : k - 2 < 6
      · rw [bind_eq, outcome_persistSession_iff rt h.locator rfl hpersist]
        exact not_not.2 h.id
      · rw [bind_eq, runFault_bind_of_le _ (by rw [issued_persistSession]; omega),
          run_persistSession]
        refine not_outcome_of_ok ?_
        dsimp only
        rw [bind_eq, pure_eq, runFault_bind_ret]
        exact ⟨_, rfl⟩

/-- The keys of a session whose record was touched. -/
def Entry.touched (entry : Entry) (route : Route) (session : Session) (now : ℤ) : Entry :=
  entry.atRoute route fun hot => { hot with data := some (session.touchLastActivity now) }

theorem exec_touchScript (now : ℤ) {entry : Entry} (h : (entry.hot route).data = some session) :
    (Op.touchScript route now).exec entry = (true, entry.touched route session now) := by
  rw [Op.exec, h]
  rfl

theorem refreshCommands_touched {entry : Entry} :
    refreshCommands (entry.touched route session now) route = refreshCommands entry route := by
  simp [refreshCommands, ownIp, activeLocatorIp, Entry.touched, Entry.atRoute]

/-- A refresh changes nothing when the record was touched in the same second and the IP locator is
as it should be. -/
theorem kept_refreshed_touched_iff {entry : Entry} (hlocator : entry.locator = some route)
    (hdata : (entry.hot route).data = some session) :
    Kept route entry ((entry.touched route session now).refreshed route) ↔
      now = session.lastActivity ∧
        ∀ ip, activeLocatorIp entry route = some ip → entry.ipLocator = some ip := by
  have hactive : activeLocatorIp (entry.touched route session now) route =
      activeLocatorIp entry route := by
    simp [activeLocatorIp, ownIp, Entry.touched, Entry.atRoute]
  have htouch : session.touchLastActivity now = session ↔ now = session.lastActivity := by
    constructor
    · intro heq
      exact congrArg Session.lastActivity heq
    · rintro rfl
      rfl
  have hhot : ((entry.touched route session now).hot route) =
      { entry.hot route with data := some (session.touchLastActivity now) } := by
    simp [Entry.touched, Entry.atRoute]
  rw [← htouch]
  unfold Entry.refreshed
  rw [hactive]
  cases hip : activeLocatorIp entry route with
  | none =>
      constructor
      · intro hkept
        have hsame := hkept.data
        rw [hhot, hdata] at hsame
        exact ⟨Option.some_inj.1 hsame, fun ip h => nomatch h⟩
      · rintro ⟨hsame, -⟩
        exact ⟨by rw [hhot, hdata, hsame], by rw [hhot], by rw [hhot], by rw [hhot], rfl, rfl, rfl,
          rfl⟩
  | some ip =>
      constructor
      · intro hkept
        have hsame := hkept.data
        dsimp only at hsame
        rw [hhot, hdata] at hsame
        refine ⟨Option.some_inj.1 hsame, fun ip' h => ?_⟩
        rw [← hkept.ipLocator, h]
      · rintro ⟨hsame, hipLocator⟩
        exact ⟨by rw [hhot, hdata, hsame], by rw [hhot], by rw [hhot], by rw [hhot], hlocator.symm,
          (hipLocator ip rfl).symm, rfl, rfl⟩

theorem issued_touchSession (now : ℤ) (h : Existing s sid route session) :
    (touchSession rt sid now).issued exec s = 3 + refreshCommands (s sid) route := by
  have hread := reads_resolveSessionRoute rt (e := .missingQueueMeta) h.locator
    (by rw [h.data]; rfl) (by decide)
  have htail := issued_execAndRefresh route (exec_touchScript now h.data)
  rw [refreshCommands_touched] at htail
  rw [touchSession, bind_eq, hread.issued_bind]
  exact (congrArg (2 + ·) htail).trans (by omega)

theorem run_touchSession (now : ℤ) (h : Existing s sid route session) :
    (touchSession rt sid now).run exec s = (.ok true,
      Function.update s sid (((s sid).touched route session now).refreshed route)) := by
  have hread := reads_resolveSessionRoute rt (e := .missingQueueMeta) h.locator
    (by rw [h.data]; rfl) (by decide)
  rw [touchSession, bind_eq, hread.run_bind]
  exact run_execAndRefresh route (exec_touchScript now h.data)

theorem runFault_touchSession (now : ℤ) (h : Existing s sid route session) (he : e ≠ .notFound) (k : ℕ) :
    (k < 3 ∧ (touchSession rt sid now).runFault exec e k s = (.error e, s)) ∨
      (3 ≤ k ∧ ((touchSession rt sid now).runFault exec e k s).1 = .ok true ∧
        (((touchSession rt sid now).runFault exec e k s).2 sid).locator = some route ∧
        (((touchSession rt sid now).runFault exec e k s).2 sid).hot =
          ((s sid).touched route session now).hot) := by
  have hread := reads_resolveSessionRoute rt (e := e) h.locator (by rw [h.data]; rfl) he
  rw [touchSession, bind_eq]
  by_cases hlt : k < 2
  · rw [hread.runFault_of_lt hlt]
    exact .inl ⟨by omega, rfl⟩
  · rw [hread.runFault_of_le (by omega)]
    have htail := runFault_execAndRefresh (e := e)
      (exec_touchScript now h.data) h.locator (k - 2)
    rcases htail with ⟨hzero, hrun⟩ | ⟨hpos, hrest⟩
    · exact .inl ⟨by omega, hrun⟩
    · exact .inr ⟨by omega, hrest⟩

theorem issued_refreshSession (now : ℤ) (h : Existing s sid route session) :
    (refreshSession rt sid now).issued exec s = 3 + refreshCommands (s sid) route := by
  rw [refreshSession, bind_eq, issued_bind, issued_touchSession rt now h]
  rfl

theorem run_refreshSession (now : ℤ) (h : Existing s sid route session) :
    (refreshSession rt sid now).run exec s = (.ok (),
      Function.update s sid (((s sid).touched route session now).refreshed route)) := by
  rw [refreshSession, bind_eq, run_bind, run_touchSession rt now h]
  rfl

theorem runFault_refreshSession (now : ℤ) (h : Existing s sid route session) (he : e ≠ .notFound) (k : ℕ) :
    (k < 3 ∧ (refreshSession rt sid now).runFault exec e k s = (.error e, s)) ∨
      (3 ≤ k ∧ ((refreshSession rt sid now).runFault exec e k s).1 = .ok () ∧
        (((refreshSession rt sid now).runFault exec e k s).2 sid).locator = some route ∧
        (((refreshSession rt sid now).runFault exec e k s).2 sid).hot =
          ((s sid).touched route session now).hot) := by
  rw [refreshSession, bind_eq]
  simp only [pure_eq]
  rw [runFault_bind_ret]
  rcases runFault_touchSession rt now h he k with
    ⟨hlt, htouch⟩ | ⟨hle, hresult, hrest⟩
  · rw [htouch]
    exact .inl ⟨hlt, rfl⟩
  · rw [hresult]
    exact .inr ⟨hle, rfl, hrest⟩

/-- An update of no field: its write is the touch of the record, and two reads follow. -/
theorem outcome_updateSession_empty_iff (h : Existing s sid route session) (he : e ≠ .notFound)
    (hk : k < (updateSession rt sid {} now).issued exec s) :
    Outcome route (s sid) sid ((updateSession rt sid {} now).runFault exec e k s) ↔
      k < 3 ∨ (3 + refreshCommands (s sid) route ≤ k ∧ now = session.lastActivity ∧
        ∀ ip, activeLocatorIp (s sid) route = some ip → (s sid).ipLocator = some ip) := by
  have hissued := issued_refreshSession rt now h
  rw [updateSession, if_pos rfl, bind_eq] at hk ⊢
  by_cases hlt : k < 3 + refreshCommands (s sid) route
  · rw [runFault_bind_of_lt _ (hissued.symm ▸ hlt)]
    rcases runFault_refreshSession rt now h he k with
      ⟨hthree, hrun⟩ | ⟨hthree, hresult, hlocator, hhot⟩
    · rw [hrun]
      exact iff_of_true outcome_error (.inl hthree)
    · rw [hresult]
      have hdata : ((((refreshSession rt sid now).runFault exec e k s).2 sid).hot route).data =
          some (session.touchLastActivity now) := by
        rw [hhot]
        simp [Entry.touched, Entry.atRoute]
      refine iff_of_false (not_outcome_of_ok ⟨session.touchLastActivity now, ?_⟩) (by omega)
      exact congrArg Prod.fst (reads_getSession rt (e := e) hlocator hdata).result
  · have hlocator : (((s sid).touched route session now).refreshed route).locator = some route := by
      unfold Entry.refreshed
      split
      · rfl
      · exact h.locator
    have hdata : ((((s sid).touched route session now).refreshed route).hot route).data =
        some (session.touchLastActivity now) := by
      unfold Entry.refreshed
      split <;> simp [Entry.touched, Entry.atRoute]
    have hread : Reads exec e (getSession rt sid) (Function.update s sid
        (((s sid).touched route session now).refreshed route))
        (session.touchLastActivity now) 2 := by
      refine reads_getSession rt (?_ : _ = some route) ?_
      · rw [Function.update_self, hlocator]
      · rw [Function.update_self, hdata]
    rw [issued_bind, hissued, run_refreshSession rt now h] at hk
    rw [runFault_bind_of_le _ (by omega), run_refreshSession rt now h, hissued]
    dsimp only at hk ⊢
    have hreads := hread.issued
    rw [hread.fault _ (by omega), ← kept_refreshed_touched_iff h.locator h.data]
    constructor
    · intro houtcome
      refine .inr ⟨by omega, ?_⟩
      simpa only [Function.update_self] using houtcome.kept
    · rintro (hthree | ⟨-, hkept⟩)
      · omega
      · refine ⟨⟨e, rfl⟩, ?_⟩
        simpa only [Function.update_self] using hkept

/-- Without queue metadata nothing is updated in place. -/
theorem reads_updateSessionFields_missing (updates : Updates) (now : ℤ)
    (h : Existing s sid route session) (he : e ≠ .notFound)
    (hmeta : ((s sid).hot route).queueMeta.isSome = false) :
    (updateSessionFields rt sid updates now).issued exec s = 3 ∧
      (updateSessionFields rt sid updates now).run exec s = (.error .missingQueueMeta, s) ∧
      ∀ k, k < 3 → (updateSessionFields rt sid updates now).runFault exec e k s =
        (.error e, s) := by
  have hresolve := reads_resolveSessionRoute rt (e := e) h.locator (by rw [h.data]; rfl) he
  have hexists : Reads exec e (redis sid (.existsQueueMeta route)) s false 1 :=
    reads_redis (by rw [Op.exec, hmeta])
  rw [updateSessionFields, bind_eq]
  refine ⟨?_, ?_, fun k hk => ?_⟩
  · rw [hresolve.issued_bind]
    dsimp only
    rw [bind_eq, hexists.issued_bind]
    rfl
  · rw [hresolve.run_bind]
    dsimp only
    rw [bind_eq, hexists.run_bind]
    rfl
  · by_cases hlt : k < 2
    · rw [hresolve.runFault_of_lt hlt]
      rfl
    · rw [hresolve.runFault_of_le (by omega)]
      dsimp only
      rw [bind_eq, hexists.runFault_of_lt (by omega)]
      rfl

/-- With queue metadata the script runs; what fails after it is not reported. -/
theorem runFault_updateSessionFields (updates : Updates) (now : ℤ) (h : Existing s sid route session) (he : e ≠ .notFound)
    (hmeta : ((s sid).hot route).queueMeta.isSome = true) (k : ℕ) :
    (k < 4 ∧ (updateSessionFields rt sid updates now).runFault exec e k s = (.error e, s)) ∨
      (4 ≤ k ∧ ((updateSessionFields rt sid updates now).runFault exec e k s).1 =
        .ok (some ((session.merge updates).touchLastActivity now))) := by
  have hresolve := reads_resolveSessionRoute rt (e := e) h.locator (by rw [h.data]; rfl) he
  have hexists : Reads exec e (redis sid (.existsQueueMeta route)) s true 1 :=
    reads_redis (by rw [Op.exec, hmeta])
  have hexec : ∃ entry, (Op.updateScript route updates now).exec (s sid) =
      (some ((session.merge updates).touchLastActivity now), entry) ∧
        entry.locator = some route := by
    rw [Op.exec, h.data]
    exact ⟨_, rfl, h.locator⟩
  obtain ⟨entry, hexec, hlocator⟩ := hexec
  rw [updateSessionFields, bind_eq]
  by_cases hlt : k < 2
  · rw [hresolve.runFault_of_lt hlt]
    exact .inl ⟨by omega, rfl⟩
  · rw [hresolve.runFault_of_le (by omega)]
    dsimp only
    rw [bind_eq]
    by_cases hlt' : k - 2 < 1
    · rw [hexists.runFault_of_lt hlt']
      exact .inl ⟨by omega, rfl⟩
    · rw [hexists.runFault_of_le (by omega)]
      rcases runFault_execAndRefresh (e := e) hexec hlocator (k - 2 - 1) with
        ⟨hzero, hrun⟩ | ⟨hpos, hresult, -⟩
      · exact .inl ⟨by omega, hrun⟩
      · exact .inr ⟨by omega, hresult⟩

/-- An update in place: a failure before the script or of it is harmless. -/
theorem outcome_updateSession_partial_iff (h : Existing s sid route session)
    (he : e ≠ .notFound ∧ e ≠ .missingQueueMeta) (hempty : updates ≠ {})
    (hinPlace : updates.partialUpdateSupported = true)
    (hk : k < (updateSession rt sid updates now).issued exec s) :
    Outcome route (s sid) sid ((updateSession rt sid updates now).runFault exec e k s) ↔
      if ((s sid).hot route).queueMeta.isSome then k < 4 else k < 5 := by
  rw [updateSession, if_neg hempty, if_pos hinPlace, bind_eq] at hk ⊢
  cases hmeta : ((s sid).hot route).queueMeta.isSome with
  | true =>
      have hfields := runFault_updateSessionFields rt updates now h he.1 hmeta
      have hlt : k < (updateSessionFields rt sid updates now).issued exec s := by
        by_contra hle
        have hresult := hfields (k + 4)
        rw [runFault_eq_run (by omega)] at hresult
        rcases hresult with ⟨hlt, -⟩ | ⟨-, hresult⟩
        · omega
        · rw [issued_bind, hresult] at hk
          simp only [pure_eq, issued] at hk
          omega
      rw [runFault_bind_of_lt _ hlt]
      rcases hfields k with ⟨hfour, hrun⟩ | ⟨hfour, hresult⟩
      · rw [hrun]
        refine iff_of_true ?_ hfour
        cases e with
        | notFound => exact absurd rfl he.1
        | missingQueueMeta => exact absurd rfl he.2
        | redis text => exact outcome_error
      · rw [hresult]
        exact iff_of_false (not_outcome_of_ok ⟨_, rfl⟩) (Nat.not_lt.2 hfour)
  | false =>
      obtain ⟨hissued, hrun, hfault⟩ := reads_updateSessionFields_missing rt updates now
        h he.1 hmeta
      by_cases hlt : k < 3
      · rw [runFault_bind_of_lt _ (hissued.symm ▸ hlt), hfault k hlt]
        refine iff_of_true ?_ (show k < 5 by omega)
        cases e with
        | notFound => exact absurd rfl he.1
        | missingQueueMeta => exact absurd rfl he.2
        | redis text => exact outcome_error
      · rw [issued_bind, hissued, hrun] at hk
        rw [runFault_bind_of_le _ (by omega), hrun, hissued]
        have hpersist := outcome_persistUpdatedSession_iff rt updates now (e := e)
          (k := k - 3) h (by dsimp only at hk; omega)
        refine hpersist.trans ?_
        rw [(id_merge_of_partialUpdateSupported rt session hinPlace).1]
        simp only [ne_eq, not_true_eq_false, or_false, Bool.false_eq_true, if_false]
        omega

end Operations

/-! ### The law of failed writes -/

/-- **A failure is harmless exactly when the failing command comes before any write.** -/
theorem harmless_iff_failsBeforeWriting {s : Store} {sid : SessionId} {route : Route}
    {session : Session} (op : Operation) (now : ℤ) (k : ℕ) (text : String)
    (h : Existing s sid route session) (hk : k < (op.program rt sid now).issued exec s) :
    Harmless rt op s sid route now k text ↔
      FailsBeforeWriting rt (s sid) route session now k op := by
  unfold Harmless
  cases op with
  | updateSession updates =>
      by_cases hempty : updates = {}
      · subst hempty
        exact outcome_updateSession_empty_iff rt h (by simp) hk
      · cases hinPlace : updates.partialUpdateSupported with
        | true =>
            rw [FailsBeforeWriting, if_neg hempty, if_pos hinPlace]
            exact outcome_updateSession_partial_iff rt h (by simp) hempty hinPlace hk
        | false =>
            have hprogram : (Operation.updateSession updates).program rt sid now =
                persistUpdatedSession rt sid updates now := by
              rw [Operation.program, updateSession, if_neg hempty, hinPlace]
              rfl
            rw [hprogram] at hk ⊢
            rw [FailsBeforeWriting, if_neg hempty, hinPlace]
            exact outcome_persistUpdatedSession_iff rt updates now h hk
  | persistUpdatedSession updates => exact outcome_persistUpdatedSession_iff rt updates now h hk
  | moveSessionShard newShard => exact outcome_moveSessionShard_iff rt h hk

/-! ### One session -/

def asciiRuntime : Runtime where
  text := Matchmaker.asciiText
  hashedToken token := token
  matchShardCount := 12

/-- A session that waits in a text chat. -/
def waitingSession : Session where
  id := "a"
  token := "t"
  ip := "192.0.2.7"
  sessionKind := .human
  redisShard := 4
  matchGeneration := none
  status := .waiting
  partnerId := none
  lastPartnerId := none
  signalingReady := false
  webrtcStarted := false
  preferences := ⟨"text", "music"⟩
  createdAt := 0
  lastActivity := 0
  banStatus := false
  banReason := none

/-- The keys that the creation of the session has left. -/
def waitingEntry : Entry where
  hot route :=
    if route = ⟨"text", 4⟩ then
      { data := some waitingSession
        ip := some "192.0.2.7"
        token := some "t"
        queueMeta := some (buildQueueMeta asciiRuntime waitingSession) }
    else {}
  locator := some ⟨"text", 4⟩
  ipLocator := some "192.0.2.7"
  active := true
  ipSessions ip := ip = "192.0.2.7"

def waitingStore : Store := fun sid => if sid = "a" then waitingEntry else { hot := fun _ => {} }

theorem existing_waitingSession : Existing waitingStore "a" ⟨"text", 4⟩ waitingSession :=
  ⟨rfl, rfl, rfl⟩

/-- The script of an update in place fails, and nothing has happened. -/
theorem harmless_failed_status_update :
    Harmless asciiRuntime (.updateSession { status := some .disconnecting }) waitingStore "a"
      ⟨"text", 4⟩ 60 3 "timeout" := by
  refine (harmless_iff_failsBeforeWriting asciiRuntime _ 60 3 "timeout" existing_waitingSession
    (by decide +kernel)).2 ?_
  rw [FailsBeforeWriting, if_neg (by decide), if_pos (by decide), if_pos (by decide)]
  decide

/-- **A failed update deletes the session**: new interests are written as a whole record, the script
that writes it fails, and the locator of the session is taken back as if it had just been
created. -/
theorem failed_persist_deletes :
    Existing waitingStore "a" ⟨"text", 4⟩ waitingSession ∧
      2 < (Operation.program asciiRuntime "a" 60
        (.updateSession { preferences := some ⟨"text", "chess"⟩ })).issued exec waitingStore ∧
      ¬ Harmless asciiRuntime (.updateSession { preferences := some ⟨"text", "chess"⟩ })
        waitingStore "a" ⟨"text", 4⟩ 60 2 "timeout" := by
  refine ⟨⟨rfl, rfl, rfl⟩, by decide +kernel, ?_⟩
  rintro ⟨-, hkept⟩
  have hlocator := hkept.locator
  exact absurd hlocator (by decide +kernel)

end Sessions
