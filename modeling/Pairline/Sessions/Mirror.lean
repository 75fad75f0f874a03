/-
**The queue metadata of a session mirrors its record.**

The matchmaker reads the status and the partner of a session from its queue metadata.  The operations
that write a whole record write both, and an update in place carries the fields over.  The scripts for
an administrator's ban or disconnect, and for the partner that loses its match to one, replace the
record and leave the metadata as it is; the mirror survives only when they change neither field.

Main definitions:

* `Sessions.Hot.Mirrors`, `Sessions.Mirrored` — the metadata of a session, and of all, is up to date;
* `Sessions.foundRoute`, `Sessions.recordFound` — what a lookup finds;
* `Sessions.SessionOperation.SparesMirror` — an operation that leaves status and partner alone, where
  it leaves the metadata alone.

Main results:

* `Sessions.mirrored_after_iff` — **one operation keeps the mirror exactly when it spares it**;
* `Sessions.mirrored_iff_sparesMirror` — the same of every sequence of operations;
* `Sessions.ban_breaks_mirror` — a banned session that still waits in the metadata.
-/

import Pairline.Sessions.FailedWrites
import Pairline.Sessions.Matching

set_option relaxedAutoImplicit false
set_option autoImplicit false

namespace Sessions

open Matchmaker (SessionId)
open Program

/-! ### The mirror -/

/-- **The queue metadata says of status and partner what the record says.** -/
def Hot.Mirrors (hot : Hot) : Prop :=
  (hot.queueMeta.map fun queueMeta => (queueMeta.status, queueMeta.partnerId)) =
    hot.data.map fun session => (session.status, session.partnerId)

def Mirrored (s : Store) : Prop := ∀ sid route, ((s sid).hot route).Mirrors

variable (rt : Runtime)

/-- **The route that a lookup finds**: the one in the locator if there is a record under it, or the
first one under which there is a record. -/
def foundRoute (s : Store) (sid : SessionId) : Option Route :=
  ((s sid).locator.filter fun route => ((s sid).hot route).data.isSome).or
    ((candidateRoutes rt).find? fun route => ((s sid).hot route).data.isSome)

/-- **The record that a lookup finds.** -/
def recordFound (s : Store) (sid : SessionId) : Option Session :=
  (foundRoute rt s sid).bind fun route => ((s sid).hot route).data

/-- The session is disconnecting and has no partner. -/
def Session.Idle (session : Session) : Prop :=
  session.status = .disconnecting ∧ session.partnerId = none

/-- **An operation spares the mirror** when its script, if it is one that leaves the metadata as it
is, changes neither status nor partner. -/
def SessionOperation.SparesMirror (s : Store) : SessionOperation → Prop
  | .disconnect sid _ => ∀ session ∈ recordFound rt s sid, session.Idle
  | .ban sid _ _ => ∀ session ∈ recordFound rt s sid, session.banStatus = true ∨ session.Idle
  | .disconnectPartner partnerId originSessionId _ =>
      ∀ session ∈ recordFound rt s partnerId, session.partnerId ≠ some originSessionId
  | _ => True

variable {rt} {s : Store} {sid : SessionId} {route : Route}

/-! ### Commands that keep the mirror -/

/-- A command or script keeps the mirror of every store. -/
def KeepsMirror (c : Cmd ⊕ MatchCmd) : Prop := ∀ s, Mirrored s → Mirrored (execMatch c s).2

/-- The command leaves the keys under the tags of the routes alone. -/
def Op.KeepsHot (op : Op) : Prop := ∀ entry, (op.exec entry).2.hot = entry.hot

theorem hot_exec_of_keepsHot {op : Op} (h : op.KeepsHot) (s : Store) (sid' : SessionId) :
    ((exec ⟨sid, op⟩ s).2 sid').hot = (s sid').hot := by
  rcases eq_or_ne sid sid' with rfl | hne
  · have hself : (exec ⟨sid, op⟩ s).2 sid = (op.exec (s sid)).2 := Function.update_self _ _ _
    rw [hself, h]
  · rw [exec_snd_of_ne hne]

theorem keepsHot_lookup {op : Op} (h : op.Lookup) : op.KeepsHot := by
  cases h <;> exact fun _ => rfl

theorem Op.KeepsHot.keepsMirror {op : Op} (h : op.KeepsHot) : KeepsMirror (.inl ⟨sid, op⟩) := by
  intro s hs sid' route
  change (((Sessions.exec ⟨sid, op⟩ s).2 sid').hot route).Mirrors
  rw [hot_exec_of_keepsHot h]
  exact hs sid' route

/-- A change under the tag of one route. -/
theorem mirrored_update {f : Hot → Hot} (hs : Mirrored s) (hf : (f ((s sid).hot route)).Mirrors) :
    Mirrored (Function.update s sid ((s sid).atRoute route f)) := by
  intro sid' route'
  rcases eq_or_ne sid' sid with rfl | hne
  · rw [Function.update_self]
    simp only [Entry.atRoute]
    rcases eq_or_ne route' route with rfl | hne
    · rw [Function.update_self]
      exact hf
    · rw [Function.update_of_ne hne]
      exact hs sid' route'
  · rw [Function.update_of_ne hne]
    exact hs sid' route'

theorem mirrored_write {session : Session} {token : String} (hs : Mirrored s) :
    Mirrored (s.write route session token (buildQueueMeta rt session)) :=
  mirrored_update hs rfl

/-- **A whole record brings its metadata along.** -/
theorem keepsMirror_persistScript {session : Session} {token : String} :
    KeepsMirror (.inl ⟨sid, .persistScript route session token (buildQueueMeta rt session)⟩) :=
  fun _ hs => mirrored_update (f := writeHot session token (buildQueueMeta rt session)) hs rfl

theorem keepsMirror_delHot : KeepsMirror (.inl ⟨sid, .delHot route⟩) :=
  fun _ hs => mirrored_update
    (f := fun hot => { hot with data := none, ip := none, token := none, queueMeta := none }) hs rfl

theorem keepsMirror_setexOwner {owner : String} :
    KeepsMirror (.inl ⟨sid, .setexOwner route owner⟩) :=
  fun _ hs => mirrored_update (f := fun hot => { hot with owner := some owner }) hs (hs sid route)

theorem execMatch_inl (sid : SessionId) (op : Op) (s : Store) :
    (execMatch (.inl ⟨sid, op⟩) s).2 = Function.update s sid (op.exec (s sid)).2 := rfl

theorem keepsMirror_touchScript {now : ℤ} : KeepsMirror (.inl ⟨sid, .touchScript route now⟩) := by
  intro s hs
  rw [execMatch_inl]
  simp only [Op.exec]
  split
  next => rwa [Function.update_eq_self]
  next session hdata =>
    refine mirrored_update
      (f := fun hot => { hot with data := some (session.touchLastActivity now) }) hs ?_
    have hmirror := hs sid route
    simp only [Hot.Mirrors, hdata] at hmirror ⊢
    exact hmirror

/-- **An update in place carries the fields over.** -/
theorem keepsMirror_updateScript {updates : Updates} {now : ℤ} :
    KeepsMirror (.inl ⟨sid, .updateScript route updates now⟩) := by
  intro s hs
  rw [execMatch_inl]
  simp only [Op.exec]
  split
  next => rwa [Function.update_eq_self]
  next session hdata =>
    let updated := (session.merge updates).touchLastActivity now
    refine mirrored_update (f := fun hot =>
      { hot with
        data := some updated
        queueMeta := hot.queueMeta.map fun queueMeta => queueMeta.overlap updated }) hs ?_
    have hmirror := hs sid route
    cases hmeta : ((s sid).hot route).queueMeta with
    | none =>
        rw [Hot.Mirrors, hmeta, hdata] at hmirror
        cases hmirror
    | some queueMeta =>
        simp only [Hot.Mirrors]
        rfl

theorem keepsMirror_pairScript {session1 session2 : Session} {token1 token2 : String} :
    KeepsMirror (.inr (.pairScript route session1 session2 token1 token2
      (buildQueueMeta rt session1) (buildQueueMeta rt session2))) :=
  fun _ hs => mirrored_write (mirrored_write hs)

theorem keepsMirror_resetPairScript {session1 session2 : Session} {token1 token2 : String} :
    KeepsMirror (.inr (.resetPairScript route session1 session2 token1 token2
      (buildQueueMeta rt session1) (buildQueueMeta rt session2))) :=
  fun _ hs => mirrored_write (mirrored_write hs)

/-! ### Programs that keep the mirror -/

/-- A command that keeps the mirror, among those on the keys of one session. -/
def KeepsMirrorCmd (c : Cmd) : Prop := KeepsMirror (.inl c)

theorem keepsMirrorCmd_lookup {op : Op} (h : op.Lookup) : KeepsMirrorCmd ⟨sid, op⟩ :=
  (keepsHot_lookup h).keepsMirror

/-- A pipeline of commands that leave the keys under the tags of the routes alone. -/
theorem all_pipeline_of_keepsHot {ops : List Op} (hops : ∀ op ∈ ops, op.KeepsHot) :
    (pipeline sid ops).All KeepsMirrorCmd := by
  refine All.pipeline fun c hc => ?_
  obtain ⟨op, hop, rfl⟩ := List.mem_map.1 hc
  exact (hops op hop).keepsMirror

theorem all_persistSession_mirror {session : Session} :
    (persistSession rt session).All KeepsMirrorCmd := by
  have hwrite : (writeSession rt session).All KeepsMirrorCmd := by
    refine All.bind (All.command keepsMirror_persistScript) fun reply => ?_
    split
    · exact all_pipeline_of_keepsHot (by simp [Op.KeepsHot, Op.exec])
    · trivial
  have hrollback : (rollbackSession rt session).All KeepsMirrorCmd := by
    refine All.bind (all_pipeline_of_keepsHot (by simp [Op.KeepsHot, Op.exec])) fun _ => ?_
    refine All.bind (all_pipeline_of_keepsHot (by simp [Op.KeepsHot, Op.exec])) fun _ => ?_
    exact All.bind (All.command keepsMirror_delHot) fun _ => trivial
  refine All.bind hwrite fun result => ?_
  split
  · trivial
  · exact All.bind hrollback fun _ => trivial

theorem all_refreshActiveLocators_mirror :
    (refreshActiveLocators sid route).All KeepsMirrorCmd := by
  have hread {op : Op} (h : op.KeepsHot) : (redis sid op).All KeepsMirrorCmd :=
    All.command h.keepsMirror
  have hlocator : (loadActiveLocatorIp.fromLocator sid).All KeepsMirrorCmd := by
    refine All.bind (hread fun _ => rfl) fun reply => ?_
    split
    · split <;> trivial
    · trivial
  have hload : (loadActiveLocatorIp sid route).All KeepsMirrorCmd := by
    refine All.bind (hread fun _ => rfl) fun reply => ?_
    split
    · split
      · exact hlocator
      · trivial
    · exact hlocator
    · trivial
  have hagain (ip : String) (attempts : ℕ) : (doRefreshActiveLocators sid
      [.setexLocator route, .setexIpLocator ip] attempts).All KeepsMirrorCmd := by
    have hpipeline := @all_pipeline_of_keepsHot sid [.setexLocator route, .setexIpLocator ip]
      (by simp [Op.KeepsHot, Op.exec])
    induction attempts with
    | zero => exact hpipeline
    | succ n ih =>
        refine All.bind hpipeline fun result => ?_
        cases result with
        | ok => trivial
        | error => exact ih
  refine All.bind hload fun ip => ?_
  cases ip with
  | none => trivial
  | some ip => exact All.bind (hagain ip 2) fun _ => trivial

theorem all_execAndRefresh_mirror {op : Op} (hop : KeepsMirrorCmd ⟨sid, op⟩) :
    (execAndRefresh sid route op).All KeepsMirrorCmd := by
  refine All.bind (All.command hop) fun reply => ?_
  split
  · exact All.bind all_refreshActiveLocators_mirror fun _ => trivial
  · trivial

theorem all_updateSession_mirror {updates : Updates} {now : ℤ} :
    (updateSession rt sid updates now).All KeepsMirrorCmd := by
  have hresolve := @all_resolveSessionRoute rt sid _ (fun _ h => keepsMirrorCmd_lookup h) true
  have hget := @all_getSession rt sid _ fun _ h => keepsMirrorCmd_lookup h
  have hpersist : (persistUpdatedSession rt sid updates now).All KeepsMirrorCmd := by
    refine All.bind hget fun result => ?_
    split
    · refine All.bind all_persistSession_mirror fun result => ?_
      split <;> trivial
    · trivial
  have htouch : (refreshSession rt sid now).All KeepsMirrorCmd := by
    refine All.bind (All.bind hresolve fun result => ?_) fun result => trivial
    split
    · exact all_execAndRefresh_mirror keepsMirror_touchScript
    · trivial
  have hfields : (updateSessionFields rt sid updates now).All KeepsMirrorCmd := by
    refine All.bind hresolve fun result => ?_
    split
    · refine All.bind (All.command (Op.KeepsHot.keepsMirror fun _ => rfl)) fun reply => ?_
      split
      · exact all_execAndRefresh_mirror keepsMirror_updateScript
      · trivial
      · trivial
    · trivial
  unfold updateSession
  split_ifs
  · refine All.bind htouch fun result => ?_
    split
    · exact hget
    · trivial
  · refine All.bind hfields fun result => ?_
    split
    · trivial
    · trivial
    · exact hpersist
    · trivial
  · exact hpersist

theorem all_moveSessionShard_mirror {newShard now : ℤ} :
    (moveSessionShard rt sid newShard now).All KeepsMirrorCmd := by
  have hmigrate (oldRoute newRoute : Route) :
      (migrateOwnerRecord sid oldRoute newRoute).All KeepsMirrorCmd := by
    refine All.bind (All.command (Op.KeepsHot.keepsMirror fun _ => rfl)) fun reply => ?_
    split
    · exact All.bind (All.command keepsMirror_setexOwner) fun _ => trivial
    · trivial
  refine All.bind (all_getSession fun _ h => keepsMirrorCmd_lookup h) fun result => ?_
  split
  · split_ifs
    · trivial
    · refine All.bind all_persistSession_mirror fun result => ?_
      split
      · exact All.bind (hmigrate _ _) fun _ => trivial
      · trivial
  · trivial

theorem all_pairSessions_mirror {session1 session2 : Session} {generation : String} {now : ℤ} :
    (pairSessions rt session1 session2 generation now).All KeepsMirror := by
  unfold pairSessions
  split_ifs
  · trivial
  · refine All.bind (All.command keepsMirror_pairScript) fun reply => ?_
    split <;> trivial

theorem all_resetPair_mirror {session1 session2 : Session} {now : ℤ} :
    (resetPair rt session1 session2 now).All KeepsMirror := by
  unfold resetPair
  split_ifs
  · trivial
  · refine All.bind (All.command keepsMirror_resetPairScript) fun reply => ?_
    split <;> trivial

/-! ### What a lookup finds -/

/-- A program of lookups leaves the keys under the tags of the routes alone. -/
theorem hot_run_of_all {α : Type} {p : Prog α} (h : p.All fun c => c.op.KeepsHot) (s : Store)
    (sid : SessionId) : ((p.run exec s).2 sid).hot = (s sid).hot := by
  refine h.run_invariant (I := fun t : Store => (t sid).hot = (s sid).hot) (fun c hc t ht => ?_) rfl
  exact (hot_exec_of_keepsHot hc t sid).trans ht

theorem all_keepsHot_resolveSessionRoute (verifyExists : Bool) :
    (resolveSessionRoute rt sid verifyExists).All fun c => c.op.KeepsHot :=
  all_resolveSessionRoute (fun _ h => keepsHot_lookup h) verifyExists

theorem all_keepsHot_getSession : (getSession rt sid).All fun c => c.op.KeepsHot :=
  all_getSession fun _ h => keepsHot_lookup h

theorem exec_exists : exec ⟨sid, .exists route⟩ s = (((s sid).hot route).data.isSome, s) :=
  Prod.ext rfl (Function.update_eq_self _ _)

theorem run_existsPipeline (routes : List Route) : (existsPipeline sid routes).run exec s =
    (.ok (routes.map fun route => ((s sid).hot route).data.isSome), s) := by
  induction routes with
  | nil => rfl
  | cons route routes ih =>
      simp only [existsPipeline, redis, Program.command, bind_eq, call_bind, ret_bind, run,
        exec_exists, run_bind, ih]
      rfl

theorem find?_zip_map {α : Type} (f : α → Bool) (l : List α) :
    (l.zip (l.map f)).find? Prod.snd = (l.find? f).map fun a => (a, true) := by
  induction l with
  | nil => rfl
  | cons a l ih =>
      cases hfa : f a with
      | true => simp [hfa]
      | false => simp [hfa, ih]

variable (rt) in
/-- What a search under every route finds. -/
def searched (s : Store) (sid : SessionId) : Except Reason Route :=
  match (candidateRoutes rt).find? fun route => ((s sid).hot route).data.isSome with
  | some route => .ok route
  | none => .error .notFound

theorem run_findSessionRoute :
    (findSessionRoute rt sid).run exec s = (searched rt s sid, s) := by
  simp only [findSessionRoute, bind_eq, run_bind, run_existsPipeline, find?_zip_map, searched]
  cases (candidateRoutes rt).find? fun route => ((s sid).hot route).data.isSome <;> rfl

theorem run_maybeVerifySessionExists : (maybeVerifySessionExists sid route true).run exec s =
    (if ((s sid).hot route).data.isSome then .ok () else .error .notFound, s) := by
  simp only [maybeVerifySessionExists, if_true, redis, Program.command, bind_eq, call_bind,
    ret_bind, run, exec_exists]
  cases ((s sid).hot route).data.isSome <;> rfl

/-- The repair of a locator finds what a search finds, and writes it down. -/
theorem run_repairMissingSessionRoute (verifyExists : Bool) :
    (repairMissingSessionRoute rt sid verifyExists).run exec s =
      (searched rt s sid, match searched rt s sid with
        | .ok route => Function.update s sid { s sid with locator := some route }
        | .error _ => s) := by
  simp only [repairMissingSessionRoute, bind_eq, run_bind, run_findSessionRoute]
  cases hsearch : (candidateRoutes rt).find? fun route => ((s sid).hot route).data.isSome with
  | none => simp only [searched, hsearch]; rfl
  | some route =>
      have hdata : ((s sid).hot route).data.isSome = true := by
        simpa using List.find?_some hsearch
      have hverify : (maybeVerifySessionExists sid route verifyExists).run exec s = (.ok (), s) := by
        cases verifyExists with
        | true => rw [run_maybeVerifySessionExists, if_pos hdata]
        | false => rfl
      have hpersist : (persistRepairedSessionLocator sid route).run exec s =
          (.ok (), Function.update s sid { s sid with locator := some route }) := by
        have httl : exec ⟨sid, .ttl route⟩ s = ((), s) :=
          Prod.ext rfl (Function.update_eq_self _ _)
        simp only [persistRepairedSessionLocator, redis, Program.command, bind_eq, call_bind,
          ret_bind, run, httl]
        rfl
      simp only [searched, hsearch, run_bind, hverify, hpersist]
      rfl

theorem exec_getLocator : exec ⟨sid, .getLocator⟩ s = ((s sid).locator, s) :=
  Prod.ext rfl (Function.update_eq_self _ _)

theorem exec_get : exec ⟨sid, .get route⟩ s = (((s sid).hot route).data, s) :=
  Prod.ext rfl (Function.update_eq_self _ _)

/-- The locator of a session is changed. -/
def setLocator (s : Store) (sid : SessionId) (locator : Option Route) : Store :=
  Function.update s sid { s sid with locator := locator }

theorem hot_setLocator (locator : Option Route) (sid' : SessionId) :
    (setLocator s sid locator sid').hot = (s sid').hot := by
  unfold setLocator
  rcases eq_or_ne sid' sid with rfl | hne
  · rw [Function.update_self]
  · rw [Function.update_of_ne hne]

theorem searched_setLocator (locator : Option Route) :
    searched rt (setLocator s sid locator) sid = searched rt s sid := by
  simp only [searched, hot_setLocator]

theorem foundRoute_of_leading (hlocator : (s sid).locator = some route)
    (hdata : ((s sid).hot route).data.isSome = true) : foundRoute rt s sid = some route := by
  simp [foundRoute, hlocator, Option.filter, hdata]

/-- Where the locator leads nowhere, a lookup finds what a search finds. -/
theorem foundRoute_of_stale
    (h : ∀ route, (s sid).locator = some route → ((s sid).hot route).data.isSome = false) :
    foundRoute rt s sid =
      (candidateRoutes rt).find? fun route => ((s sid).hot route).data.isSome := by
  unfold foundRoute
  cases hlocator : (s sid).locator with
  | none => rfl
  | some route => simp [Option.filter, h route hlocator]

theorem isSome_of_foundRoute (h : foundRoute rt s sid = some route) :
    ((s sid).hot route).data.isSome = true := by
  rcases Option.or_eq_some_iff.1 h with h | ⟨-, h⟩
  · exact (Option.filter_eq_some_iff.1 h).2
  · simpa using List.find?_some h

/-- **A lookup that verifies what it finds answers with the route found.** -/
theorem run_resolveSessionRoute_fst : ((resolveSessionRoute rt sid true).run exec s).1 =
    match foundRoute rt s sid with
    | some route => .ok route
    | none => .error .notFound := by
  simp only [resolveSessionRoute, redis, Program.command, bind_eq, call_bind, ret_bind, run,
    exec_getLocator]
  cases hlocator : (s sid).locator with
  | none =>
      have hstale := @foundRoute_of_stale rt s sid fun route h => by rw [hlocator] at h; cases h
      simp only [run_repairMissingSessionRoute, hstale]
      rfl
  | some route =>
      simp only [run_bind, run_maybeVerifySessionExists]
      cases hdata : ((s sid).hot route).data.isSome with
      | true =>
          rw [foundRoute_of_leading hlocator hdata]
          rfl
      | false =>
          have hstale := @foundRoute_of_stale rt s sid fun route' h => by
            rw [hlocator] at h
            rw [← Option.some_inj.1 h, hdata]
          have hrepair := @run_repairMissingSessionRoute rt (setLocator s sid none) sid true
          have hdel : (exec ⟨sid, .delLocator⟩ s).2 = setLocator s sid none := rfl
          simp only [Bool.false_eq_true, if_false, run, hdel, hrepair, searched_setLocator, hstale]
          rfl

theorem run_getSession_of_resolved {t : Store}
    (h : (resolveSessionRoute rt sid false).run exec s = (.ok route, t)) :
    ((getSession rt sid).run exec s).2 =
      if ((t sid).hot route).data.isSome then t else setLocator t sid none := by
  simp only [getSession, bind_eq, run_bind, h, redis, Program.command, call_bind, ret_bind, run,
    exec_get]
  cases ((t sid).hot route).data <;> rfl

/-- **Reading a session does not change what a lookup finds.** -/
theorem foundRoute_getSession :
    foundRoute rt ((getSession rt sid).run exec s).2 sid = foundRoute rt s sid := by
  have hresolve : (resolveSessionRoute rt sid false).run exec s = match (s sid).locator with
      | some route => (.ok route, s)
      | none => (repairMissingSessionRoute rt sid false).run exec s := by
    simp only [resolveSessionRoute, redis, Program.command, bind_eq, call_bind, ret_bind, run,
      exec_getLocator]
    cases (s sid).locator <;> rfl
  cases hlocator : (s sid).locator with
  | some route =>
      rw [hlocator] at hresolve
      rw [run_getSession_of_resolved hresolve]
      split_ifs with hdata
      · rfl
      · -- the locator that leads nowhere is deleted
        have hstale := @foundRoute_of_stale rt s sid fun route' h => by
          rw [hlocator] at h
          rw [← Option.some_inj.1 h]
          exact Bool.not_eq_true _ ▸ hdata
        have hstale' := @foundRoute_of_stale rt (setLocator s sid none) sid
          (by simp [setLocator])
        simp only [hstale, hstale', hot_setLocator]
  | none =>
      rw [hlocator, run_repairMissingSessionRoute] at hresolve
      have hstale := @foundRoute_of_stale rt s sid fun route h => by rw [hlocator] at h; cases h
      cases hfind : (candidateRoutes rt).find? fun route => ((s sid).hot route).data.isSome with
      | none =>
          simp only [searched, hfind] at hresolve
          simp only [getSession, bind_eq, run_bind, hresolve]
          rfl
      | some route =>
          have hdata : ((s sid).hot route).data.isSome = true := by
            simpa using List.find?_some hfind
          simp only [searched, hfind] at hresolve
          rw [run_getSession_of_resolved hresolve, hstale, hfind]
          change foundRoute rt (if (((setLocator s sid (some route)) sid).hot route).data.isSome then
            setLocator s sid (some route) else _) sid = some route
          rw [hot_setLocator, if_pos hdata]
          exact foundRoute_of_leading (by simp [setLocator]) (by rw [hot_setLocator, hdata])

/-! ### Scripts on a record -/

theorem mirrored_of_hot_eq {t : Store} (h : ∀ sid, (t sid).hot = (s sid).hot) :
    Mirrored t ↔ Mirrored s := by
  unfold Mirrored
  simp only [h]

theorem hot_setRecord (session : Session) : ((s.setRecord sid route session) sid).hot route =
    { (s sid).hot route with data := some session } := by
  simp only [Store.setRecord, Entry.atRoute, Function.update_self]

/-- **A record that is replaced alone keeps the mirror exactly when status and partner stay.** -/
theorem mirrors_setRecord_iff {session session' : Session} (hs : Mirrored s)
    (hdata : ((s sid).hot route).data = some session) :
    (((s.setRecord sid route session') sid).hot route).Mirrors ↔
      session'.status = session.status ∧ session'.partnerId = session.partnerId := by
  have hmirror := hs sid route
  simp only [Hot.Mirrors, hdata, Option.map_some] at hmirror
  rw [hot_setRecord, Hot.Mirrors, hmirror]
  simp [eq_comm]

theorem mirrored_setRecord {session session' : Session} (hs : Mirrored s)
    (hdata : ((s sid).hot route).data = some session) (hstatus : session'.status = session.status)
    (hpartner : session'.partnerId = session.partnerId) :
    Mirrored (s.setRecord sid route session') := by
  have hmirror := (mirrors_setRecord_iff hs hdata).2 ⟨hstatus, hpartner⟩
  rw [hot_setRecord] at hmirror
  exact mirrored_update (f := fun hot => { hot with data := some session' }) hs hmirror

/-- The parting of a partner leaves a record alone that does not name the session. -/
theorem hot_disconnectPartnerScript {sid' expectedPeerId : SessionId} {route' : Route} {now : ℤ}
    (h : ∀ session ∈ ((s sid).hot route).data, session.partnerId ≠ some expectedPeerId) :
    (((MatchCmd.disconnectPartnerScript sid' route' now expectedPeerId).exec s).2 sid).hot route =
      (s sid).hot route := by
  simp only [MatchCmd.exec]
  split
  next => rfl
  next session hdata =>
    split_ifs with hpartner
    · rfl
    · change ((s.setRecord sid' route' _) sid).hot route = _
      rcases eq_or_ne sid sid' with rfl | hne
      · rcases eq_or_ne route route' with rfl | hne
        · exact absurd (h session hdata) hpartner
        · simp only [Store.setRecord, Entry.atRoute, Function.update_self,
            Function.update_of_ne hne]
      · rw [Store.setRecord_of_ne hne]

theorem exec_emergencyDisconnectScript {session : Session} {now : ℤ}
    (hdata : ((s sid).hot route).data = some session) :
    (MatchCmd.emergencyDisconnectScript sid route now).exec s =
      (ScriptAnswer.parted session.partnerId, s.setRecord sid route (session.disconnected now)) := by
  simp only [MatchCmd.exec, hdata]
  rfl

theorem exec_emergencyBanScript {session : Session} {reason : String} {now : ℤ}
    (hdata : ((s sid).hot route).data = some session) :
    (MatchCmd.emergencyBanScript sid route reason now).exec s =
      match session.banStatus with
      | true => (ScriptAnswer.alreadyBanned, s)
      | false => (ScriptAnswer.parted session.partnerId,
          s.setRecord sid route (session.banned reason now)) := by
  simp only [MatchCmd.exec, hdata]
  cases session.banStatus <;> rfl

theorem exec_disconnectPartnerScript {session : Session} {expectedPeerId : SessionId} {now : ℤ}
    (hdata : ((s sid).hot route).data = some session) :
    (MatchCmd.disconnectPartnerScript sid route now expectedPeerId).exec s =
      match decide (session.partnerId = some expectedPeerId) with
      | true => (PartnerAnswer.ok, s.setRecord sid route (session.parted now))
      | false => (PartnerAnswer.partnerChanged, s) := by
  simp only [MatchCmd.exec, hdata]
  by_cases hpartner : session.partnerId = some expectedPeerId
  · rw [if_neg (not_not.2 hpartner), decide_eq_true hpartner]
  · rw [if_pos hpartner, decide_eq_false hpartner]

variable (rt) in
/-- What a script is run on, and what is left to do. -/
theorem run_atomically {α : Type} (c : Route → MatchCmd)
    (f : (route : Route) → Except Reason (c route).Reply → MatchProg (Except Reason α)) :
    (atomically rt sid c f).run execMatch s =
      match foundRoute rt s sid with
      | some route => (f route (.ok ((c route).exec
          ((resolveSessionRoute rt sid true).run exec s).2).1)).run execMatch
          ((c route).exec ((resolveSessionRoute rt sid true).run exec s).2).2
      | none => (.error .notFound, ((resolveSessionRoute rt sid true).run exec s).2) := by
  have hleft := @run_left _ _ Reason Store _ exec _ _ execMatch (fun _ _ => rfl)
    (resolveSessionRoute rt sid true) s
  have hfst := @run_resolveSessionRoute_fst rt s sid
  simp only [atomically, bind_eq, run_bind, hleft, hfst]
  cases foundRoute rt s sid <;> rfl

/-- **A record without a partner is left alone when an old partner is parted.** -/
theorem hot_disconnectOldPartner {oldPartnerId : Option SessionId} {originSessionId : SessionId}
    {now : ℤ} (h : ∀ session ∈ ((s sid).hot route).data, session.partnerId ≠ some originSessionId) :
    (((disconnectOldPartner rt oldPartnerId originSessionId now).run execMatch s).2 sid).hot route =
      (s sid).hot route := by
  cases oldPartnerId with
  | none => rfl
  | some partnerId =>
      let Keeps (c : Cmd ⊕ MatchCmd) : Prop := ∀ t : Store,
        (t sid).hot route = (s sid).hot route → ((execMatch c t).2 sid).hot route = (s sid).hot route
      have hlookup (op : Op) (hop : op.Lookup) : Keeps (.inl ⟨partnerId, op⟩) := by
        intro t ht
        have hhot := @hot_exec_of_keepsHot partnerId op (keepsHot_lookup hop) t sid
        exact (congrFun hhot route).trans ht
      have hget : ((getSession rt partnerId).left : MatchProg _).All Keeps :=
        (all_getSession (P := fun c => Keeps (.inl c)) hlookup).left fun _ => id
      have hresolve : ((resolveSessionRoute rt partnerId true).left : MatchProg _).All Keeps :=
        (all_resolveSessionRoute (P := fun c => Keeps (.inl c)) hlookup true).left fun _ => id
      have hscript (route' : Route) :
          Keeps (.inr (.disconnectPartnerScript partnerId route' now originSessionId)) := by
        intro t ht
        exact (hot_disconnectPartnerScript (by rwa [ht])).trans ht
      have hall : (disconnectKnownPartner rt partnerId originSessionId now).All Keeps := by
        refine All.bind hget fun partner => All.bind (All.bind hresolve fun result => ?_) fun answer => ?_
        · split
          next route' => exact All.bind (All.command (hscript route')) fun _ => trivial
          next => trivial
        · split
          · exact All.bind (All.command fun _ ht => ht) fun _ => trivial
          · trivial
      exact hall.run_invariant (I := fun t : Store => (t sid).hot route = (s sid).hot route)
        (fun c hc t ht => hc t ht) rfl

/-! ### One operation -/

section Operation

variable {now : ℤ}

/-- What a lookup has found, in the store that the lookup leaves. -/
theorem data_resolved (hroute : foundRoute rt s sid = some route) :
    ∃ session, recordFound rt s sid = some session ∧
      ((((resolveSessionRoute rt sid true).run exec s).2 sid).hot route).data = some session := by
  obtain ⟨session, hsession⟩ := Option.isSome_iff_exists.1 (isSome_of_foundRoute hroute)
  refine ⟨session, ?_, ?_⟩
  · rw [recordFound, hroute]
    exact hsession
  · rw [hot_run_of_all (all_keepsHot_resolveSessionRoute true)]
    exact hsession

theorem mirrored_resolved (hs : Mirrored s) :
    Mirrored ((resolveSessionRoute rt sid true).run exec s).2 :=
  (mirrored_of_hot_eq (hot_run_of_all (all_keepsHot_resolveSessionRoute true) s)).2 hs

/-- **A record that lost its partner to an administrator spares the mirror exactly when it was idle
before.** -/
theorem mirrored_disconnectOldPartner_iff {session session' : Session} (hs : Mirrored s)
    (hdata : ((s sid).hot route).data = some session) (hidle : session'.Idle) :
    Mirrored ((disconnectOldPartner rt session.partnerId sid now).run execMatch
      (s.setRecord sid route session')).2 ↔ session.Idle := by
  constructor
  · intro h
    have hmirror := h sid route
    have hpartner : ∀ session'' ∈ ((s.setRecord sid route session' sid).hot route).data,
        session''.partnerId ≠ some sid := by
      rw [hot_setRecord]
      rintro session'' ⟨⟩
      rw [hidle.2]
      exact nofun
    rw [hot_disconnectOldPartner hpartner, mirrors_setRecord_iff hs hdata] at hmirror
    exact ⟨hmirror.1 ▸ hidle.1, hmirror.2 ▸ hidle.2⟩
  · intro h
    rw [h.2]
    exact mirrored_setRecord hs hdata (hidle.1.trans h.1.symm) (hidle.2.trans h.2.symm)

/-- The calls of other modules change nothing, and what is left of the old partner comes last. -/
theorem run_partingTail {c d : MatchCmd} {p : MatchProg Unit} {result : Except Reason SessionId}
    {t : Store} (hc : (c.exec t).2 = t) (hd : (d.exec t).2 = t) :
    (((script c).bind fun _ => (script d).bind fun _ => p.bind fun _ => .ret result).run
      execMatch t).2 = (p.run execMatch t).2 := by
  change ((p.bind _).run execMatch (d.exec (c.exec t).2).2).2 = _
  rw [hc, hd, run_bind]
  rfl

theorem mirrored_emergencyDisconnect_iff (hs : Mirrored s) :
    Mirrored ((emergencyDisconnect rt sid now).run execMatch s).2 ↔
      ∀ session ∈ recordFound rt s sid, session.Idle := by
  simp only [emergencyDisconnect, atomicEmergencyDisconnect, bind_eq, run_bind, run_atomically rt]
  cases hroute : foundRoute rt s sid with
  | none =>
      have hnone : recordFound rt s sid = none := by rw [recordFound, hroute]; rfl
      simp only [hnone]
      exact iff_of_true (mirrored_resolved hs) fun session h => (Option.not_mem_none session h).elim
  | some route =>
      obtain ⟨session, hfound, hdata⟩ := data_resolved hroute
      have hiff := @mirrored_disconnectOldPartner_iff rt _ _ _ now _ (session.disconnected now)
        (@mirrored_resolved rt s sid hs) hdata ⟨rfl, rfl⟩
      have htail := @run_partingTail (.leaveQueue sid)
        (.notifyDisconnect sid "disconnected by administrator" none)
        (disconnectOldPartner rt session.partnerId sid now) (.ok sid)
        (((resolveSessionRoute rt sid true).run exec s).2.setRecord sid route
          (session.disconnected now)) rfl rfl
      simp only [exec_emergencyDisconnectScript hdata, hfound, Option.mem_some, forall_eq']
      exact (Iff.of_eq (congrArg Mirrored htail)).trans hiff

theorem mirrored_emergencyBan_iff {reason : String} (hs : Mirrored s) :
    Mirrored ((emergencyBan rt sid reason now).run execMatch s).2 ↔
      ∀ session ∈ recordFound rt s sid, session.banStatus = true ∨ session.Idle := by
  simp only [emergencyBan, atomicEmergencyBan, bind_eq, run_bind, run_atomically rt]
  cases hroute : foundRoute rt s sid with
  | none =>
      have hnone : recordFound rt s sid = none := by rw [recordFound, hroute]; rfl
      simp only [hnone]
      exact iff_of_true (mirrored_resolved hs) fun session h => (Option.not_mem_none session h).elim
  | some route =>
      obtain ⟨session, hfound, hdata⟩ := data_resolved hroute
      have hiff := @mirrored_disconnectOldPartner_iff rt _ _ _ now _ (session.banned reason now)
        (@mirrored_resolved rt s sid hs) hdata ⟨rfl, rfl⟩
      cases hban : session.banStatus with
      | true =>
          simp only [exec_emergencyBanScript hdata, hfound, hban, Option.mem_some, forall_eq', true_or,
            iff_true]
          exact mirrored_resolved hs
      | false =>
          have htail := @run_partingTail (.leaveQueue sid) (.notifyBanned sid reason)
            (disconnectOldPartner rt session.partnerId sid now) (.ok sid)
            (((resolveSessionRoute rt sid true).run exec s).2.setRecord sid route
              (session.banned reason now)) rfl rfl
          simp only [exec_emergencyBanScript hdata, hfound, hban, Option.mem_some, forall_eq',
            Bool.false_eq_true, false_or]
          exact (Iff.of_eq (congrArg Mirrored htail)).trans hiff

theorem mirrored_disconnectKnownPartner_iff {originSessionId : SessionId} (hs : Mirrored s) :
    Mirrored ((disconnectKnownPartner rt sid originSessionId now).run execMatch s).2 ↔
      ∀ session ∈ recordFound rt s sid, session.partnerId ≠ some originSessionId := by
  have hleft := @run_left _ _ Reason Store _ exec _ _ execMatch (fun _ _ => rfl) (getSession rt sid) s
  have hhot := hot_run_of_all (@all_keepsHot_getSession rt sid) s
  have hs' := (mirrored_of_hot_eq hhot).2 hs
  have hfound' : recordFound rt ((getSession rt sid).run exec s).2 sid = recordFound rt s sid := by
    simp only [recordFound, foundRoute_getSession, hhot]
  rw [← hfound']
  simp only [disconnectKnownPartner, atomicDisconnectPartner, bind_eq, run_bind, hleft,
    run_atomically rt]
  generalize ((getSession rt sid).run exec s).2 = t at hs' ⊢
  cases hroute : foundRoute rt t sid with
  | none =>
      have hnone : recordFound rt t sid = none := by rw [recordFound, hroute]; rfl
      simp only [hnone]
      exact iff_of_true (mirrored_resolved hs') fun session h => (Option.not_mem_none session h).elim
  | some route =>
      obtain ⟨session, hfound, hdata⟩ := data_resolved hroute
      simp only [exec_disconnectPartnerScript hdata, hfound, Option.mem_some, forall_eq']
      by_cases hpartner : session.partnerId = some originSessionId
      · -- the record loses its partner, and the metadata keeps it
        rw [decide_eq_true hpartner]
        refine iff_of_false (fun h => ?_) (not_not.2 hpartner)
        have hmirror := (mirrors_setRecord_iff (mirrored_resolved hs') hdata).1 (h sid route)
        rw [hpartner] at hmirror
        cases hmirror.2
      · rw [decide_eq_false hpartner]
        exact iff_of_true (mirrored_resolved hs') hpartner

end Operation

/-! ### Sequences of operations -/

section Sequences

variable (rt) (initialShard : String → ℕ)

theorem mirrored_done {α : Type} {p : Prog α} (hp : p.All KeepsMirrorCmd) (hs : Mirrored s) :
    Mirrored ((Prog.done p).run execMatch s).2 := by
  have hall : (Prog.done p).All KeepsMirror := (hp.left fun _ => id).bind fun _ => trivial
  exact hall.run_invariant (fun c hc t ht => hc t ht) hs

/-- **One operation keeps the mirror exactly when it spares it.** -/
theorem mirrored_after_iff (hs : Mirrored s) (op : SessionOperation) :
    Mirrored (op.after rt initialShard s) ↔ op.SparesMirror rt s := by
  cases op with
  | create sid token ip preferences kind now =>
      refine iff_of_true (mirrored_done (All.bind all_persistSession_mirror fun result => ?_) hs) trivial
      cases result <;> trivial
  | update sid updates now => exact iff_of_true (mirrored_done all_updateSession_mirror hs) trivial
  | pair session1 session2 generation now =>
      have hall : ((pairSessions rt session1 session2 generation now).bind fun _ =>
          (.ret () : MatchProg Unit)).All KeepsMirror := All.bind all_pairSessions_mirror fun _ => trivial
      exact iff_of_true (hall.run_invariant (fun c hc t ht => hc t ht) hs) trivial
  | reset session1 session2 now =>
      have hall : ((resetPair rt session1 session2 now).bind fun _ =>
          (.ret () : MatchProg Unit)).All KeepsMirror := All.bind all_resetPair_mirror fun _ => trivial
      exact iff_of_true (hall.run_invariant (fun c hc t ht => hc t ht) hs) trivial
  | disconnect sid now =>
      rw [SessionOperation.after, SessionOperation.program, run_bind]
      exact mirrored_emergencyDisconnect_iff hs
  | disconnectPartner partnerId originSessionId now => exact mirrored_disconnectKnownPartner_iff hs
  | ban sid reason now =>
      rw [SessionOperation.after, SessionOperation.program, run_bind]
      exact mirrored_emergencyBan_iff hs
  | unban sid now => exact iff_of_true (mirrored_done all_updateSession_mirror hs) trivial
  | move sid newShard now => exact iff_of_true (mirrored_done all_moveSessionShard_mirror hs) trivial

/-- **The mirror is kept**: after each operation of a sequence. -/
def MirrorKept (s : Store) (ops : List SessionOperation) : Prop :=
  ∀ done, done <+: ops → Mirrored (afterAll rt initialShard s done)

/-- Each operation of a sequence spares the mirror, in the store that it finds. -/
def AllSpareMirror (s : Store) (ops : List SessionOperation) : Prop :=
  ∀ done op, done ++ [op] <+: ops → op.SparesMirror rt (afterAll rt initialShard s done)

/-- **A sequence of operations keeps the mirror exactly when each of them spares it.** -/
theorem mirrored_iff_sparesMirror (hs : Mirrored s) (ops : List SessionOperation) :
    MirrorKept rt initialShard s ops ↔ AllSpareMirror rt initialShard s ops := by
  constructor
  · intro h done op hinitial
    have hdone := h done ((List.prefix_append done [op]).trans hinitial)
    have hop := h (done ++ [op]) hinitial
    rw [afterAll, List.foldl_append] at hop
    exact (mirrored_after_iff rt initialShard hdone op).1 hop
  · intro h done
    -- by induction on the operations that are done
    induction done using List.reverseRecOn with
    | nil => exact fun _ => hs
    | append_singleton done op ih =>
        intro hinitial
        have hdone := ih ((List.prefix_append done [op]).trans hinitial)
        rw [afterAll, List.foldl_append]
        exact (mirrored_after_iff rt initialShard hdone op).2 (h done op hinitial)

end Sequences

theorem mirrored_waitingStore : Mirrored waitingStore := by
  intro sid route
  unfold waitingStore
  split_ifs with hsid
  · simp only [waitingEntry]
    split_ifs <;> rfl
  · rfl

/-- A session without a partner is moved to another shard, and its partner is parted in vain. -/
theorem mirrored_iff_sparesMirror_move :
    Mirrored waitingStore ∧ MirrorKept asciiRuntime (fun _ => 4) waitingStore
        [.move "a" 7 60, .disconnectPartner "a" "b" 60] := by
  refine ⟨mirrored_waitingStore, ?_⟩
  refine (mirrored_iff_sparesMirror asciiRuntime (fun _ => 4) mirrored_waitingStore _).2 ?_
  have hmoved : (recordFound asciiRuntime (afterAll asciiRuntime (fun _ => 4) waitingStore
      [.move "a" 7 60]) "a").all (fun session => session.partnerId ≠ some "b") = true := by
    decide +kernel
  rintro done op ⟨rest, hops⟩
  match done, hops with
  | [], hops =>
      obtain rfl := (List.cons.inj hops).1
      trivial
  | [first], hops =>
      obtain ⟨hfirst, htail⟩ := List.cons.inj hops
      obtain ⟨hop, -⟩ := List.cons.inj htail
      subst hfirst hop
      exact fun session hsession =>
        of_decide_eq_true ((Option.all_eq_true _ _).1 hmoved session hsession)
  | _ :: _ :: done, hops =>
      have hlength := congrArg List.length hops
      simp at hlength

/-- Session a is created and banned. -/
def createAndBan : List SessionOperation :=
  [.create "a" "t" "192.0.2.7" ⟨some (.string "text"), none, none, none⟩ .human 0,
    .ban "a" "spam" 60]

/-- **A banned session still waits in the metadata.** -/
theorem ban_breaks_mirror : ¬ ∀ s, Mirrored s → ∀ ops, MirrorKept asciiRuntime (fun _ => 4) s ops := by
  intro h
  have hmirror := h (fun _ => { hot := fun _ => {} }) (fun _ _ => rfl) createAndBan createAndBan
    List.prefix_rfl "a" ⟨"text", 4⟩
  have hbroken : (((afterAll asciiRuntime (fun _ => 4) (fun _ => { hot := fun _ => {} })
      createAndBan "a").hot ⟨"text", 4⟩).queueMeta.map fun queueMeta => queueMeta.status) = some .waiting ∧
      (((afterAll asciiRuntime (fun _ => 4) (fun _ => { hot := fun _ => {} })
        createAndBan "a").hot ⟨"text", 4⟩).data.map fun session => session.status) =
          some .disconnecting := by
    decide +kernel
  have hstatus := congrArg (Option.map Prod.fst) hmirror
  rw [Option.map_map, Option.map_map] at hstatus
  cases hbroken.1.symm.trans (hstatus.trans hbroken.2)

end Sessions
