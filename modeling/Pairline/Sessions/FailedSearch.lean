/-
**A search that fails.**

A search creates a session, registers its owner and puts it into its queues; each of the three takes
several commands, and an error of any of them undoes what was done.  A creation takes back what it
wrote.  After an error of the registration the session is deleted, and with its record its owner; after
an error of the queueing the owner is unregistered before.  But nothing takes the session out of the
queues: a pipeline whose error comes after the first queue was written leaves an entry there.

Main definitions:

* `Sessions.createAndQueueSession` — the search;
* `Sessions.LeavesNothing` — **after an error there is no record, no active locator, no owner, no active
  membership and no entry in a queue**;
* `Sessions.Unqueued` — the failing commands after which no queue has been written.

Main results:

* `Sessions.erased_deleteSession` — a deletion clears what a creation has written;
* `Sessions.leavesNothing_iff` — **a search that fails leaves nothing exactly when no queue has been
  written**;
* `Sessions.leavesNothing_fails` — two interests, and the second queue cannot be written.
-/

import Mathlib.Data.List.InsertIdx
import Pairline.Matchmaker.QueueStore
import Pairline.Sessions.Deletion
import Pairline.Sessions.FailedWrites
import Pairline.Sessions.Matching

set_option relaxedAutoImplicit false
set_option autoImplicit false

namespace Sessions

open Matchmaker (SessionId Preferences QueueStore QueueCmd enqueueCommands initialQueueKeys
  normalizePreferences sessionPreferences)
open Program

/-! ### Commands -/

/-- The commands of a search that are not on the keys of the session. -/
inductive SearchOp
  | compareDeleteOwner (sid : SessionId) (route : Route) (owner : String)
  | queue (c : QueueCmd)
  | xaddMatchEvent

def SearchOp.Reply : SearchOp → Type
  | .queue c => c.Reply
  | _ => Unit

abbrev SearchCmd := StoreCmd ⊕ SearchOp

abbrev SearchCmd.Reply : SearchCmd → Type := Sum.elim StoreCmd.Reply SearchOp.Reply

abbrev SearchStore := Store × QueueStore

variable (routeOf : SessionId → Route)

/-- What a command answers and does. -/
def execSearch : (c : SearchCmd) → SearchStore → c.Reply × SearchStore
  | .inl c, (s, queues) => ((execAll c s).1, ((execAll c s).2, queues))
  | .inr (.compareDeleteOwner sid route owner), (s, queues) =>
      ((), (if ((s sid).hot route).owner = some owner then
          Function.update s sid ((s sid).atRoute route fun hot => { hot with owner := none })
        else s, queues))
  | .inr (.queue c), (s, queues) => ((c.exec routeOf {} queues).1, (s, (c.exec routeOf {} queues).2))
  | .inr .xaddMatchEvent, s => ((), s)

abbrev SearchProg := Program SearchCmd.Reply Reason

def search (op : SearchOp) : SearchProg (Except Reason op.Reply) :=
  Program.command (V := SearchCmd.Reply) (.inr op)

/-! ### The owner -/

variable (rt : Runtime) (config : Matchmaker.Config)

/-- `persist_owner`, with the record of this process. -/
def persistOwner (sid : SessionId) (owner : String) : Prog (Except Reason Unit) := do
  match ← resolveSessionRoute rt sid false with
  | .ok route =>
      match ← redis sid (.setexOwner route owner) with
      | .ok _ => return .ok ()
      | .error reason => return .error reason
  | .error reason => return .error reason

/-- `Router.register`. -/
def register (sid : SessionId) (owner : String) : Prog (Except Reason Unit) := persistOwner rt sid owner

/-- `compare_and_delete_owner`, whose errors are dropped. -/
def compareAndDeleteOwner (sid : SessionId) (owner : String) : SearchProg Unit := do
  match ← (resolveSessionRoute rt sid false).left.left with
  | .ok route =>
      let _ ← search (.compareDeleteOwner sid route owner)
      return ()
  | .error _ => return ()

/-- `Router.unregister`: the record is deleted if the table of local owners has this process. -/
def unregister (sid : SessionId) (owner : String) (tracked : Bool) : SearchProg Unit :=
  if tracked then compareAndDeleteOwner rt sid owner else .ret ()

/-! ### The queues -/

def enqueueQueueKeys (sid : SessionId) (route : Route) (queueKeys : List String) :
    SearchProg (Except Reason Unit) :=
  Program.pipeline ((enqueueCommands config sid route queueKeys).map fun c => .inr (.queue c))

/-- The queues that a new session with some preferences joins. -/
def queueKeysOf (preferences : Preferences) (route : Route) : List String :=
  initialQueueKeys rt.text config (normalizePreferences rt.text preferences) route.mode route.shard

/-- `join_queue`; whether the event is sent does not matter. -/
def joinQueue (sid : SessionId) (preferences : Preferences) : SearchProg (Except Reason Unit) := do
  match ← (resolveSessionRoute rt sid true).left.left with
  | .ok route =>
      match ← enqueueQueueKeys config sid route (queueKeysOf rt config preferences route) with
      | .ok _ =>
          let _ ← search .xaddMatchEvent
          return .ok ()
      | .error reason => return .error reason
  | .error reason => return .error reason

/-! ### The search -/

/-- What is passed to a search, and what it draws: the session's id and token, and the record of the
owner. -/
structure Search where
  sid : SessionId
  token : String
  clientIp : String
  preferences : Preferences
  owner : String
  /-- The table of local owners is there. -/
  tracked : Bool
  now : ℤ

variable (initialShard : String → ℕ) (q : Search)

/-- The record that the search creates. -/
def Search.session : Session :=
  newSession rt initialShard q.sid q.token q.clientIp q.preferences .human q.now

/-- What comes after an error of the queueing. -/
def undoQueueing : SearchProg (Except String (SessionId × String)) := do
  unregister rt q.sid q.owner q.tracked
  let _ ← (deleteSession rt q.sid).left
  return .error "Matchmaking unavailable"

/-- What comes after an error of the registration. -/
def undoRegistration : SearchProg (Except String (SessionId × String)) := do
  let _ ← (deleteSession rt q.sid).left
  return .error "Session routing unavailable"

/-- The last part of the search. -/
def queueSession (session : Session) : SearchProg (Except String (SessionId × String)) := do
  match ← joinQueue rt config q.sid q.preferences with
  | .ok _ => return .ok (q.sid, session.token)
  | .error _ => undoQueueing rt q

/-- … and the part before. -/
def registerAndQueueSession (session : Session) : SearchProg (Except String (SessionId × String)) := do
  match ← (register rt q.sid q.owner).left.left with
  | .ok _ => queueSession rt config q session
  | .error _ => undoRegistration rt q

def createAndQueueSession : SearchProg (Except String (SessionId × String)) := do
  match ← (createSession rt initialShard q.sid q.token q.clientIp q.preferences .human q.now).left.left
    with
  | .ok session => registerAndQueueSession rt config q session
  | .error _ => return .error "Failed to create session"

/-! ### The law -/

/-- Nothing of a session is left that finds it or is found. -/
structure Erased (entry : Entry) : Prop where
  record : ∀ route, (entry.hot route).data = none
  owner : ∀ route, (entry.hot route).owner = none
  locator : entry.locator = none
  active : entry.active = false

/-- **After an error nothing is left of the session**, nor is it in a queue. -/
def LeavesNothing (sid : SessionId) (outcome : Except String (SessionId × String) × SearchStore) : Prop :=
  ∀ text, outcome.1 = .error text →
    Erased (outcome.2.1 sid) ∧ ∀ queueKey, sid ∉ outcome.2.2.queues queueKey

/-- The id of the session is new. -/
structure Fresh (sid : SessionId) (s : SearchStore) : Prop where
  entry : s.1 sid = { hot := fun _ => {} }
  queues : ∀ queueKey, sid ∉ s.2.queues queueKey

/-- **No queue is written before the error**, where the session would join so many queues: the command
is one of the first ten, which write the session, register its owner and look up its route; or it comes
after the pipeline; or it fails without effect and is the only one that writes a queue. -/
def Unqueued (queues k : ℕ) (fate : Fate) : Prop :=
  fate = .answered ∨ k < 10 ∨ 11 + 3 * queues ≤ k ∨ queues = 1 ∧ k = 10 ∧ fate = .failed

instance (queues k : ℕ) (fate : Fate) : Decidable (Unqueued queues k fate) :=
  inferInstanceAs (Decidable (_ ∨ _ ∨ _ ∨ _))

/-! ### Deleting what a creation has written -/

/-- The keys that a creation leaves, whether there is an owner or not. -/
structure Created (rt : Runtime) (session : Session) (entry : Entry) : Prop where
  locator : entry.locator = some (routeForSession rt session)
  data : (entry.hot (routeForSession rt session)).data = some session
  ip : (entry.hot (routeForSession rt session)).ip = some session.ip
  elsewhere : ∀ route, route ≠ routeForSession rt session →
    (entry.hot route).data = none ∧ (entry.hot route).owner = none

section Deleting

variable {rt} {session : Session} {s : Store}

theorem run_loadSessionIp (h : Created rt session (s session.id)) (hip : session.ip ≠ "") :
    (loadSessionIp session.id (routeForSession rt session)).run exec s = (.ok session.ip, s) := by
  have hget : Reads exec .notFound (redis session.id (.getIp (routeForSession rt session))) s
      (some session.ip) 1 := reads_redis (by rw [Op.exec, h.ip])
  rw [loadSessionIp, ipOfSession, bind_eq, hget.run_bind]
  simp only [hip, if_false]
  rfl

/-- What the last part of a deletion leaves. -/
theorem run_deleteAt (sid : SessionId) (route : Route) (ip : String) (kind : SessionKind) (s : Store) :
    (((deleteAt sid route ip kind).run execAll s).2 sid).hot =
        Function.update (s sid).hot route
          { (s sid).hot route with data := none, queueMeta := none, owner := none } ∧
      (((deleteAt sid route ip kind).run execAll s).2 sid).locator = none ∧
      (((deleteAt sid route ip kind).run execAll s).2 sid).active = false := by
  cases kind with
  | human =>
      simp [deleteAt, deletion, plain, command, run, run_bind, run_pipeline, reportGraceCommands,
        execAll, DeletionOp.exec, exec, Op.exec, Entry.atRoute]
  | bot =>
      simp [deleteAt, deletion, plain, command, run, run_bind, run_pipeline, reportGraceCommands,
        execAll, DeletionOp.exec, exec, Op.exec, Entry.atRoute]

/-- **A deletion clears what a creation has written.** -/
theorem erased_deleteSession (h : Created rt session (s session.id)) (hip : session.ip ≠ "") :
    Erased (((deleteSession rt session.id).run execAll s).2 session.id) := by
  have hget := (reads_getSession rt (e := .notFound) h.locator h.data).result
  have hleft {α : Type} (p : Prog α) : (p.left : StoreProg α).run execAll s = p.run exec s :=
    run_left (fun _ _ => rfl) p s
  rw [deleteSession, bind_eq, run_bind, hleft, hget]
  simp only [bind_eq, run_bind, hleft, run_loadSessionIp h hip, deleteFound]
  obtain ⟨hhot, hlocator, hactive⟩ := run_deleteAt session.id (routeForSession rt session) session.ip
    session.sessionKind s
  refine ⟨fun route => ?_, fun route => ?_, hlocator, hactive⟩
  · rw [hhot, Function.update_apply]
    split_ifs with hroute
    · rfl
    · exact (h.elsewhere route hroute).1
  · rw [hhot, Function.update_apply]
    split_ifs with hroute
    · rfl
    · exact (h.elsewhere route hroute).2

end Deleting

/-! ### Creating -/

section Creating

variable {rt} {session : Session} {s : Store} {e : Reason} {k : ℕ} {fate : Fate}

/-- **A creation of a new session leaves its keys.** -/
theorem created_persistSession (h : s session.id = { hot := fun _ => {} }) :
    Created rt session (((persistSession rt session).run exec s).2 session.id) := by
  have hrun : ((persistSession rt session).run exec s).2 =
      ((writeSession rt session).run exec s).2 := by
    rw [persistSession, bind_eq, run_bind, run_writeSession]
    rfl
  rw [hrun]
  refine ⟨?_, ?_, ?_, fun route hroute => ?_⟩
  all_goals
    simp [writeSession, persistLocatorsAndIndexes, redis, command, pipeline, run, run_pipeline, exec,
      Op.exec, Entry.atRoute, *]

/-- The keys that the rollback of a creation does not delete. -/
structure Untouched (rt : Runtime) (session : Session) (entry : Entry) : Prop where
  owner : ∀ route, (entry.hot route).owner = none
  elsewhere : ∀ route, route ≠ routeForSession rt session → (entry.hot route).data = none

/-- A write leaves them as they were. -/
theorem untouched_runFate_writeSession (h : Untouched rt session (s session.id)) :
    Untouched rt session (((writeSession rt session).runFate exec e k fate s).2 session.id) := by
  let Leaves (c : Cmd) : Prop := ∀ s, Untouched rt session (s session.id) →
    Untouched rt session ((exec c s).2 session.id)
  have hscript : Leaves ⟨session.id, .persistScript (routeForSession rt session) session
      (rt.hashedToken session.token) (buildQueueMeta rt session)⟩ := by
    intro s hs
    refine ⟨fun route => ?_, fun route hroute => ?_⟩
    · by_cases hroute : route = routeForSession rt session
      · simp [exec, Op.exec, Entry.atRoute, hroute, hs.owner]
      · simp [exec, Op.exec, Entry.atRoute, hroute, hs.owner]
    · simp [exec, Op.exec, Entry.atRoute, hroute, hs.elsewhere]
  have hsame (op : Op) (hop : ∀ entry, (op.exec entry).2.hot = entry.hot) : Leaves ⟨session.id, op⟩ := by
    intro s hs
    have hhot : ((exec ⟨session.id, op⟩ s).2 session.id).hot = (s session.id).hot :=
      (congrArg Entry.hot (Function.update_self _ _ _)).trans (hop _)
    exact ⟨by rw [hhot]; exact hs.owner, by rw [hhot]; exact hs.elsewhere⟩
  have hall : (writeSession rt session).All Leaves := by
    refine All.bind (All.command hscript) fun reply => ?_
    cases reply with
    | error => trivial
    | ok =>
        refine All.pipeline fun c hc => ?_
        simp only [List.map_cons, List.map_nil, List.mem_cons, List.not_mem_nil, or_false] at hc
        rcases hc with rfl | rfl | rfl | rfl | rfl
        all_goals exact hsame _ fun _ => rfl
  exact All.runFate_invariant (I := fun s : Store => Untouched rt session (s session.id)) hall
    (fun c hc s hs => hc s hs) k fate h

/-- **A creation of which a command goes wrong leaves nothing.** -/
theorem erased_runFate_persistSession (h : s session.id = { hot := fun _ => {} }) (hk : k < 6)
    (hfate : fate ≠ .answered) : ((persistSession rt session).runFate exec e k fate s).1 = .error e ∧
      Erased (((persistSession rt session).runFate exec e k fate s).2 session.id) := by
  have herror : ((writeSession rt session).runFate exec e k fate s).1 = .error e := by
    cases k with
    | zero =>
        cases fate with
        | answered => exact absurd rfl hfate
        | failed => rfl
        | lost => rfl
    | succ k =>
        have hlt : k < 5 := Nat.lt_of_succ_lt_succ hk
        simp only [writeSession, redis, command, bind_eq, call_bind, ret_bind, runFate,
          persistLocatorsAndIndexes, pipeline]
        rw [runFate_pipeline]
        simp [hlt, hfate]
  have huntouched : Untouched rt session (s session.id) := by
    rw [h]
    exact ⟨fun _ => rfl, fun _ _ => rfl⟩
  have hwritten := @untouched_runFate_writeSession rt session s e k fate huntouched
  rw [persistSession, bind_eq, runFate_bind_of_lt _ fate (issued_writeSession.symm ▸ hk), herror]
  generalize ((writeSession rt session).runFate exec e k fate s).2 = s' at hwritten
  have hrollback : ((rollbackSession rt session).run exec s').2 session.id =
      { (s' session.id).atRoute (routeForSession rt session) fun hot =>
          { hot with data := none, ip := none, token := none, queueMeta := none } with
        locator := none
        reportLocator := none
        reportKind := none
        ipLocator := none
        active := false
        ipSessions := Function.update (s' session.id).ipSessions session.ip false } := by
    have hhot (s : Store) : ((rollbackHotSession session.id (routeForSession rt session)).run exec s).2 =
        (exec ⟨session.id, .delHot (routeForSession rt session)⟩ s).2 := rfl
    simp [rollbackSession, cleanupLocators, rollbackIndexes, pipeline, run_bind, run_pipeline, hhot, exec,
      Op.exec, Entry.atRoute]
  refine ⟨by simp only [bind_eq, run_bind, pure_eq, run], ?_⟩
  simp only [bind_eq, run_bind, pure_eq, run, hrollback]
  refine ⟨fun route => ?_, fun route => ?_, rfl, rfl⟩
  · show (Function.update (s' session.id).hot (routeForSession rt session) _ route).data = none
    rw [Function.update_apply]
    split_ifs with hroute
    · rfl
    · exact hwritten.elsewhere route hroute
  · show (Function.update (s' session.id).hot (routeForSession rt session) _ route).owner = none
    rw [Function.update_apply]
    split_ifs with hroute
    · exact hwritten.owner _
    · exact hwritten.owner route

end Creating

/-! ### The parts of a search -/

section Parts

variable {rt} {routeOf} {config} {initialShard} {q} {e : Reason} {s : Store} {queues : QueueStore}
  {k : ℕ} {fate : Fate} {session : Session}

theorem run_lift {α : Type} (p : Prog α) (s : Store) (queues : QueueStore) :
    p.left.left.run (execSearch routeOf) (s, queues) = ((p.run exec s).1, ((p.run exec s).2, queues)) := by
  have hbeside : (p.left : StoreProg α).left.run (execSearch routeOf) (s, queues) =
      ((p.left.run execAll s).1, ((p.left.run execAll s).2, queues)) :=
    run_left_beside (fun _ _ _ => rfl) p.left s queues
  have hleft : (p.left : StoreProg α).run execAll s = p.run exec s := run_left (fun _ _ => rfl) p s
  rw [hbeside, hleft]

theorem issued_lift {α : Type} (p : Prog α) (s : Store) (queues : QueueStore) :
    p.left.left.issued (execSearch routeOf) (s, queues) = p.issued exec s := by
  have hbeside : (p.left : StoreProg α).left.issued (execSearch routeOf) (s, queues) =
      p.left.issued execAll s := issued_left_beside (fun _ _ _ => rfl) p.left s queues
  have hleft : (p.left : StoreProg α).issued execAll s = p.issued exec s :=
    issued_left (fun _ _ => rfl) p s
  rw [hbeside, hleft]

theorem runFate_lift {α : Type} (p : Prog α) (k : ℕ) (fate : Fate) (s : Store) (queues : QueueStore) :
    p.left.left.runFate (execSearch routeOf) e k fate (s, queues) =
      ((p.runFate exec e k fate s).1, ((p.runFate exec e k fate s).2, queues)) := by
  have hbeside : (p.left : StoreProg α).left.runFate (execSearch routeOf) e k fate (s, queues) =
      ((p.left.runFate execAll e k fate s).1, ((p.left.runFate execAll e k fate s).2, queues)) :=
    runFate_left_beside (fun _ _ _ => rfl) p.left k fate s queues
  have hleft : (p.left : StoreProg α).runFate execAll e k fate s = p.runFate exec e k fate s :=
    runFate_left (fun _ _ => rfl) p k fate s
  rw [hbeside, hleft]

/-- The deletion that undoes a part of the search leaves the queues alone. -/
theorem run_deletion (s : Store) (queues : QueueStore) :
    (deleteSession rt q.sid).left.run (execSearch routeOf) (s, queues) =
      (((deleteSession rt q.sid).run execAll s).1, (((deleteSession rt q.sid).run execAll s).2, queues)) :=
  run_left_beside (fun _ _ _ => rfl) _ s queues

/-- The owner is set or deleted, and nothing else is. -/
theorem Created.setOwner (h : Created rt session (s session.id)) (owner : Option String) :
    Created rt session ((s session.id).atRoute (routeForSession rt session) fun hot =>
      { hot with owner := owner }) := by
  refine ⟨h.locator, ?_, ?_, fun route hroute => ?_⟩
  · simp [Entry.atRoute, h.data]
  · simp [Entry.atRoute, h.ip]
  · simp [Entry.atRoute, hroute, h.elsewhere route hroute]

/-- To look up the route of a session that was created takes a command, or two. -/
theorem reads_route (h : Created rt session (s session.id)) (verifyExists : Bool) (text : String) :
    Reads exec (.redis text) (resolveSessionRoute rt session.id verifyExists) s
      (routeForSession rt session) (if verifyExists then 2 else 1) := by
  cases verifyExists with
  | true => exact reads_resolveSessionRoute rt h.locator (by rw [h.data]; rfl) (by simp)
  | false => exact reads_resolveSessionRoute_unverified rt h.locator

theorem runFate_route (h : Created rt session (s session.id)) {verifyExists : Bool} {text : String}
    (hk : k < if verifyExists then 2 else 1) (hfate : fate ≠ .answered) :
    (resolveSessionRoute rt session.id verifyExists).runFate exec (.redis text) k fate s =
      (.error (.redis text), s) := by
  cases k with
  | zero =>
      cases fate with
      | answered => exact absurd rfl hfate
      | failed => rfl
      | lost => simp [resolveSessionRoute, redis, command, runFate, afterCommand, run, exec, Op.exec]
  | succ k =>
      cases verifyExists with
      | false => exact absurd hk (by simp)
      | true =>
          obtain rfl : k = 0 := by
            simp only [if_true] at hk
            omega
          cases fate with
          | answered => exact absurd rfl hfate
          | failed =>
              simp [resolveSessionRoute, maybeVerifySessionExists, redis, command, runFate, afterCommand,
                run, exec, Op.exec, h.locator]
          | lost =>
              simp [resolveSessionRoute, maybeVerifySessionExists, redis, command, runFate, afterCommand,
                run, exec, Op.exec, h.locator]

/-- A registration writes the owner, with its second command. -/
theorem run_register (h : Created rt session (s session.id)) (owner : String) :
    (register rt session.id owner).issued exec s = 2 ∧
      (register rt session.id owner).run exec s = (.ok (), Function.update s session.id
        ((s session.id).atRoute (routeForSession rt session) fun hot =>
          { hot with owner := some owner })) := by
  have hread := reads_route h false ""
  constructor
  · rw [register, persistOwner, bind_eq, hread.issued_bind]
    rfl
  · rw [register, persistOwner, bind_eq, hread.run_bind]
    rfl

/-- After an error the keys of the creation are still there. -/
theorem runFate_register (h : Created rt session (s session.id)) (owner : String) {text : String}
    (hk : k < 2) (hfate : fate ≠ .answered) :
    ((register rt session.id owner).runFate exec (.redis text) k fate s).1 = .error (.redis text) ∧
      Created rt session (((register rt session.id owner).runFate exec (.redis text) k fate s).2
        session.id) := by
  have hread := reads_route h false text
  rw [register, persistOwner, bind_eq]
  by_cases hlt : k < 1
  · rw [runFate_bind_of_lt _ fate (hread.issued.symm ▸ hlt), runFate_route h hlt hfate]
    exact ⟨rfl, h⟩
  · obtain rfl : k = 1 := by omega
    rw [runFate_bind_of_le _ fate (hread.issued.symm ▸ Nat.le_refl 1), hread.result, hread.issued]
    cases fate with
    | answered => exact absurd rfl hfate
    | failed => exact ⟨rfl, h⟩
    | lost =>
        refine ⟨rfl, ?_⟩
        show Created rt session (Function.update s session.id _ session.id)
        rw [Function.update_self]
        exact h.setOwner (some owner)

/-- **What undoes the registration leaves no session**, and the queues as they are. -/
theorem run_undoRegistration (h : Created rt session (s q.sid)) (hid : session.id = q.sid)
    (hip : session.ip ≠ "") : ∃ s' text, (undoRegistration rt q).run (execSearch routeOf) (s, queues) =
      (.error text, (s', queues)) ∧ Erased (s' q.sid) := by
  rw [undoRegistration, bind_eq, run_bind, run_deletion]
  rw [← hid] at h ⊢
  exact ⟨_, _, rfl, erased_deleteSession h hip⟩

/-- … and so does what undoes the queueing. -/
theorem run_undoQueueing (h : Created rt session (s q.sid)) (hid : session.id = q.sid)
    (hip : session.ip ≠ "") : ∃ s' text, (undoQueueing rt q).run (execSearch routeOf) (s, queues) =
      (.error text, (s', queues)) ∧ Erased (s' q.sid) := by
  obtain ⟨s', hrun, hcreated⟩ : ∃ s', ((unregister rt q.sid q.owner q.tracked).run (execSearch routeOf)
      (s, queues)).2 = (s', queues) ∧ Created rt session (s' q.sid) := by
    unfold unregister
    cases q.tracked with
    | false => exact ⟨s, rfl, h⟩
    | true =>
        rw [← hid] at h ⊢
        have hread := (reads_route h false "").result
        simp only [if_true, compareAndDeleteOwner, bind_eq, run_bind, run_lift, hread]
        by_cases howner : ((s session.id).hot (routeForSession rt session)).owner = some q.owner
        · refine ⟨Function.update s session.id ((s session.id).atRoute (routeForSession rt session)
            fun hot => { hot with owner := none }), ?_, ?_⟩
          · simp [search, command, run, execSearch, howner]
          · rw [Function.update_self]
            exact h.setOwner none
        · exact ⟨s, by simp [search, command, run, execSearch, howner], h⟩
  rw [undoQueueing, bind_eq, run_bind, hrun, bind_eq, run_bind, run_deletion]
  rw [← hid] at hcreated ⊢
  exact ⟨_, _, rfl, erased_deleteSession hcreated hip⟩

/-! ### The pipeline of the queues -/

/-- What a list of commands does to the queues. -/
def afterCommands (routeOf : SessionId → Route) (cs : List QueueCmd) (queues : QueueStore) : QueueStore :=
  cs.foldl (fun queues c => (c.exec routeOf {} queues).2) queues

theorem foldl_queueCommands (cs : List QueueCmd) (s : Store) (queues : QueueStore) :
    (cs.map fun c => (.inr (.queue c) : SearchCmd)).foldl (fun s c => (execSearch routeOf c s).2)
      (s, queues) = (s, afterCommands routeOf cs queues) := by
  induction cs generalizing queues with
  | nil => rfl
  | cons c cs ih => exact ih _

/-- The commands of an enqueue put this session into queues, or leave the queues alone. -/
def Enqueues (sid : SessionId) (c : QueueCmd) : Prop :=
  (∃ queueKey, c = .zadd queueKey sid) ∨
    ∀ (routeOf : SessionId → Route) queues, (c.exec routeOf {} queues).2.queues = queues.queues

theorem enqueues_enqueueCommands {sid : SessionId} {route : Route} {queueKeys : List String} :
    ∀ c ∈ enqueueCommands config sid route queueKeys, Enqueues sid c := by
  intro c hc
  simp only [enqueueCommands, List.mem_append, List.mem_flatMap, List.mem_cons, List.not_mem_nil,
    or_false] at hc
  rcases hc with ⟨queueKey, -, rfl | rfl | rfl⟩ | rfl
  · exact .inl ⟨queueKey, rfl⟩
  all_goals exact .inr fun _ _ => rfl

/-- **The session is in a queue afterwards if it was before, or one of the commands puts it there.** -/
theorem queued_afterCommands_iff {sid : SessionId} {cs : List QueueCmd} (hcs : ∀ c ∈ cs, Enqueues sid c)
    (queues : QueueStore) : (∃ queueKey, sid ∈ (afterCommands routeOf cs queues).queues queueKey) ↔
      (∃ queueKey, sid ∈ queues.queues queueKey) ∨ ∃ queueKey, .zadd queueKey sid ∈ cs := by
  induction cs generalizing queues with
  | nil => simp [afterCommands]
  | cons c cs ih =>
      have hfirst : (∃ queueKey, sid ∈ (c.exec routeOf {} queues).2.queues queueKey) ↔
          (∃ queueKey, sid ∈ queues.queues queueKey) ∨ ∃ queueKey, c = .zadd queueKey sid := by
        rcases hcs c List.mem_cons_self with ⟨key, rfl⟩ | hsame
        · refine iff_of_true ⟨key, ?_⟩ (.inr ⟨key, rfl⟩)
          simp [QueueCmd.exec, Matchmaker.atKey_self]
        · rw [hsame]
          constructor
          · exact .inl
          · rintro (hin | ⟨key, rfl⟩)
            · exact hin
            · -- a command that puts it into a queue would not leave the queues alone
              have hempty := congrFun (hsame routeOf Matchmaker.emptyQueues) key
              simp [QueueCmd.exec, Matchmaker.atKey_self, Matchmaker.emptyQueues] at hempty
      have hrest := ih (fun d hd => hcs d (List.mem_cons_of_mem c hd)) (c.exec routeOf {} queues).2
      rw [show afterCommands routeOf (c :: cs) queues =
        afterCommands routeOf cs (c.exec routeOf {} queues).2 from rfl, hrest, hfirst]
      simp only [List.mem_cons, exists_or, or_assoc, eq_comm]

/-- A new session joins at least one queue. -/
theorem length_queueKeysOf_pos (preferences : Preferences) (route : Route) :
    0 < (queueKeysOf rt config preferences route).length := by
  rw [List.length_pos_iff_exists_mem, queueKeysOf, initialQueueKeys]
  split_ifs with hempty
  · exact ⟨_, List.mem_singleton_self _⟩
  · obtain ⟨bucket, hbucket⟩ := List.exists_mem_of_ne_nil _ hempty
    exact ⟨_, List.mem_eraseDups.2 (List.mem_map_of_mem hbucket)⟩

theorem length_enqueueCommands {sid : SessionId} {route : Route} (queueKeys : List String) :
    (enqueueCommands config sid route queueKeys).length = 3 * queueKeys.length + 1 := by
  induction queueKeys with
  | nil => rfl
  | cons queueKey queueKeys ih =>
      simp only [enqueueCommands, List.flatMap_cons, List.append_assoc, List.length_append,
        List.length_cons, List.length_nil] at ih ⊢
      omega

/-- **With one of its commands left out, an enqueue still writes a queue**, unless it has only one. -/
theorem zadd_mem_eraseIdx_iff {sid : SessionId} {route : Route} {queueKeys : List String}
    (hpos : 0 < queueKeys.length) (k : ℕ) :
    (∃ queueKey, .zadd queueKey sid ∈ (enqueueCommands config sid route queueKeys).eraseIdx k) ↔
      ¬(queueKeys.length = 1 ∧ k = 0) := by
  cases queueKeys with
  | nil => exact absurd hpos (Nat.lt_irrefl 0)
  | cons first rest =>
      cases k with
      | succ k =>
          -- the first queue is written
          refine iff_of_true ⟨first, ?_⟩ (by simp)
          simp [enqueueCommands, List.eraseIdx_cons_succ]
      | zero =>
          cases rest with
          | nil =>
              refine iff_of_false ?_ (by simp)
              rintro ⟨key, hkey⟩
              simp [enqueueCommands] at hkey
          | cons second rest =>
              refine iff_of_true ⟨second, ?_⟩ (by simp)
              simp [enqueueCommands]

/-! ### The queueing -/

/-- An error before the pipeline of the queues leaves everything as it was. -/
theorem runFate_joinQueue_of_lt (h : Created rt session (s session.id)) (preferences : Preferences)
    {text : String} (hk : k < 2) (hfate : fate ≠ .answered) :
    (joinQueue rt config session.id preferences).runFate (execSearch routeOf) (.redis text) k fate
      (s, queues) = (.error (.redis text), (s, queues)) := by
  have hread := reads_route h true text
  have hissued : k < (resolveSessionRoute rt session.id true).left.left.issued (execSearch routeOf)
      (s, queues) := by
    rw [issued_lift, hread.issued]
    exact hk
  rw [joinQueue, bind_eq, runFate_bind_of_lt _ fate hissued, runFate_lift, runFate_route h hk hfate]
  rfl

/-- **An error in the pipeline leaves what its other commands have done**; later there is none. -/
theorem runFate_joinQueue_of_le (h : Created rt session (s session.id)) (preferences : Preferences)
    (text : String) (hfate : fate ≠ .answered) :
    let cs := enqueueCommands config session.id (routeForSession rt session)
      (queueKeysOf rt config preferences (routeForSession rt session))
    (k < cs.length ∧ (joinQueue rt config session.id preferences).runFate (execSearch routeOf)
        (.redis text) (2 + k) fate (s, queues) = (.error (.redis text),
          (s, afterCommands routeOf (if fate = .failed then cs.eraseIdx k else cs) queues))) ∨
      (cs.length ≤ k ∧ ((joinQueue rt config session.id preferences).runFate (execSearch routeOf)
        (.redis text) (2 + k) fate (s, queues)).1 = .ok ()) := by
  intro cs
  have hread := reads_route h true text
  have hissued : (resolveSessionRoute rt session.id true).left.left.issued (execSearch routeOf)
      (s, queues) = 2 := by
    rw [issued_lift, hread.issued]
    rfl
  have hpipeline : (Program.pipeline (cs.map fun c => (.inr (.queue c) : SearchCmd)) :
      SearchProg _).runFate (execSearch routeOf) (.redis text) k fate (s, queues) = _ :=
    runFate_pipeline _ k fate
  have hlength : (enqueueQueueKeys config session.id (routeForSession rt session)
      (queueKeysOf rt config preferences (routeForSession rt session))).issued (execSearch routeOf)
        (s, queues) = cs.length := by
    rw [enqueueQueueKeys, issued_pipeline, List.length_map]
  rw [joinQueue, bind_eq, runFate_bind_of_le _ fate (by omega), hissued, run_lift, hread.result]
  dsimp only
  rw [bind_eq, Nat.add_sub_cancel_left]
  by_cases hk : k < cs.length
  · refine .inl ⟨hk, ?_⟩
    rw [runFate_bind_of_lt _ fate (hlength.symm ▸ hk), enqueueQueueKeys, hpipeline]
    rw [List.length_map, if_pos ⟨hk, hfate⟩, List.eraseIdx_map, ← apply_ite, foldl_queueCommands]
    rfl
  · refine .inr ⟨Nat.le_of_not_lt hk, ?_⟩
    rw [runFate_bind_of_le _ fate (hlength.symm ▸ Nat.le_of_not_lt hk), enqueueQueueKeys, run_pipeline]
    dsimp only
    generalize k - _ = j
    cases j with
    | zero => cases fate <;> rfl
    | succ j => rfl

/-! ### The law of failed searches -/

theorem leavesNothing_error_iff {sid : SessionId} {text : String} {s : Store} {queues : QueueStore}
    (h : Erased (s sid)) : LeavesNothing sid (.error text, (s, queues)) ↔
      ¬∃ queueKey, sid ∈ queues.queues queueKey := by
  rw [not_exists]
  exact ⟨fun hleaves => (hleaves text rfl).2, fun hqueues _ _ => ⟨h, hqueues⟩⟩

theorem leavesNothing_ok {sid : SessionId} {outcome : Except String (SessionId × String) × SearchStore}
    {reply : SessionId × String} (h : outcome.1 = .ok reply) : LeavesNothing sid outcome := by
  intro text htext
  rw [h] at htext
  cases htext

/-- **The last part of a search.** -/
theorem leavesNothing_queueSession_iff (h : Created rt session (s q.sid)) (hid : session.id = q.sid)
    (hip : session.ip ≠ "") (hqueues : ¬∃ queueKey, q.sid ∈ queues.queues queueKey) (k : ℕ)
    (hfate : fate ≠ .answered) (text : String) :
    LeavesNothing q.sid ((queueSession rt config q session).runFate (execSearch routeOf) (.redis text) k
        fate (s, queues)) ↔
      Unqueued (queueKeysOf rt config q.preferences (routeForSession rt session)).length (8 + k) fate := by
  have hcreated : Created rt session (s session.id) := hid ▸ h
  have hpos := @length_queueKeysOf_pos rt config q.preferences (routeForSession rt session)
  -- the reads and the pipeline of the queueing, and the event
  have hissued : (joinQueue rt config q.sid q.preferences).issued (execSearch routeOf) (s, queues) =
      2 + ((enqueueCommands config session.id (routeForSession rt session)
        (queueKeysOf rt config q.preferences (routeForSession rt session))).length + 1) := by
    have hread := reads_route hcreated true ""
    rw [← hid, joinQueue, bind_eq, issued_bind, run_lift, issued_lift, hread.issued, hread.result]
    dsimp only
    rw [bind_eq, issued_bind, enqueueQueueKeys, issued_pipeline, run_pipeline, List.length_map]
    rfl
  rw [length_enqueueCommands] at hissued
  have hundo (queues' : QueueStore) : LeavesNothing q.sid ((undoQueueing rt q).run (execSearch routeOf)
      (s, queues')) ↔ ¬∃ queueKey, q.sid ∈ queues'.queues queueKey := by
    obtain ⟨s', text', hrun, herased⟩ := @run_undoQueueing routeOf rt q s queues' session h hid hip
    rw [hrun]
    exact leavesNothing_error_iff herased
  rw [queueSession, bind_eq]
  by_cases hlt : k < 2
  · -- its route cannot be looked up
    have hjoin := @runFate_joinQueue_of_lt routeOf rt config s queues k fate session hcreated
      q.preferences text hlt hfate
    rw [hid] at hjoin
    rw [runFate_bind_of_lt _ fate (by omega), hjoin]
    exact iff_of_true ((hundo queues).2 hqueues) (.inr (.inl (by omega)))
  · obtain ⟨j, rfl⟩ := Nat.exists_eq_add_of_le (Nat.le_of_not_lt hlt)
    have hjoin := @runFate_joinQueue_of_le routeOf rt config s queues j fate session hcreated
      q.preferences text hfate
    dsimp only at hjoin
    rw [length_enqueueCommands, hid] at hjoin
    rcases hjoin with ⟨hj, hjoin⟩ | ⟨hj, hjoin⟩
    · -- a command of the pipeline goes wrong
      rw [runFate_bind_of_lt _ fate (by omega), hjoin]
      refine (hundo _).trans ?_
      have hcs := @enqueues_enqueueCommands config q.sid (routeForSession rt session)
        (queueKeysOf rt config q.preferences (routeForSession rt session))
      have hunqueued : Unqueued (queueKeysOf rt config q.preferences (routeForSession rt session)).length
          (8 + (2 + j)) fate ↔ (queueKeysOf rt config q.preferences
            (routeForSession rt session)).length = 1 ∧ j = 0 ∧ fate = .failed := by
        unfold Unqueued
        constructor
        · rintro (hanswered | hlt | hle | ⟨hone, hk, hfailed⟩)
          · exact absurd hanswered hfate
          · omega
          · omega
          · exact ⟨hone, by omega, hfailed⟩
        · rintro ⟨hone, rfl, hfailed⟩
          exact .inr (.inr (.inr ⟨hone, rfl, hfailed⟩))
      rw [hunqueued]
      by_cases hfailed : fate = .failed
      · rw [if_pos hfailed, queued_afterCommands_iff fun c hc => hcs c (List.mem_of_mem_eraseIdx hc),
          zadd_mem_eraseIdx_iff hpos]
        simp only [hqueues, false_or, not_not, hfailed, and_true]
      · rw [if_neg hfailed, queued_afterCommands_iff hcs]
        refine iff_of_false (fun hnone => hnone (.inr ?_)) fun hone => hfailed hone.2.2
        obtain ⟨queueKey, hkey⟩ := List.length_pos_iff_exists_mem.1 hpos
        refine ⟨queueKey, List.mem_append_left _ (List.mem_flatMap.2 ⟨queueKey, hkey, ?_⟩)⟩
        exact List.mem_cons_self
    · -- the session has been queued
      refine iff_of_true ?_ (.inr (.inr (.inl (by omega))))
      by_cases hlt' : 2 + j < (joinQueue rt config q.sid q.preferences).issued (execSearch routeOf)
          (s, queues)
      · rw [runFate_bind_of_lt _ fate hlt', hjoin]
        exact leavesNothing_ok rfl
      · have hle := Nat.le_of_not_lt hlt'
        rw [runFate_eq_run fate hle] at hjoin
        rw [runFate_bind_of_le _ fate hle, hjoin]
        exact leavesNothing_ok rfl

/-- **The search from the registration on.** -/
theorem leavesNothing_registerAndQueueSession_iff (h : Created rt session (s q.sid))
    (hid : session.id = q.sid) (hip : session.ip ≠ "")
    (hqueues : ¬∃ queueKey, q.sid ∈ queues.queues queueKey) (k : ℕ) (hfate : fate ≠ .answered)
    (text : String) :
    LeavesNothing q.sid ((registerAndQueueSession rt config q session).runFate (execSearch routeOf)
        (.redis text) k fate (s, queues)) ↔
      Unqueued (queueKeysOf rt config q.preferences (routeForSession rt session)).length (6 + k) fate := by
  have hcreated : Created rt session (s session.id) := hid ▸ h
  obtain ⟨hissued, hrun⟩ := run_register hcreated q.owner
  rw [hid] at hissued hrun
  rw [registerAndQueueSession, bind_eq]
  by_cases hlt : k < 2
  · obtain ⟨herror, hleft⟩ := @runFate_register rt s k fate session hcreated q.owner text hlt hfate
    rw [hid] at herror hleft
    rw [runFate_bind_of_lt _ fate (by rw [issued_lift, hissued]; exact hlt), runFate_lift, herror]
    obtain ⟨s', text', hundo, herased⟩ := @run_undoRegistration routeOf rt q _ queues session hleft hid hip
    dsimp only
    rw [hundo]
    exact iff_of_true ((leavesNothing_error_iff herased).2 hqueues) (.inr (.inl (by omega)))
  · obtain ⟨j, rfl⟩ := Nat.exists_eq_add_of_le (Nat.le_of_not_lt hlt)
    rw [runFate_bind_of_le _ fate (by rw [issued_lift, hissued]; omega), run_lift, hrun, issued_lift,
      hissued, Nat.add_sub_cancel_left, ← Nat.add_assoc]
    refine leavesNothing_queueSession_iff ?_ hid hip hqueues j hfate text
    dsimp only
    rw [Function.update_self]
    rw [← hid] at h ⊢
    exact h.setOwner (some q.owner)

/-- Without an error the session is queued in the end. -/
theorem run_registerAndQueueSession (h : Created rt session (s q.sid)) (hid : session.id = q.sid) :
    ((registerAndQueueSession rt config q session).run (execSearch routeOf) (s, queues)).1 =
      .ok (q.sid, session.token) := by
  have hcreated : Created rt session (s session.id) := hid ▸ h
  obtain ⟨-, hrun⟩ := run_register hcreated q.owner
  have howned : Created rt session (Function.update s session.id
      ((s session.id).atRoute (routeForSession rt session) fun hot =>
        { hot with owner := some q.owner }) session.id) := by
    rw [Function.update_self]
    exact hcreated.setOwner (some q.owner)
  have hread := (reads_route howned true "").result
  rw [hid] at hrun hread
  rw [registerAndQueueSession, bind_eq, run_bind, run_lift, hrun]
  dsimp only
  rw [queueSession, bind_eq, run_bind, joinQueue, bind_eq, run_bind, run_lift, hread]
  dsimp only
  rw [bind_eq, run_bind, enqueueQueueKeys, run_pipeline]
  rfl

end Parts

/-- **A search that fails leaves nothing exactly when no queue has been written before the error.** -/
theorem leavesNothing_iff {s : SearchStore} (hfresh : Fresh q.sid s) (hip : q.clientIp ≠ "") (k : ℕ)
    (fate : Fate) (text : String) :
    LeavesNothing q.sid ((createAndQueueSession rt config initialShard q).runFate (execSearch routeOf)
        (.redis text) k fate s) ↔
      Unqueued (queueKeysOf rt config q.preferences (routeForSession rt (q.session rt initialShard))).length
        k fate := by
  obtain ⟨s, queues⟩ := s
  have hentry : s (q.session rt initialShard).id = { hot := fun _ => {} } := hfresh.entry
  have hcreated := @created_persistSession rt _ _ hentry
  have hqueues : ¬∃ queueKey, q.sid ∈ queues.queues queueKey := not_exists.2 hfresh.queues
  have hissued : (createSession rt initialShard q.sid q.token q.clientIp q.preferences .human
      q.now).issued exec s = 6 := by
    rw [createSession, bind_eq, issued_bind, issued_persistSession, run_persistSession]
    rfl
  have hrun : (createSession rt initialShard q.sid q.token q.clientIp q.preferences .human q.now).run
      exec s = (.ok (q.session rt initialShard),
        ((persistSession rt (q.session rt initialShard)).run exec s).2) := by
    rw [createSession, bind_eq, run_bind, run_persistSession]
    rfl
  rw [createAndQueueSession, bind_eq]
  by_cases hfate : fate = .answered
  · subst hfate
    have hqueued := @run_registerAndQueueSession routeOf rt config q _ queues _ hcreated rfl
    rw [runFate_answered, run_bind, run_lift, hrun]
    exact iff_of_true (leavesNothing_ok hqueued) (.inl rfl)
  · by_cases hlt : k < 6
    · -- the creation takes back what it has written
      obtain ⟨herror, herased⟩ := @erased_runFate_persistSession rt _ s (.redis text) k fate hentry hlt
        hfate
      have hcreate : (createSession rt initialShard q.sid q.token q.clientIp q.preferences .human
          q.now).runFate exec (.redis text) k fate s = (.error (.redis text),
            ((persistSession rt (q.session rt initialShard)).runFate exec (.redis text) k fate s).2) := by
        have herror' : ((persistSession rt (newSession rt initialShard q.sid q.token q.clientIp
            q.preferences .human q.now)).runFate exec (.redis text) k fate s).1 = .error (.redis text) :=
          herror
        rw [createSession, bind_eq, runFate_bind_of_lt _ fate (issued_persistSession.symm ▸ hlt), herror']
        rfl
      rw [runFate_bind_of_lt _ fate (by rw [issued_lift, hissued]; exact hlt), runFate_lift, hcreate]
      exact iff_of_true ((leavesNothing_error_iff herased).2 hqueues) (.inr (.inl (by omega)))
    · obtain ⟨j, rfl⟩ := Nat.exists_eq_add_of_le (Nat.le_of_not_lt hlt)
      rw [runFate_bind_of_le _ fate (by rw [issued_lift, hissued]; omega), run_lift, hrun, issued_lift,
        hissued, Nat.add_sub_cancel_left]
      exact leavesNothing_registerAndQueueSession_iff hcreated rfl hip hqueues j hfate text

/-! ### One search -/

/-- A search without interests, which joins one queue. -/
def randomSearch : Search where
  sid := "a"
  token := "t"
  clientIp := "192.0.2.7"
  preferences := ⟨some (.string "text"), none, some (.string ""), none⟩
  owner := "node|1"
  tracked := true
  now := 0

def emptySearchStore : SearchStore := (fun _ => { hot := fun _ => {} }, Matchmaker.emptyQueues)

/-- Its route cannot be looked up, and nothing is left. -/
theorem leavesNothing_unrouted : Fresh "a" emptySearchStore ∧ LeavesNothing "a"
    ((createAndQueueSession asciiRuntime Matchmaker.defaultConfig (fun _ => 4) randomSearch).runFate
      (execSearch fun _ => ⟨"text", 4⟩) (.redis "timeout") 9 .failed emptySearchStore) :=
  have hfresh : Fresh randomSearch.sid emptySearchStore := ⟨rfl, fun _ => List.not_mem_nil⟩
  ⟨hfresh, (leavesNothing_iff (fun _ => ⟨"text", 4⟩) asciiRuntime Matchmaker.defaultConfig (fun _ => 4)
    randomSearch hfresh (by decide) 9 .failed "timeout").2 (.inr (.inl (by decide)))⟩

/-- **The law fails**: the queue has been written when the registry cannot be. -/
theorem leavesNothing_fails : ¬∀ (q : Search) (s : SearchStore) k fate, Fresh q.sid s → q.clientIp ≠ "" →
    LeavesNothing q.sid
      ((createAndQueueSession asciiRuntime Matchmaker.defaultConfig (fun _ => 4) q).runFate
        (execSearch fun _ => ⟨"text", 4⟩) (.redis "timeout") k fate s) := by
  intro hall
  have hleaves := hall randomSearch emptySearchStore 11 .failed ⟨rfl, fun _ => List.not_mem_nil⟩
    (by decide)
  have hnone := (hleaves "Matchmaking unavailable" rfl).2
    (Matchmaker.sharedRandomQueueKey Matchmaker.defaultConfig "text" 4)
  exact hnone (by decide +kernel)

end Sessions
