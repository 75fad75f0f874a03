/-
**The keys of a session and the operations that write them.**

A session is spread over many keys: its record, IP entry, token, queue metadata and owner under the
tag of its route, two locators that lead there, and its memberships in the set of active sessions and
in the index of its IP.  Every Redis command and every script is one command of a program; commands
of a pipeline are issued one after another and the first error is reported.  Times to live are left
out, as nothing expires within one operation.

Main definitions:

* `Sessions.Hot`, `Sessions.Entry`, `Sessions.Store` — the keys of a session, and of all sessions;
* `Sessions.Cmd`, `Sessions.exec` — the commands and what they do;
* `Sessions.persistSession`, `Sessions.updateSessionFields`, `Sessions.touchSession` — the writing
  operations of the store;
* `Sessions.updateSession`, `Sessions.persistUpdatedSession`, `Sessions.moveSessionShard` — the
  operations of the session manager on top of them.

Main results:

* `Sessions.exec_snd_of_ne` — a command touches the keys of one session.
-/

import Mathlib.Logic.Function.Basic
import Pairline.Program
import Pairline.Sessions.Record

set_option relaxedAutoImplicit false
set_option autoImplicit false

namespace Sessions

open Matchmaker (SessionId)

/-! ### Keys -/

/-- The keys of a session under the tag of one route. -/
structure Hot where
  data : Option Session := none
  ip : Option String := none
  token : Option String := none
  queueMeta : Option QueueMetadata := none
  owner : Option String := none

/-- The keys of a session, and its memberships in the index sets. -/
structure Entry where
  hot : Route → Hot
  locator : Option Route := none
  ipLocator : Option String := none
  reportLocator : Option Route := none
  reportKind : Option String := none
  active : Bool := false
  ipSessions : String → Bool := fun _ => false

abbrev Store := SessionId → Entry

/-- The keys under the tag of one route are changed. -/
def Entry.atRoute (entry : Entry) (route : Route) (f : Hot → Hot) : Entry :=
  { entry with hot := Function.update entry.hot route (f (entry.hot route)) }

/-! ### Commands -/

/-- A command on the keys of one session. -/
inductive Op
  | getLocator
  | getIpLocator
  | exists (route : Route)
  | existsQueueMeta (route : Route)
  | get (route : Route)
  | getIp (route : Route)
  | getOwner (route : Route)
  | ttl (route : Route)
  | setexLocator (route : Route)
  | setexIpLocator (ip : String)
  | setexOwner (route : Route) (owner : String)
  | saddActive
  | saddIp (ip : String)
  | expireIp (ip : String)
  | delLocator
  | delReportLocator
  | delReportKind
  | delIpLocator
  | sremActive
  | sremIp (ip : String)
  | persistScript (route : Route) (session : Session) (token : String) (queueMeta : QueueMetadata)
  | touchScript (route : Route) (now : ℤ)
  | updateScript (route : Route) (updates : Updates) (now : ℤ)
  | delHot (route : Route)

structure Cmd where
  sid : SessionId
  op : Op

/-- The types of the replies. -/
def Op.Reply : Op → Type
  | .getLocator => Option Route
  | .getIpLocator => Option String
  | .exists _ => Bool
  | .existsQueueMeta _ => Bool
  | .get _ => Option Session
  | .getIp _ => Option String
  | .getOwner _ => Option String
  | .touchScript _ _ => Bool
  | .updateScript _ _ _ => Option Session
  | _ => Unit

def Cmd.Reply (c : Cmd) : Type := c.op.Reply

/-- What a command answers and does. -/
def Op.exec : (op : Op) → Entry → op.Reply × Entry
  | .getLocator, entry => (entry.locator, entry)
  | .getIpLocator, entry => (entry.ipLocator, entry)
  | .exists route, entry => ((entry.hot route).data.isSome, entry)
  | .existsQueueMeta route, entry => ((entry.hot route).queueMeta.isSome, entry)
  | .get route, entry => ((entry.hot route).data, entry)
  | .getIp route, entry => ((entry.hot route).ip, entry)
  | .getOwner route, entry => ((entry.hot route).owner, entry)
  | .ttl _, entry => ((), entry)
  | .setexLocator route, entry => ((), { entry with locator := some route })
  | .setexIpLocator ip, entry => ((), { entry with ipLocator := some ip })
  | .setexOwner route owner, entry =>
      ((), entry.atRoute route fun hot => { hot with owner := some owner })
  | .saddActive, entry => ((), { entry with active := true })
  | .saddIp ip, entry => ((), { entry with ipSessions := Function.update entry.ipSessions ip true })
  | .expireIp _, entry => ((), entry)
  | .delLocator, entry => ((), { entry with locator := none })
  | .delReportLocator, entry => ((), { entry with reportLocator := none })
  | .delReportKind, entry => ((), { entry with reportKind := none })
  | .delIpLocator, entry => ((), { entry with ipLocator := none })
  | .sremActive, entry => ((), { entry with active := false })
  | .sremIp ip, entry =>
      ((), { entry with ipSessions := Function.update entry.ipSessions ip false })
  | .persistScript route session token queueMeta, entry =>
      ((), entry.atRoute route fun hot =>
        { hot with
          data := some session
          ip := some session.ip
          token := some token
          queueMeta := some queueMeta })
  | .touchScript route now, entry =>
      match (entry.hot route).data with
      | none => (false, entry)
      | some session => (true, entry.atRoute route fun hot =>
          { hot with data := some (session.touchLastActivity now) })
  | .updateScript route updates now, entry =>
      match (entry.hot route).data with
      | none => (none, entry)
      | some session =>
          let updated := (session.merge updates).touchLastActivity now
          (some updated, entry.atRoute route fun hot =>
            { hot with
              data := some updated
              queueMeta := hot.queueMeta.map fun queueMeta => queueMeta.overlap updated })
  | .delHot route, entry =>
      ((), entry.atRoute route fun hot =>
        { hot with data := none, ip := none, token := none, queueMeta := none })

def exec (c : Cmd) (s : Store) : c.Reply × Store :=
  ((c.op.exec (s c.sid)).1, Function.update s c.sid (c.op.exec (s c.sid)).2)

/-- **A command touches the keys of one session.** -/
theorem exec_snd_of_ne {c : Cmd} {s : Store} {sid : SessionId} (h : c.sid ≠ sid) :
    (exec c s).2 sid = s sid :=
  Function.update_of_ne (Ne.symm h) _ _

/-! ### Errors and replies -/

inductive Reason
  | notFound
  | missingQueueMeta
  | redis (text : String)
  deriving DecidableEq

abbrev Prog := Program Cmd.Reply Reason

def redis (sid : SessionId) (op : Op) : Prog (Except Reason (Cmd.Reply ⟨sid, op⟩)) :=
  Program.command (V := Cmd.Reply) ⟨sid, op⟩

def pipeline (sid : SessionId) (ops : List Op) : Prog (Except Reason Unit) :=
  Program.pipeline (ops.map fun op => ⟨sid, op⟩)

variable (rt : Runtime)

/-! ### Finding a session -/

/-- `ensure_session_exists`, asked for or not. -/
def maybeVerifySessionExists (sid : SessionId) (route : Route) (verifyExists : Bool) :
    Prog (Except Reason Unit) :=
  if verifyExists then do
    match ← redis sid (.exists route) with
    | .ok true => return .ok ()
    | .ok false => return .error .notFound
    | .error reason => return .error reason
  else return .ok ()

def candidateRoutes : List Route :=
  Matchmaker.allowedModes.flatMap fun mode =>
    (List.range rt.matchShardCount).map fun shard => ⟨mode, shard⟩

/-- The pipeline of `EXISTS` of `find_session_route`. -/
def existsPipeline (sid : SessionId) : List Route → Prog (Except Reason (List Bool))
  | [] => return .ok []
  | route :: routes => do
      let reply ← redis sid (.exists route)
      let rest ← existsPipeline sid routes
      match reply with
      | .ok found => return rest.map (found :: ·)
      | .error reason => return .error reason

def findSessionRoute (sid : SessionId) : Prog (Except Reason Route) := do
  match ← existsPipeline sid (candidateRoutes rt) with
  | .ok results =>
      match ((candidateRoutes rt).zip results).find? Prod.snd with
      | some (route, _) => return .ok route
      | none => return .error .notFound
  | .error reason => return .error reason

def persistRepairedSessionLocator (sid : SessionId) (route : Route) :
    Prog (Except Reason Unit) := do
  match ← redis sid (.ttl route) with
  | .ok _ =>
      match ← redis sid (.setexLocator route) with
      | .ok _ => return .ok ()
      | .error reason => return .error reason
  | .error reason => return .error reason

def repairMissingSessionRoute (sid : SessionId) (verifyExists : Bool) :
    Prog (Except Reason Route) := do
  match ← findSessionRoute rt sid with
  | .ok route =>
      match ← maybeVerifySessionExists sid route verifyExists with
      | .ok _ =>
          match ← persistRepairedSessionLocator sid route with
          | .ok _ => return .ok route
          | .error reason => return .error reason
      | .error reason => return .error reason
  | .error reason => return .error reason

def resolveSessionRoute (sid : SessionId) (verifyExists : Bool) : Prog (Except Reason Route) := do
  match ← redis sid .getLocator with
  | .ok (some route) =>
      match ← maybeVerifySessionExists sid route verifyExists with
      | .ok _ => return .ok route
      | .error .notFound =>
          let _ ← redis sid .delLocator
          repairMissingSessionRoute rt sid verifyExists
      | .error reason => return .error reason
  | .ok none => repairMissingSessionRoute rt sid verifyExists
  | .error reason => return .error reason

def getSession (sid : SessionId) : Prog (Except Reason Session) := do
  match ← resolveSessionRoute rt sid false with
  | .ok route =>
      match ← redis sid (.get route) with
      | .ok (some session) => return .ok session
      | .ok none =>
          let _ ← pipeline sid [.delLocator]
          return .error .notFound
      | .error reason => return .error reason
  | .error reason => return .error reason

/-! ### Writing a whole record -/

def persistLocatorsAndIndexes (sid : SessionId) (route : Route) (ip : String) :
    Prog (Except Reason Unit) :=
  pipeline sid [.setexLocator route, .setexIpLocator ip, .saddActive, .saddIp ip, .expireIp ip]

def cleanupLocators (sid : SessionId) : Prog (Except Reason Unit) :=
  pipeline sid [.delLocator, .delReportLocator, .delReportKind, .delIpLocator]

def rollbackIndexes (sid : SessionId) (ip : String) : Prog (Except Reason Unit) :=
  pipeline sid [.sremActive, .sremIp ip]

def rollbackHotSession (sid : SessionId) (route : Route) : Prog Unit := do
  let _ ← redis sid (.delHot route)
  return ()

/-- The part of `persist_session` that writes. -/
def writeSession (session : Session) : Prog (Except Reason Unit) := do
  match ← redis session.id (.persistScript (routeForSession rt session) session
      (rt.hashedToken session.token) (buildQueueMeta rt session)) with
  | .ok _ => persistLocatorsAndIndexes session.id (routeForSession rt session) session.ip
  | .error reason => return .error reason

/-- The part of `persist_session` that takes back what was written. -/
def rollbackSession (session : Session) : Prog Unit := do
  let _ ← cleanupLocators session.id
  let _ ← rollbackIndexes session.id session.ip
  rollbackHotSession session.id (routeForSession rt session)

def persistSession (session : Session) : Prog (Except Reason Unit) := do
  match ← writeSession rt session with
  | .ok _ => return .ok ()
  | .error reason =>
      rollbackSession rt session
      return .error reason

/-! ### Writing in place -/

/-- `load_active_locator_ip`. -/
def loadActiveLocatorIp (sid : SessionId) (route : Route) : Prog (Option String) := do
  match ← redis sid (.getIp route) with
  | .ok (some ip) => if ip = "" then fromLocator else return some ip
  | .ok none => fromLocator
  | .error _ => return none
where
  fromLocator : Prog (Option String) := do
    match ← redis sid .getIpLocator with
    | .ok (some ip) => if ip = "" then return none else return some ip
    | _ => return none

/-- `do_refresh_active_locators`, which tries again after an error. -/
def doRefreshActiveLocators (sid : SessionId) (ops : List Op) : ℕ → Prog (Except Reason Unit)
  | 0 => pipeline sid ops
  | attemptsLeft + 1 => do
      match ← pipeline sid ops with
      | .ok _ => return .ok ()
      | .error _ => doRefreshActiveLocators sid ops attemptsLeft

/-- `refresh_active_locators`, whose errors are logged only; there are three attempts. -/
def refreshActiveLocators (sid : SessionId) (route : Route) : Prog Unit := do
  match ← loadActiveLocatorIp sid route with
  | some ip =>
      let _ ← doRefreshActiveLocators sid [.setexLocator route, .setexIpLocator ip] 2
      return ()
  | none => return ()

/-- The end of `touch_session` and of `update_session_fields`: the script, and where it went through
the refresh of the locators. -/
def execAndRefresh (sid : SessionId) (route : Route) (op : Op) :
    Prog (Except Reason (Cmd.Reply ⟨sid, op⟩)) := do
  match ← redis sid op with
  | .ok reply =>
      refreshActiveLocators sid route
      return .ok reply
  | .error reason => return .error reason

/-- `touch_session`, with the reply of the script. -/
def touchSession (sid : SessionId) (now : ℤ) : Prog (Except Reason Bool) := do
  match ← resolveSessionRoute rt sid true with
  | .ok route => execAndRefresh sid route (.touchScript route now)
  | .error reason => return .error reason

def updateSessionFields (sid : SessionId) (updates : Updates) (now : ℤ) :
    Prog (Except Reason (Option Session)) := do
  match ← resolveSessionRoute rt sid true with
  | .ok route =>
      match ← redis sid (.existsQueueMeta route) with
      | .ok true => execAndRefresh sid route (.updateScript route updates now)
      | .ok false => return .error .missingQueueMeta
      | .error reason => return .error reason
  | .error reason => return .error reason

/-! ### The session manager -/

def refreshSession (sid : SessionId) (now : ℤ) : Prog (Except Reason Unit) := do
  let result ← touchSession rt sid now
  return match result with
    | .ok true => .ok ()
    | .ok false => .error .notFound
    | .error reason => .error reason

def persistUpdatedSession (sid : SessionId) (updates : Updates) (now : ℤ) :
    Prog (Except Reason Session) := do
  match ← getSession rt sid with
  | .ok session =>
      match ← persistSession rt ((session.merge updates).touchLastActivity now) with
      | .ok _ => return .ok ((session.merge updates).touchLastActivity now)
      | .error reason => return .error reason
  | .error reason => return .error reason

def updateSession (sid : SessionId) (updates : Updates) (now : ℤ) :
    Prog (Except Reason Session) := do
  if updates = {} then
    match ← refreshSession rt sid now with
    | .ok _ => getSession rt sid
    | .error reason => return .error reason
  else if updates.partialUpdateSupported then
    match ← updateSessionFields rt sid updates now with
    | .ok (some updated) => return .ok updated
    | .ok none => return .error .notFound
    | .error .missingQueueMeta => persistUpdatedSession rt sid updates now
    | .error reason => return .error reason
  else persistUpdatedSession rt sid updates now

/-- `migrate_owner_record`, whose errors are dropped. -/
def migrateOwnerRecord (sid : SessionId) (oldRoute newRoute : Route) : Prog Unit := do
  match ← redis sid (.getOwner oldRoute) with
  | .ok (some owner) =>
      let _ ← redis sid (.setexOwner newRoute owner)
      return ()
  | _ => return ()

/-- The shard that `move_session_shard` moves a session to. -/
def normalizedShard (newShard : ℤ) : ℕ := newShard.toNat % rt.matchShardCount

def moveSessionShard (sid : SessionId) (newShard now : ℤ) : Prog (Except Reason Session) := do
  match ← getSession rt sid with
  | .ok session =>
      if session.redisShard = normalizedShard rt newShard then return .ok session
      else
        let updated := { session with redisShard := normalizedShard rt newShard, lastActivity := now }
        match ← persistSession rt updated with
        | .ok _ =>
            migrateOwnerRecord sid (routeForSession rt session)
              ⟨Matchmaker.normalizeMode session.preferences.mode, normalizedShard rt newShard⟩
            return .ok updated
        | .error reason => return .error reason
  | .error reason => return .error reason

end Sessions
