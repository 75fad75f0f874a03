/-
**The deletion of a session.**

Deleting takes several commands: a script removes the record, its queue metadata and its owner, then
the session leaves the set of active sessions, its locator is deleted, and its report locator is
written; the index of its address is cleaned up by a task of its own.  A session whose record or
address cannot be found is treated as an orphan, whose locators are deleted without a script.
The refreshes and updates of the session run side by side with it.

Main definitions:

* `Sessions.DeletionOp`, `Sessions.StoreCmd` — the commands that only a deletion issues, and all;
* `Sessions.deleteSession` — the deletion, as the session manager starts it;
* `Sessions.SessionOp`, `Sessions.sessionSystem` — refreshes, updates and deletions side by side.

Main results:

* `Sessions.execAll_snd_of_ne` — a command touches the keys of one session.
-/

import Pairline.Pool
import Pairline.Sessions.RedisState

set_option relaxedAutoImplicit false
set_option autoImplicit false

namespace Sessions

open Matchmaker (SessionId)

/-! ### Commands -/

/-- The commands of a deletion; what they do to times to live is left out. -/
inductive DeletionOp
  | deleteScript (route : Route)
  | setexReportLocator (route : Route)
  | expireIpLocator
  | setexReportKind
  | cleanupIpSessionsScript (ip : String)
  | startIndexCleanup (ip : String)

structure DeletionCmd where
  sid : SessionId
  op : DeletionOp

def DeletionOp.exec : DeletionOp → Entry → Entry
  | .deleteScript route, entry => entry.atRoute route fun hot =>
      { hot with data := none, queueMeta := none, owner := none }
  | .setexReportLocator route, entry => { entry with reportLocator := some route }
  | .expireIpLocator, entry => entry
  | .setexReportKind, entry => { entry with reportKind := some "bot" }
  | .cleanupIpSessionsScript ip, entry =>
      { entry with ipSessions := Function.update entry.ipSessions ip false }
  | .startIndexCleanup _, entry => entry

/-- The commands on the keys of sessions. -/
abbrev StoreCmd := Cmd ⊕ DeletionCmd

abbrev StoreCmd.Reply : StoreCmd → Type := Sum.elim Cmd.Reply fun _ => Unit

def StoreCmd.sid : StoreCmd → SessionId := Sum.elim Cmd.sid DeletionCmd.sid

/-- What a command answers and does. -/
def execAll : (c : StoreCmd) → Store → c.Reply × Store
  | .inl c, s => exec c s
  | .inr c, s => ((), Function.update s c.sid (c.op.exec (s c.sid)))

/-- **A command touches the keys of one session.** -/
theorem execAll_snd_of_ne {c : StoreCmd} {s : Store} {sid : SessionId} (h : c.sid ≠ sid) :
    (execAll c s).2 sid = s sid := by
  cases c with
  | inl c => exact exec_snd_of_ne h
  | inr c => exact Function.update_of_ne (Ne.symm h) _ _

abbrev StoreProg := Program StoreCmd.Reply Reason

def deletion (sid : SessionId) (op : DeletionOp) : StoreProg (Except Reason Unit) :=
  Program.command (V := StoreCmd.Reply) (.inr ⟨sid, op⟩)

/-- A command that other operations issue as well. -/
def plain (sid : SessionId) (op : Op) : StoreProg (Except Reason (Cmd.Reply ⟨sid, op⟩)) :=
  Program.command (V := StoreCmd.Reply) (.inl ⟨sid, op⟩)

variable (rt : Runtime)

/-! ### Deleting -/

/-- The address of a session, under the tag of its route or by its locator. -/
def ipOfSession (sid : SessionId) (route : Route) : Prog (Except Reason String) := do
  match ← redis sid (.getIp route) with
  | .ok (some ip) => if ip = "" then fromLocator else return .ok ip
  | .ok none => fromLocator
  | .error reason => return .error reason
where
  /-- `session_ip_locator`. -/
  fromLocator : Prog (Except Reason String) := do
    match ← redis sid .getIpLocator with
    | .ok (some ip) => if ip = "" then return .error .notFound else return .ok ip
    | .ok none => return .error .notFound
    | .error reason => return .error reason

def loadSessionIp (sid : SessionId) (route : Route) : Prog (Except Reason String) :=
  ipOfSession sid route

def resolveCleanupIp (sid : SessionId) (route : Route) : Prog (Except Reason String) :=
  ipOfSession sid route

/-- The commands of `cleanup_locators_for_report_grace`. -/
def reportGraceCommands (sid : SessionId) (route : Route) (kind : SessionKind) : List StoreCmd :=
  [.inr ⟨sid, .setexReportLocator route⟩, .inl ⟨sid, .delLocator⟩, .inr ⟨sid, .expireIpLocator⟩] ++
    match kind with
    | .bot => [.inr ⟨sid, .setexReportKind⟩]
    | .human => []

/-- `delete_session` of the store once it has the route; the index of the address is cleaned up by a
task. -/
def deleteAt (sid : SessionId) (route : Route) (ip : String) (kind : SessionKind) :
    StoreProg (Except Reason Unit) := do
  match ← deletion sid (.deleteScript route) with
  | .ok _ =>
      match ← plain sid .sremActive with
      | .ok _ =>
          match ← Program.pipeline (reportGraceCommands sid route kind) with
          | .ok _ =>
              let _ ← deletion sid (.startIndexCleanup ip)
              return .ok ()
          | .error reason => return .error reason
      | .error reason => return .error reason
  | .error reason => return .error reason

/-- `cleanup_unrouted_orphaned_session`. -/
def cleanupUnroutedOrphanedSession (sid : SessionId) : Prog (Except Reason Unit) := do
  match ← redis sid .getIpLocator with
  | .ok (some ip) =>
      if ip = "" then pipeline sid locatorOps else pipeline sid (locatorOps ++ [.sremIp ip])
  | _ => pipeline sid locatorOps
where
  locatorOps : List Op :=
    [.sremActive, .delLocator, .delReportLocator, .delReportKind, .delIpLocator]

/-- What `cleanup_orphaned_session` does when the session has a route; the store's `delete_session`
resolves it once more. -/
def cleanupRoutedSession (sid : SessionId) (route : Route) : StoreProg (Except Reason Unit) := do
  match ← (resolveCleanupIp sid route).left with
  | .ok ip =>
      match ← (resolveSessionRoute rt sid true).left with
      | .ok route => deleteAt sid route ip .human
      | .error reason => return .error reason
  | .error reason => return .error reason

def cleanupOrphanedSession (sid : SessionId) : StoreProg (Except Reason Unit) := do
  match ← (resolveSessionRoute rt sid true).left with
  | .ok route => cleanupRoutedSession rt sid route
  | .error .notFound => (cleanupUnroutedOrphanedSession sid).left
  | .error reason => return .error reason

/-- What is made of a session and its address, or of an error on the way to them. -/
def deleteFound (sid : SessionId) (session : Session) (ip : Except Reason String) :
    StoreProg (Except Reason Unit) :=
  match ip with
  | .ok ip => deleteAt sid (routeForSession rt session) ip session.sessionKind
  | .error .notFound => cleanupOrphanedSession rt sid
  | .error reason => .ret (.error reason)

/-- `delete_session` of the session manager. -/
def deleteSession (sid : SessionId) : StoreProg (Except Reason Unit) := do
  match ← (getSession rt sid).left with
  | .ok session =>
      let ip ← (loadSessionIp sid (routeForSession rt session)).left
      deleteFound rt sid session ip
  | .error .notFound => cleanupOrphanedSession rt sid
  | .error reason => return .error reason

/-! ### The operations side by side -/

inductive SessionOp
  | refresh (sid : SessionId) (now : ℤ)
  | update (sid : SessionId) (updates : Updates) (now : ℤ)
  | delete (sid : SessionId)
  | indexCleanup (sid : SessionId) (ip : String)
  deriving DecidableEq

def SessionOp.sid : SessionOp → SessionId
  | .refresh sid _ => sid
  | .update sid _ _ => sid
  | .delete sid => sid
  | .indexCleanup sid _ => sid

def SessionOp.program : SessionOp → StoreProg (Except Reason Unit)
  | .refresh sid now => (refreshSession rt sid now).left
  | .update sid updates now =>
      (updateSession rt sid updates now).left.bind fun result => .ret (result.map fun _ => ())
  | .delete sid => deleteSession rt sid
  | .indexCleanup sid ip => deletion sid (.cleanupIpSessionsScript ip)

/-- The task that a command starts. -/
def startedBy : StoreCmd → List SessionOp
  | .inr ⟨sid, .startIndexCleanup ip⟩ => [.indexCleanup sid ip]
  | _ => []

/-- **Refreshes, updates and deletions of sessions, side by side.** -/
def sessionSystem :
    Pool.System SessionOp Unit Empty StoreCmd.Reply Reason Store (Except Reason Unit) where
  program op := op.program rt
  exec _ := execAll
  spawns c _ := startedBy c
  env n := n.elim

abbrev SessionConfig := Pool.Config SessionOp StoreCmd.Reply Reason Store (Except Reason Unit)

abbrev SessionEvent := Pool.Event SessionOp Unit Empty Reason

end Sessions
