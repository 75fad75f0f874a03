/-
**The owners of sessions across nodes.**

A process that owns a session says so in three places: its node subscribes it to the topic of the
session, the table of the node names it with a token of its own, and the store holds a record with
the name of the node and the token.  The record is how other nodes find it.  It goes when the owner
unregisters, when the router of its node learns that it has ended, or when somebody who routes a
message finds that its node is not connected.

All of this runs side by side: the calls of the processes, the routers, the expiry of the records and
the links between the nodes.

Main definitions:

* `Sockets.Router.encodeOwnerRecord`, `decodeOwnerRecord` — records as texts;
* `Sockets.Router.Cluster`, `Sockets.Router.clusterExec` — the nodes and the store, and what a
  command does;
* `Sockets.Router.register`, `refreshOwner`, `unregister`, `route`, `ownerNode` — what processes call;
* `Sockets.Router.clusterSystem` — **the nodes with their calls**.
-/

import Pairline.Numerals
import Pairline.Pool
import Pairline.Sessions.Record
import Pairline.Sockets.Owners

set_option relaxedAutoImplicit false
set_option autoImplicit false

namespace Sockets.Router

open Monitors (Inbox)
open Numerals (cut)
open Sessions (Route)
open Transition

/-! ### Nodes and records -/

/-- The name of a node, without the separator of the records. -/
structure NodeName where
  text : String
  ne_empty : text ≠ ""
  plain : '|' ∉ text.toList
  deriving DecidableEq

/-- A process, and the node on which it runs. -/
structure Proc where
  node : NodeName
  pid : ℕ
  deriving DecidableEq

structure OwnerRecord where
  node : String
  token : String

def encodeOwnerRecord (owner : OwnerRecord) : String := owner.node ++ "|" ++ owner.token

/-- `decode_owner_record`: two parts, neither of them empty. -/
def decodeOwnerRecord (encodedOwner : String) : Option OwnerRecord :=
  match cut '|' encodedOwner.toList with
  | some (node, token) =>
      if node ≠ [] ∧ token ≠ [] then some ⟨String.ofList node, String.ofList token⟩ else none
  | none => none

def buildLocalOwnerRecord (self : Proc) (token : String) : OwnerRecord := ⟨self.node.text, token⟩

/-- Why the store has not done what it was asked. -/
inductive Reason
  | notFound
  | invalidOwner
  | notOwner
  | mustRegisterFromOwnerProcess
  | mustRefreshFromOwnerProcess
  | store
  deriving DecidableEq

/-! ### The cluster -/

section Cluster

variable {M : Type}

/-- **The nodes and the store.**  Beside what they hold: to whom each token was given, which processes
have ended, which nodes a process has found not to be connected, and what was delivered. -/
structure Cluster (M : Type) where
  routers : NodeName → State
  nextToken : NodeName → ℕ
  records : String → Route → Option String
  subscribed : String → List Proc
  links : NodeName → String → Bool
  issued : NodeName → String → Option (ℕ × String)
  ended : Proc → Bool
  missed : NodeName → String → Bool
  delivered : List (Proc × M)

/-- What calls are made of: steps of one process on its node, and commands to the store. -/
inductive Cmd (M : Type)
  | ownerToken (self : Proc) (sessionId : String)
  | subscribe (self : Proc) (sessionId : String)
  | unsubscribe (self : Proc) (sessionId : String)
  | lookup (node : NodeName) (sessionId : String)
  | insert (node : NodeName) (sessionId : String) (pid : ℕ) (token : String)
  | deleteRow (node : NodeName) (sessionId : String)
  | cast (node : NodeName) (request : Request)
  | isAlive (proc : Proc)
  | inNodeList (node : NodeName) (other : String)
  | resolveSessionRoute (sessionId : String)
  | get (sessionId : String) (route : Route)
  | setex (sessionId : String) (route : Route) (value : String)
  | compareDelete (sessionId : String) (route : Route) (value : String)
  | send (proc : Proc) (message : M)
  | broadcast (node : NodeName) (sessionId : String) (message : M)
  | getSession (sessionId : String)

def Cmd.Reply : Cmd M → Type
  | .ownerToken _ _ => String
  | .lookup _ _ => Option (ℕ × String)
  | .isAlive _ | .inNodeList _ _ => Bool
  | .resolveSessionRoute _ => Except Reason Route
  | .get _ _ => Except Reason (Option String)
  | .setex _ _ _ => Except Reason Unit
  | _ => Unit

/-- What a command meets: the route that the store knows of the session, and the fate of a command to
the store. -/
structure World where
  route : Except Reason Route
  fate : Program.Fate

/-- The row of a session in the table of a node. -/
def Cluster.setRow (s : Cluster M) (node : NodeName) (sessionId : String) (row : Option (ℕ × String)) :
    Cluster M :=
  { s with
    routers := Function.update s.routers node { s.routers node with
      ownerTable := Function.update (s.routers node).ownerTable sessionId row } }

def Cluster.setRecord (s : Cluster M) (sessionId : String) (route : Route) (value : Option String) :
    Cluster M :=
  { s with
    records := Function.update s.records sessionId
      (Function.update (s.records sessionId) route value) }

/-- The script `@compare_delete_script`. -/
def Cluster.compareDelete (s : Cluster M) (sessionId : String) (route : Route) (value : String) :
    Cluster M :=
  if s.records sessionId route = some value then s.setRecord sessionId route none else s

/-- A token that was not given before. -/
def Cluster.giveToken (s : Cluster M) (self : Proc) (sessionId : String) : Cluster M :=
  { s with
    nextToken := Function.update s.nextToken self.node (s.nextToken self.node + 1)
    issued := Function.update s.issued self.node (Function.update (s.issued self.node)
      (toString (s.nextToken self.node)) (some (self.pid, sessionId))) }

/-- The subscribers that a broadcast from a node reaches: its own, and those of nodes that are connected
to it. -/
def Cluster.reached (s : Cluster M) (node : NodeName) (sessionId : String) : List Proc :=
  (s.subscribed sessionId).filter fun proc => proc.node = node || s.links node proc.node.text

/-- **What a command does.** -/
def clusterExec (x : World) (c : Cmd M) (s : Cluster M) : c.Reply × Cluster M :=
  match c with
  | .ownerToken self sessionId => (toString (s.nextToken self.node), s.giveToken self sessionId)
  | .subscribe self sessionId =>
      ((), { s with
        subscribed := Function.update s.subscribed sessionId (s.subscribed sessionId ++ [self]) })
  | .unsubscribe self sessionId =>
      ((), { s with
        subscribed := Function.update s.subscribed sessionId
          ((s.subscribed sessionId).filter (· ≠ self)) })
  | .lookup node sessionId => ((s.routers node).ownerTable sessionId, s)
  | .insert node sessionId pid token => ((), s.setRow node sessionId (some (pid, token)))
  | .deleteRow node sessionId => ((), s.setRow node sessionId none)
  | .cast node request =>
      ((), { s with
        routers := Function.update s.routers node { s.routers node with
          inbox := (s.routers node).inbox.send request } })
  | .isAlive proc => (!s.ended proc, s)
  | .inNodeList node other =>
      (s.links node other, { s with
        missed := Function.update s.missed node (Function.update (s.missed node) other
          (s.missed node other || !s.links node other)) })
  | .resolveSessionRoute _ => (x.route, s)
  | .get sessionId route =>
      (match x.fate with
        | .answered => .ok (s.records sessionId route)
        | _ => .error .store, s)
  | .setex sessionId route value =>
      match x.fate with
      | .answered => (.ok (), s.setRecord sessionId route (some value))
      | .failed => (.error .store, s)
      | .lost => (.error .store, s.setRecord sessionId route (some value))
  | .compareDelete sessionId route value =>
      ((), match x.fate with
        | .failed => s
        | _ => s.compareDelete sessionId route value)
  | .send proc message => ((), { s with delivered := s.delivered ++ [(proc, message)] })
  | .broadcast node sessionId message =>
      ((), { s with
        delivered := s.delivered ++ (s.reached node sessionId).map fun proc => (proc, message) })
  | .getSession _ => ((), s)

end Cluster

/-! ### Calls -/

section Calls

variable {M : Type}

abbrev ClusterProg (M : Type) := Program (Cmd.Reply (M := M)) Empty

/-- A command; it does not fail as such. -/
def perform (c : Cmd M) : ClusterProg M c.Reply :=
  .call c fun
    | .ok reply => .ret reply
    | .error e => e.elim

def isAlive (proc : Proc) : ClusterProg M Bool := perform (.isAlive proc)

/-- Whether a node is among those that `Node.list` returns. -/
def inNodeList (node : NodeName) (other : String) : ClusterProg M Bool :=
  perform (.inNodeList node other)

/-- `owner_key`: the route under which the record is kept. -/
def ownerKey (sessionId : String) (routeHint : Option Route) : ClusterProg M (Except Reason Route) :=
  match routeHint with
  | some route => return .ok route
  | none => perform (.resolveSessionRoute sessionId)

def persistOwner (sessionId : String) (owner : OwnerRecord) : ClusterProg M (Except Reason Unit) := do
  match ← ownerKey sessionId none with
  | .ok route => perform (.setex sessionId route (encodeOwnerRecord owner))
  | .error reason => return .error reason

def compareAndDeleteOwnerValue (sessionId expectedOwnerValue : String) : ClusterProg M Unit := do
  match ← ownerKey sessionId none with
  | .ok route => perform (.compareDelete sessionId route expectedOwnerValue)
  | .error _ => return ()

def compareAndDeleteOwner (sessionId : String) (expectedOwner : OwnerRecord) : ClusterProg M Unit :=
  compareAndDeleteOwnerValue sessionId (encodeOwnerRecord expectedOwner)

def trackLocalOwner (self : Proc) (sessionId token : String) : ClusterProg M Unit := do
  perform (.insert self.node sessionId self.pid token)
  perform (.cast self.node (.trackOwner sessionId self.pid token))

/-- The row of this process goes; it is looked up first, and deleted by its key. -/
def deleteOwnRow (self : Proc) (sessionId : String) : ClusterProg M Unit := do
  match ← perform (.lookup self.node sessionId) with
  | some (pid, _) => if pid = self.pid then perform (.deleteRow self.node sessionId) else return ()
  | none => return ()

def untrackLocalOwner (self : Proc) (sessionId : String) : ClusterProg M Unit := do
  deleteOwnRow self sessionId
  perform (.cast self.node (.untrackOwner sessionId self.pid))

/-- `local_owner`: the token of the row of this process. -/
def localOwner (self : Proc) (sessionId : String) : ClusterProg M (Option String) := do
  match ← perform (.lookup self.node sessionId) with
  | some (pid, token) => return if pid = self.pid then some token else none
  | none => return none

/-- The end of a call. -/
inductive Outcome
  | ok
  | error (reason : Reason)
  | node (ownerNode : String)
  | raised

def register (self : Proc) (sessionId : String) (pid : ℕ) : ClusterProg M Outcome := do
  if pid ≠ self.pid then return .error .mustRegisterFromOwnerProcess
  else
    let token ← perform (.ownerToken self sessionId)
    perform (.subscribe self sessionId)
    trackLocalOwner self sessionId token
    match ← persistOwner sessionId (buildLocalOwnerRecord self token) with
    | .ok () => return .ok
    | .error reason =>
        perform (.unsubscribe self sessionId)
        untrackLocalOwner self sessionId
        return .error reason

def restoreOwner (self : Proc) (sessionId : String) : ClusterProg M Outcome := do
  let token ← perform (.ownerToken self sessionId)
  trackLocalOwner self sessionId token
  match ← persistOwner sessionId (buildLocalOwnerRecord self token) with
  | .ok () => return .ok
  | .error reason =>
      untrackLocalOwner self sessionId
      return .error reason

def refreshOwner (self : Proc) (sessionId : String) (pid : ℕ) : ClusterProg M Outcome := do
  if pid ≠ self.pid then return .error .mustRefreshFromOwnerProcess
  else
    match ← localOwner self sessionId with
    | some token =>
        match ← persistOwner sessionId (buildLocalOwnerRecord self token) with
        | .ok () => return .ok
        | .error reason => return .error reason
    | none => restoreOwner self sessionId

def unregister (self : Proc) (sessionId : String) : ClusterProg M Outcome := do
  let owner ← localOwner self sessionId
  perform (.unsubscribe self sessionId)
  untrackLocalOwner self sessionId
  match owner with
  | some token =>
      compareAndDeleteOwner sessionId (buildLocalOwnerRecord self token)
      return .ok
  | none => return .ok

def ownerRecord (sessionId : String) (routeHint : Option Route) :
    ClusterProg M (Except Reason (Option OwnerRecord)) := do
  match ← ownerKey sessionId routeHint with
  | .error reason => return .error reason
  | .ok route =>
      match ← perform (.get sessionId route) with
      | .ok (some encodedOwner) =>
          match decodeOwnerRecord encodedOwner with
          | some owner => return .ok (some owner)
          | none =>
              compareAndDeleteOwnerValue sessionId encodedOwner
              return .error .invalidOwner
      | .ok none => return .ok none
      | .error reason => return .error reason

def ownerNode (sessionId : String) (routeHint : Option Route) : ClusterProg M Outcome := do
  match ← ownerRecord sessionId routeHint with
  | .ok (some owner) => return .node owner.node
  | .ok none => return .error .notFound
  | .error reason => return .error reason

/-- `dispatch_local`: whether a live process of this node took the message. -/
def dispatchLocal (self : Proc) (sessionId : String) (message : M) : ClusterProg M Bool := do
  match ← perform (.lookup self.node sessionId) with
  | none => return false
  | some (pid, _) =>
      if ← isAlive ⟨self.node, pid⟩ then
        perform (.send ⟨self.node, pid⟩ message)
        return true
      else
        perform (.deleteRow self.node sessionId)
        return false

/-- `dispatch_remote`; the owner of a hint has no token, and there is no encoding for it. -/
def dispatchRemote (self : Proc) (sessionId ownerNode : String) (token : Option String) (message : M) :
    ClusterProg M Outcome := do
  if ownerNode = self.node.text then
    let _ ← dispatchLocal self sessionId message
    return .ok
  else if ← inNodeList self.node ownerNode then
    perform (.broadcast self.node sessionId message)
    return .ok
  else
    match token with
    | none => return .raised
    | some token =>
        compareAndDeleteOwner sessionId ⟨ownerNode, token⟩
        let _ ← dispatchLocal self sessionId message
        return .ok

def routeViaOwnerRecord (self : Proc) (sessionId : String) (message : M) (routeHint : Option Route) :
    ClusterProg M Outcome := do
  match ← ownerRecord sessionId routeHint with
  | .ok (some owner) =>
      if owner.node = self.node.text then
        perform (.broadcast self.node sessionId message)
        return .ok
      else dispatchRemote self sessionId owner.node (some owner.token) message
  | _ =>
      perform (.getSession sessionId)
      return .ok

def dispatchRemoteWithHintFallback (self : Proc) (sessionId ownerNode : String) (message : M)
    (routeHint : Option Route) : ClusterProg M Outcome := do
  if ownerNode = self.node.text then
    if ← dispatchLocal self sessionId message then return .ok
    else routeViaOwnerRecord self sessionId message routeHint
  else if ← inNodeList self.node ownerNode then
    dispatchRemote self sessionId ownerNode none message
  else routeViaOwnerRecord self sessionId message routeHint

/-- `owner_hint_record`: a name that is not empty, of another node. -/
def ownerHintRecord (self : Proc) (ownerHint : Option String) : Option String :=
  ownerHint.filter fun ownerNode => ownerNode ≠ "" ∧ ownerNode ≠ self.node.text

def route (self : Proc) (sessionId : String) (message : M) (ownerHint : Option String)
    (routeHint : Option Route) : ClusterProg M Outcome := do
  if ← dispatchLocal self sessionId message then return .ok
  else
    match ownerHintRecord self ownerHint with
    | some ownerNode => dispatchRemoteWithHintFallback self sessionId ownerNode message routeHint
    | none => routeViaOwnerRecord self sessionId message routeHint

end Calls

/-! ### The cluster as a pool -/

section System

variable {M : Type}

inductive Call (M : Type)
  | register (self : Proc) (sessionId : String) (pid : ℕ)
  | refreshOwner (self : Proc) (sessionId : String) (pid : ℕ)
  | unregister (self : Proc) (sessionId : String)
  | route (self : Proc) (sessionId : String) (message : M) (ownerHint : Option String)
      (routeHint : Option Route)
  | ownerNode (sessionId : String) (routeHint : Option Route)

def clusterProgram : Call M → ClusterProg M Outcome
  | .register self sessionId pid => register self sessionId pid
  | .refreshOwner self sessionId pid => refreshOwner self sessionId pid
  | .unregister self sessionId => unregister self sessionId
  | .route self sessionId message ownerHint routeHint =>
      route self sessionId message ownerHint routeHint
  | .ownerNode sessionId routeHint => ownerNode sessionId routeHint

/-- What happens beside the calls. -/
inductive Outside
  /-- The router of a node handles its next message. -/
  | handled (node : NodeName)
  /-- … which ends with the deletion of a record. -/
  | deleted (node : NodeName) (x : World)
  | ends (proc : Proc)
  /-- A monitor on a process that has ended fires. -/
  | fires (node : NodeName) (ref : ℕ)
  | expires (sessionId : String) (route : Route)
  | link (node : NodeName) (other : String) (up : Bool)

def Cluster.setRouter (s : Cluster M) (node : NodeName) (router : State) : Cluster M :=
  { s with routers := Function.update s.routers node router }

def clusterEnv (s : Cluster M) : Outside → Option (Cluster M)
  | .handled node =>
      if (s.routers node).compareAndDelete = [] then
        (step (s.routers node) .handled).map (s.setRouter node)
      else none
  | .deleted node x =>
      match (s.routers node).compareAndDelete, x.route with
      | [], _ => none
      | _ :: rest, .error _ => some (s.setRouter node { s.routers node with compareAndDelete := rest })
      | (sessionId, token) :: rest, .ok route =>
          some (clusterExec x (.compareDelete sessionId route (encodeOwnerRecord ⟨node.text, token⟩))
            (s.setRouter node { s.routers node with compareAndDelete := rest })).2
  | .ends proc => some { s with ended := Function.update s.ended proc true }
  | .fires node ref =>
      if ∀ m ∈ (s.routers node).inbox.monitors, m.1 = ref → s.ended ⟨node, m.2⟩ = true then
        (step (s.routers node) (.ended ref)).map (s.setRouter node)
      else none
  | .expires sessionId route => some (s.setRecord sessionId route none)
  | .link node other up =>
      some { s with
        links := Function.update s.links node (Function.update (s.links node) other up) }

/-- **The nodes with their calls.** -/
def clusterSystem (M : Type) :
    Pool.System (Call M) World Outside (Cmd.Reply (M := M)) Empty (Cluster M) Outcome where
  program := clusterProgram
  exec := clusterExec
  spawns _ _ := []
  env n s := clusterEnv s n

/-- Nodes that have just started. -/
def newCluster (M : Type) (links : NodeName → String → Bool) : Cluster M where
  routers _ := init
  nextToken _ := 1
  records _ _ := none
  subscribed _ := []
  links := links
  issued _ _ := none
  ended _ := false
  missed _ _ := false
  delivered := []

end System

end Sockets.Router
