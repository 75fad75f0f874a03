/-
**The consumer of the admin stream.**

The entries of the stream are read in batches; the actions in them are carried out one after another,
and at the end the whole batch is acknowledged.  An operation on the store that fails gives an error,
which the handlers put into their log lines and then forget.  What raises is the conversion of a
value to text, and an entry without fields: then the consumer starts anew, and reads first what it
has not acknowledged.

Sessions are kept here by their ids, without the keys of their routes; the look-up of a route and the
script after it are one command, which fails if either does.

Main definitions:

* `Admin.AdminStore`, `Admin.AdminOp`, `Admin.exec` — records, queues and ban keys, and the commands
  on them;
* `Admin.emergencyBan`, `Admin.emergencyBanIp`, `Admin.emergencyDisconnect`, `Admin.emergencyUnban`,
  `Admin.emergencyUnbanIp` — the operations of the session manager;
* `Admin.handleAdminAction`, `Admin.handleStreamEntry` — an action, and an entry;
* `Admin.processEntries`, `Admin.consumeStreamEntries` — a batch, and a turn of the consumer.
-/

import Pairline.Admin.Entries
import Pairline.Program
import Pairline.Sessions.Matching

set_option relaxedAutoImplicit false
set_option autoImplicit false

namespace Admin

open Matchmaker (SessionId)
open Sessions (Session ScriptAnswer PartnerAnswer Updates)

/-! ### The store -/

/-- The ban key of an address: the reason, and when it expires if it does. -/
structure IpBan where
  reason : String
  expiresAt : Option ℤ

structure AdminStore where
  records : SessionId → Option Session
  /-- The queues that hold a session, which are also those of its membership set. -/
  queues : SessionId → List String
  /-- The queues of all registries. -/
  registry : List String
  /-- The sessions of an address. -/
  ipSessions : String → List SessionId
  ipBan : String → Option IpBan
  acked : List EntryId

/-- What the router takes to the channel of a session. -/
inductive AdminMessage
  | banned (reason : Json)
  | disconnect (reason : String) (matchGeneration : Option String)

inductive AdminOp
  | readGroup (streamId : String)
  | xack (ids : List EntryId)
  | atomicEmergencyBan (sid : SessionId) (reason : String)
  | atomicEmergencyDisconnect (sid : SessionId)
  | atomicDisconnectPartner (partnerId expectedPeerId : SessionId)
  | getSession (sid : SessionId)
  | updateSession (sid : SessionId) (updates : Updates)
  | queueMembership (sid : SessionId)
  | registryEntries
  | zrem (queueKey : String) (sid : SessionId)
  | notify (sid : SessionId) (message : AdminMessage)
  | smembers (ip : String)
  | getSessions (sids : List SessionId)
  | srem (ip : String) (sids : List SessionId)
  | setIpBan (ip : String) (reason : String)
  | delIpBan (ip : String)
  | refreshBannedWords

/-- The types of the replies; a session that is not found is no error here. -/
def AdminOp.Reply : AdminOp → Type
  | .readGroup _ => List StreamEntry
  | .atomicEmergencyBan _ _ => ScriptAnswer
  | .atomicEmergencyDisconnect _ => ScriptAnswer
  | .atomicDisconnectPartner _ _ => PartnerAnswer
  | .getSession _ => Option Session
  | .updateSession _ _ => Option Session
  | .queueMembership _ => Option (List String)
  | .registryEntries => List String
  | .smembers _ => List SessionId
  | .getSessions _ => List SessionId
  | _ => Unit

/-- The time, and what a read of the stream finds. -/
structure World where
  now : ℤ
  entries : List StreamEntry

def AdminStore.setRecord (s : AdminStore) (sid : SessionId) (session : Session) : AdminStore :=
  { s with records := Function.update s.records sid (some session) }

/-- What a command answers and does. -/
def exec (x : World) (c : AdminOp) (s : AdminStore) : c.Reply × AdminStore :=
  match c with
  | .readGroup _ => (x.entries, s)
  | .xack ids => ((), { s with acked := s.acked ++ ids })
  | .atomicEmergencyBan sid reason =>
      match s.records sid with
      | none => (.notFound, s)
      | some session =>
          if session.banStatus then (.alreadyBanned, s)
          else (.parted session.partnerId, s.setRecord sid (session.banned reason x.now))
  | .atomicEmergencyDisconnect sid =>
      match s.records sid with
      | none => (.notFound, s)
      | some session => (.parted session.partnerId, s.setRecord sid (session.disconnected x.now))
  | .atomicDisconnectPartner partnerId expectedPeerId =>
      match s.records partnerId with
      | none => (.notFound, s)
      | some session =>
          if session.partnerId = some expectedPeerId then
            (.ok, s.setRecord partnerId (session.parted x.now))
          else (.partnerChanged, s)
  | .getSession sid => (s.records sid, s)
  | .updateSession sid updates =>
      match s.records sid with
      | none => (none, s)
      | some session =>
          let updated := (session.merge updates).touchLastActivity x.now
          (some updated, s.setRecord sid updated)
  | .queueMembership sid => ((s.records sid).map fun _ => s.queues sid, s)
  | .registryEntries => (s.registry, s)
  | .zrem queueKey sid =>
      ((), { s with
        queues := Function.update s.queues sid ((s.queues sid).filter (· ≠ queueKey)) })
  | .notify _ _ => ((), s)
  | .smembers ip => (s.ipSessions ip, s)
  | .getSessions sids => (sids.filter fun sid => (s.records sid).isSome, s)
  | .srem ip sids =>
      ((), { s with
        ipSessions := Function.update s.ipSessions ip ((s.ipSessions ip).filter (· ∉ sids)) })
  | .setIpBan ip reason => ((), { s with ipBan := Function.update s.ipBan ip (some ⟨reason, none⟩) })
  | .delIpBan ip => ((), { s with ipBan := Function.update s.ipBan ip none })
  | .refreshBannedWords => ((), s)

/-! ### The operations of the session manager -/

/-- An operation of the store failed. -/
inductive StoreError
  | store
  | notFound

abbrev AdminProg := Program AdminOp.Reply Unit

def admin (c : AdminOp) : AdminProg (Except Unit c.Reply) := Program.command c

/-- A handler has ended with a value, or raised. -/
inductive Outcome (α : Type)
  | ended (a : α)
  | raised

/-- What is done with the value of a handler, unless it raised. -/
def andThen {α β : Type} {C : Type} {V : C → Type} {E : Type} (p : Program V E (Outcome α))
    (f : α → Program V E (Outcome β)) : Program V E (Outcome β) := do
  match ← p with
  | .ended a => f a
  | .raised => return .raised

/-- A value in a log line. -/
def logged (value : Json) : AdminProg (Outcome Unit) :=
  if value.printable then .ret (.ended ()) else .ret .raised

/-- `leave_queue`. -/
def leaveQueue (sid : SessionId) : AdminProg (Except Unit Unit) := do
  match ← admin (.queueMembership sid) with
  | .ok (some []) => return .ok ()
  | .ok (some queueKeys) => Program.pipeline (queueKeys.map (.zrem · sid))
  | .ok none =>
      -- the route of the session is not known: all queues are searched
      match ← admin .registryEntries with
      | .ok queueKeys => Program.pipeline (queueKeys.map (.zrem · sid))
      | .error e => return .error e
  | .error e => return .error e

/-- `disconnect_known_partner`, whose errors are dropped. -/
def disconnectKnownPartner (partnerId originSessionId : SessionId) : AdminProg Unit := do
  let partner ← admin (.getSession partnerId)
  let partnerMatchGeneration := match partner with
    | .ok (some (partnerSession : Session)) => partnerSession.matchGeneration
    | _ => none
  match ← admin (.atomicDisconnectPartner partnerId originSessionId) with
  | .ok .ok =>
      let _ ← Program.command
        (.notify partnerId (.disconnect "partner disconnected" partnerMatchGeneration))
      return ()
  | _ => return ()

/-- What follows once a session has lost its partner to an administrator. -/
def cutOff (sid : SessionId) (message : AdminMessage) (oldPartnerId : Option SessionId) :
    AdminProg Unit := do
  let _ ← leaveQueue sid
  let _ ← admin (.notify sid message)
  match oldPartnerId with
  | some partnerId => disconnectKnownPartner partnerId sid
  | none => return ()

/-- `emergency_ban`; the arguments of the script are texts. -/
def emergencyBan (sid : SessionId) (reason : Json) :
    AdminProg (Outcome (Except StoreError SessionId)) :=
  match reason.toText with
  | none => .ret .raised
  | some text => do
      match ← admin (.atomicEmergencyBan sid text) with
      | .ok .notFound => return .ended (.error .notFound)
      | .ok .alreadyBanned => return .ended (.ok sid)
      | .ok (.parted oldPartnerId) =>
          cutOff sid (.banned reason) oldPartnerId
          return .ended (.ok sid)
      | .error _ => return .ended (.error .store)

def emergencyDisconnect (sid : SessionId) : AdminProg (Except StoreError SessionId) := do
  match ← admin (.atomicEmergencyDisconnect sid) with
  | .ok (.parted oldPartnerId) =>
      cutOff sid (.disconnect "disconnected by administrator" none) oldPartnerId
      return .ok sid
  | .ok _ => return .error .notFound
  | .error _ => return .error .store

/-- The sessions that an index lists and that are not found. -/
def staleSessionIds (sids found : List SessionId) : List SessionId := sids.filter (· ∉ found)

def pruneStaleSessionIds (ip : String) : List SessionId → AdminProg Unit
  | [] => .ret ()
  | sid :: sids => do
      let _ ← admin (.srem ip (sid :: sids))
      return ()

/-- `get_sessions_by_ip`: the sessions of an address that are found; the others are pruned. -/
def getSessionsByIp (ip : String) : AdminProg (Except StoreError (List SessionId)) := do
  match ← admin (.smembers ip) with
  | .ok sids =>
      match ← admin (.getSessions sids) with
      | .ok found =>
          pruneStaleSessionIds ip (staleSessionIds sids found)
          return .ok found
      | .error _ => return .error .store
  | .error _ => return .error .store

/-- The bans of the sessions of an address, one after another. -/
def emergencyBanAll (reason : Json) : List SessionId → AdminProg (Outcome (List SessionId))
  | [] => .ret (.ended [])
  | sid :: sids =>
      andThen (emergencyBan sid reason) fun banned =>
        andThen (emergencyBanAll reason sids) fun bannedSessions =>
          .ret (.ended (match banned with
            | .ok sid => sid :: bannedSessions
            | .error _ => bannedSessions))

def emergencyBanIp (ip : String) (reason : Json) :
    AdminProg (Outcome (Except StoreError (List SessionId))) := do
  match ← getSessionsByIp ip with
  | .ok sids =>
      andThen (emergencyBanAll reason sids) fun bannedSessions =>
        match reason.toText with
        | none => .ret .raised
        | some text => do
            match ← admin (.setIpBan ip text) with
            | .ok _ => return .ended (.ok bannedSessions)
            | .error _ => return .ended (.error .store)
  | .error e => return .ended (.error e)

/-- The updates of a record by which a session is unbanned. -/
def unbanUpdates : Updates := { banStatus := some false, banReason := some none }

def emergencyUnban (sid : SessionId) : AdminProg (Except StoreError Session) := do
  match ← admin (.updateSession sid unbanUpdates) with
  | .ok (some session) => return .ok session
  | .ok none => return .error .notFound
  | .error _ => return .error .store

def emergencyUnbanAll : List SessionId → AdminProg Unit
  | [] => .ret ()
  | sid :: sids => do
      let _ ← emergencyUnban sid
      emergencyUnbanAll sids

/-- `emergency_unban_ip`; whether the key is deleted makes no difference to the answer. -/
def emergencyUnbanIp (ip : String) : AdminProg (Except StoreError Unit) := do
  match ← getSessionsByIp ip with
  | .ok sids =>
      emergencyUnbanAll sids
      let _ ← admin (.delIpBan ip)
      return .ok ()
  | .error e => return .error e

/-! ### Actions, entries and batches -/

/-- A handler whose log lines convert nothing that may raise. -/
def ending {α : Type} (p : AdminProg α) : AdminProg (Outcome Unit) := do
  let _ ← p
  return .ended ()

/-- `handle_admin_action`; a target that is missing or invalid is only logged. -/
def handleAdminAction (reader : Reader) (action : Json) (data : List (String × Json)) :
    AdminProg (Outcome Unit) :=
  match action with
  | .string "emergency_ban" =>
      match sessionTarget data with
      | some sid => andThen (emergencyBan sid (reasonOf data)) fun _ => logged (reasonOf data)
      | none => .ret (.ended ())
  | .string "emergency_ban_ip" =>
      match ipTarget reader data with
      | some ip =>
          andThen (emergencyBanIp ip (reasonOf data)) fun answer =>
            match answer with
            | .ok _ => logged (reasonOf data)
            | .error _ => .ret (.ended ())
      | none => .ret (.ended ())
  | .string "emergency_disconnect" =>
      match sessionTarget data with
      | some sid => ending (emergencyDisconnect sid)
      | none => .ret (.ended ())
  | .string "emergency_unban" =>
      match sessionTarget data with
      | some sid => ending (emergencyUnban sid)
      | none => .ret (.ended ())
  | .string "emergency_unban_ip" =>
      match ipTarget reader data with
      | some ip => ending (emergencyUnbanIp ip)
      | none => .ret (.ended ())
  | .string "server_shutdown" => .ret (.ended ())
  | .string "refresh_banned_words" => ending (admin .refreshBannedWords)
  | .string "bot_config_refresh" => .ret (.ended ())
  | action => logged action

/-- `handle_stream_entry`; an entry without fields has no clause. -/
def handleStreamEntry (reader : Reader) (entry : StreamEntry) : AdminProg (Outcome Unit) :=
  match entry.fields with
  | none => .ret .raised
  | some fields =>
      match payload reader fields with
      | some (action, data) => handleAdminAction reader action data
      | none => .ret (.ended ())

def handleStreamEntries (reader : Reader) : List StreamEntry → AdminProg (Outcome Unit)
  | [] => .ret (.ended ())
  | entry :: entries =>
      andThen (handleStreamEntry reader entry) fun _ => handleStreamEntries reader entries

/-- `ack_entries`. -/
def ackStreamEntries : List StreamEntry → AdminProg (Except StoreError Unit)
  | [] => .ret (.ok ())
  | entry :: entries => do
      match ← admin (.xack ((entry :: entries).map StreamEntry.id)) with
      | .ok _ => return .ok ()
      | .error _ => return .error .store

/-- **A batch**: all entries are handled, then all are acknowledged. -/
def processEntries (reader : Reader) (entries : List StreamEntry) :
    AdminProg (Outcome (Except StoreError Unit)) :=
  andThen (handleStreamEntries reader entries) fun _ => do
    return .ended (← ackStreamEntries entries)

/-- `consume_pending_entries`. -/
def consumePendingEntries (reader : Reader) : AdminProg (Outcome (Except StoreError Unit)) := do
  match ← admin (.readGroup "0") with
  | .ok entries => processEntries reader entries
  | .error _ => return .ended (.error .store)

/-- `consume_stream_entries`; whether new entries are acknowledged makes no difference. -/
def consumeStreamEntries (reader : Reader) : AdminProg (Outcome (Except StoreError Unit)) :=
  andThen (consumePendingEntries reader) fun pending =>
    match pending with
    | .error e => .ret (.ended (.error e))
    | .ok _ => do
        match ← admin (.readGroup ">") with
        | .ok entries => andThen (processEntries reader entries) fun _ => .ret (.ended (.ok ()))
        | .error _ => return .ended (.error .store)

end Admin
