/-
**The control plane of the TURN relay.**

A relay asks about sessions and counts their allocations either at the store itself, or at a server
that does the same for it: a request becomes a message, the server runs the function that the relay
would have run, and its result becomes a message again, which the relay translates back.

Both ways are programs over the commands of the store.  A text travels as it is, as one of valid
UTF-8 does; what the pending releases are encoded with is left open, and so is how session addresses
are grouped for a cluster.

Main definitions:

* `Turn.Control.Cmd`, `Turn.Control.Store.exec` — the commands of the store;
* `Turn.Control.validateTURNUsername`, … — the functions that work on the store;
* `Turn.Control.direct` — a request at the store itself;
* `Turn.Control.remote` — **a request by way of the server**.
-/

import Pairline.Numerals
import Pairline.Program
import Pairline.Sessions.Routes
import Pairline.Turn.Counter
import Pairline.Turn.Releases

set_option relaxedAutoImplicit false
set_option autoImplicit false

namespace Turn.Control

open Whitespace (trim)
open Numerals (cut)
open Sessions.Appredis (SessionRoute)

/-! ### Errors -/

/-- The errors that have a name. -/
inductive Sentinel
  | invalidSessionIdentity
  | sessionNotFound
  | sessionInactive
  | sessionUnmatched
  | sessionBanned
  | validationBackend
  deriving DecidableEq

inductive GoError
  /-- A named error, perhaps wrapped in a text. -/
  | sentinel (cause : Sentinel)
  /-- A `*ValidationError`. -/
  | validation (cause : Sentinel) (sessionIP : String)
  /-- The error of a handler, as it arrives: a status with a text. -/
  | status (message : String)
  | unknownReason (reason : String)
  | route
  deriving DecidableEq

/-- The named error that `errors.Is` finds. -/
def GoError.class : GoError → Option Sentinel
  | .sentinel cause | .validation cause _ => some cause
  | _ => none

/-- `ValidationErrorSessionIP`. -/
def GoError.sessionIP : GoError → String
  | .validation _ sessionIP => sessionIP
  | _ => ""

def Sentinel.text : Sentinel → String
  | .invalidSessionIdentity => "invalid session identity"
  | .sessionNotFound => "session not found"
  | .sessionInactive => "session inactive"
  | .sessionUnmatched => "session not matched"
  | .sessionBanned => "session banned"
  | .validationBackend => "session validation backend failure"

def GoError.text : GoError → String
  | .sentinel cause | .validation cause _ => cause.text
  | .status message => message
  | .unknownReason reason => "turn control validation failed: " ++ reason
  | .route => "decode turn control route"

/-- `ValidationErrorReason`. -/
def validationErrorReason (err : GoError) : String :=
  match err.class with
  | some .invalidSessionIdentity => "invalid_session_identity"
  | some .sessionNotFound => "session_not_found"
  | some .sessionInactive => "session_inactive"
  | some .sessionUnmatched => "session_unmatched"
  | some .sessionBanned => "session_banned"
  | some .validationBackend => "internal_error"
  | none => "internal_error"

/-- `validationErrorFromReason`. -/
def validationErrorFromReason (reason : String) : GoError :=
  if reason = "invalid_session_identity" then .sentinel .invalidSessionIdentity
  else if reason = "session_not_found" then .sentinel .sessionNotFound
  else if reason = "session_inactive" then .sentinel .sessionInactive
  else if reason = "session_unmatched" then .sentinel .sessionUnmatched
  else if reason = "session_banned" then .sentinel .sessionBanned
  else if reason = "internal_error" then .sentinel .validationBackend
  else .unknownReason reason

/-- `validationErrorWithSessionIP` of an error that is not a `*ValidationError` yet. -/
def validationErrorWithSessionIP (err : GoError) (sessionIP : String) : GoError :=
  if trim sessionIP = "" then err
  else
    match err.class with
    | some cause => .validation cause (trim sessionIP)
    | none => err

/-! ### The store -/

structure SessionSnapshot where
  expectedToken : String
  sessionExists : Bool
  sessionIP : String
  matchedID : String

structure PeerSnapshot where
  peerExists : Bool
  peerMatchedID : String

inductive Cmd
  | get (key : String)
  | exists (key : String)
  | sessionValidationSnapshot (tokenKey dataKey ipKey matchKey : String)
  | peerValidationSnapshot (dataKey matchKey : String)
  | reserveAllocationSlot (key : String) (limit : ℤ)
  | releaseAllocationSlot (key operationID : String)
  | hset (key field : String)
  | hdel (key field : String)
  | hgetall (key : String)
  | checkBannedSessionIPsBatch (sessionIPs : List String)

def Cmd.Reply : Cmd → Type
  | .get _ => Option String
  | .exists _ => Bool
  | .sessionValidationSnapshot _ _ _ _ => SessionSnapshot
  | .peerValidationSnapshot _ _ => PeerSnapshot
  | .reserveAllocationSlot _ _ | .releaseAllocationSlot _ _ => Except ScriptError ℤ
  | .hset _ _ | .hdel _ _ => Unit
  | .hgetall _ | .checkBannedSessionIPsBatch _ => List String

inductive StoreError
  | failed

abbrev Prog (α : Type) := Program Cmd.Reply StoreError α

/-- The clock of the store, its strings, its counters and the fields of its other hashes. -/
structure Store where
  now : ℕ
  strings : String → Option String
  counters : CounterKeys
  hashes : String → List String

def banSessionKey (sessionID : String) : String := "ban:" ++ sessionID

def banIPKey (ipAddress : String) : String := "ban:ip:" ++ ipAddress

def Store.setFields (s : Store) (key : String) (fields : List String) : Store :=
  { s with hashes := Function.update s.hashes key fields }

/-- The effect of a command. -/
def Store.exec (c : Cmd) (s : Store) : c.Reply × Store :=
  match c with
  | .get key => (s.strings key, s)
  | .exists key => ((s.strings key).isSome, s)
  | .sessionValidationSnapshot tokenKey dataKey ipKey matchKey =>
      (⟨(s.strings tokenKey).getD "", (s.strings dataKey).isSome, (s.strings ipKey).getD "",
        (s.strings matchKey).getD ""⟩, s)
  | .peerValidationSnapshot dataKey matchKey =>
      (⟨(s.strings dataKey).isSome, (s.strings matchKey).getD ""⟩, s)
  | .reserveAllocationSlot key limit =>
      let (result, value) :=
        reserveAllocationSlotScript s.now limit turnAllocationCounterTTL (s.counters key)
      (result, { s with counters := Function.update s.counters key value })
  | .releaseAllocationSlot key operationID =>
      let (result, value) :=
        releaseAllocationSlotScript s.now operationID turnAllocationCounterTTL (s.counters key)
      (result, { s with counters := Function.update s.counters key value })
  | .hset key field =>
      ((), s.setFields key
        (if field ∈ s.hashes key then s.hashes key else field :: s.hashes key))
  | .hdel key field => ((), s.setFields key ((s.hashes key).filter (· ≠ field)))
  | .hgetall key => (s.hashes key, s)
  | .checkBannedSessionIPsBatch sessionIPs =>
      (sessionIPs.filter fun ip => (s.strings (banIPKey ip)).isSome, s)

/-! ### Validation -/

structure ValidationResult where
  sessionID : String
  route : SessionRoute
  matchedID : String
  sessionIP : String
  deriving DecidableEq

def fail {α : Type} (cause : Sentinel) : Prog (Except GoError α) := .ret (.error (.sentinel cause))

inductive RouteLookup
  | found (route : SessionRoute)
  | notFound
  | failed

/-- `ResolveSessionRoute`. -/
def resolveSessionRoute (sessionID : String) : Prog RouteLookup :=
  .call (.get (Sessions.Appredis.sessionLocatorKey sessionID)) fun
    | .error _ => .ret .failed
    | .ok none => .ret .notFound
    | .ok (some locator) =>
        match Sessions.Appredis.decodeSessionRoute locator with
        | .ok route => .ret (.found route)
        | .error _ => .ret .failed

/-- What the peer's record says. -/
def validatePeer (sessionID matchedID : String) (peerRoute : SessionRoute)
    (result : ValidationResult) : Prog (Except GoError ValidationResult) :=
  .call (.peerValidationSnapshot (Sessions.Appredis.sessionDataKey matchedID peerRoute)
      (Sessions.Appredis.matchKey matchedID peerRoute)) fun
    | .error _ => fail .validationBackend
    | .ok peer =>
        if peer.peerExists = false then fail .sessionUnmatched
        else if trim peer.peerMatchedID ≠ sessionID then fail .sessionUnmatched
        else .ret (.ok result)

/-- The address of a session is looked up only if there is one. -/
def lookupBannedIP (sessionIP : String) : Prog (Except StoreError Bool) :=
  if sessionIP = "" then .ret (.ok false) else Program.command (Cmd.exists (banIPKey sessionIP))

/-- The two tasks that run side by side, and what is made of their results. -/
def validatePeerRoute (sessionID : String) (result : ValidationResult) :
    Prog (Except GoError ValidationResult) :=
  (resolveSessionRoute result.matchedID).bind fun peerRoute =>
    (lookupBannedIP result.sessionIP).bind fun ipBanned =>
      match ipBanned, peerRoute with
      | .ok true, _ =>
          .ret (.error (validationErrorWithSessionIP (.sentinel .sessionBanned) result.sessionIP))
      | _, .notFound => fail .sessionUnmatched
      | .ok false, .found peerRoute => validatePeer sessionID result.matchedID peerRoute result
      | _, _ => fail .validationBackend

/-- `validateMatchedRouteSession`, once the two commands that run side by side have replied. -/
def validateSnapshot (route : SessionRoute) (sessionID tokenDigest : String) :
    Except StoreError SessionSnapshot → Except StoreError Bool →
      Prog (Except GoError ValidationResult)
  | .ok snapshot, .ok sessionBanned =>
      if snapshot.expectedToken = "" then fail .sessionInactive
      else if snapshot.expectedToken ≠ tokenDigest then fail .invalidSessionIdentity
      else if snapshot.sessionExists = false then fail .sessionInactive
      else if sessionBanned then
        .ret (.error (validationErrorWithSessionIP (.sentinel .sessionBanned)
          (trim snapshot.sessionIP)))
      else if trim snapshot.matchedID = "" then fail .sessionUnmatched
      else
        validatePeerRoute sessionID
          ⟨sessionID, route, snapshot.matchedID, trim snapshot.sessionIP⟩
  | _, _ => fail .validationBackend

def validateMatchedRouteSession (route : SessionRoute) (sessionID tokenDigest : String) :
    Prog (Except GoError ValidationResult) :=
  .call (.sessionValidationSnapshot (Sessions.Appredis.sessionTokenKey sessionID route)
      (Sessions.Appredis.sessionDataKey sessionID route)
      (Sessions.Appredis.sessionIPKey sessionID route)
      (Sessions.Appredis.matchKey sessionID route)) fun snapshot =>
    .call (.exists (banSessionKey sessionID)) fun sessionBanned =>
      validateSnapshot route sessionID tokenDigest snapshot sessionBanned

/-- What is made of the route of a session. -/
def afterRoute (sessionID tokenDigest : String) : RouteLookup → Prog (Except GoError ValidationResult)
  | .found route => validateMatchedRouteSession route sessionID tokenDigest
  | .notFound => fail .sessionNotFound
  | .failed => fail .validationBackend

def validateTURNUsername (username : String) : Prog (Except GoError ValidationResult) :=
  match parseUsername username with
  | none => fail .invalidSessionIdentity
  | some (sessionID, tokenDigest) =>
      (resolveSessionRoute sessionID).bind (afterRoute sessionID tokenDigest)

/-! ### Counters -/

def afterReserve : Except StoreError (Except ScriptError ℤ) → Prog (Except GoError Bool)
  | .ok (.ok result) => .ret (.ok (result = 1))
  | _ => fail .validationBackend

/-- `ReserveAllocationSlot`. -/
def reserveAllocationSlot (username : String) (limit : ℤ) : Prog (Except GoError Bool) :=
  if limit ≤ 0 then .ret (.ok true)
  else
    match parseUsername username with
    | none => fail .invalidSessionIdentity
    | some (sessionID, _) =>
        .call (.reserveAllocationSlot (turnAllocationKey sessionID) limit) afterReserve

def afterRelease : Except StoreError (Except ScriptError ℤ) → Prog (Except GoError Unit)
  | .ok (.ok _) => .ret (.ok ())
  | _ => fail .validationBackend

/-- `ReleaseAllocationSlot`. -/
def releaseAllocationSlot (username operationID : String) : Prog (Except GoError Unit) :=
  match parseUsername username with
  | none => fail .invalidSessionIdentity
  | some (sessionID, _) =>
      if trim operationID = "" then fail .invalidSessionIdentity
      else .call (.releaseAllocationSlot (turnAllocationKey sessionID) (trim operationID)) afterRelease

/-! ### Pending releases -/

/-- What the code takes from outside: `base64.RawURLEncoding`, and the groups of addresses that are
looked up together, one for each slot of a cluster. -/
structure Runtime where
  encode : String → String
  decode : String → Option String
  batches : List String → List (List String)

variable (rt : Runtime)

def turnPendingReleaseIndexKey : String := "turn:pending_releases"

def pendingReleaseField (username operationID : String) : Except Sentinel String :=
  if trim username = "" ∨ trim operationID = "" then .error .invalidSessionIdentity
  else if (parseUsername (trim username)).isNone then .error .invalidSessionIdentity
  else .ok (rt.encode (trim username) ++ ":" ++ rt.encode (trim operationID))

def pendingReleaseUserKey (username : String) : Except Sentinel String :=
  if trim username = "" then .error .invalidSessionIdentity
  else if (parseUsername (trim username)).isNone then .error .invalidSessionIdentity
  else .ok (turnPendingReleaseIndexKey ++ ":" ++ rt.encode (trim username))

def pendingReleaseOperationField (operationID : String) : Except Sentinel String :=
  if trim operationID = "" then .error .invalidSessionIdentity
  else .ok (rt.encode (trim operationID))

/-- Two commands, one after the other. -/
def both (first second : Cmd) : Prog (Except GoError Unit) :=
  .call first fun
    | .error _ => fail .validationBackend
    | .ok _ => .call second fun
        | .error _ => fail .validationBackend
        | .ok _ => .ret (.ok ())

/-- The two fields of a pending release, in the hash of all and in that of its user. -/
def onPendingRelease (username operationID : String) (c : String → String → Cmd) :
    Prog (Except GoError Unit) :=
  match pendingReleaseField rt username operationID, pendingReleaseUserKey rt username,
      pendingReleaseOperationField rt operationID with
  | .ok field, .ok userKey, .ok operationField =>
      both (c turnPendingReleaseIndexKey field) (c userKey operationField)
  | .error cause, _, _ | _, .error cause, _ | _, _, .error cause => fail cause

def queuePendingRelease (username operationID : String) : Prog (Except GoError Unit) :=
  onPendingRelease rt username operationID .hset

def completePendingRelease (username operationID : String) : Prog (Except GoError Unit) :=
  onPendingRelease rt username operationID .hdel

def decodePendingReleaseOperationField (field : String) : Except Sentinel String :=
  match rt.decode field with
  | none => .error .validationBackend
  | some operationID =>
      match pendingReleaseOperationField rt (trim operationID) with
      | .error _ => .error .validationBackend
      | .ok _ => .ok (trim operationID)

def decodePendingReleaseField (field : String) : Except Sentinel PendingRelease :=
  match cut ':' field.toList with
  | none => .error .validationBackend
  | some (usernamePart, operationPart) =>
      match rt.decode (String.ofList usernamePart), rt.decode (String.ofList operationPart) with
      | some username, some operationID =>
          match pendingReleaseField rt (trim username) (trim operationID) with
          | .error _ => .error .validationBackend
          | .ok _ => .ok ⟨trim username, trim operationID⟩
      | _, _ => .error .validationBackend

/-- The order in which pending releases are returned. -/
def PendingRelease.before (r r' : PendingRelease) : Bool :=
  if r.username = r'.username then decide (r.operationID ≤ r'.operationID)
  else decide (r.username ≤ r'.username)

def pendingReleasesFromUserFields (username : String) (fields : List String) :
    Except Sentinel (List PendingRelease) :=
  (fields.mapM (decodePendingReleaseOperationField rt)).map fun operationIDs =>
    (operationIDs.map fun operationID => ⟨username, operationID⟩).mergeSort PendingRelease.before

def pendingReleasesFromGlobalFields (fields : List String) :
    Except Sentinel (List PendingRelease) :=
  (fields.mapM (decodePendingReleaseField rt)).map (·.mergeSort PendingRelease.before)

/-- What is made of the fields of a hash. -/
def afterHGetAll (decode : List String → Except Sentinel (List PendingRelease)) :
    Except StoreError (List String) → Prog (Except GoError (List PendingRelease))
  | .error _ => fail .validationBackend
  | .ok fields =>
      match decode fields with
      | .error cause => fail cause
      | .ok releases => .ret (.ok releases)

def pendingReleases (username : String) : Prog (Except GoError (List PendingRelease)) :=
  if trim username ≠ "" then
    match pendingReleaseUserKey rt (trim username) with
    | .error cause => fail cause
    | .ok userKey =>
        .call (.hgetall userKey)
          (afterHGetAll (pendingReleasesFromUserFields rt (trim username)))
  else
    .call (.hgetall turnPendingReleaseIndexKey) (afterHGetAll (pendingReleasesFromGlobalFields rt))

/-! ### Banned addresses -/

/-- What one batch adds to those that come after it; the first failure wins. -/
def joinBatches : Except StoreError (List String) → Except StoreError (List String) →
    Except StoreError (List String)
  | .ok values, .ok banned => .ok ((values.map trim).filter (· ≠ "") ++ banned)
  | .error e, _ | _, .error e => .error e

/-- `runBannedSessionIPBatch` of every group; they are all run. -/
def runBatches : List (List String) → Prog (Except StoreError (List String))
  | [] => .ret (.ok [])
  | group :: groups =>
      if group = [] then runBatches groups
      else
        .call (.checkBannedSessionIPsBatch group) fun reply =>
          (runBatches groups).bind fun banned => .ret (joinBatches reply banned)

def afterBatches (normalized : List String) :
    Except StoreError (List String) → Except GoError (List String)
  | .error _ => .error (.sentinel .validationBackend)
  | .ok banned => .ok (normalized.filter (· ∈ banned))

def checkBannedSessionIPs (sessionIPs : List String) : Prog (Except GoError (List String)) :=
  if normalizeSessionIPs sessionIPs = [] then .ret (.ok [])
  else
    (runBatches (rt.batches (normalizeSessionIPs sessionIPs))).bind fun banned =>
      .ret (afterBatches (normalizeSessionIPs sessionIPs) banned)

/-! ### Requests -/

inductive Request
  | validateTURNUsername (username : String)
  | checkBannedSessionIPs (sessionIPs : List String)
  | reserveTURNAllocation (username : String) (limit : ℤ)
  | releaseTURNAllocation (username operationID : String)
  | queuePendingTURNRelease (username operationID : String)
  | pendingTURNReleases (username : String)
  | completePendingTURNRelease (username operationID : String)

def Request.Result : Request → Type
  | .validateTURNUsername _ => ValidationResult
  | .checkBannedSessionIPs _ => List String
  | .reserveTURNAllocation _ _ => Bool
  | .pendingTURNReleases _ => List PendingRelease
  | _ => Unit

/-- **A request at the store itself.** -/
def direct : (req : Request) → Prog (Except GoError req.Result)
  | .validateTURNUsername username => validateTURNUsername username
  | .checkBannedSessionIPs sessionIPs => checkBannedSessionIPs rt sessionIPs
  | .reserveTURNAllocation username limit => reserveAllocationSlot username limit
  | .releaseTURNAllocation username operationID => releaseAllocationSlot username operationID
  | .queuePendingTURNRelease username operationID => queuePendingRelease rt username operationID
  | .pendingTURNReleases username => pendingReleases rt username
  | .completePendingTURNRelease username operationID =>
      completePendingRelease rt username operationID

/-! ### The server -/

structure ValidationResponse where
  allowed : Bool
  reason : String := ""
  sessionID : String := ""
  route : String := ""
  matchedID : String := ""
  sessionIP : String := ""

def validationSuccessResponse (result : ValidationResult) : ValidationResponse where
  allowed := true
  sessionID := result.sessionID
  route := Sessions.Appredis.encodeSessionRoute result.route
  matchedID := result.matchedID
  sessionIP := result.sessionIP

def validationErrorResponse (err : GoError) : ValidationResponse where
  allowed := false
  reason := validationErrorReason err
  sessionIP := err.sessionIP

/-- The answer to a request that is done or refused. -/
structure DoneResponse where
  done : Bool
  reason : String := ""

def doneResponse : Except GoError Unit → DoneResponse
  | .ok _ => { done := true }
  | .error err => { done := false, reason := validationErrorReason err }

/-- `ReserveAllocationResponse`. -/
def reserveResponse : Except GoError Bool → DoneResponse
  | .ok allowed => { done := allowed }
  | .error err => { done := false, reason := validationErrorReason err }

def validationResponse : Except GoError ValidationResult → ValidationResponse
  | .ok result => validationSuccessResponse result
  | .error err => validationErrorResponse err

/-- The error of a handler reaches its caller as a status. -/
def asStatus {α : Type} : Except GoError α → Except GoError α
  | .ok a => .ok a
  | .error err => .error (.status err.text)

/-! ### The client -/

/-- The conversion to an integer of 32 bits. -/
def int32 (n : ℤ) : ℤ := Int.bmod n (2 ^ 32)

def fromValidationResponse (resp : ValidationResponse) : Except GoError ValidationResult :=
  if resp.allowed = false then
    .error (validationErrorWithSessionIP (validationErrorFromReason resp.reason) resp.sessionIP)
  else
    match Sessions.Appredis.decodeSessionRoute resp.route with
    | .error _ => .error .route
    | .ok route => .ok ⟨resp.sessionID, route, resp.matchedID, resp.sessionIP⟩

def fromReserveResponse (resp : DoneResponse) : Except GoError Bool :=
  if resp.done = false then
    if resp.reason = "" then .ok false else .error (validationErrorFromReason resp.reason)
  else .ok true

def fromDoneResponse (resp : DoneResponse) : Except GoError Unit :=
  if resp.done = false ∧ resp.reason ≠ "" then .error (validationErrorFromReason resp.reason)
  else .ok ()

/-- **A request by way of the server**: the server runs the function, and its result is translated
into a message and back. -/
def remote : (req : Request) → Prog (Except GoError req.Result)
  | .validateTURNUsername username =>
      (validateTURNUsername username).bind fun r =>
        .ret (fromValidationResponse (validationResponse r))
  | .checkBannedSessionIPs sessionIPs =>
      (checkBannedSessionIPs rt sessionIPs).bind fun r => .ret (asStatus r)
  | .reserveTURNAllocation username limit =>
      (reserveAllocationSlot username (int32 limit)).bind fun r =>
        .ret (fromReserveResponse (reserveResponse r))
  | .releaseTURNAllocation username operationID =>
      (releaseAllocationSlot username operationID).bind fun r =>
        .ret (fromDoneResponse (doneResponse r))
  | .queuePendingTURNRelease username operationID =>
      (queuePendingRelease rt username operationID).bind fun r =>
        .ret (fromDoneResponse (doneResponse r))
  | .pendingTURNReleases username =>
      (pendingReleases rt username).bind fun r => .ret (asStatus r)
  | .completePendingTURNRelease username operationID =>
      (completePendingRelease rt username operationID).bind fun r =>
        .ret (fromDoneResponse (doneResponse r))

end Turn.Control
