/-
**Bans, and where they are kept.**

A ban is a row of the database; it names a session, an address or both, and may expire.  For each of
the two there is a key in Redis as long as it is banned, with a set of all such keys beside.  The
queries and the commands here are those of which the calls are made that create and delete bans.

Session ids are UUIDs, so the keys of sessions and of addresses differ.  Time is counted in
milliseconds.

Main definitions:

* `Bans.Ban`, `Bans.Target` — rows, and the sessions and addresses that they ban;
* `Bans.Addresses.sanitizeIPAddress`, `Bans.Addresses.request` — what a request is about;
* `Bans.activeBanLookup`, `Bans.findBan`, `Bans.latestActiveBan` — the queries;
* `Bans.Redis`, `Bans.propagateBan`, `Bans.propagateUnban` — the keys, and the commands that are sent
  after a change.

Main results:

* `Bans.key_injective` — different targets have different keys;
* `Bans.mem_activeBanLookup` — the bans that match a request.
-/

import Mathlib.Data.List.Sort
import Mathlib.Data.String.Basic
import Pairline.Whitespace

set_option relaxedAutoImplicit false
set_option autoImplicit false

namespace Bans

open Whitespace (trim)

/-! ### Rows -/

abbrev Time := ℤ

structure Ban where
  id : String
  sessionId : String
  ipAddress : String
  reason : String
  createdAt : Time
  expiresAt : Option Time
  isActive : Bool
  deriving DecidableEq

/-- Whom a ban is for. -/
inductive Target
  | session (sessionId : String)
  | ip (ipAddress : String)
  deriving DecidableEq

/-- `BanSessionKey`, `BanIPKey`; also the names of the advisory locks. -/
def Target.key : Target → String
  | .session sessionId => "ban:" ++ sessionId
  | .ip ipAddress => "ban:ip:" ++ ipAddress

/-- The targets that are given; an empty text names none. -/
def targets (sessionId ipAddress : String) : List Target :=
  (if sessionId = "" then [] else [.session sessionId]) ++
    (if ipAddress = "" then [] else [.ip ipAddress])

def Ban.targets (ban : Ban) : List Target := Bans.targets ban.sessionId ban.ipAddress

/-- `session_id = ?`, or `ip_address = ?`. -/
def Ban.covers (ban : Ban) : Target → Bool
  | .session sessionId => ban.sessionId = sessionId
  | .ip ipAddress => ban.ipAddress = ipAddress

/-- `expires_at IS NULL OR expires_at > ?`. -/
def Ban.unexpired (ban : Ban) (now : Time) : Bool :=
  match ban.expiresAt with
  | none => true
  | some expiresAt => now < expiresAt

/-- An active ban, at a time. -/
def Ban.activeAt (ban : Ban) (now : Time) : Bool := ban.isActive && ban.unexpired now

/-! ### Requests -/

/-- The parser of addresses, which gives them in their normal form, and the addresses that are
private or local. -/
structure Addresses where
  parse : String → Option String
  privateOrLocal : String → Bool

structure CreateBanParams where
  sessionId : String
  ipAddress : String
  reason : String
  expiresAt : Option Time

inductive BanError
  | missingBanTarget
  | privateIPAddress
  deriving DecidableEq

/-- A request with a target. -/
structure Request where
  sessionId : String
  ipAddress : String
  reason : String
  expiresAt : Option Time
  named : ¬ (sessionId = "" ∧ ipAddress = "")

theorem Request.named_a : ¬ ("a" = "" ∧ "" = "") := by decide

def Request.targets (request : Request) : List Target :=
  Bans.targets request.sessionId request.ipAddress

namespace Addresses

variable (addresses : Addresses)

def normalizeIP (raw : String) : String :=
  if raw = "" then "" else (addresses.parse (trim raw)).getD ""

def sanitizeIPAddress (raw : String) : String × Bool :=
  let ipAddress := addresses.normalizeIP raw
  if ipAddress = "" then ("", true)
  else if addresses.privateOrLocal ipAddress then ("", false)
  else (ipAddress, true)

/-- The first lines of `CreateOrRefreshBan`. -/
def request (params : CreateBanParams) : Except BanError Request :=
  let sessionId := trim params.sessionId
  let (ipAddress, ipAllowed) := addresses.sanitizeIPAddress params.ipAddress
  if h : sessionId = "" ∧ ipAddress = "" then
    if trim params.ipAddress ≠ "" ∧ !ipAllowed then .error .privateIPAddress
    else .error .missingBanTarget
  else .ok
    { sessionId := sessionId
      ipAddress := ipAddress
      reason := trim params.reason
      expiresAt := params.expiresAt
      named := h }

end Addresses

/-- The row that is created for a request. -/
def newBan (request : Request) (id : String) (now : Time) : Ban where
  id := id
  sessionId := request.sessionId
  ipAddress := request.ipAddress
  reason := request.reason
  createdAt := now
  expiresAt := request.expiresAt
  isActive := true

/-! ### Queries -/

/-- `ORDER BY created_at DESC`, and the primary key after it. -/
def Ban.newer (ban ban' : Ban) : Bool :=
  ban'.createdAt < ban.createdAt || (ban.createdAt = ban'.createdAt && ban.id < ban'.id)

/-- The first of some rows in that order. -/
def newest : List Ban → Option Ban
  | [] => none
  | ban :: rows =>
      match newest rows with
      | none => some ban
      | some ban' => some (if ban'.newer ban then ban' else ban)

/-- `activeBanLookup`: the active bans that match a request by its session or by its address. -/
def activeBanLookup (rows : List Ban) (request : Request) (now : Time) : List Ban :=
  rows.filter fun ban => ban.activeAt now &&
    if request.sessionId ≠ "" ∧ request.ipAddress ≠ "" then
      ban.sessionId = request.sessionId || ban.ipAddress = request.ipAddress
    else if request.sessionId ≠ "" then ban.sessionId = request.sessionId
    else ban.ipAddress = request.ipAddress

/-- The ban that `DeleteBan` is about: by its id, else the newest of a session. -/
def findBan (rows : List Ban) (banIdentifier : String) : Option Ban :=
  match rows.find? fun ban => ban.id = trim banIdentifier && ban.isActive with
  | some ban => some ban
  | none => newest (rows.filter fun ban => ban.sessionId = trim banIdentifier && ban.isActive)

/-- `latestActiveBan`. -/
def latestActiveBan (rows : List Ban) (target : Target) (now : Time) : Option Ban :=
  newest (rows.filter fun ban => ban.covers target && ban.activeAt now)

/-- The update of `DeleteBan`. -/
def deactivate (rows : List Ban) (id : String) : List Ban :=
  rows.map fun ban => if ban.id = id ∧ ban.isActive then { ban with isActive := false } else ban

/-- The advisory locks of a session and an address, in order. -/
def lockBanTargets (sessionId ipAddress : String) : List String :=
  ((targets sessionId ipAddress).map Target.key).insertionSort (· ≤ ·)

/-! ### Keys -/

structure KeyValue where
  reason : String
  expiresAt : Option Time
  deriving DecidableEq

/-- What is sent to the consumers of the admin stream. -/
inductive AdminAction
  | ban (sessionId ipAddress reason : String)
  | banIP (ipAddress reason : String)
  | unban (sessionId ipAddress : String)
  | unbanIP (ipAddress : String)
  deriving DecidableEq

/-- The ban keys, their index and the admin stream. -/
structure Redis where
  key : Target → Option KeyValue
  index : Target → Bool
  stream : List AdminAction

/-- The commands that propagate a change; the time to live of a key is computed before it is set to
the reason of a ban. -/
inductive Instr
  | redisBanTTL (ban : Ban)
  | set (target : Target) (ban : Ban)
  | sadd (target : Target)
  | del (target : Target)
  | srem (target : Target)
  | publish (action : AdminAction)

/-- `SetIndexedValue`. -/
def setIndexedValue (target : Target) (ban : Ban) : List Instr := [.set target ban, .sadd target]

/-- `DeleteIndexedKey`. -/
def deleteIndexedKey (target : Target) : List Instr := [.del target, .srem target]

/-- `propagateBan`. -/
def propagateBan (ban : Ban) : List Instr :=
  .redisBanTTL ban ::
    ((if ban.sessionId = "" then [] else
      setIndexedValue (.session ban.sessionId) ban ++
        [.publish (.ban ban.sessionId ban.ipAddress ban.reason)]) ++
    (if ban.ipAddress = "" then [] else
      setIndexedValue (.ip ban.ipAddress) ban ++ [.publish (.banIP ban.ipAddress ban.reason)]))

/-- One half of `propagateUnban`: the key of a target is refreshed from a ban that remains, or
deleted. -/
def refreshOrDelete (target : Target) (action : AdminAction) : Option Ban → List Instr
  | some remaining => .redisBanTTL remaining :: setIndexedValue target remaining
  | none => deleteIndexedKey target ++ [.publish action]

/-- `propagateUnban`. -/
def propagateUnban (ban : Ban) (remainingSessionBan remainingIPBan : Option Ban) : List Instr :=
  (if ban.sessionId = "" then [] else
    refreshOrDelete (.session ban.sessionId) (.unban ban.sessionId ban.ipAddress)
      remainingSessionBan) ++
  (if ban.ipAddress = "" then [] else
    refreshOrDelete (.ip ban.ipAddress) (.unbanIP ban.ipAddress) remainingIPBan)

/-- `redisBanTTL`, where no time to live stands for a ban without an expiry; the ban that has just
expired is kept for a second. -/
def redisBanTTL (ban : Ban) (now : Time) : Option Time :=
  ban.expiresAt.map fun expiresAt => if expiresAt - now ≤ 0 then 1000 else expiresAt - now

/-- A command at a time, with the time to live that was computed last. -/
def Redis.exec (redis : Redis) (now : Time) (ttl : Option Time) : Instr → Redis × Option Time
  | .redisBanTTL ban => (redis, redisBanTTL ban now)
  | .set target ban =>
      ({ redis with
        key := Function.update redis.key target (some ⟨ban.reason, ttl.map (now + ·)⟩) }, ttl)
  | .sadd target => ({ redis with index := Function.update redis.index target true }, ttl)
  | .del target => ({ redis with key := Function.update redis.key target none }, ttl)
  | .srem target => ({ redis with index := Function.update redis.index target false }, ttl)
  | .publish action => ({ redis with stream := redis.stream ++ [action] }, ttl)

/-- The key exists at a time: an expired one does not. -/
def KeyValue.live (value : KeyValue) (now : Time) : Bool :=
  match value.expiresAt with
  | none => true
  | some expiresAt => now < expiresAt

/-! ### What the queries find -/

section Queries

variable {rows : List Ban} {request : Request} {now : Time} {ban : Ban} {target : Target}

@[simp] theorem mem_targets {sessionId ipAddress : String} :
    target ∈ targets sessionId ipAddress ↔
      (sessionId ≠ "" ∧ target = .session sessionId) ∨ (ipAddress ≠ "" ∧ target = .ip ipAddress) := by
  unfold targets
  split <;> split <;> simp [*]

theorem ne_of_mem_targets {sessionId ipAddress : String} (h : target ∈ targets sessionId ipAddress) :
    target ≠ .session "" ∧ target ≠ .ip "" := by
  rcases mem_targets.1 h with ⟨hne, rfl⟩ | ⟨hne, rfl⟩ <;> simp [hne]

theorem targets_eq_nil {sessionId ipAddress : String} :
    targets sessionId ipAddress = [] ↔ sessionId = "" ∧ ipAddress = "" := by
  unfold targets
  split <;> split <;> simp_all

theorem Request.targets_ne_nil (request : Request) : request.targets ≠ [] :=
  fun h => request.named (targets_eq_nil.1 h)

theorem mem_targets_iff_covers : target ∈ ban.targets ↔
    ban.covers target ∧ target ≠ .session "" ∧ target ≠ .ip "" := by
  cases target <;> simp [Ban.targets, Ban.covers] <;> grind

theorem key_session_ne_key_ip {sessionId ipAddress : String}
    (h : ¬ "ip:".toList <+: sessionId.toList) :
    (Target.session sessionId).key ≠ (Target.ip ipAddress).key := by
  intro hkey
  have hchars := congrArg String.toList hkey
  have hinitial : "ban:ip:".toList = "ban:".toList ++ "ip:".toList := by decide
  simp only [Target.key, String.toList_append, hinitial, List.append_assoc,
    List.append_cancel_left_eq] at hchars
  exact h ⟨ipAddress.toList, hchars.symm⟩

/-- **Different targets have different keys**, as no session id begins like the key of an
address. -/
theorem key_injective {target target' : Target}
    (h : ∀ sessionId, target = .session sessionId ∨ target' = .session sessionId →
      ¬ "ip:".toList <+: sessionId.toList)
    (hkey : target.key = target'.key) : target = target' := by
  cases target with
  | session sid =>
      cases target' with
      | session sid' => exact congrArg _ (String.append_right_inj _ |>.1 hkey)
      | ip ip => exact absurd hkey (key_session_ne_key_ip (h sid (.inl rfl)))
  | ip ip =>
      cases target' with
      | session sid' => exact absurd hkey.symm (key_session_ne_key_ip (h sid' (.inr rfl)))
      | ip ip' => exact congrArg _ (String.append_right_inj _ |>.1 hkey)

/-- **The bans that match a request** are the active ones for one of its targets. -/
theorem mem_activeBanLookup :
    ban ∈ activeBanLookup rows request now ↔
      ban ∈ rows ∧ ban.activeAt now ∧ ∃ target ∈ request.targets, ban.covers target := by
  have hnamed := request.named
  unfold activeBanLookup
  simp only [Request.targets, targets]
  by_cases hsession : request.sessionId = "" <;> by_cases hip : request.ipAddress = "" <;>
    simp_all [Ban.covers]

/-! ### The newest of some rows -/

theorem mem_of_newest {rows : List Ban} (h : newest rows = some ban) : ban ∈ rows := by
  induction rows generalizing ban with
  | nil => cases h
  | cons first rows ih =>
      unfold newest at h
      cases hrest : newest rows with
      | none => simp_all
      | some ban' =>
          have hmem := ih hrest
          simp only [hrest, Option.some.injEq] at h
          split at h <;> simp_all

theorem newest_eq_none {rows : List Ban} : newest rows = none ↔ rows = [] := by
  cases rows with
  | nil => simp [newest]
  | cons ban rows =>
      unfold newest
      split <;> simp

/-- What `latestActiveBan` finds. -/
theorem latestActiveBan_eq_some (h : latestActiveBan rows target now = some ban) :
    ban ∈ rows ∧ ban.covers target ∧ ban.activeAt now := by
  have hmem := mem_of_newest h
  rw [List.mem_filter, Bool.and_eq_true] at hmem
  exact hmem

theorem latestActiveBan_eq_none :
    latestActiveBan rows target now = none ↔ ∀ ban ∈ rows, ban.covers target → ¬ ban.activeAt now := by
  rw [latestActiveBan, newest_eq_none, List.filter_eq_nil_iff]
  simp

/-- A ban that is active was so before. -/
theorem activeAt_antitone {now' : Time} (hle : now ≤ now') (h : ban.activeAt now' = true) :
    ban.activeAt now = true := by
  unfold Ban.activeAt Ban.unexpired at *
  cases hexpires : ban.expiresAt with
  | none => simpa [hexpires] using h
  | some expiresAt =>
      simp only [hexpires, Bool.and_eq_true, decide_eq_true_eq] at h ⊢
      exact ⟨h.1, lt_of_le_of_lt hle h.2⟩

/-- The rows that are active after a ban has been lifted. -/
theorem mem_deactivate (lifted : String) :
    (ban ∈ deactivate rows lifted ∧ ban.isActive = true) ↔
      ban ∈ rows ∧ ban.isActive = true ∧ ban.id ≠ lifted := by
  constructor
  · rintro ⟨hmem, hactive⟩
    obtain ⟨ban', hban', rfl⟩ := List.mem_map.1 hmem
    split at hactive
    · cases hactive
    next hne =>
        rw [if_neg hne]
        exact ⟨hban', hactive, fun hid => hne ⟨hid, hactive⟩⟩
  · rintro ⟨hmem, hactive, hne⟩
    exact ⟨List.mem_map.2 ⟨ban, hmem, if_neg fun h => hne h.1⟩, hactive⟩

theorem isActive_of_activeAt (h : ban.activeAt now = true) : ban.isActive = true :=
  (Bool.and_eq_true _ _ ▸ h).1

end Queries

end Bans
