/-
**Records as JSON.**

A record is written as a JSON object, with the queue metadata beside it as another, and read again
with defaults for what is missing or not of its type.  A map of a session is what the code holds of it:
the fields that have a type, and those that are handed on as they are read.

Main definitions:

* `Sessions.Terms`, `Sessions.serializeSession`, `Sessions.deserializeSession` — the map of a session,
  and how it is written and read;
* `Sessions.QueueTerms`, `Sessions.encodeQueueMeta`, `Sessions.deserializeQueueMeta` — the same of the
  metadata;
* `Sessions.stringifyUpdates` — how updates are written.

Main results:

* `Sessions.deserializeSession_serializeSession` — **what is written is read**;
* `Sessions.deserializeQueueMeta_object` — the metadata of a record is read;
* `Sessions.same_assign_stringifyUpdates` — **updates written into an object give that of the merged
  map**.
-/

import Pairline.Admin.Entries
import Pairline.Members
import Pairline.Sessions.Matching
import Pairline.Sessions.Routes

set_option relaxedAutoImplicit false
set_option autoImplicit false

namespace Sessions

open Admin (Json)
open Matchmaker (Text NormalPreferences Value normalizeMode sessionPreferences storedInterestBuckets
  normalizeInterestBuckets normalizeInterestBuckets_storedInterestBuckets)
open Members (get set assign given Same)

/-! ### Terms -/

abbrev Object := List (String × Json)

/-- **The map of a session**: the fields that are handed on as they are read can hold any value. -/
structure Terms where
  id : Json
  token : Json
  ip : Json
  sessionKind : SessionKind
  redisShard : ℕ
  matchGeneration : Json
  status : Status
  partnerId : Json
  lastPartnerId : Json
  signalingReady : Bool
  webrtcStarted : Bool
  preferences : NormalPreferences
  createdAt : Json
  lastActivity : Json
  banStatus : Bool
  banReason : Json

/-- The map of queue metadata. -/
structure QueueTerms where
  id : Json
  redisShard : ℕ
  status : Status
  partnerId : Json
  lastPartnerId : Json
  mode : String
  interestBuckets : List String

/-- A text, or nil. -/
def textOrNil : Option String → Json
  | none => .null
  | some s => .string s

def Session.terms (s : Session) : Terms where
  id := .string s.id
  token := .string s.token
  ip := .string s.ip
  sessionKind := s.sessionKind
  redisShard := s.redisShard
  matchGeneration := textOrNil s.matchGeneration
  status := s.status
  partnerId := textOrNil s.partnerId
  lastPartnerId := textOrNil s.lastPartnerId
  signalingReady := s.signalingReady
  webrtcStarted := s.webrtcStarted
  preferences := s.preferences
  createdAt := .integer s.createdAt
  lastActivity := .integer s.lastActivity
  banStatus := s.banStatus
  banReason := textOrNil s.banReason

def QueueMetadata.terms (m : QueueMetadata) : QueueTerms where
  id := .string m.id
  redisShard := m.redisShard
  status := m.status
  partnerId := textOrNil m.partnerId
  lastPartnerId := textOrNil m.lastPartnerId
  mode := m.mode
  interestBuckets := m.interestBuckets

/-- `Map.merge` of the map of a session with updates. -/
def Terms.merge (t : Terms) (updates : Updates) : Terms where
  id := (updates.id.map Json.string).getD t.id
  token := (updates.token.map Json.string).getD t.token
  ip := (updates.ip.map Json.string).getD t.ip
  sessionKind := updates.sessionKind.getD t.sessionKind
  redisShard := updates.redisShard.getD t.redisShard
  matchGeneration := (updates.matchGeneration.map textOrNil).getD t.matchGeneration
  status := updates.status.getD t.status
  partnerId := (updates.partnerId.map textOrNil).getD t.partnerId
  lastPartnerId := (updates.lastPartnerId.map textOrNil).getD t.lastPartnerId
  signalingReady := updates.signalingReady.getD t.signalingReady
  webrtcStarted := updates.webrtcStarted.getD t.webrtcStarted
  preferences := updates.preferences.getD t.preferences
  createdAt := (updates.createdAt.map Json.integer).getD t.createdAt
  lastActivity := (updates.lastActivity.map Json.integer).getD t.lastActivity
  banStatus := updates.banStatus.getD t.banStatus
  banReason := (updates.banReason.map textOrNil).getD t.banReason

def Terms.touchLastActivity (t : Terms) (now : ℤ) : Terms := { t with lastActivity := .integer now }

/-- The map of an updated record is the updated map. -/
theorem terms_merge (s : Session) (updates : Updates) (now : ℤ) :
    ((s.merge updates).touchLastActivity now).terms =
      (s.terms.merge updates).touchLastActivity now := by
  simp only [Session.terms, Session.merge, Session.touchLastActivity, Terms.merge,
    Terms.touchLastActivity, Option.getD_map]

/-! ### Writing -/

def SessionKind.text : SessionKind → String
  | .human => "human"
  | .bot => "bot"

def Status.text : Status → String
  | .waiting => "waiting"
  | .matched => "matched"
  | .disconnecting => "disconnecting"

def encodePreferences (preferences : NormalPreferences) : Json :=
  .object [("mode", .string preferences.mode), ("interests", .string preferences.interests)]

def encodeShard (shard : ℕ) : Json := .integer shard

/-- `serialize_session`, as it is encoded. -/
def serializeSession (t : Terms) : Object :=
  [("id", t.id), ("token", t.token), ("ip", t.ip), ("session_kind", .string t.sessionKind.text),
    ("redis_shard", encodeShard t.redisShard), ("match_generation", t.matchGeneration),
    ("status", .string t.status.text), ("partner_id", t.partnerId),
    ("last_partner_id", t.lastPartnerId), ("signaling_ready", .bool t.signalingReady),
    ("webrtc_started", .bool t.webrtcStarted), ("preferences", encodePreferences t.preferences),
    ("created_at", t.createdAt), ("last_activity", t.lastActivity), ("ban_status", .bool t.banStatus),
    ("ban_reason", t.banReason)]

/-- `build_queue_meta`, as it is encoded. -/
def encodeQueueMeta (text : Text) (t : Terms) : Object :=
  [("id", t.id), ("redis_shard", encodeShard t.redisShard), ("status", .string t.status.text),
    ("partner_id", t.partnerId), ("last_partner_id", t.lastPartnerId),
    ("mode", .string (normalizeMode t.preferences.mode)),
    ("interest_buckets",
      .array ((storedInterestBuckets text t.preferences.interests).map Json.string))]

/-- `stringify_updates`, as it is encoded. -/
def stringifyUpdates (updates : Updates) : Object :=
  given [("id", updates.id.map Json.string), ("token", updates.token.map Json.string),
    ("ip", updates.ip.map Json.string),
    ("session_kind", updates.sessionKind.map fun kind => .string kind.text),
    ("redis_shard", updates.redisShard.map encodeShard),
    ("match_generation", updates.matchGeneration.map textOrNil),
    ("status", updates.status.map fun status => .string status.text),
    ("partner_id", updates.partnerId.map textOrNil),
    ("last_partner_id", updates.lastPartnerId.map textOrNil),
    ("signaling_ready", updates.signalingReady.map Json.bool),
    ("webrtc_started", updates.webrtcStarted.map Json.bool),
    ("preferences", updates.preferences.map encodePreferences),
    ("created_at", updates.createdAt.map Json.integer),
    ("last_activity", updates.lastActivity.map Json.integer),
    ("ban_status", updates.banStatus.map Json.bool),
    ("ban_reason", updates.banReason.map textOrNil)]

theorem nodup_stringifyUpdates (updates : Updates) :
    ((stringifyUpdates updates).map Prod.fst).Nodup :=
  (Members.map_fst_given_sublist _).nodup (by simp)

/-! ### Reading -/

section Reading

/-- `truthy?`. -/
def truthy : Option Json → Bool
  | some (.bool b) => b
  | some (.integer n) => n = 1
  | some (.string s) => s = "true" || s = "1"
  | _ => false

/-- `parse_redis_shard`. -/
def parseRedisShard : Option Json → ℕ
  | some (.integer n) => if 0 ≤ n then n.toNat else 0
  | some (.string s) =>
      match RedisKeys.parseInteger s.toList with
      | some (shard, []) => if 0 ≤ shard then shard.toNat else 0
      | _ => 0
  | _ => 0

/-- `normalize_status` of a value that is read, and of none. -/
def readStatus : Option Json → Status
  | some (.string s) =>
      if s = "matched" then .matched else if s = "disconnecting" then .disconnecting else .waiting
  | _ => .waiting

/-- `normalize_session_kind` of a value that is read. -/
def readSessionKind : Option Json → SessionKind
  | some (.string s) => if s = "bot" then .bot else .human
  | _ => .human

/-- A value as a term of a preferences map. -/
def valueOf : Json → Value
  | .null => .nil
  | .bool b => .atom (if b then "true" else "false")
  | .integer n => .integer n
  | .float s => .float s
  | .string s => .string s
  | _ => .other

variable (text : Text)

/-- `normalize_preferences` of a value that is read. -/
def readPreferences : Option Json → NormalPreferences
  | some (.object members) =>
      sessionPreferences text ⟨(get members "mode").map valueOf, none,
        (get members "interests").map valueOf, none⟩
  | _ => ⟨"text", ""⟩

/-- The strings among the elements of an array. -/
def strings (values : List Json) : List String :=
  values.filterMap fun value => match value with
    | .string s => some s
    | _ => none

/-- `normalize_interest_buckets` of a value that is read. -/
def readBuckets : Option Json → List String
  | some (.array values) => normalizeInterestBuckets text (strings values)
  | _ => []

/-- `normalize_mode` of a value that is read. -/
def readMode : Option Json → String
  | some (.string s) => normalizeMode s
  | _ => "text"

/-- `Map.get`. -/
def fetch (raw : Object) (name : String) : Json := (get raw name).getD .null

def deserializeSession (raw : Object) : Terms where
  id := fetch raw "id"
  token := fetch raw "token"
  ip := fetch raw "ip"
  sessionKind := readSessionKind (get raw "session_kind")
  redisShard := parseRedisShard (get raw "redis_shard")
  matchGeneration := fetch raw "match_generation"
  status := readStatus (get raw "status")
  partnerId := fetch raw "partner_id"
  lastPartnerId := fetch raw "last_partner_id"
  signalingReady := truthy (get raw "signaling_ready")
  webrtcStarted := truthy (get raw "webrtc_started")
  preferences := readPreferences text (get raw "preferences")
  createdAt := fetch raw "created_at"
  lastActivity := fetch raw "last_activity"
  banStatus := truthy (get raw "ban_status")
  banReason := fetch raw "ban_reason"

def deserializeQueueMeta (raw : Object) : QueueTerms where
  id := fetch raw "id"
  redisShard := parseRedisShard (get raw "redis_shard")
  status := readStatus (get raw "status")
  partnerId := fetch raw "partner_id"
  lastPartnerId := fetch raw "last_partner_id"
  mode := readMode (get raw "mode")
  interestBuckets := readBuckets text (get raw "interest_buckets")

end Reading


/-! ### What is written is read -/

section RoundTrip

theorem readSessionKind_text (kind : SessionKind) :
    readSessionKind (some (.string kind.text)) = kind := by
  cases kind <;> rfl

theorem readStatus_text (status : Status) : readStatus (some (.string status.text)) = status := by
  cases status <;> rfl

@[simp] theorem parseRedisShard_encodeShard (shard : ℕ) :
    parseRedisShard (some (encodeShard shard)) = shard := by
  simp [encodeShard, parseRedisShard]

variable (text : Text)

/-- Preferences as `normalize_preferences` leaves them. -/
def Normal (preferences : NormalPreferences) : Prop :=
  normalizeMode preferences.mode = preferences.mode ∧
    text.slice 255 preferences.interests = preferences.interests

theorem readPreferences_encodePreferences {preferences : NormalPreferences}
    (h : Normal text preferences) :
    readPreferences text (some (encodePreferences preferences)) = preferences := by
  obtain ⟨mode, interests⟩ := preferences
  obtain ⟨hmode, hinterests⟩ := h
  have hgetMode : get [("mode", Json.string mode), ("interests", .string interests)] "mode" =
      some (.string mode) := by
    simp [Members.get, List.lookup_cons]
  have hgetInterests : get [("mode", Json.string mode), ("interests", .string interests)]
      "interests" = some (.string interests) := by
    simp [Members.get, List.lookup_cons]
  simp only [encodePreferences, readPreferences, hgetMode, hgetInterests, Option.map_some, valueOf,
    sessionPreferences, Option.getD_some, Matchmaker.safeString]
  rw [hmode, hinterests]

/-- **What is written of a session is read.** -/
theorem deserializeSession_serializeSession (t : Terms) (h : Normal text t.preferences) :
    deserializeSession text (serializeSession t) = t := by
  simp [deserializeSession, serializeSession, Members.get, fetch, List.lookup_cons,
    readSessionKind_text, readStatus_text, truthy, readPreferences_encodePreferences text h]

/-- Objects that are read alike are those of one session. -/
theorem deserializeSession_congr {raw raw' : Object} (h : Same raw raw') :
    deserializeSession text raw = deserializeSession text raw' := by
  simp only [deserializeSession, fetch, h _]

end RoundTrip

/-! ### Queue metadata -/

section Metadata

/-- Queue metadata, as it is encoded. -/
def QueueMetadata.object (m : QueueMetadata) : Object :=
  [("id", .string m.id), ("redis_shard", encodeShard m.redisShard), ("status", .string m.status.text),
    ("partner_id", textOrNil m.partnerId), ("last_partner_id", textOrNil m.lastPartnerId),
    ("mode", .string m.mode), ("interest_buckets", .array (m.interestBuckets.map Json.string))]

variable (rt : Runtime)

/-- `build_queue_meta` of a record is encoded as that of its map. -/
theorem encodeQueueMeta_terms (s : Session) :
    encodeQueueMeta rt.text s.terms = (buildQueueMeta rt s).object := rfl

theorem strings_map_string (names : List String) : strings (names.map Json.string) = names := by
  induction names with
  | nil => rfl
  | cons name names ih =>
      have hcons : strings ((name :: names).map Json.string) =
          name :: strings (names.map Json.string) := rfl
      rw [hcons, ih]

theorem deserializeQueueMeta_object (s : Session) :
    deserializeQueueMeta rt.text (buildQueueMeta rt s).object = (buildQueueMeta rt s).terms := by
  simp [deserializeQueueMeta, QueueMetadata.object, Members.get, fetch, List.lookup_cons,
    readStatus_text, readMode, readBuckets, strings_map_string, QueueMetadata.terms, buildQueueMeta, normalizeMode_eq_self (normalizeMode_mem _), normalizeInterestBuckets_storedInterestBuckets]

end Metadata

/-! ### Updates that are written into an object -/

section Rows

/-- The fields of a session: what an update gives, and what the map has. -/
def rows (t : Terms) (updates : Updates) : List (String × Option Json × Json) :=
  [("id", updates.id.map Json.string, t.id), ("token", updates.token.map Json.string, t.token),
    ("ip", updates.ip.map Json.string, t.ip),
    ("session_kind", updates.sessionKind.map fun kind => .string kind.text,
      .string t.sessionKind.text),
    ("redis_shard", updates.redisShard.map encodeShard, encodeShard t.redisShard),
    ("match_generation", updates.matchGeneration.map textOrNil, t.matchGeneration),
    ("status", updates.status.map fun status => .string status.text, .string t.status.text),
    ("partner_id", updates.partnerId.map textOrNil, t.partnerId),
    ("last_partner_id", updates.lastPartnerId.map textOrNil, t.lastPartnerId),
    ("signaling_ready", updates.signalingReady.map Json.bool, .bool t.signalingReady),
    ("webrtc_started", updates.webrtcStarted.map Json.bool, .bool t.webrtcStarted),
    ("preferences", updates.preferences.map encodePreferences, encodePreferences t.preferences),
    ("created_at", updates.createdAt.map Json.integer, t.createdAt),
    ("last_activity", updates.lastActivity.map Json.integer, t.lastActivity),
    ("ban_status", updates.banStatus.map Json.bool, .bool t.banStatus),
    ("ban_reason", updates.banReason.map textOrNil, t.banReason)]

theorem nodup_rows (t : Terms) (updates : Updates) : ((rows t updates).map Prod.fst).Nodup := by
  simp [rows]

theorem given_rows (t : Terms) (updates : Updates) :
    given ((rows t updates).map fun row => (row.1, row.2.1)) = stringifyUpdates updates := rfl

theorem old_rows (t : Terms) (updates : Updates) :
    (rows t updates).map (fun row => (row.1, row.2.2)) = serializeSession t := rfl

theorem merged_rows (t : Terms) (updates : Updates) :
    (rows t updates).map (fun row => (row.1, row.2.1.getD row.2.2)) =
      serializeSession (t.merge updates) := by
  simp only [rows, List.map_cons, List.map_nil, serializeSession, Terms.merge, Option.getD_map]

/-- **Updates written into the object of a map give that of the merged map.** -/
theorem same_assign_stringifyUpdates (t : Terms) (updates : Updates) :
    Same (assign (serializeSession t) (stringifyUpdates updates))
      (serializeSession (t.merge updates)) := by
  have hgiven := Members.same_assign_given (nodup_rows t updates)
  rw [given_rows, old_rows, merged_rows] at hgiven
  exact hgiven

end Rows

end Sessions
