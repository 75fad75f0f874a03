/-
**Updates in place.**

Some updates are applied to the two objects of a session by a script in the store: it decodes them,
writes the new values and the four fields that the metadata shares with the record, and encodes them
again.  Other updates are applied by the session manager, which decodes the record, merges the updates
into it, and writes record and metadata anew.  The library of the scripts does not tell an empty array
from an empty object, and prints numbers with fourteen digits.

Two objects represent a record and its metadata when they are read alike, but for an empty array that
has become an object.  Every script does to the objects what the model of the store does to the record
and its metadata; so both ways come from one record.

Main definitions:

* `Sessions.Cjson`, `Sessions.Cjson.recode` — what is left of a value that a script has decoded and
  encoded again;
* `Sessions.updateScript`, `Sessions.touchScript`, … — the scripts;
* `Sessions.Stored` — **the two objects, after any writes**;
* `Sessions.Represents` — **the objects of a record and of metadata**;
* `Sessions.updateAnew` — the other way to update;
* `Sessions.WaysAgree` — the two ways leave the same session and metadata.

Main results:

* `Sessions.same_rewrite` — **a record that a script rewrites is the merged record**;
* `Sessions.represents_updateScript` — the metadata that it rewrites;
* `Sessions.exists_represents_of_stored` — what is stored represents a record;
* `Sessions.waysAgree` — **the two ways agree**.
-/

import Pairline.Sessions.Serialisation

set_option relaxedAutoImplicit false
set_option autoImplicit false

namespace Sessions

open Admin (Json)
open Matchmaker (Text NormalPreferences normalizeMode normalizeInterestBuckets)
open Members (get set assign given Same)

/-! ### Scripts -/

/-- **The JSON library of the scripts**: how it prints an integer and a float; integers of up to
fourteen digits are printed in full. -/
structure Cjson where
  integer : ℤ → Json
  float : String → Json
  integer_of_small : ∀ n : ℤ, n.natAbs < 10 ^ 14 → integer n = .integer n

namespace Cjson

variable (cjson : Cjson)

mutual

/-- **What is left of a value** that is decoded and encoded again: an empty array is a table without
entries, which is encoded as an object. -/
def recode : Json → Json
  | .null => .null
  | .bool b => .bool b
  | .integer n => cjson.integer n
  | .float s => cjson.float s
  | .string s => .string s
  | .array [] => .object []
  | .array (value :: values) => .array (recode value :: recodeList values)
  | .object members => .object (recodeMembers members)

def recodeList : List Json → List Json
  | [] => []
  | value :: values => recode value :: recodeList values

def recodeMembers : List (String × Json) → List (String × Json)
  | [] => []
  | (name, value) :: members => (name, recode value) :: recodeMembers members

end

/-- A value that comes back as it was. -/
def Durable (value : Json) : Prop := cjson.recode value = value

theorem recodeMembers_eq_map (members : Object) :
    cjson.recodeMembers members = members.map fun e => (e.1, cjson.recode e.2) := by
  induction members with
  | nil => rw [recodeMembers, List.map_nil]
  | cons e members ih =>
      obtain ⟨name, value⟩ := e
      rw [recodeMembers, ih, List.map_cons]

theorem get_recodeMembers (members : Object) (name : String) :
    get (cjson.recodeMembers members) name = (get members name).map cjson.recode := by
  rw [recodeMembers_eq_map, Members.get_map]

theorem recodeMembers_eq_self {members : Object} (h : ∀ e ∈ members, cjson.Durable e.2) :
    cjson.recodeMembers members = members := by
  have hmap : members.map (fun e => (e.1, cjson.recode e.2)) = members.map id := by
    refine List.map_congr_left fun e he => ?_
    rw [h e he]
    rfl
  rw [recodeMembers_eq_map, hmap, List.map_id]

@[simp] theorem durable_string (s : String) : cjson.Durable (.string s) := by
  rw [Durable, recode]

@[simp] theorem durable_bool (b : Bool) : cjson.Durable (.bool b) := by
  rw [Durable, recode]

@[simp] theorem durable_null : cjson.Durable .null := by
  rw [Durable, recode]

@[simp] theorem durable_textOrNil (s : Option String) : cjson.Durable (textOrNil s) := by
  cases s with
  | none => exact cjson.durable_null
  | some s => exact cjson.durable_string s

theorem durable_integer {n : ℤ} (h : n.natAbs < 10 ^ 14) : cjson.Durable (.integer n) := by
  rw [Durable, recode, cjson.integer_of_small n h]

theorem durable_encodeShard {shard : ℕ} (h : shard < 10 ^ 14) :
    cjson.Durable (encodeShard shard) :=
  cjson.durable_integer h

@[simp] theorem durable_encodePreferences (preferences : NormalPreferences) :
    cjson.Durable (encodePreferences preferences) := by
  rw [Durable, encodePreferences, recode, cjson.recodeMembers_eq_self]
  simp

/-- Strings come back, but for an empty array of them. -/
theorem recodeList_map_string (names : List String) :
    cjson.recodeList (names.map Json.string) = names.map Json.string := by
  induction names with
  | nil => rw [List.map_nil, recodeList]
  | cons name names ih => rw [List.map_cons, recodeList, ih, recode]

end Cjson

/-- The two objects that are kept of a session. -/
structure Hashes where
  data : Object
  queueMeta : Object

/-- `a or b`: a missing value and `false` give way. -/
def luaOr (a b : Option Json) : Option Json :=
  match a with
  | none => b
  | some (.bool false) => b
  | some value => some value

/-- The time of an event, in seconds. -/
structure Seconds where
  value : ℤ
  small : value.natAbs < 10 ^ 14

section Scripts

variable (cjson : Cjson)

/-- A record is decoded, members are written into it, with the time, and it is encoded again. -/
def rewrite (members : Object) (now : ℤ) (raw : Object) : Object :=
  set (assign (cjson.recodeMembers raw) members) "last_activity" (some (cjson.integer now))

/-- The script that updates a record in place; `order` is the order in which `pairs` lists the
updates. -/
def updateScript (order : Object) (now : ℤ) (h : Hashes) : Hashes :=
  let session := rewrite cjson order now h.data
  let queueMeta := cjson.recodeMembers h.queueMeta
  let queueMeta := set queueMeta "redis_shard"
    (luaOr (get session "redis_shard") (get queueMeta "redis_shard"))
  let queueMeta := set queueMeta "status" (luaOr (get session "status") (get queueMeta "status"))
  let queueMeta := set queueMeta "partner_id" (get session "partner_id")
  let queueMeta := set queueMeta "last_partner_id" (get session "last_partner_id")
  ⟨session, queueMeta⟩

def touchScript (now : ℤ) (h : Hashes) : Hashes := { h with data := rewrite cjson [] now h.data }

def emergencyBanScript (reason : String) (now : ℤ) (h : Hashes) : Hashes :=
  match get h.data "ban_status" with
  | some (.bool true) => h
  | _ =>
      { h with
        data := rewrite cjson [("ban_status", .bool true), ("ban_reason", .string reason),
          ("status", .string "disconnecting"), ("partner_id", .null)] now h.data }

def emergencyDisconnectScript (now : ℤ) (h : Hashes) : Hashes :=
  { h with
    data := rewrite cjson [("status", .string "disconnecting"), ("partner_id", .null)] now h.data }

def disconnectPartnerScript (expectedPeerId : String) (now : ℤ) (h : Hashes) : Hashes :=
  match get h.data "partner_id" with
  | some (.string partnerId) =>
      if partnerId = expectedPeerId then
        { h with
          data := rewrite cjson [("partner_id", .null), ("status", .string "disconnecting"),
            ("signaling_ready", .bool false), ("webrtc_started", .bool false)] now h.data }
      else h
  | _ => h

end Scripts


/-! ### Records that are rewritten -/

section Rewriting

variable (text : Text) (cjson : Cjson)

/-- **A record that the code writes**: its preferences are normalised, and its times and its shard are
printed in full. -/
structure Session.Storable (s : Session) : Prop where
  normal : Normal text s.preferences
  createdAt : s.createdAt.natAbs < 10 ^ 14
  lastActivity : s.lastActivity.natAbs < 10 ^ 14
  redisShard : s.redisShard < 10 ^ 14

/-- The updates are listed in some order, decoded by the script. -/
def Listed (updates : Updates) (order : Object) : Prop :=
  order.Perm (cjson.recodeMembers (stringifyUpdates updates))

theorem durable_of_mem_serializeSession {s : Session} (hs : s.Storable text) :
    ∀ e ∈ serializeSession s.terms, cjson.Durable e.2 := by
  simp [serializeSession, Session.terms, cjson.durable_integer hs.createdAt,
    cjson.durable_integer hs.lastActivity, cjson.durable_encodeShard hs.redisShard]

/-- An update in place gives texts, flags and nil. -/
theorem durable_of_mem_stringifyUpdates {updates : Updates}
    (h : updates.partialUpdateSupported = true) :
    ∀ e ∈ stringifyUpdates updates, cjson.Durable e.2 := by
  simp only [Updates.partialUpdateSupported, Bool.and_eq_true, Option.isNone_iff_eq_none] at h
  obtain ⟨⟨⟨⟨⟨⟨⟨hid, htoken⟩, hip⟩, hkind⟩, hshard⟩, hpreferences⟩, hcreated⟩, hlast⟩ := h
  refine Members.forall_mem_given ?_
  simp [hid, htoken, hip, hkind, hshard, hpreferences, hcreated, hlast, -Bool.exists_bool,
    -Bool.forall_bool]

/-- The merge of an update in place can be stored again. -/
theorem Session.Storable.merge {s : Session} (hs : s.Storable text) {updates : Updates}
    (h : updates.partialUpdateSupported = true) (now : Seconds) :
    ((s.merge updates).touchLastActivity now.value).Storable text := by
  simp only [Updates.partialUpdateSupported, Bool.and_eq_true, Option.isNone_iff_eq_none] at h
  obtain ⟨⟨⟨⟨⟨⟨⟨-, -⟩, -⟩, -⟩, hshard⟩, hpreferences⟩, hcreated⟩, -⟩ := h
  constructor
  · simpa [Session.touchLastActivity, Session.merge, hpreferences] using hs.normal
  · simpa [Session.touchLastActivity, Session.merge, hcreated] using hs.createdAt
  · exact now.small
  · simpa [Session.touchLastActivity, Session.merge, hshard] using hs.redisShard

/-- **A record that a script rewrites is the merged record.** -/
theorem same_rewrite {raw : Object} {s : Session} (hraw : Same raw (serializeSession s.terms))
    (hs : s.Storable text) {updates : Updates} (h : updates.partialUpdateSupported = true)
    {order : Object} (horder : Listed cjson updates order) (now : Seconds) :
    Same (rewrite cjson order now.value raw)
      (serializeSession ((s.merge updates).touchLastActivity now.value).terms) := by
  have hdecoded : Same (cjson.recodeMembers raw) (serializeSession s.terms) := by
    intro name
    have hself := cjson.recodeMembers_eq_self (durable_of_mem_serializeSession text cjson hs)
    rw [cjson.get_recodeMembers, hraw, ← cjson.get_recodeMembers, hself]
  have hupdates : Same order (stringifyUpdates updates) := by
    have hself := cjson.recodeMembers_eq_self (durable_of_mem_stringifyUpdates cjson h)
    rw [Listed, hself] at horder
    exact Members.same_of_perm horder (nodup_stringifyUpdates updates)
  have hmerged := (hdecoded.assign hupdates).trans (same_assign_stringifyUpdates s.terms updates)
  -- the time is an update of its own
  have hnow := same_assign_stringifyUpdates (s.terms.merge updates) { lastActivity := some now.value }
  rw [terms_merge, rewrite, cjson.integer_of_small _ now.small]
  exact (hmerged.set "last_activity" (some (.integer now.value))).trans hnow

/-- The scripts that write a few fields are updates of them. -/
theorem same_rewrite_given {raw : Object} {s : Session} (hraw : Same raw (serializeSession s.terms))
    (hs : s.Storable text) (updates : Updates) (h : updates.partialUpdateSupported = true)
    {members : Object} (hmembers : members.Perm (stringifyUpdates updates)) (now : Seconds) :
    Same (rewrite cjson members now.value raw)
      (serializeSession ((s.merge updates).touchLastActivity now.value).terms) := by
  refine same_rewrite text cjson hraw hs h ?_ now
  rwa [Listed, cjson.recodeMembers_eq_self (durable_of_mem_stringifyUpdates cjson h)]

end Rewriting

/-! ### Objects of a record and its metadata -/

section Metadata

variable (rt : Runtime) (cjson : Cjson)

/-- An array of names, or the object that has become of an empty one. -/
def HoldsNames (value : Json) (names : List String) : Prop :=
  value = .array (names.map Json.string) ∨ names = [] ∧ value = .object []

/-- **The object of queue metadata**, but for an empty array. -/
structure HoldsMetadata (raw : Object) (m : QueueMetadata) : Prop where
  fields : ∀ name ≠ "interest_buckets", get raw name = get m.object name
  buckets : ∃ value, get raw "interest_buckets" = some value ∧ HoldsNames value m.interestBuckets

/-- **Metadata of a record**: what may be out of date is overwritten with the record's. -/
structure QueueMetadata.Tracks (m : QueueMetadata) (s : Session) : Prop where
  overlap : m.overlap s = buildQueueMeta rt s
  redisShard : m.redisShard = s.redisShard

/-- **The two objects represent a record and its metadata.** -/
structure Represents (h : Hashes) (s : Session) (m : QueueMetadata) : Prop where
  storable : s.Storable rt.text
  data : Same h.data (serializeSession s.terms)
  queueMeta : HoldsMetadata h.queueMeta m
  tracks : m.Tracks rt s

theorem HoldsNames.recode {value : Json} {names : List String} (h : HoldsNames value names) :
    HoldsNames (cjson.recode value) names := by
  rcases h with rfl | ⟨rfl, rfl⟩
  · cases names with
    | nil =>
        right
        rw [List.map_nil, Cjson.recode]
        exact ⟨rfl, rfl⟩
    | cons name names =>
        left
        have hlist := cjson.recodeList_map_string (name :: names)
        rw [List.map_cons, Cjson.recodeList] at hlist
        rw [List.map_cons, Cjson.recode, hlist]
  · right
    rw [Cjson.recode, Cjson.recodeMembers]
    exact ⟨rfl, rfl⟩

/-- Either way, the names are read. -/
theorem HoldsNames.readBuckets {value : Json} {names : List String} (h : HoldsNames value names) :
    readBuckets rt.text (some value) = normalizeInterestBuckets rt.text names := by
  rcases h with rfl | ⟨rfl, rfl⟩
  · rw [Sessions.readBuckets, strings_map_string]
  · rfl

theorem holdsMetadata_object (m : QueueMetadata) : HoldsMetadata m.object m where
  fields _ _ := rfl
  buckets := by
    refine ⟨_, ?_, .inl rfl⟩
    simp [QueueMetadata.object, Members.get]

/-- What is read of the object is read of the metadata. -/
theorem HoldsMetadata.deserializeQueueMeta {raw : Object} {m : QueueMetadata}
    (h : HoldsMetadata raw m) :
    deserializeQueueMeta rt.text raw = Sessions.deserializeQueueMeta rt.text m.object := by
  obtain ⟨value, hvalue, hnames⟩ := h.buckets
  obtain ⟨value', hvalue', hnames'⟩ := (holdsMetadata_object m).buckets
  have hbuckets : Sessions.readBuckets rt.text (get raw "interest_buckets") =
      Sessions.readBuckets rt.text (get m.object "interest_buckets") := by
    rw [hvalue, hvalue', hnames.readBuckets, hnames'.readBuckets]
  simp only [Sessions.deserializeQueueMeta, fetch, hbuckets, h.fields _ (by decide : "id" ≠ _),
    h.fields _ (by decide : "redis_shard" ≠ _), h.fields _ (by decide : "status" ≠ _),
    h.fields _ (by decide : "partner_id" ≠ _), h.fields _ (by decide : "last_partner_id" ≠ _),
    h.fields _ (by decide : "mode" ≠ _)]

theorem durable_of_get_object {m : QueueMetadata} (hshard : m.redisShard < 10 ^ 14) {name : String}
    (hname : name ≠ "interest_buckets") {value : Json} (h : get m.object name = some value) :
    cjson.Durable value := by
  have hnodup : (m.object.map Prod.fst).Nodup := by simp [QueueMetadata.object]
  have hmem := (Members.get_eq_some_iff hnodup).1 h
  have hfields : ∀ e ∈ m.object, e.1 ≠ "interest_buckets" → cjson.Durable e.2 := by
    simp [QueueMetadata.object, cjson.durable_encodeShard hshard]
  exact hfields _ hmem hname

/-- Decoding and encoding leaves the metadata. -/
theorem HoldsMetadata.recodeMembers {raw : Object} {m : QueueMetadata} (h : HoldsMetadata raw m)
    (hshard : m.redisShard < 10 ^ 14) : HoldsMetadata (cjson.recodeMembers raw) m where
  fields name hname := by
    rw [cjson.get_recodeMembers, h.fields name hname]
    cases hvalue : get m.object name with
    | none => rfl
    | some value => rw [Option.map_some, durable_of_get_object cjson hshard hname hvalue]
  buckets := by
    obtain ⟨value, hvalue, hnames⟩ := h.buckets
    refine ⟨cjson.recode value, ?_, hnames.recode cjson⟩
    rw [cjson.get_recodeMembers, hvalue]
    rfl

/-- The fields that the metadata shares with the record. -/
def overlapping (s : Session) : Object :=
  [("redis_shard", encodeShard s.redisShard), ("status", .string s.status.text),
    ("partner_id", textOrNil s.partnerId), ("last_partner_id", textOrNil s.lastPartnerId)]

/-- The fields of metadata: what the record gives, and what the metadata has. -/
def metadataRows (m : QueueMetadata) (s : Session) : List (String × Option Json × Json) :=
  [("id", none, .string m.id),
    ("redis_shard", some (encodeShard s.redisShard), encodeShard m.redisShard),
    ("status", some (.string s.status.text), .string m.status.text),
    ("partner_id", some (textOrNil s.partnerId), textOrNil m.partnerId),
    ("last_partner_id", some (textOrNil s.lastPartnerId), textOrNil m.lastPartnerId),
    ("mode", none, .string m.mode),
    ("interest_buckets", none, .array (m.interestBuckets.map Json.string))]

theorem same_assign_overlapping (m : QueueMetadata) (s : Session) :
    Same (assign m.object (overlapping s)) (m.overlap s).object := by
  have hnodup : ((metadataRows m s).map Prod.fst).Nodup := by simp [metadataRows]
  have hgiven : given ((metadataRows m s).map fun row => (row.1, row.2.1)) = overlapping s := rfl
  have hold : (metadataRows m s).map (fun row => (row.1, row.2.2)) = m.object := rfl
  have hmerged : (metadataRows m s).map (fun row => (row.1, row.2.1.getD row.2.2)) =
      (m.overlap s).object := rfl
  have hsame := Members.same_assign_given hnodup
  rwa [hgiven, hold, hmerged] at hsame

/-- The record's fields are written into the object of metadata. -/
theorem HoldsMetadata.overlap {raw : Object} {m : QueueMetadata} (h : HoldsMetadata raw m)
    (s : Session) : HoldsMetadata (assign raw (overlapping s)) (m.overlap s) where
  fields name hname := by
    rw [Members.get_assign, h.fields name hname, ← Members.get_assign]
    exact same_assign_overlapping m s name
  buckets := by
    obtain ⟨value, hvalue, hnames⟩ := h.buckets
    refine ⟨value, ?_, hnames⟩
    have hnone : get (overlapping s) "interest_buckets" = none :=
      Members.get_eq_none_of_not_mem (by simp [overlapping])
    rw [Members.get_assign, hnone, Option.none_or, hvalue]

/-- The script writes the fields of the record that it has written. -/
theorem updateScript_queueMeta {order : Object} {now : ℤ} {h : Hashes} {s : Session}
    (hsession : Same (rewrite cjson order now h.data) (serializeSession s.terms)) :
    (updateScript cjson order now h).queueMeta =
      assign (cjson.recodeMembers h.queueMeta) (overlapping s) := by
  have hshard : get (serializeSession s.terms) "redis_shard" = some (encodeShard s.redisShard) := by
    simp [serializeSession, Members.get, List.lookup_cons, Session.terms]
  have hstatus : get (serializeSession s.terms) "status" = some (.string s.status.text) := by
    simp [serializeSession, Members.get, List.lookup_cons, Session.terms]
  have hpartner : get (serializeSession s.terms) "partner_id" = some (textOrNil s.partnerId) := by
    simp [serializeSession, Members.get, List.lookup_cons, Session.terms]
  have hlast :
      get (serializeSession s.terms) "last_partner_id" = some (textOrNil s.lastPartnerId) := by
    simp [serializeSession, Members.get, List.lookup_cons, Session.terms]
  simp only [updateScript, hsession _, hshard, hstatus, hpartner, hlast]
  rfl

/-- An update in place keeps what the metadata does not share with the record. -/
theorem QueueMetadata.Tracks.merge {m : QueueMetadata} {s : Session} (h : m.Tracks rt s)
    {updates : Updates} (hinPlace : updates.partialUpdateSupported = true) (now : ℤ) :
    m.Tracks rt ((s.merge updates).touchLastActivity now) := by
  obtain ⟨hoverlap, hm⟩ := h
  simp only [Updates.partialUpdateSupported, Bool.and_eq_true, Option.isNone_iff_eq_none]
    at hinPlace
  obtain ⟨⟨⟨⟨⟨⟨⟨hid, -⟩, -⟩, -⟩, hshard⟩, hpreferences⟩, -⟩, -⟩ := hinPlace
  simp only [QueueMetadata.overlap, buildQueueMeta, QueueMetadata.mk.injEq, true_and] at hoverlap
  constructor
  · simpa [QueueMetadata.overlap, buildQueueMeta, Session.touchLastActivity, Session.merge, hid,
      hpreferences] using hoverlap
  · simpa [Session.touchLastActivity, Session.merge, hshard] using hm

theorem QueueMetadata.Tracks.overlap_self {m : QueueMetadata} {s : Session} (h : m.Tracks rt s) :
    (m.overlap s).Tracks rt s := ⟨h.overlap, rfl⟩

/-- **An update in place does to the objects what the store's model does to the record and its
metadata.** -/
theorem represents_updateScript {h : Hashes} {s : Session} {m : QueueMetadata}
    (hrep : Represents rt h s m) {updates : Updates} (hinPlace : updates.partialUpdateSupported = true)
    {order : Object} (horder : Listed cjson updates order) (now : Seconds) :
    Represents rt (updateScript cjson order now.value h)
      ((s.merge updates).touchLastActivity now.value)
      (m.overlap ((s.merge updates).touchLastActivity now.value)) := by
  have hdata := same_rewrite rt.text cjson hrep.data hrep.storable hinPlace horder now
  have hshard : m.redisShard < 10 ^ 14 := by
    rw [hrep.tracks.redisShard]
    exact hrep.storable.redisShard
  refine ⟨hrep.storable.merge rt.text hinPlace now, hdata, ?_, ?_⟩
  · rw [updateScript_queueMeta cjson hdata]
    exact (hrep.queueMeta.recodeMembers cjson hshard).overlap _
  · exact (hrep.tracks.merge rt hinPlace now.value).overlap_self

/-- The other scripts write a few fields of the record, and leave the metadata. -/
theorem Represents.rewrite {h : Hashes} {s : Session} {m : QueueMetadata}
    (hrep : Represents rt h s m) (updates : Updates) (hinPlace : updates.partialUpdateSupported = true)
    {members : Object} (hmembers : members.Perm (stringifyUpdates updates)) (now : Seconds) :
    Represents rt { h with data := rewrite cjson members now.value h.data }
      ((s.merge updates).touchLastActivity now.value) m where
  storable := hrep.storable.merge rt.text hinPlace now
  data := same_rewrite_given rt.text cjson hrep.data hrep.storable updates hinPlace hmembers now
  queueMeta := hrep.queueMeta
  tracks := hrep.tracks.merge rt hinPlace now.value

theorem represents_touchScript {h : Hashes} {s : Session} {m : QueueMetadata}
    (hrep : Represents rt h s m) (now : Seconds) :
    Represents rt (touchScript cjson now.value h) (s.touchLastActivity now.value) m :=
  hrep.rewrite rt cjson {} rfl (List.Perm.refl _) now

theorem represents_emergencyBanScript {h : Hashes} {s : Session} {m : QueueMetadata}
    (hrep : Represents rt h s m) (reason : String) (now : Seconds) :
    Represents rt (emergencyBanScript cjson reason now.value h)
      (if s.banStatus then s else s.banned reason now.value) m := by
  have hstatus : get h.data "ban_status" = some (.bool s.banStatus) := by
    rw [hrep.data]
    simp [serializeSession, Members.get, List.lookup_cons, Session.terms]
  cases hbanned : s.banStatus with
  | true =>
      rw [hbanned] at hstatus
      simpa [emergencyBanScript, hstatus] using hrep
  | false =>
      rw [hbanned] at hstatus
      simp only [emergencyBanScript, hstatus]
      -- the script writes the ban first, and then what a disconnect writes
      have hmembers : ([("ban_status", .bool true), ("ban_reason", .string reason)] ++
          [("status", .string "disconnecting"), ("partner_id", .null)] : Object).Perm
          ([("status", .string "disconnecting"), ("partner_id", .null)] ++
            [("ban_status", .bool true), ("ban_reason", .string reason)]) :=
        List.perm_append_comm
      exact hrep.rewrite rt cjson
        { status := some .disconnecting
          partnerId := some none
          banStatus := some true
          banReason := some (some reason) } rfl hmembers now

theorem represents_emergencyDisconnectScript {h : Hashes} {s : Session} {m : QueueMetadata}
    (hrep : Represents rt h s m) (now : Seconds) :
    Represents rt (emergencyDisconnectScript cjson now.value h) (s.disconnected now.value) m :=
  hrep.rewrite rt cjson { status := some .disconnecting, partnerId := some none } rfl
    (List.Perm.refl _) now

theorem represents_disconnectPartnerScript {h : Hashes} {s : Session} {m : QueueMetadata}
    (hrep : Represents rt h s m) (expectedPeerId : String) (now : Seconds) :
    Represents rt (disconnectPartnerScript cjson expectedPeerId now.value h)
      (if s.partnerId ≠ some expectedPeerId then s else s.parted now.value) m := by
  have hpartner : get h.data "partner_id" = some (textOrNil s.partnerId) := by
    rw [hrep.data]
    simp [serializeSession, Members.get, List.lookup_cons, Session.terms]
  cases hid : s.partnerId with
  | none =>
      rw [hid] at hpartner
      simpa [disconnectPartnerScript, hpartner, textOrNil] using hrep
  | some partnerId =>
      rw [hid] at hpartner
      by_cases hexpected : partnerId = expectedPeerId
      · have hparted := hrep.rewrite rt cjson
          { status := some .disconnecting
            partnerId := some none
            signalingReady := some false
            webrtcStarted := some false } rfl (List.Perm.swap _ _ _) now
        simp only [disconnectPartnerScript, hpartner, textOrNil, hexpected, if_true, ne_eq,
          not_true_eq_false, if_false]
        exact hparted
      · simpa [disconnectPartnerScript, hpartner, textOrNil, hexpected] using hrep

end Metadata

/-! ### The two ways -/

section Ways

variable (rt : Runtime) (cjson : Cjson)

/-- The two objects of a record that is persisted, alone or in a pair. -/
def persisted (s : Session) : Hashes :=
  ⟨serializeSession s.terms, encodeQueueMeta rt.text s.terms⟩

/-- **The two objects, after any writes** to them: what a script writes, another may overwrite. -/
inductive Stored : Hashes → Prop
  | persist {s : Session} : s.Storable rt.text → Stored (persisted rt s)
  | update {h : Hashes} {updates : Updates} {order : Object} (now : Seconds) : Stored h →
      updates.partialUpdateSupported = true → Listed cjson updates order →
        Stored (updateScript cjson order now.value h)
  | touch {h : Hashes} (now : Seconds) : Stored h → Stored (touchScript cjson now.value h)
  | emergencyBan {h : Hashes} (reason : String) (now : Seconds) : Stored h →
      Stored (emergencyBanScript cjson reason now.value h)
  | emergencyDisconnect {h : Hashes} (now : Seconds) : Stored h →
      Stored (emergencyDisconnectScript cjson now.value h)
  | disconnectPartner {h : Hashes} (expectedPeerId : String) (now : Seconds) : Stored h →
      Stored (disconnectPartnerScript cjson expectedPeerId now.value h)

/-- The session that `persist_updated_session` writes and returns. -/
def updatedTerms (updates : Updates) (now : ℤ) (h : Hashes) : Terms :=
  ((deserializeSession rt.text h.data).merge updates).touchLastActivity now

/-- **The record is decoded, merged and persisted.** -/
def updateAnew (updates : Updates) (now : ℤ) (h : Hashes) : Hashes :=
  ⟨serializeSession (updatedTerms rt updates now h),
    encodeQueueMeta rt.text (updatedTerms rt updates now h)⟩

/-- **The two ways leave the same session and the same metadata, and return that session; and what is
written of a session is read again.** -/
structure WaysAgree : Prop where
  session : ∀ h, Stored rt cjson h → ∀ updates, updates.partialUpdateSupported = true →
    ∀ order, Listed cjson updates order → ∀ now : Seconds,
      deserializeSession rt.text (updateScript cjson order now.value h).data =
        deserializeSession rt.text (updateAnew rt updates now.value h).data
  queueMeta : ∀ h, Stored rt cjson h → ∀ updates, updates.partialUpdateSupported = true →
    ∀ order, Listed cjson updates order → ∀ now : Seconds,
      deserializeQueueMeta rt.text (updateScript cjson order now.value h).queueMeta =
        deserializeQueueMeta rt.text (updateAnew rt updates now.value h).queueMeta
  returned : ∀ h, Stored rt cjson h → ∀ updates, updates.partialUpdateSupported = true →
    ∀ order, Listed cjson updates order → ∀ now : Seconds,
      deserializeSession rt.text (updateScript cjson order now.value h).data =
        updatedTerms rt updates now.value h
  roundTrip : ∀ t : Terms, Normal rt.text t.preferences →
    deserializeSession rt.text (serializeSession t) = t

theorem represents_persisted {s : Session} (hs : s.Storable rt.text) :
    Represents rt (persisted rt s) s (buildQueueMeta rt s) where
  storable := hs
  data _ := rfl
  queueMeta := holdsMetadata_object (buildQueueMeta rt s)
  tracks := ⟨rfl, rfl⟩

/-- **What is stored represents a record and metadata.** -/
theorem exists_represents_of_stored {h : Hashes} (hstored : Stored rt cjson h) :
    ∃ s m, Represents rt h s m := by
  induction hstored with
  | persist hs => exact ⟨_, _, represents_persisted rt hs⟩
  | update now _ hinPlace horder ih =>
      obtain ⟨s, m, hrep⟩ := ih
      exact ⟨_, _, represents_updateScript rt cjson hrep hinPlace horder now⟩
  | touch now _ ih =>
      obtain ⟨s, m, hrep⟩ := ih
      exact ⟨_, _, represents_touchScript rt cjson hrep now⟩
  | emergencyBan reason now _ ih =>
      obtain ⟨s, m, hrep⟩ := ih
      exact ⟨_, _, represents_emergencyBanScript rt cjson hrep reason now⟩
  | emergencyDisconnect now _ ih =>
      obtain ⟨s, m, hrep⟩ := ih
      exact ⟨_, _, represents_emergencyDisconnectScript rt cjson hrep now⟩
  | disconnectPartner expectedPeerId now _ ih =>
      obtain ⟨s, m, hrep⟩ := ih
      exact ⟨_, _, represents_disconnectPartnerScript rt cjson hrep expectedPeerId now⟩

/-- The record is read out of the objects that represent it. -/
theorem Represents.deserializeSession {h : Hashes} {s : Session} {m : QueueMetadata}
    (hrep : Represents rt h s m) : deserializeSession rt.text h.data = s.terms := by
  rw [deserializeSession_congr rt.text hrep.data]
  exact deserializeSession_serializeSession rt.text s.terms hrep.storable.normal

/-- Anew, the merged record is written. -/
theorem updatedTerms_of_represents {h : Hashes} {s : Session} {m : QueueMetadata}
    (hrep : Represents rt h s m) (updates : Updates) (now : ℤ) :
    updatedTerms rt updates now h = ((s.merge updates).touchLastActivity now).terms := by
  rw [updatedTerms, hrep.deserializeSession, terms_merge]

theorem updateAnew_of_represents {h : Hashes} {s : Session} {m : QueueMetadata}
    (hrep : Represents rt h s m) (updates : Updates) (now : ℤ) :
    updateAnew rt updates now h = persisted rt ((s.merge updates).touchLastActivity now) := by
  rw [updateAnew, updatedTerms_of_represents rt hrep, persisted]

/-- **The two ways agree.** -/
theorem waysAgree : WaysAgree rt cjson where
  session h hstored updates hinPlace order horder now := by
    obtain ⟨s, m, hrep⟩ := exists_represents_of_stored rt cjson hstored
    have hnew := represents_updateScript rt cjson hrep hinPlace horder now
    have hanew := represents_persisted rt hnew.storable
    rw [hnew.deserializeSession, updateAnew_of_represents rt hrep, hanew.deserializeSession]
  queueMeta h hstored updates hinPlace order horder now := by
    obtain ⟨s, m, hrep⟩ := exists_represents_of_stored rt cjson hstored
    have hnew := represents_updateScript rt cjson hrep hinPlace horder now
    have hanew := represents_persisted rt hnew.storable
    -- what the metadata had of the record is overwritten
    have hmeta := (hrep.tracks.merge rt hinPlace now.value).overlap
    rw [hnew.queueMeta.deserializeQueueMeta, hmeta, updateAnew_of_represents rt hrep,
      hanew.queueMeta.deserializeQueueMeta]
  returned h hstored updates hinPlace order horder now := by
    obtain ⟨s, m, hrep⟩ := exists_represents_of_stored rt cjson hstored
    have hnew := represents_updateScript rt cjson hrep hinPlace horder now
    rw [hnew.deserializeSession, updatedTerms_of_represents rt hrep]
  roundTrip t ht := deserializeSession_serializeSession rt.text t ht

end Ways

end Sessions
