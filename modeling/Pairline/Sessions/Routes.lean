/-
**Routes and keys in two languages.**

Where a session is kept is written down by one side, in a locator, and read by both; the keys of the
session are built from it on each side.  A session id may be any text.

Main definitions:

* `Sessions.RedisKeys` — routes, locators and keys of the side that stores sessions;
* `Sessions.Appredis` — locators and keys of the side that looks them up;
* `Sessions.RedisKeys.Constructed` — the routes that are ever stored;
* `Sessions.SameKeys` — the keys of the two sides for a session.

Main results:

* `Sessions.RedisKeys.decodeLocator_encodeLocator`, `Sessions.Appredis.decodeSessionRoute_encode` —
  each side reads what it would have written;
* `Sessions.sameKeys_of_constructed` — **both sides agree on routes and keys**.
-/

import Mathlib.Algebra.Group.Int.Defs
import Mathlib.Algebra.Group.Nat.Defs
import Pairline.Matchmaker.Queue
import Pairline.Numerals
import Pairline.Whitespace

set_option relaxedAutoImplicit false
set_option autoImplicit false

namespace Sessions

open Matchmaker (SessionId allowedModes normalizeMode)
open Numerals

/-- The key of a session at a route. -/
def keyAt (head purpose tag : String) (sid : SessionId) : String := head ++ tag ++ purpose ++ sid

/-! ### The side that stores sessions -/

namespace RedisKeys

structure Route where
  mode : String
  shard : ℤ
  sessionId : SessionId

/-- A value of a map of preferences. -/
inductive Value
  | string (s : String)
  | atom (name : String)
  | other

/-- Preferences, with the two keys under which their mode is looked for. -/
structure Preferences where
  stringMode : Option Value
  atomMode : Option Value

/-- What a shard is hashed from. -/
inductive HashTerm
  | primary (mode : String) (sid : SessionId)
  | sharedMatchmaking (mode : String)

/-- The number of shards, which is at least one, and the hash of the runtime; it takes ranges up to
`2 ^ 32`, and with more shards than that no session is created. -/
structure Runtime where
  matchShardCount : ℕ
  phash2 : HashTerm → ℕ → ℕ
  matchShardCount_pos : 0 < matchShardCount
  matchShardCount_le : matchShardCount ≤ 2 ^ 32
  phash2_lt : ∀ term range, 0 < range → phash2 term range < range

/-- `normalize_mode`. -/
def Value.normalizeMode : Value → String
  | .string s | .atom s => Matchmaker.normalizeMode s
  | .other => "text"

def mode (preferences : Preferences) : String :=
  (preferences.stringMode.getD (preferences.atomMode.getD (.string "text"))).normalizeMode

variable (rt : Runtime)

def primaryShard (mode : String) (sid : SessionId) : ℕ :=
  rt.phash2 (.primary (normalizeMode mode) sid) rt.matchShardCount

def sharedMatchmakingShard (mode : String) : ℕ :=
  rt.phash2 (.sharedMatchmaking (normalizeMode mode)) rt.matchShardCount

/-- `normalize_shard`; a shard that is no number, or negative, falls back. -/
def normalizeShard (shard : Option ℤ) (mode : String) : ℤ :=
  match shard with
  | some n =>
      if 0 ≤ n then max (n.tmod rt.matchShardCount) 0 else primaryShard rt mode "fallback"
  | none => primaryShard rt mode "fallback"

/-- `route_for_session` of a record. -/
def routeForSession (sid : SessionId) (redisShard : Option ℤ) (preferences : Preferences) :
    Route where
  mode := mode preferences
  shard := normalizeShard rt redisShard (mode preferences)
  sessionId := sid

/-- `route_for_session` of a session that is to be created. -/
def routeForNewSession (sid : SessionId) (preferences : Preferences) : Route where
  mode := mode preferences
  shard := sharedMatchmakingShard rt (mode preferences)
  sessionId := sid

def candidateRoutes (sid : SessionId) : List Route :=
  allowedModes.flatMap fun mode =>
    (List.range rt.matchShardCount).map fun shard : ℕ => ⟨mode, shard, sid⟩

/-- The route to which `move_session_shard` brings the owner record. -/
def movedRoute (sid : SessionId) (preferences : Preferences) (newShard : ℤ) : Route where
  mode := mode preferences
  shard := (max newShard 0).tmod rt.matchShardCount
  sessionId := sid

def encodeLocator (route : Route) : String := route.mode ++ "|" ++ toString route.shard

inductive LocatorError
  | invalidLocator

/-- `Integer.parse`. -/
def parseInteger (l : List Char) : Option (ℤ × List Char) :=
  let (negative, digits) := sign l
  (digits? (digits.takeWhile Char.isDigit)).map fun n =>
    (signed negative n, digits.dropWhile Char.isDigit)

def decodeLocator (sid : SessionId) (locator : String) : Except LocatorError Route :=
  match cut '|' locator.toList with
  | none => .error .invalidLocator
  | some (mode, shardStr) =>
      if String.ofList mode ∈ allowedModes then
        match parseInteger shardStr with
        | some (shard, []) => .ok ⟨String.ofList mode, shard, sid⟩
        | _ => .error .invalidLocator
      else .error .invalidLocator

def tag (route : Route) : String :=
  "\x7b" ++ normalizeMode route.mode ++ ":" ++
    toString (normalizeShard rt (some route.shard) (normalizeMode route.mode)) ++ "\x7d"

def sessionLocatorKey (sid : SessionId) : String := "session:locator:" ++ sid

def sessionReportLocatorKey (sid : SessionId) : String := "session:report_locator:" ++ sid

def sessionReportKindKey (sid : SessionId) : String := "session:report_kind:" ++ sid

def sessionIpLocatorKey (sid : SessionId) : String := "session:ip_locator:" ++ sid

def sessionKey (sid : SessionId) (route : Route) : String :=
  keyAt "session:" ":data:" (tag rt route) sid

def sessionIpKey (sid : SessionId) (route : Route) : String :=
  keyAt "session:" ":ip:" (tag rt route) sid

def sessionTokenKey (sid : SessionId) (route : Route) : String :=
  keyAt "session:" ":token:" (tag rt route) sid

def sessionOwnerKey (sid : SessionId) (route : Route) : String :=
  keyAt "session:" ":owner:" (tag rt route) sid

def matchKey (sid : SessionId) (route : Route) : String := keyAt "match:" ":" (tag rt route) sid

def recentMatchKey (sid : SessionId) (route : Route) : String :=
  keyAt "recent_match:" ":" (tag rt route) sid

/-- **The routes that are ever stored.** -/
inductive Constructed : Route → Prop
  | session (sid : SessionId) (redisShard : Option ℤ) (preferences : Preferences) :
      Constructed (routeForSession rt sid redisShard preferences)
  | newSession (sid : SessionId) (preferences : Preferences) :
      Constructed (routeForNewSession rt sid preferences)
  | candidate {sid : SessionId} {route : Route} (h : route ∈ candidateRoutes rt sid) :
      Constructed route
  | moved (sid : SessionId) (preferences : Preferences) (newShard : ℤ) :
      Constructed (movedRoute rt sid preferences newShard)

end RedisKeys

/-! ### The side that looks sessions up -/

namespace Appredis

structure SessionRoute where
  mode : String
  shard : ℤ
  deriving DecidableEq

inductive RouteError
  | invalidSessionRoute

/-- `strconv.Atoi`, of a runtime with integers of 64 bits. -/
def atoi (l : List Char) : Option ℤ :=
  let (negative, digits) := sign l
  ((digits? digits).map (signed negative)).filter fun n => -2 ^ 63 ≤ n ∧ n < 2 ^ 63

def trimSpace (l : List Char) : List Char := Whitespace.trimList Whitespace.isSpace l

def decodeSessionRoute (locator : String) : Except RouteError SessionRoute :=
  match cut '|' locator.toList with
  | none => .error .invalidSessionRoute
  | some (first, second) =>
      let mode := String.ofList (trimSpace first)
      if mode ∈ allowedModes then
        match atoi (trimSpace second) with
        | some shard =>
            if shard < 0 then .error .invalidSessionRoute else .ok ⟨mode, shard⟩
        | none => .error .invalidSessionRoute
      else .error .invalidSessionRoute

/-- A route as it is sent on to the relay. -/
def encodeSessionRoute (r : SessionRoute) : String := r.mode ++ "|" ++ toString r.shard

namespace SessionRoute

def tag (r : SessionRoute) : String := "\x7b" ++ r.mode ++ ":" ++ toString r.shard ++ "\x7d"

end SessionRoute

def sessionLocatorKey (sid : SessionId) : String := "session:locator:" ++ sid

def sessionIPLocatorKey (sid : SessionId) : String := "session:ip_locator:" ++ sid

def sessionReportLocatorKey (sid : SessionId) : String := "session:report_locator:" ++ sid

def sessionReportKindKey (sid : SessionId) : String := "session:report_kind:" ++ sid

def sessionDataKey (sid : SessionId) (r : SessionRoute) : String :=
  keyAt "session:" ":data:" r.tag sid

def sessionIPKey (sid : SessionId) (r : SessionRoute) : String := keyAt "session:" ":ip:" r.tag sid

def sessionTokenKey (sid : SessionId) (r : SessionRoute) : String :=
  keyAt "session:" ":token:" r.tag sid

def sessionOwnerKey (sid : SessionId) (r : SessionRoute) : String :=
  keyAt "session:" ":owner:" r.tag sid

def matchKey (sid : SessionId) (r : SessionRoute) : String := keyAt "match:" ":" r.tag sid

def recentMatchKey (sid : SessionId) (r : SessionRoute) : String :=
  keyAt "recent_match:" ":" r.tag sid

end Appredis

/-! ### Modes and shards -/

theorem normalizeMode_mem (mode : String) : normalizeMode mode ∈ allowedModes := by
  unfold normalizeMode
  split
  · assumption
  · decide

theorem normalizeMode_eq_self {mode : String} (h : mode ∈ allowedModes) :
    normalizeMode mode = mode := if_pos h

/-- A mode has neither the separator nor white space in it. -/
theorem forall_mem_mode {mode : String} (h : mode ∈ allowedModes) :
    '|' ∉ mode.toList ∧ ∀ c ∈ mode.toList, Whitespace.isSpace c = false := by
  have hall : (allowedModes.all fun m => decide ('|' ∉ m.toList) &&
      m.toList.all fun c => !Whitespace.isSpace c) = true := by decide
  obtain ⟨hbar, hspace⟩ := Bool.and_eq_true_iff.1 (List.all_eq_true.1 hall mode h)
  refine ⟨of_decide_eq_true hbar, fun c hc => ?_⟩
  simpa using List.all_eq_true.1 hspace c hc

theorem trimSpace_toString (n : ℕ) :
    Appredis.trimSpace (toString n).toList = (toString n).toList := by
  refine Whitespace.trimList_eq_self _ fun c hc => ?_
  obtain ⟨hlow, hhigh⟩ := toNat_of_isDigit (isDigit_of_mem_toString hc)
  exact Whitespace.isSpace_of_visible (by omega) (by omega)

/-- What comes before the separator of a locator, and what comes after it. -/
theorem cut_locator {mode : String} (h : mode ∈ allowedModes) (n : ℕ) :
    cut '|' (mode ++ "|" ++ toString n).toList = some (mode.toList, (toString n).toList) := by
  have hlist : (mode ++ "|" ++ toString n).toList =
      mode.toList ++ '|' :: (toString n).toList := by
    simp [String.toList_append]
  rw [hlist]
  exact cut_append (forall_mem_mode h).1 _

namespace RedisKeys

variable {rt : Runtime} {route : Route}

theorem mode_mem (preferences : Preferences) : mode preferences ∈ allowedModes := by
  unfold mode
  cases preferences.stringMode.getD (preferences.atomMode.getD (.string "text")) with
  | string s => exact normalizeMode_mem s
  | atom s => exact normalizeMode_mem s
  | other => decide

/-- **A route that the store can hold**: an allowed mode, and one of the shards. -/
structure WellFormed (rt : Runtime) (route : Route) : Prop where
  mode : route.mode ∈ allowedModes
  shard : ∃ n : ℕ, route.shard = n ∧ n < rt.matchShardCount

variable (rt) in
theorem exists_tmod {n : ℤ} (h : 0 ≤ n) :
    ∃ m : ℕ, n.tmod rt.matchShardCount = m ∧ m < rt.matchShardCount := by
  obtain ⟨k, rfl⟩ := Int.eq_ofNat_of_zero_le h
  exact ⟨k % rt.matchShardCount, Int.tmod_eq_emod_of_nonneg h, Nat.mod_lt k rt.matchShardCount_pos⟩

theorem normalizeShard_lt (shard : Option ℤ) (mode : String) :
    ∃ n : ℕ, normalizeShard rt shard mode = n ∧ n < rt.matchShardCount := by
  have hprimary : primaryShard rt mode "fallback" < rt.matchShardCount :=
    rt.phash2_lt _ _ rt.matchShardCount_pos
  cases shard with
  | none => exact ⟨_, rfl, hprimary⟩
  | some n =>
      simp only [normalizeShard]
      split
      · rename_i hn
        obtain ⟨m, hm, hlt⟩ := exists_tmod rt hn
        exact ⟨m, by rw [hm]; omega, hlt⟩
      · exact ⟨_, rfl, hprimary⟩

/-- Every route that is ever stored is well formed. -/
theorem Constructed.wellFormed (h : Constructed rt route) : WellFormed rt route := by
  cases h with
  | session sid redisShard preferences =>
      exact ⟨mode_mem preferences, normalizeShard_lt redisShard _⟩
  | newSession sid preferences =>
      exact ⟨mode_mem preferences, _, rfl, rt.phash2_lt _ _ rt.matchShardCount_pos⟩
  | candidate h =>
      obtain ⟨mode, hmode, hrest⟩ := List.mem_flatMap.1 h
      obtain ⟨shard, hshard, rfl⟩ := List.mem_map.1 hrest
      exact ⟨hmode, shard, rfl, List.mem_range.1 hshard⟩
  | moved sid preferences newShard =>
      exact ⟨mode_mem preferences, exists_tmod rt (Int.le_max_right newShard 0)⟩

theorem parseInteger_toString (n : ℕ) :
    parseInteger (toString n).toList = some ((n : ℤ), []) := by
  obtain ⟨htake, hdrop⟩ := takeWhile_isDigit_toString n
  simp only [parseInteger, sign_toString, htake, hdrop, digits?_toString, Option.map_some]
  rfl

/-- **The side that stores a session reads its own locator.** -/
theorem decodeLocator_encodeLocator (h : WellFormed rt route) :
    decodeLocator route.sessionId (encodeLocator route) = .ok route := by
  obtain ⟨hmode, n, hn, -⟩ := h
  obtain ⟨mode, shard, sid⟩ := route
  obtain rfl : shard = n := hn
  have hcut : cut '|' (encodeLocator ⟨mode, n, sid⟩).toList =
      some (mode.toList, (toString n).toList) := cut_locator hmode n
  simp only [decodeLocator, hcut, String.ofList_toList, if_pos hmode, parseInteger_toString]

/-- The tag of a well-formed route is made of its own mode and shard. -/
theorem tag_eq (h : WellFormed rt route) : tag rt route =
    "\x7b" ++ route.mode ++ ":" ++ toString route.shard ++ "\x7d" := by
  obtain ⟨hmode, n, hn, hlt⟩ := h
  have hshard : normalizeShard rt (some route.shard) (normalizeMode route.mode) = route.shard := by
    rw [hn]
    have hmod : (n : ℤ).tmod rt.matchShardCount = n := by
      rw [Int.tmod_eq_emod_of_nonneg (Int.natCast_nonneg n)]
      exact_mod_cast Nat.mod_eq_of_lt hlt
    have hnonneg := Int.natCast_nonneg n
    simp only [normalizeShard, if_pos hnonneg, hmod]
    omega
  rw [tag, hshard, normalizeMode_eq_self hmode]

end RedisKeys

namespace Appredis

/-- A route with an allowed mode, and a shard that fits into an integer. -/
structure Valid (r : SessionRoute) : Prop where
  mode : r.mode ∈ allowedModes
  shard : ∃ n : ℕ, r.shard = n ∧ n < 2 ^ 63

theorem atoi_toString {n : ℕ} (h : n < 2 ^ 63) : atoi (toString n).toList = some (n : ℤ) := by
  have hbounds : -2 ^ 63 ≤ signed false n ∧ signed false n < 2 ^ 63 := by
    simp only [signed, Bool.false_eq_true, if_false]
    omega
  simp only [atoi, sign_toString, digits?_toString, Option.map_some, Option.filter_some,
    decide_eq_true hbounds, if_true]
  rfl

theorem decodeSessionRoute_locator {mode : String} (hmode : mode ∈ allowedModes) {n : ℕ}
    (hn : n < 2 ^ 63) : decodeSessionRoute (mode ++ "|" ++ toString n) = .ok ⟨mode, n⟩ := by
  have htrim : trimSpace mode.toList = mode.toList :=
    Whitespace.trimList_eq_self _ (forall_mem_mode hmode).2
  have hnonneg : ¬ (n : ℤ) < 0 := Int.not_lt.2 (Int.natCast_nonneg n)
  simp only [decodeSessionRoute, cut_locator hmode, htrim, String.ofList_toList, if_pos hmode,
    trimSpace_toString, atoi_toString hn, if_neg hnonneg]

/-- What is decoded is valid. -/
theorem valid_of_decode {locator : String} {r : SessionRoute}
    (h : decodeSessionRoute locator = .ok r) : Valid r := by
  simp only [decodeSessionRoute] at h
  split at h
  · cases h
  · split at h
    · rename_i hmode
      split at h
      · rename_i shard hshard
        split at h
        · cases h
        · rename_i hneg
          cases h
          obtain ⟨-, hbounds⟩ := Option.filter_eq_some_iff.1 hshard
          obtain ⟨n, hn⟩ := Int.eq_ofNat_of_zero_le (Int.not_lt.1 hneg)
          refine ⟨hmode, n, hn, ?_⟩
          have hlt := (of_decide_eq_true hbounds).2
          omega
      · cases h
    · cases h

/-- **The side that looks a session up reads what it sends on.** -/
theorem decodeSessionRoute_encode {r : SessionRoute} (h : Valid r) :
    decodeSessionRoute (encodeSessionRoute r) = .ok r := by
  obtain ⟨hmode, n, hn, hlt⟩ := h
  obtain ⟨mode, shard⟩ := r
  obtain rfl : shard = n := hn
  exact decodeSessionRoute_locator hmode hlt

end Appredis

/-! ### Both sides -/

/-- **The keys of the two sides for a session.** -/
structure SameKeys (rt : RedisKeys.Runtime) (route : RedisKeys.Route) (r : Appredis.SessionRoute)
    (sid : SessionId) : Prop where
  locator : Appredis.sessionLocatorKey sid = RedisKeys.sessionLocatorKey sid
  ipLocator : Appredis.sessionIPLocatorKey sid = RedisKeys.sessionIpLocatorKey sid
  reportLocator : Appredis.sessionReportLocatorKey sid = RedisKeys.sessionReportLocatorKey sid
  reportKind : Appredis.sessionReportKindKey sid = RedisKeys.sessionReportKindKey sid
  data : Appredis.sessionDataKey sid r = RedisKeys.sessionKey rt sid route
  ip : Appredis.sessionIPKey sid r = RedisKeys.sessionIpKey rt sid route
  token : Appredis.sessionTokenKey sid r = RedisKeys.sessionTokenKey rt sid route
  owner : Appredis.sessionOwnerKey sid r = RedisKeys.sessionOwnerKey rt sid route
  matched : Appredis.matchKey sid r = RedisKeys.matchKey rt sid route
  recentMatch : Appredis.recentMatchKey sid r = RedisKeys.recentMatchKey rt sid route

/-- Keys differ in their tags only. -/
theorem sameKeys_of_tag {rt : RedisKeys.Runtime} {route : RedisKeys.Route}
    {r : Appredis.SessionRoute} (h : r.tag = RedisKeys.tag rt route) (sid : SessionId) :
    SameKeys rt route r sid where
  locator := rfl
  ipLocator := rfl
  reportLocator := rfl
  reportKind := rfl
  data := congrArg (keyAt _ _ · sid) h
  ip := congrArg (keyAt _ _ · sid) h
  token := congrArg (keyAt _ _ · sid) h
  owner := congrArg (keyAt _ _ · sid) h
  matched := congrArg (keyAt _ _ · sid) h
  recentMatch := congrArg (keyAt _ _ · sid) h

/-- **Both sides agree on routes and keys**: each reads the locator of a route that is stored as that
route, the keys are the same for every session id, and what one side sends on is read again. -/
theorem sameKeys_of_constructed (rt : RedisKeys.Runtime) {route : RedisKeys.Route}
    (h : RedisKeys.Constructed rt route) :
    RedisKeys.decodeLocator route.sessionId (RedisKeys.encodeLocator route) = .ok route ∧
    Appredis.decodeSessionRoute (RedisKeys.encodeLocator route) = .ok ⟨route.mode, route.shard⟩ ∧
    Appredis.decodeSessionRoute (Appredis.encodeSessionRoute ⟨route.mode, route.shard⟩) =
      .ok ⟨route.mode, route.shard⟩ ∧
    ∀ sid, SameKeys rt route ⟨route.mode, route.shard⟩ sid := by
  have hroute := h.wellFormed
  obtain ⟨hmode, n, hn, hlt⟩ := h.wellFormed
  have hvalid : Appredis.Valid ⟨route.mode, route.shard⟩ :=
    ⟨hmode, n, hn, lt_of_lt_of_le hlt (rt.matchShardCount_le.trans (by decide))⟩
  have hdecode := Appredis.decodeSessionRoute_encode hvalid
  exact ⟨RedisKeys.decodeLocator_encodeLocator hroute, hdecode, hdecode,
    sameKeys_of_tag (RedisKeys.tag_eq hroute).symm⟩

section Example

/-- Twelve shards, and a hash that is always seven. -/
def twelveShards : RedisKeys.Runtime where
  matchShardCount := 12
  phash2 _ range := 7 % range
  matchShardCount_pos := by decide
  matchShardCount_le := by decide
  phash2_lt _ _ h := Nat.mod_lt 7 h

theorem videoRoute_sameKeys :
    Appredis.decodeSessionRoute (RedisKeys.encodeLocator
        (RedisKeys.routeForNewSession twelveShards "a|b: c" ⟨some (.atom "video"), none⟩)) =
      .ok ⟨"video", 7⟩ :=
  (sameKeys_of_constructed twelveShards
    (.newSession "a|b: c" ⟨some (.atom "video"), none⟩)).2.1

end Example

end Sessions
