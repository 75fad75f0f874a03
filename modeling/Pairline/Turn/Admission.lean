/-
**Who is admitted to the relay.**

A session is admitted on the ground of six lookups: a script that reads its token, its record, its
address and its match, the ban of the session, the ban of the address, the route of its partner, and a
script that reads the record and the match of the partner.  Each may fail, and a script may reply with
anything.  What is read off a reply that is not what it should be is nothing, and nothing admits.

Main definitions:

* `Turn.Admission.Lookup` — the lookups, and what they reply;
* `Turn.Admission.validateMatchedRouteSession` — the validation, as a program over them;
* `Turn.Admission.answer` — the answers of a store of which any lookups fail;
* `Turn.Admission.Admitted` — what has to hold of the store;
* `Turn.Admission.Agree` — a program over the typed replies of a store ends as one over these.

Main results:

* `Turn.Admission.validateMatchedRouteSession_eq_ok` — what the replies are when a session is admitted;
* `Turn.Admission.agree_validateMatchedRouteSession` — where no lookup fails, this is the validation of
  the control plane;
* `Turn.Admission.validateMatchedRouteSession_failClosed` — **a session is admitted only if everything
  that admits it holds of the store; a lookup that fails, or a script that replies with no list, is an
  error; and the ban of an address comes before what the partner's lookup says**.
-/

import Pairline.Turn.BannedIPs

set_option relaxedAutoImplicit false
set_option autoImplicit false

namespace Turn.Admission

open Whitespace (trim)
open Sessions.Appredis
open Control (Sentinel GoError RouteLookup ValidationResult banSessionKey banIPKey
  validationErrorWithSessionIP)
open BannedIPs (RedisValue redisValueSlice)

/-! ### Replies -/

/-- `redisValueAsString`; without a value it is the empty string. -/
def redisValueAsString (values : List (RedisValue String)) (index : ℕ) : String :=
  match values[index]? with
  | some (.string value) => value
  | _ => ""

def redisValueAsBool (values : List (RedisValue String)) (index : ℕ) : Bool :=
  match values[index]? with
  | some (.int value) => 0 < value
  | some (.string value) => trim value ≠ "" && value ≠ "0"
  | _ => false

/-! ### Lookups -/

inductive Lookup
  | sessionSnapshot (tokenKey dataKey ipKey matchKey : String)
  | sessionBan (key : String)
  | peerLocator (key : String)
  | ipBan (key : String)
  | peerSnapshot (dataKey matchKey : String)
  deriving DecidableEq

abbrev Lookup.Reply : Lookup → Type
  | .sessionSnapshot _ _ _ _ | .peerSnapshot _ _ => RedisValue String
  | .sessionBan _ | .ipBan _ => ℤ
  | .peerLocator _ => Option String

inductive LookupError
  | failed

abbrev Prog (α : Type) := Program Lookup.Reply LookupError α

/-- `ResolveSessionRoute`, of what is found under the locator. -/
def RouteLookup.ofLocator : Except LookupError (Option String) → RouteLookup
  | .error _ => .failed
  | .ok none => .notFound
  | .ok (some locator) =>
      match decodeSessionRoute locator with
      | .ok route => .found route
      | .error _ => .failed

def fail (cause : Sentinel) : Prog (Except GoError ValidationResult) :=
  .ret (.error (.sentinel cause))

/-! ### Validation -/

/-- What is made of the peer's values. -/
def checkPeer (result : ValidationResult) :
    Except LookupError (RedisValue String) → Prog (Except GoError ValidationResult)
  | .error _ => fail .validationBackend
  | .ok peerValues =>
      match redisValueSlice peerValues with
      | none => fail .validationBackend
      | some peerSnapshot =>
          if redisValueAsBool peerSnapshot 0 = false then fail .sessionUnmatched
          else if trim (redisValueAsString peerSnapshot 1) ≠ result.sessionID then
            fail .sessionUnmatched
          else .ret (.ok result)

/-- The task that looks for the ban of the address, which is there only if there is an address. -/
def lookupIPBan (sessionIP : String) : Prog (Except LookupError ℤ) :=
  if sessionIP = "" then .ret (.ok 0) else Program.command (Lookup.ipBan (banIPKey sessionIP))

/-- What is made of the route of the peer and the ban of the address. -/
def checkPeerRoute (result : ValidationResult) (peerRoute : RouteLookup)
    (ipBanned : Except LookupError ℤ) : Prog (Except GoError ValidationResult) :=
  if 0 < ipBanned.toOption.getD 0 then
    .ret (.error (validationErrorWithSessionIP (.sentinel .sessionBanned) result.sessionIP))
  else
    match peerRoute, ipBanned with
    | .notFound, _ => fail .sessionUnmatched
    | .found peerRoute, .ok _ =>
        .call (.peerSnapshot (sessionDataKey result.matchedID peerRoute)
          (matchKey result.matchedID peerRoute)) (checkPeer result)
    | _, _ => fail .validationBackend

/-- What is made of the session's own values. -/
def checkSession (route : SessionRoute) (sessionID : String) (tokenMatches : String → Bool)
    (sessionSnapshot : List (RedisValue String)) (sessionBannedCnt : ℤ) :
    Prog (Except GoError ValidationResult) :=
  let expectedToken := redisValueAsString sessionSnapshot 0
  let sessionIP := trim (redisValueAsString sessionSnapshot 2)
  let matchedID := redisValueAsString sessionSnapshot 3
  if expectedToken = "" then fail .sessionInactive
  else if tokenMatches expectedToken = false then fail .invalidSessionIdentity
  else if redisValueAsBool sessionSnapshot 1 = false then fail .sessionInactive
  else if 0 < sessionBannedCnt then
    .ret (.error (validationErrorWithSessionIP (.sentinel .sessionBanned) sessionIP))
  else if trim matchedID = "" then fail .sessionUnmatched
  else
    .call (.peerLocator (sessionLocatorKey matchedID)) fun locator =>
      (lookupIPBan sessionIP).bind fun ipBanned =>
        checkPeerRoute ⟨sessionID, route, matchedID, sessionIP⟩ (RouteLookup.ofLocator locator)
          ipBanned

/-- What is made of the two replies that come first. -/
def checkReplies (route : SessionRoute) (sessionID : String) (tokenMatches : String → Bool) :
    Except LookupError (RedisValue String) → Except LookupError ℤ →
      Prog (Except GoError ValidationResult)
  | .ok sessionValues, .ok sessionBannedCnt =>
      match redisValueSlice sessionValues with
      | none => fail .validationBackend
      | some sessionSnapshot =>
          checkSession route sessionID tokenMatches sessionSnapshot sessionBannedCnt
  | _, _ => fail .validationBackend

/-- The lookup of the session's own values. -/
abbrev sessionSnapshotOf (route : SessionRoute) (sessionID : String) : Lookup :=
  .sessionSnapshot (sessionTokenKey sessionID route) (sessionDataKey sessionID route)
    (sessionIPKey sessionID route) (matchKey sessionID route)

/-- **The validation of a session**, whose token the caller compares with the one presented. -/
def validateMatchedRouteSession (route : SessionRoute) (sessionID : String)
    (tokenMatches : String → Bool) : Prog (Except GoError ValidationResult) :=
  .call (sessionSnapshotOf route sessionID) fun sessionValues =>
    .call (.sessionBan (banSessionKey sessionID)) fun sessionBannedCnt =>
      checkReplies route sessionID tokenMatches sessionValues sessionBannedCnt

/-! ### The store -/

/-- `EXISTS`, as a number. -/
def existing (value : Option String) : ℤ := if value.isSome then 1 else 0

/-- The reply of a store with these strings. -/
def reply (strings : String → Option String) : (c : Lookup) → c.Reply
  | .sessionSnapshot tokenKey dataKey ipKey matchKey =>
      .slice [.string ((strings tokenKey).getD ""), .int (existing (strings dataKey)),
        .string ((strings ipKey).getD ""), .string ((strings matchKey).getD "")]
  | .sessionBan key | .ipBan key => existing (strings key)
  | .peerLocator key => strings key
  | .peerSnapshot dataKey matchKey =>
      .slice [.int (existing (strings dataKey)), .string ((strings matchKey).getD "")]

/-- **The answers of a store, some of which fail.** -/
def answer (strings : String → Option String) (fails : Lookup → Bool) (c : Lookup) :
    Except LookupError c.Reply :=
  if fails c then .error .failed else .ok (reply strings c)

/-- **What admits a session** that presents a token. -/
structure Admitted (strings : String → Option String) (route : SessionRoute)
    (sessionID presented : String) : Prop where
  token : strings (sessionTokenKey sessionID route) = some presented
  record : (strings (sessionDataKey sessionID route)).isSome
  notBanned : strings (banSessionKey sessionID) = none
  addressNotBanned : ∀ sessionIP, strings (sessionIPKey sessionID route) = some sessionIP →
    trim sessionIP ≠ "" → strings (banIPKey (trim sessionIP)) = none
  partner : ∃ matchedID locator peerRoute back,
    strings (matchKey sessionID route) = some matchedID ∧ trim matchedID ≠ "" ∧
    strings (sessionLocatorKey matchedID) = some locator ∧
    decodeSessionRoute locator = .ok peerRoute ∧
    (strings (sessionDataKey matchedID peerRoute)).isSome ∧
    strings (matchKey matchedID peerRoute) = some back ∧ trim back = sessionID

/-- An answer that the validation can go on with: a reply, and of a script a list. -/
def usable : (c : Lookup) → Except LookupError c.Reply → Prop
  | .sessionSnapshot _ _ _ _, reply | .peerSnapshot _ _, reply => ∃ values, reply = .ok (.slice values)
  | .sessionBan _, reply | .ipBan _, reply => ∃ count : ℤ, reply = .ok count
  | .peerLocator _, reply => ∃ locator : Option String, reply = .ok locator

/-! ### What an admission has seen -/

section Replies

variable {answer : (c : Lookup) → Except LookupError c.Reply} {result result' : ValidationResult}

theorem fail_ne_ok {cause : Sentinel} : (fail cause).answered answer ≠ .ok result := by
  intro h
  cases h

/-- The peer's values let a session in when they name it. -/
theorem checkPeer_eq_ok {peerValues : Except LookupError (RedisValue String)}
    (h : (checkPeer result peerValues).answered answer = .ok result') :
    result' = result ∧ ∃ peerSnapshot, peerValues = .ok (.slice peerSnapshot) ∧
      redisValueAsBool peerSnapshot 0 = true ∧
      trim (redisValueAsString peerSnapshot 1) = result.sessionID := by
  cases peerValues with
  | error e => exact absurd h fail_ne_ok
  | ok peerValues =>
      cases peerValues with
      | slice peerSnapshot =>
          simp only [checkPeer, redisValueSlice] at h
          split_ifs at h with hexists hback
          · exact absurd h fail_ne_ok
          · exact absurd h fail_ne_ok
          · refine ⟨(Except.ok.inj h).symm, peerSnapshot, rfl, ?_, not_not.1 hback⟩
            exact Bool.eq_true_of_not_eq_false hexists
      | null => exact absurd h fail_ne_ok
      | int n => exact absurd h fail_ne_ok
      | string s => exact absurd h fail_ne_ok
      | other => exact absurd h fail_ne_ok

theorem checkPeer_asked (result : ValidationResult)
    (peerValues : Except LookupError (RedisValue String)) :
    (checkPeer result peerValues).asked answer = [] := by
  cases peerValues with
  | error e => rfl
  | ok peerValues =>
      cases peerValues with
      | slice peerSnapshot =>
          simp only [checkPeer, redisValueSlice]
          split_ifs <;> rfl
      | null => rfl
      | int n => rfl
      | string s => rfl
      | other => rfl

/-- The lookup of the peer's values. -/
abbrev peerSnapshotOf (matchedID : String) (peerRoute : SessionRoute) : Lookup :=
  .peerSnapshot (sessionDataKey matchedID peerRoute) (matchKey matchedID peerRoute)

theorem checkPeerRoute_eq_ok {peerRoute : RouteLookup} {ipBanned : Except LookupError ℤ}
    (h : (checkPeerRoute result peerRoute ipBanned).answered answer = .ok result') :
    result' = result ∧ ∃ route count peerSnapshot, peerRoute = .found route ∧
      ipBanned = .ok count ∧ count ≤ 0 ∧
      answer (peerSnapshotOf result.matchedID route) = .ok (.slice peerSnapshot) ∧
      redisValueAsBool peerSnapshot 0 = true ∧
      trim (redisValueAsString peerSnapshot 1) = result.sessionID ∧
      (checkPeerRoute result peerRoute ipBanned).asked answer =
        [peerSnapshotOf result.matchedID route] := by
  unfold checkPeerRoute at h ⊢
  by_cases hban : 0 < ipBanned.toOption.getD 0
  · rw [if_pos hban] at h
    cases h
  · rw [if_neg hban] at h ⊢
    cases peerRoute with
    | notFound => exact absurd h fail_ne_ok
    | failed => exact absurd h fail_ne_ok
    | found route =>
        cases ipBanned with
        | error e => exact absurd h fail_ne_ok
        | ok count =>
            obtain ⟨hresult, peerSnapshot, hvalues, hrest⟩ := checkPeer_eq_ok h
            refine ⟨hresult, route, count, peerSnapshot, rfl, rfl, not_lt.1 hban, hvalues, hrest.1,
              hrest.2, ?_⟩
            rw [Program.asked_call, checkPeer_asked]

theorem ofLocator_eq_found {locator : Except LookupError (Option String)} {route : SessionRoute}
    (h : RouteLookup.ofLocator locator = .found route) :
    ∃ text, locator = .ok (some text) ∧ decodeSessionRoute text = .ok route := by
  cases locator with
  | error e => cases h
  | ok locator =>
      cases locator with
      | none => cases h
      | some text =>
          refine ⟨text, rfl, ?_⟩
          rw [RouteLookup.ofLocator] at h
          cases hdecode : decodeSessionRoute text with
          | error e =>
              rw [hdecode] at h
              cases h
          | ok route' =>
              rw [hdecode] at h
              cases h
              rfl

/-- The address of a session that is let in has no ban, if there is an address. -/
theorem lookupIPBan_answered {sessionIP : String} {count : ℤ}
    (h : (lookupIPBan sessionIP).answered answer = .ok count) (hcount : count ≤ 0) :
    (sessionIP ≠ "" → ∃ count : ℤ, answer (.ipBan (banIPKey sessionIP)) = .ok count ∧ count ≤ 0) ∧
      ∀ c ∈ (lookupIPBan sessionIP).asked answer, usable c (answer c) := by
  unfold lookupIPBan at h ⊢
  by_cases hip : sessionIP = ""
  · rw [if_pos hip]
    exact ⟨fun hne => absurd hip hne, fun c hc => absurd hc List.not_mem_nil⟩
  · rw [if_neg hip] at h ⊢
    refine ⟨fun _ => ⟨count, h, hcount⟩, fun c hc => ?_⟩
    obtain rfl := List.mem_singleton.1 hc
    exact ⟨count, h⟩

/-- **What a session that is let in has been found to have.** -/
structure Seen (answer : (c : Lookup) → Except LookupError c.Reply) (route : SessionRoute)
    (sessionID : String) (tokenMatches : String → Bool) (values : List (RedisValue String))
    (result : ValidationResult) : Prop where
  token : redisValueAsString values 0 ≠ ""
  tokenMatches : tokenMatches (redisValueAsString values 0) = true
  record : redisValueAsBool values 1 = true
  values : result = ⟨sessionID, route, redisValueAsString values 3,
    trim (redisValueAsString values 2)⟩
  matched : trim result.matchedID ≠ ""
  address : result.sessionIP ≠ "" →
    ∃ count : ℤ, answer (.ipBan (banIPKey result.sessionIP)) = .ok count ∧ count ≤ 0
  partner : ∃ locator peerRoute peerSnapshot,
    answer (.peerLocator (sessionLocatorKey result.matchedID)) = .ok (some locator) ∧
    decodeSessionRoute locator = .ok peerRoute ∧
    answer (peerSnapshotOf result.matchedID peerRoute) = .ok (.slice peerSnapshot) ∧
    redisValueAsBool peerSnapshot 0 = true ∧
    trim (redisValueAsString peerSnapshot 1) = sessionID

variable {route : SessionRoute} {sessionID : String} {tokenMatches : String → Bool}

/-- The checks of a session that is let in have seen all of this, and its lookups were answered. -/
theorem checkSession_eq_ok {values : List (RedisValue String)} {sessionBannedCnt : ℤ}
    (h : (checkSession route sessionID tokenMatches values sessionBannedCnt).answered answer =
      .ok result) :
    sessionBannedCnt ≤ 0 ∧ Seen answer route sessionID tokenMatches values result ∧
      ∀ c ∈ (checkSession route sessionID tokenMatches values sessionBannedCnt).asked answer,
        usable c (answer c) := by
  unfold checkSession at h ⊢
  dsimp only at h ⊢
  split_ifs at h ⊢ with htoken hmatches hrecord hbanned hmatched
  · exact absurd h fail_ne_ok
  · exact absurd h fail_ne_ok
  · exact absurd h fail_ne_ok
  · cases h
  · exact absurd h fail_ne_ok
  · rw [Program.answered_call, Program.answered_bind] at h
    obtain ⟨rfl, peerRoute, count, peerSnapshot, hfound, hcount, hle, hpeer, hexists, hback, hasked⟩ :=
      checkPeerRoute_eq_ok h
    obtain ⟨locator, hlocator, hdecode⟩ := ofLocator_eq_found hfound
    obtain ⟨haddress, husable⟩ := lookupIPBan_answered hcount hle
    refine ⟨not_lt.1 hbanned, ⟨htoken, Bool.eq_true_of_not_eq_false hmatches,
      Bool.eq_true_of_not_eq_false hrecord, rfl, hmatched, haddress, locator, peerRoute,
      peerSnapshot, hlocator, hdecode, hpeer, hexists, hback⟩, fun c hc => ?_⟩
    rw [Program.asked_call, Program.asked_bind, hasked, List.mem_cons, List.mem_append,
      List.mem_singleton] at hc
    rcases hc with rfl | hc | rfl
    · exact ⟨some locator, hlocator⟩
    · exact husable c hc
    · exact ⟨peerSnapshot, hpeer⟩

/-- **The replies when a session is let in**: every lookup is answered, the scripts with lists, and
what they say admits the session. -/
theorem validateMatchedRouteSession_eq_ok
    (h : (validateMatchedRouteSession route sessionID tokenMatches).answered answer = .ok result) :
    ∃ values, answer (sessionSnapshotOf route sessionID) = .ok (.slice values) ∧
      (∃ count : ℤ, answer (.sessionBan (banSessionKey sessionID)) = .ok count ∧ count ≤ 0) ∧
      Seen answer route sessionID tokenMatches values result ∧
      ∀ c ∈ (validateMatchedRouteSession route sessionID tokenMatches).asked answer,
        usable c (answer c) := by
  rw [validateMatchedRouteSession] at h ⊢
  rw [Program.answered_call, Program.answered_call] at h
  rw [Program.asked_call, Program.asked_call]
  cases hsnapshot : answer (sessionSnapshotOf route sessionID) with
  | error e =>
      rw [hsnapshot] at h
      exact absurd h fail_ne_ok
  | ok sessionValues =>
      cases hban : answer (.sessionBan (banSessionKey sessionID)) with
      | error e =>
          rw [hsnapshot, hban] at h
          exact absurd h fail_ne_ok
      | ok count =>
          rw [hsnapshot, hban] at h
          cases sessionValues with
          | slice values =>
              obtain ⟨hcount, hseen, husable⟩ := checkSession_eq_ok h
              refine ⟨values, rfl, ⟨count, rfl, hcount⟩, hseen, fun c hc => ?_⟩
              rw [List.mem_cons, List.mem_cons] at hc
              rcases hc with rfl | rfl | hc
              · exact ⟨values, hsnapshot⟩
              · exact ⟨count, hban⟩
              · exact husable c hc
          | null => exact absurd h fail_ne_ok
          | int n => exact absurd h fail_ne_ok
          | string s => exact absurd h fail_ne_ok
          | other => exact absurd h fail_ne_ok

/-- **A banned address is what is reported once the session's own checks have passed**, whatever the
lookup of the peer says. -/
theorem checkSession_ipBanned {values : List (RedisValue String)} {sessionBannedCnt count : ℤ}
    (htoken : redisValueAsString values 0 ≠ "")
    (hmatches : tokenMatches (redisValueAsString values 0) = true)
    (hrecord : redisValueAsBool values 1 = true) (hbanned : sessionBannedCnt ≤ 0)
    (hmatched : trim (redisValueAsString values 3) ≠ "")
    (hip : trim (redisValueAsString values 2) ≠ "")
    (hban : answer (.ipBan (banIPKey (trim (redisValueAsString values 2)))) = .ok count)
    (hcount : 0 < count) :
    (checkSession route sessionID tokenMatches values sessionBannedCnt).answered answer =
      .error (.validation .sessionBanned (trim (redisValueAsString values 2))) := by
  unfold checkSession
  dsimp only
  rw [if_neg htoken, if_neg (by simpa using hmatches), if_neg (by simpa using hrecord),
    if_neg (not_lt.2 hbanned), if_neg hmatched, Program.answered_call, Program.answered_bind]
  have hlookup : (lookupIPBan (trim (redisValueAsString values 2))).answered answer = .ok count := by
    rw [lookupIPBan, if_neg hip]
    exact hban
  have htrim : trim (trim (redisValueAsString values 2)) ≠ "" := by
    rw [Whitespace.trim_trim]
    exact hip
  have hbanned : 0 < (Except.ok count : Except LookupError ℤ).toOption.getD 0 := hcount
  rw [hlookup]
  unfold checkPeerRoute
  rw [if_pos hbanned, Program.answered_ret, validationErrorWithSessionIP, if_neg htrim,
    Whitespace.trim_trim]
  rfl

end Replies

/-! ### What holds of the store -/

section Stored

variable {strings : String → Option String} {fails : Lookup → Bool} {route : SessionRoute}
  {sessionID presented : String} {result : ValidationResult}

theorem answer_eq_ok {c : Lookup} {value : c.Reply} (h : answer strings fails c = .ok value) :
    reply strings c = value := by
  unfold answer at h
  split_ifs at h
  exact Except.ok.inj h

theorem existing_le_zero {value : Option String} (h : existing value ≤ 0) : value = none := by
  cases value with
  | none => rfl
  | some value => exact absurd h (by simp [existing])

theorem isSome_of_existing {value : Option String} (h : 0 < existing value) : value.isSome := by
  cases value with
  | none => exact absurd h (by decide)
  | some value => rfl

theorem eq_some_of_getD {value : Option String} {text : String} (h : value.getD "" = text)
    (hne : text ≠ "") : value = some text := by
  cases value with
  | none => exact absurd h.symm hne
  | some value => exact congrArg some h

/-- **A session that the store lets in is admitted by what the store holds.** -/
theorem admitted_of_ok (hid : sessionID ≠ "")
    (h : (validateMatchedRouteSession route sessionID fun expectedToken =>
      expectedToken = presented).answered (answer strings fails) = .ok result) :
    Admitted strings route sessionID presented := by
  obtain ⟨values, hvalues, ⟨count, hcount, hle⟩, hseen, -⟩ := validateMatchedRouteSession_eq_ok h
  obtain rfl := RedisValue.slice.inj (answer_eq_ok hvalues)
  obtain rfl := answer_eq_ok hcount
  obtain ⟨htoken, hmatches, hrecord, rfl, hmatched, haddress, locator, peerRoute, peerSnapshot,
    hlocator, hdecode, hpeer, hexists, hback⟩ := hseen
  obtain rfl := RedisValue.slice.inj (answer_eq_ok hpeer)
  have hpresented : (strings (sessionTokenKey sessionID route)).getD "" = presented :=
    of_decide_eq_true hmatches
  refine ⟨eq_some_of_getD hpresented (hpresented ▸ htoken),
    isSome_of_existing (of_decide_eq_true hrecord), existing_le_zero hle, ?_, ?_⟩
  · intro sessionIP hsessionIP hne
    have hip : trim ((strings (sessionIPKey sessionID route)).getD "") = trim sessionIP := by
      rw [hsessionIP]
      rfl
    obtain ⟨banned, hbanned, hnone⟩ := haddress (hip.trans_ne hne)
    obtain rfl := answer_eq_ok hbanned
    exact existing_le_zero (hip ▸ hnone)
  · have hne : ∀ {value : Option String}, trim (value.getD "") ≠ "" → value = some (value.getD "") := by
      intro value hvalue
      cases value with
      | none => exact absurd rfl hvalue
      | some value => rfl
    exact ⟨_, locator, peerRoute, _, hne hmatched, hmatched, answer_eq_ok hlocator, hdecode,
      isSome_of_existing (of_decide_eq_true hexists), hne (hback.trans_ne hid), hback⟩

end Stored

/-! ### The typed replies -/

section Typed

/-- A program over the typed replies of a store, and one over these, end alike. -/
def Agree {α : Type} (s : Control.Store) (p : Control.Prog α) (p' : Prog α) : Prop :=
  p.run Control.Store.exec s = (p'.answered (answer s.strings fun _ => false), s)

theorem Agree.ite {α : Type} {s : Control.Store} {p q : Control.Prog α} {p' q' : Prog α}
    {c c' : Prop} [Decidable c] [Decidable c'] (hc : c ↔ c') (hp : Agree s p p')
    (hq : Agree s q q') : Agree s (if c then p else q) (if c' then p' else q') := by
  by_cases h : c
  · rw [if_pos h, if_pos (hc.1 h)]
    exact hp
  · rw [if_neg h, if_neg (mt hc.2 h)]
    exact hq

theorem existing_pos (value : Option String) : 0 < existing value ↔ value.isSome = true := by
  cases value <;> simp [existing]

theorem isSome_eq_false_iff (value : Option String) :
    value.isSome = false ↔ decide (0 < existing value) = false := by
  rw [decide_eq_false_iff_not, existing_pos, Bool.not_eq_true]

theorem agree_validatePeer (s : Control.Store) (peerRoute : SessionRoute)
    (result : ValidationResult) :
    Agree s (Control.validatePeer result.sessionID result.matchedID peerRoute result)
      (.call (peerSnapshotOf result.matchedID peerRoute) (checkPeer result)) := by
  have hchecks : Agree s
      (if (s.strings (sessionDataKey result.matchedID peerRoute)).isSome = false then
        Control.fail .sessionUnmatched
      else if trim ((s.strings (matchKey result.matchedID peerRoute)).getD "") ≠ result.sessionID then
        Control.fail .sessionUnmatched
      else .ret (.ok result))
      (if decide (0 < existing (s.strings (sessionDataKey result.matchedID peerRoute))) = false then
        fail .sessionUnmatched
      else if trim ((s.strings (matchKey result.matchedID peerRoute)).getD "") ≠ result.sessionID then
        fail .sessionUnmatched
      else .ret (.ok result)) :=
    .ite (isSome_eq_false_iff _) rfl (.ite Iff.rfl rfl rfl)
  exact hchecks

theorem run_lookupBannedIP (s : Control.Store) (sessionIP : String) :
    ∃ banned count, (Control.lookupBannedIP sessionIP).run Control.Store.exec s = (.ok banned, s) ∧
      (lookupIPBan sessionIP).answered (answer s.strings fun _ => false) = .ok count ∧
      (banned = true ↔ 0 < count) := by
  by_cases hip : sessionIP = ""
  · refine ⟨false, 0, ?_, ?_, by decide⟩
    · have hlookup : Control.lookupBannedIP sessionIP = .ret (.ok false) := if_pos hip
      rw [hlookup]
      rfl
    · rw [lookupIPBan, if_pos hip]
      rfl
  · refine ⟨(s.strings (banIPKey sessionIP)).isSome, existing (s.strings (banIPKey sessionIP)), ?_, ?_,
      (existing_pos _).symm⟩
    · have hlookup : Control.lookupBannedIP sessionIP =
          Program.command (Control.Cmd.exists (banIPKey sessionIP)) := if_neg hip
      rw [hlookup]
      rfl
    · rw [lookupIPBan, if_neg hip]
      rfl

/-- The route of the partner and the ban of the address, over both. -/
theorem agree_validatePeerRoute (s : Control.Store) (result : ValidationResult) :
    Agree s (Control.validatePeerRoute result.sessionID result)
      (.call (.peerLocator (sessionLocatorKey result.matchedID)) fun locator =>
        (lookupIPBan result.sessionIP).bind fun ipBanned =>
          checkPeerRoute result (RouteLookup.ofLocator locator) ipBanned) := by
  have hroute : (Control.resolveSessionRoute result.matchedID).run Control.Store.exec s =
      (RouteLookup.ofLocator (.ok (s.strings (sessionLocatorKey result.matchedID))), s) := by
    unfold Control.resolveSessionRoute
    rw [Program.run, Control.Store.exec]
    cases s.strings (sessionLocatorKey result.matchedID) with
    | none => rfl
    | some locator =>
        simp only [RouteLookup.ofLocator]
        cases decodeSessionRoute locator <;> rfl
  obtain ⟨banned, count, hbanned, hcount, hiff⟩ := run_lookupBannedIP s result.sessionIP
  unfold Agree Control.validatePeerRoute
  rw [Program.run_bind, hroute, Program.run_bind, hbanned, Program.answered_call,
    Program.answered_bind, hcount]
  unfold checkPeerRoute
  change _ = (Program.answered _ (if 0 < count then _ else _), s)
  cases banned with
  | true =>
      rw [if_pos (hiff.1 rfl)]
      rfl
  | false =>
      rw [if_neg (mt hiff.2 Bool.false_ne_true)]
      change _ = (Program.answered _ (match RouteLookup.ofLocator
        (.ok (s.strings (sessionLocatorKey result.matchedID))), (.ok count : Except LookupError ℤ) with
        | .notFound, _ => _
        | .found peerRoute, .ok _ => _
        | _, _ => _), s)
      cases RouteLookup.ofLocator (.ok (s.strings (sessionLocatorKey result.matchedID))) with
      | notFound => rfl
      | failed => rfl
      | found peerRoute => exact agree_validatePeer s peerRoute result

/-- **The validation over typed replies is this one**, where no lookup fails. -/
theorem agree_validateMatchedRouteSession (route : SessionRoute) (sessionID tokenDigest : String)
    (s : Control.Store) :
    Agree s (Control.validateMatchedRouteSession route sessionID tokenDigest)
      (validateMatchedRouteSession route sessionID fun expectedToken =>
        expectedToken = tokenDigest) := by
  have hchecks : Agree s
      (if (s.strings (sessionTokenKey sessionID route)).getD "" = "" then
        Control.fail .sessionInactive
      else if (s.strings (sessionTokenKey sessionID route)).getD "" ≠ tokenDigest then
        Control.fail .invalidSessionIdentity
      else if (s.strings (sessionDataKey sessionID route)).isSome = false then
        Control.fail .sessionInactive
      else if (s.strings (banSessionKey sessionID)).isSome then
        .ret (.error (validationErrorWithSessionIP (.sentinel .sessionBanned)
          (trim ((s.strings (sessionIPKey sessionID route)).getD ""))))
      else if trim ((s.strings (matchKey sessionID route)).getD "") = "" then
        Control.fail .sessionUnmatched
      else
        Control.validatePeerRoute sessionID ⟨sessionID, route,
          (s.strings (matchKey sessionID route)).getD "",
          trim ((s.strings (sessionIPKey sessionID route)).getD "")⟩)
      (checkSession route sessionID (fun expectedToken => expectedToken = tokenDigest)
        [.string ((s.strings (sessionTokenKey sessionID route)).getD ""),
          .int (existing (s.strings (sessionDataKey sessionID route))),
          .string ((s.strings (sessionIPKey sessionID route)).getD ""),
          .string ((s.strings (matchKey sessionID route)).getD "")]
        (existing (s.strings (banSessionKey sessionID)))) := by
    refine .ite Iff.rfl rfl (.ite ?_ rfl (.ite (isSome_eq_false_iff _) rfl
      (.ite (existing_pos _).symm rfl (.ite Iff.rfl rfl ?_))))
    · exact decide_eq_false_iff_not.symm
    · exact agree_validatePeerRoute s _
  exact hchecks

end Typed

/-! ### The validation -/

/-- **Admission fails closed.**  A session is admitted only if its token is the one presented, its
record is there, neither it nor its address is banned, and the partner that it is matched with has a
record and names it; a lookup of the validation that fails, or whose script replies with no list, makes
it an error; and once the session's own checks have passed, the ban of its address is reported, whatever
becomes of the lookup of the partner. -/
theorem validateMatchedRouteSession_failClosed (route : SessionRoute) (sessionID : String) :
    (∀ strings fails presented result, sessionID ≠ "" →
      (validateMatchedRouteSession route sessionID fun expectedToken =>
        expectedToken = presented).answered (answer strings fails) = .ok result →
      Admitted strings route sessionID presented) ∧
    (∀ (answer : (c : Lookup) → Except LookupError c.Reply) tokenMatches,
      ∀ c ∈ (validateMatchedRouteSession route sessionID tokenMatches).asked answer,
        ¬ usable c (answer c) →
        ∃ err, (validateMatchedRouteSession route sessionID tokenMatches).answered answer =
          .error err) ∧
    ∀ (answer : (c : Lookup) → Except LookupError c.Reply) tokenMatches values
      (sessionBannedCnt count : ℤ),
      answer (sessionSnapshotOf route sessionID) = .ok (.slice values) →
      redisValueAsString values 0 ≠ "" → tokenMatches (redisValueAsString values 0) = true →
      redisValueAsBool values 1 = true →
      answer (.sessionBan (banSessionKey sessionID)) = .ok sessionBannedCnt → sessionBannedCnt ≤ 0 →
      trim (redisValueAsString values 3) ≠ "" → trim (redisValueAsString values 2) ≠ "" →
      answer (.ipBan (banIPKey (trim (redisValueAsString values 2)))) = .ok count → 0 < count →
      (validateMatchedRouteSession route sessionID tokenMatches).answered answer =
        .error (.validation .sessionBanned (trim (redisValueAsString values 2))) := by
  refine ⟨fun strings fails presented result hid => admitted_of_ok hid, ?_, ?_⟩
  · intro answer tokenMatches c hc hunusable
    cases h : (validateMatchedRouteSession route sessionID tokenMatches).answered answer with
    | error err => exact ⟨err, rfl⟩
    | ok result =>
        obtain ⟨-, -, -, -, husable⟩ := validateMatchedRouteSession_eq_ok h
        exact absurd (husable c hc) hunusable
  · intro answer tokenMatches values sessionBannedCnt count hsnapshot htoken hmatches hrecord hban hle
      hmatched hip hipBan hcount
    rw [validateMatchedRouteSession, Program.answered_call, Program.answered_call, hsnapshot, hban]
    exact checkSession_ipBanned htoken hmatches hrecord hle hmatched hip hipBan hcount

/-- A route of the text mode. -/
def textRoute : SessionRoute := ⟨"text", 3⟩

/-- The session `a` with its partner `b`, and a ban of an address. -/
def matchedSessions : List (String × String) :=
  [(sessionTokenKey "a" textRoute, "digest"), (sessionDataKey "a" textRoute, "\x7b\x7d"),
    (sessionIPKey "a" textRoute, "192.0.2.1"), (matchKey "a" textRoute, "b"),
    (sessionLocatorKey "b", "text|3"), (sessionDataKey "b" textRoute, "\x7b\x7d"),
    (matchKey "b" textRoute, " a "), (banIPKey "192.0.2.2", "1")]

/-- The strings of a store. -/
def stringsOf (entries : List (String × String)) (key : String) : Option String :=
  List.lookup key entries

/-- The session is admitted; with a ban that cannot be looked up it is not; and with the banned address
it is reported as banned, though its partner's route cannot be looked up. -/
theorem validateMatchedRouteSession_failClosed_matched :
    Admitted (stringsOf matchedSessions) textRoute "a" "digest" ∧
    (∃ err, (validateMatchedRouteSession textRoute "a" fun expectedToken =>
      expectedToken = "digest").answered (answer (stringsOf matchedSessions) fun c =>
        c = .ipBan (banIPKey "192.0.2.1")) = .error err) ∧
    (validateMatchedRouteSession textRoute "a" fun expectedToken =>
      expectedToken = "digest").answered
        (answer (stringsOf ((sessionIPKey "a" textRoute, " 192.0.2.2") :: matchedSessions)) fun c =>
          c = .peerLocator (sessionLocatorKey "b")) =
      .error (.validation .sessionBanned "192.0.2.2") := by
  obtain ⟨hadmitted, hfails, hbanned⟩ := validateMatchedRouteSession_failClosed textRoute "a"
  refine ⟨?_, ?_, ?_⟩
  · exact hadmitted (stringsOf matchedSessions) (fun _ => false) "digest"
      ⟨"a", textRoute, "b", "192.0.2.1"⟩ (by decide) (by decide +kernel)
  · refine hfails _ (fun expectedToken => expectedToken = "digest")
      (.ipBan (banIPKey "192.0.2.1")) (by decide +kernel) ?_
    rintro ⟨count, hcount⟩
    cases hcount
  · exact hbanned _ (fun expectedToken => expectedToken = "digest")
      [.string "digest", .int 1, .string " 192.0.2.2", .string "b"] 0 1 (by rfl)
      (by decide) (by decide) (by decide) (by rfl) (by decide) (by decide) (by decide) (by rfl)
      (by decide)

end Turn.Admission
