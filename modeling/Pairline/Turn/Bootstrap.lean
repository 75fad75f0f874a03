/-
**The credentials of the relay, and who is admitted with them.**

A client asks one server for the servers that it may use, and goes to another with what it has been
told. The first validates the session by its id and its token. For the own relay it makes a user
name of the id and a digest of the token, and the relay takes the name apart and validates the
session anew. For a foreign relay it asks the provider for credentials, and keeps them for a while
under a key that is made of the same name.

What Redis and the provider answer is given; any command may fail.

Main definitions:

* `Turn.Bootstrap.buildUsername` — the user name of a session;
* `Turn.Bootstrap.validateMatchedSession`, `Turn.Bootstrap.validateTURNUsername` — both validations;
* `Turn.Bootstrap.getTURNCredentials` — **the request for credentials**;
* `Turn.Bootstrap.BootstrapLaw` — the law.

Main results:

* `Turn.Bootstrap.parseUsername_buildUsername` — the relay reads the name as it was made;
* `Turn.Bootstrap.validateTURNUsername_buildUsername` — both validations are one;
* `Turn.Bootstrap.bootstrapLaw` — **the law holds**.
-/

import Pairline.Admin.Entries
import Pairline.Turn.Admission
import Pairline.Utf8

set_option relaxedAutoImplicit false
set_option autoImplicit false

namespace Turn.Bootstrap

open Whitespace (trim isSpace)
open Admission (Lookup LookupError validateMatchedRouteSession)
open Control (GoError RouteLookup ValidationResult)
open Sessions.Appredis (SessionRoute sessionLocatorKey sessionTokenKey)

/-! ### User names -/

section Names

variable (sha256 : String → Vector UInt8 32)

/-- The digest of a token, as it is kept in the store. -/
def tokenDigest (sessionToken : String) : String := hexEncodeToString (sha256 sessionToken).toList

def buildUsername (sessionID sessionToken : String) : String :=
  sessionID ++ "|" ++ tokenDigest sha256 sessionToken

def cloudflareTurnCacheKey (sessionID sessionToken : String) : String :=
  "webrtc:turn:cache:cloudflare:" ++ buildUsername sha256 sessionID sessionToken

end Names

/-- What the handler asks of a request before anything else. -/
def wellFormed (sessionID sessionToken : String) : Bool :=
  sessionID ≠ "" && sessionToken ≠ "" && sessionID.utf8ByteSize ≤ 100 &&
    sessionToken.utf8ByteSize ≤ 128 && Admin.hexGroups [8, 4, 4, 4, 12] sessionID.toList

/-! ### The two validations -/

section Validation

variable (sha256 : String → Vector UInt8 32)

def resolveSessionRoute (sessionID : String) : Admission.Prog RouteLookup :=
  .call (.peerLocator (sessionLocatorKey sessionID)) fun locator =>
    .ret (Admission.RouteLookup.ofLocator locator)

/-- What is made of the route of the session; `validationRouteError`. -/
def afterRoute (sessionID : String) (tokenMatches : String → Bool) :
    RouteLookup → Admission.Prog (Except GoError ValidationResult)
  | .found route => validateMatchedRouteSession route sessionID tokenMatches
  | .notFound => Admission.fail .sessionNotFound
  | .failed => Admission.fail .validationBackend

/-- **The validation of a session that presents its token.** -/
def validateMatchedSession (sessionID providedToken : String) :
    Admission.Prog (Except GoError ValidationResult) :=
  if sessionID = "" ∨ providedToken = "" then Admission.fail .invalidSessionIdentity
  else (resolveSessionRoute sessionID).bind
    (afterRoute sessionID fun expectedToken => expectedToken = tokenDigest sha256 providedToken)

/-- **The validation of a session that presents a user name**, at the relay. -/
def validateTURNUsername (username : String) : Admission.Prog (Except GoError ValidationResult) :=
  match parseUsername username with
  | none => Admission.fail .invalidSessionIdentity
  | some (sessionID, digest) =>
      if sessionID = "" ∨ digest = "" then Admission.fail .invalidSessionIdentity
      else (resolveSessionRoute sessionID).bind
        (afterRoute sessionID fun expectedToken => expectedToken = digest)

end Validation

/-! ### The request for credentials -/

inductive Mode
  | cloudflare
  | integrated
  | off
  deriving DecidableEq

structure IceServer where
  urls : List String
  username : String
  credential : String

/-- The settings that the request reads. -/
structure Config where
  mode : Mode
  realm : String
  stunServers : List String
  credential : String
  advertisedTURNURLs : List String
  hasProvider : Bool

/-- `ValidateForBootstrap`. -/
def Config.isValidForBootstrap (cfg : Config) : Bool :=
  cfg.mode ≠ .integrated ||
    (cfg.realm ≠ "" && cfg.credential ≠ "" && !cfg.advertisedTURNURLs.isEmpty)

/-- What the request takes from libraries: SHA-256, and the JSON of the provider's credentials. -/
structure Runtime where
  sha256 : String → Vector UInt8 32
  marshal : Config → IceServer → String

/-- What comes back from the provider: nothing that can be read, or a status with the credentials,
if they can be parsed. -/
inductive ProviderReply
  | unread
  | read (statusCode : ℕ) (parsed : Option IceServer)

/-- The commands beside those of the validation. -/
inductive Cmd
  | getToken (key : String)
  | getCache (key : String)
  | provider
  | setCache (key body : String)

abbrev Cmd.Reply : Cmd → Type
  | .getToken _ | .getCache _ => Option String
  | .provider => ProviderReply
  | .setCache _ _ => Unit

/-- The key of the cache that a command reads or writes. -/
def Cmd.cacheKey? : Cmd → Option String
  | .getCache key | .setCache key _ => some key
  | _ => none

abbrev Prog (α : Type) := Program (Sum.elim Lookup.Reply Cmd.Reply) LookupError α

inductive Body
  | error (text : String)
  | bootstrap (mode : Mode) (iceServers : List IceServer)
  | text (text : String)

structure Response where
  statusCode : ℕ
  body : Body

section Request

variable (rt : Runtime) (cfg : Config) (sessionID sessionToken : String)

def verifySessionTokenWebRTC : Prog Bool :=
  (resolveSessionRoute sessionID).left.bind fun
    | .found route =>
        .call (.inr (.getToken (sessionTokenKey sessionID route))) fun
          | .ok (some expectedToken) =>
              .ret (expectedToken ≠ "" && expectedToken = tokenDigest rt.sha256 sessionToken)
          | _ => .ret false
    | _ => .ret false

def validateTurnBootstrapSession : Prog (Except GoError Unit) :=
  if cfg.mode = .off then
    (verifySessionTokenWebRTC rt sessionID sessionToken).bind fun verified =>
      .ret (if verified then .ok () else .error (.sentinel .invalidSessionIdentity))
  else
    (validateMatchedSession rt.sha256 sessionID sessionToken).left.bind fun result =>
      .ret (result.map fun _ => ())

/-- `BootstrapResponse`. -/
def Config.iceServers : List IceServer :=
  cfg.stunServers.map (fun server => ⟨[server], "", ""⟩) ++
    if cfg.mode = .integrated then
      [⟨cfg.advertisedTURNURLs, buildUsername rt.sha256 sessionID sessionToken, cfg.credential⟩]
    else []

/-- What is made of the provider's reply. -/
def afterProvider (cacheKey : String) : Except LookupError ProviderReply → Prog Response
  | .error _ => .ret ⟨500, .error "Failed to contact Cloudflare TURN API"⟩
  | .ok .unread => .ret ⟨500, .error "Failed to read TURN response"⟩
  | .ok (.read statusCode parsed) =>
      if statusCode ≠ 201 ∧ statusCode ≠ 200 then
        .ret ⟨502, .error "Cloudflare TURN API returned an error"⟩
      else
        match parsed with
        | none => .ret ⟨500, .error "Failed to parse TURN credentials"⟩
        | some server =>
            if server.urls = [] ∨ server.username = "" ∨ server.credential = "" then
              .ret ⟨502, .error "Cloudflare TURN API returned invalid credentials"⟩
            else if rt.marshal cfg server = "" then .ret ⟨200, .text (rt.marshal cfg server)⟩
            else .call (.inr (.setCache cacheKey (rt.marshal cfg server))) fun _ =>
              .ret ⟨200, .text (rt.marshal cfg server)⟩

def askProvider (cacheKey : String) : Prog Response :=
  if cfg.hasProvider then .call (.inr .provider) (afterProvider rt cfg cacheKey)
  else .ret ⟨503, .error "turn provider unavailable"⟩

/-- The credentials of the provider, from the cache if they are there. -/
def cloudflareCredentials (cacheKey : String) : Prog Response :=
  .call (.inr (.getCache cacheKey)) fun
    | .ok (some cached) =>
        if cached = "" then askProvider rt cfg cacheKey else .ret ⟨200, .text cached⟩
    | _ => askProvider rt cfg cacheKey

/-- What follows the validation. -/
def afterValidation : Except GoError Unit → Prog Response
  | .error err =>
      if err.class = some .validationBackend then .ret ⟨503, .error "turn validation unavailable"⟩
      else .ret ⟨401, .error "invalid session"⟩
  | .ok () =>
      if cfg.mode = .cloudflare then
        cloudflareCredentials rt cfg (cloudflareTurnCacheKey rt.sha256 sessionID sessionToken)
      else .ret ⟨200, .bootstrap cfg.mode (cfg.iceServers rt sessionID sessionToken)⟩

/-- **The request for credentials.** -/
def getTURNCredentials : Prog Response :=
  if wellFormed sessionID sessionToken = false then
    .ret ⟨400, .error "invalid session_id or session_token format"⟩
  else if cfg.isValidForBootstrap = false then .ret ⟨503, .error "turn bootstrap unavailable"⟩
  else (validateTurnBootstrapSession rt cfg sessionID sessionToken).bind
    (afterValidation rt cfg sessionID sessionToken)

end Request

/-! ### The law -/

/-- What every command is answered. -/
abbrev Answers := (c : Lookup ⊕ Cmd) → Except LookupError (Sum.elim Lookup.Reply Cmd.Reply c)

/-- The relay admits the session with the user name that is made for it. -/
def Admits (rt : Runtime) (sessionID sessionToken : String) (answer : Answers) : Prop :=
  ∃ result, (validateTURNUsername (buildUsername rt.sha256 sessionID sessionToken)).answered
    (fun c => answer (.inl c)) = .ok result

/-- **Credentials are given to sessions that the relay admits with them**, whatever the commands are
answered: only such a session is answered with success, asks for the cache or the provider, and then
for its own key of the cache; every such session is told its name and the secret of the own relay;
and two sessions, or tokens with different digests, never have one name. -/
def BootstrapLaw (rt : Runtime) : Prop :=
  (∀ cfg sessionID sessionToken (answer : Answers), cfg.mode ≠ .off →
    (((getTURNCredentials rt cfg sessionID sessionToken).answered answer).statusCode = 200 →
      Admits rt sessionID sessionToken answer) ∧
    (∀ c, .inr c ∈ (getTURNCredentials rt cfg sessionID sessionToken).asked answer →
      Admits rt sessionID sessionToken answer ∧
        ∀ key, c.cacheKey? = some key →
          key = cloudflareTurnCacheKey rt.sha256 sessionID sessionToken) ∧
    (cfg.mode = .integrated → cfg.isValidForBootstrap = true →
      wellFormed sessionID sessionToken = true → Admits rt sessionID sessionToken answer →
      ∃ iceServers, (getTURNCredentials rt cfg sessionID sessionToken).answered answer =
          ⟨200, .bootstrap .integrated iceServers⟩ ∧
        ∃ server ∈ iceServers, server.username = buildUsername rt.sha256 sessionID sessionToken ∧
          server.credential = cfg.credential ∧ server.urls = cfg.advertisedTURNURLs)) ∧
  ∀ sessionID sessionToken sessionID' sessionToken', wellFormed sessionID sessionToken = true →
    wellFormed sessionID' sessionToken' = true →
    (buildUsername rt.sha256 sessionID sessionToken =
        buildUsername rt.sha256 sessionID' sessionToken' ↔
      sessionID = sessionID' ∧
        tokenDigest rt.sha256 sessionToken = tokenDigest rt.sha256 sessionToken')

/-! ### The name is read as it was made -/

theorem isDigestChar_digitChar : ∀ n < 16, isDigestChar (Nat.digitChar n) = true := by decide

theorem isDigestChar_of_mem_hexEncode {bytes : List UInt8} {c : Char}
    (h : c ∈ (hexEncodeToString bytes).toList) : isDigestChar c = true := by
  simp only [hexEncodeToString, String.toList_ofList, List.mem_flatMap] at h
  obtain ⟨b, -, hc⟩ := h
  have hb := b.toNat_lt
  rcases List.mem_pair.1 hc with rfl | rfl
  · exact isDigestChar_digitChar _ (by omega)
  · exact isDigestChar_digitChar _ (by omega)

theorem utf8Size_of_isDigestChar {c : Char} (h : isDigestChar c = true) : c.utf8Size = 1 := by
  have hlow : c.val ≤ 127 := by
    simp only [isDigestChar, Bool.or_eq_true, Bool.and_eq_true, decide_eq_true_eq] at h
    have hchar : c ≤ 'f' := by
      rcases h with ⟨-, h⟩ | ⟨-, h⟩
      · exact h.trans (by decide)
      · exact h
    exact UInt32.le_trans hchar (by decide)
  simp [Char.utf8Size, hlow]

theorem isSpace_of_isDigestChar {c : Char} (h : isDigestChar c = true) : isSpace c = false := by
  simp only [isDigestChar, Bool.or_eq_true, Bool.and_eq_true, decide_eq_true_eq] at h
  rcases h with ⟨hlow, hhigh⟩ | ⟨hlow, hhigh⟩
  · have hlow : 48 ≤ c.toNat := hlow
    have hhigh : c.toNat ≤ 57 := hhigh
    exact Whitespace.isSpace_of_visible (by omega) (by omega)
  · have hlow : 97 ≤ c.toNat := hlow
    have hhigh : c.toNat ≤ 102 := hhigh
    exact Whitespace.isSpace_of_visible (by omega) (by omega)

/-- A text of characters of one byte has as many bytes. -/
theorem utf8ByteSize_ofList_of_one {l : List Char} (h : ∀ c ∈ l, c.utf8Size = 1) :
    (String.ofList l).utf8ByteSize = l.length := by
  induction l with
  | nil => rfl
  | cons c l ih =>
      have hrest : (String.ofList l).utf8ByteSize = l.length :=
        ih fun d hd => h d (List.mem_cons_of_mem _ hd)
      have hsplit : String.ofList (c :: l) = String.singleton c ++ String.ofList l := by
        rw [← String.toList_inj]
        simp
      rw [hsplit, String.utf8ByteSize_append, String.utf8ByteSize_singleton, hrest,
        h c List.mem_cons_self, List.length_cons, Nat.add_comm]

section Names

variable {sha256 : String → Vector UInt8 32} {sessionID sessionToken : String}

theorem utf8ByteSize_tokenDigest : (tokenDigest sha256 sessionToken).utf8ByteSize = 64 := by
  have hlength : (tokenDigest sha256 sessionToken).toList.length = 64 := by
    simp [tokenDigest, hexEncodeToString, List.length_flatMap]
  have hone := utf8ByteSize_ofList_of_one (l := (tokenDigest sha256 sessionToken).toList)
    fun c hc => utf8Size_of_isDigestChar (isDigestChar_of_mem_hexEncode hc)
  rw [String.ofList_toList, hlength] at hone
  exact hone

theorem tokenDigest_ne_empty : tokenDigest sha256 sessionToken ≠ "" := by
  intro h
  have hsize : (tokenDigest sha256 sessionToken).utf8ByteSize = 64 := utf8ByteSize_tokenDigest
  rw [h] at hsize
  cases hsize

theorem trim_tokenDigest :
    trim (tokenDigest sha256 sessionToken) = tokenDigest sha256 sessionToken :=
  Whitespace.trim_eq_self fun _ hc => isSpace_of_isDigestChar (isDigestChar_of_mem_hexEncode hc)

/-- Groups of hexadecimal digits have nothing else but the hyphens between them. -/
theorem isHex_or_of_hexGroups {ns : List ℕ} {cs : List Char} (h : Admin.hexGroups ns cs = true) :
    ∀ c ∈ cs, Admin.isHex c = true ∨ c = '-' := by
  induction ns generalizing cs with
  | nil =>
      obtain rfl : cs = [] := List.isEmpty_iff.1 h
      exact fun c hc => absurd hc List.not_mem_nil
  | cons n ns ih =>
      cases ns with
      | nil =>
          simp only [Admin.hexGroups, Bool.and_eq_true, List.all_eq_true] at h
          exact fun c hc => .inl (h.2 c hc)
      | cons m ns =>
          simp only [Admin.hexGroups, Bool.and_eq_true, List.all_eq_true, decide_eq_true_eq] at h
          obtain ⟨⟨⟨-, hdigits⟩, hhyphen⟩, hrest⟩ := h
          obtain ⟨rest, hdrop⟩ := List.head?_eq_some_iff.1 hhyphen
          have hsplit : cs = cs.take n ++ '-' :: cs.drop (n + 1) := by
            have htail : cs.drop (n + 1) = rest := by
              rw [← List.drop_drop, hdrop]
              rfl
            rw [htail, ← hdrop, List.take_append_drop]
          intro c hc
          rw [hsplit] at hc
          rcases List.mem_append.1 hc with hc | hc
          · exact .inl (hdigits c hc)
          · rcases List.mem_cons.1 hc with rfl | hc
            · exact .inr rfl
            · exact ih hrest c hc

/-- A session id has no character that the name is cut at, or that is trimmed. -/
theorem plain_of_wellFormed (h : wellFormed sessionID sessionToken = true) :
    ∀ c ∈ sessionID.toList, c ≠ '|' ∧ isSpace c = false := by
  simp only [wellFormed, Bool.and_eq_true] at h
  intro c hc
  rcases isHex_or_of_hexGroups h.2 c hc with hhex | rfl
  · have hrange : 48 ≤ c.toNat ∧ c.toNat ≤ 102 := by
      simp only [Admin.isHex, Char.isDigit, Bool.or_eq_true, Bool.and_eq_true,
        decide_eq_true_eq] at hhex
      rcases hhex with (⟨hlow, hhigh⟩ | ⟨hlow, hhigh⟩) | ⟨hlow, hhigh⟩
      · have hlow : 48 ≤ c.toNat := hlow
        have hhigh : c.toNat ≤ 57 := hhigh
        omega
      · have hlow : 97 ≤ c.toNat := hlow
        have hhigh : c.toNat ≤ 102 := hhigh
        omega
      · have hlow : 65 ≤ c.toNat := hlow
        have hhigh : c.toNat ≤ 70 := hhigh
        omega
    -- the separator is above all letters
    refine ⟨?_, Whitespace.isSpace_of_visible (by omega) (by omega)⟩
    rintro rfl
    exact absurd hrange.2 (by decide)
  · exact ⟨by decide, by decide⟩

theorem sessionID_ne_empty (h : wellFormed sessionID sessionToken = true) : sessionID ≠ "" := by
  rintro rfl
  simp [wellFormed] at h

theorem sessionToken_ne_empty (h : wellFormed sessionID sessionToken = true) : sessionToken ≠ "" := by
  rintro rfl
  simp [wellFormed] at h

/-- **The relay reads the name as it was made.** -/
theorem parseUsername_buildUsername (h : wellFormed sessionID sessionToken = true) :
    parseUsername (buildUsername sha256 sessionID sessionToken) =
      some (sessionID, tokenDigest sha256 sessionToken) := by
  have hplain : ∀ c ∈ sessionID.toList, c ≠ '|' := fun c hc => (plain_of_wellFormed h c hc).1
  have hspan : (buildUsername sha256 sessionID sessionToken).toList.span (· ≠ '|') =
      (sessionID.toList, '|' :: (tokenDigest sha256 sessionToken).toList) := by
    have hlist : (buildUsername sha256 sessionID sessionToken).toList =
        sessionID.toList ++ '|' :: (tokenDigest sha256 sessionToken).toList := by
      simp [buildUsername]
    rw [hlist, List.span_eq_takeWhile_dropWhile,
      List.takeWhile_append_of_pos (by simpa using hplain),
      List.dropWhile_append_of_pos (by simpa using hplain)]
    simp
  have hid : trim sessionID = sessionID :=
    Whitespace.trim_eq_self fun c hc => (plain_of_wellFormed h c hc).2
  have hdigits : (tokenDigest sha256 sessionToken).toList.all isDigestChar = true :=
    List.all_eq_true.2 fun c hc => isDigestChar_of_mem_hexEncode hc
  have hne : ¬ (sessionID = "" ∨ tokenDigest sha256 sessionToken = "") :=
    not_or.2 ⟨sessionID_ne_empty h, tokenDigest_ne_empty⟩
  simp only [parseUsername, hspan, String.ofList_toList, hid, trim_tokenDigest, if_neg hne,
    utf8ByteSize_tokenDigest, ne_eq, not_true_eq_false, if_false, hdigits, if_true]

/-- **Both validations are one.** -/
theorem validateTURNUsername_buildUsername (h : wellFormed sessionID sessionToken = true) :
    validateTURNUsername (buildUsername sha256 sessionID sessionToken) =
      validateMatchedSession sha256 sessionID sessionToken := by
  have hid := sessionID_ne_empty h
  have htoken := sessionToken_ne_empty h
  have hdigest : tokenDigest sha256 sessionToken ≠ "" := tokenDigest_ne_empty
  simp only [validateTURNUsername, parseUsername_buildUsername h, validateMatchedSession, hid, htoken,
    hdigest, or_self, if_false]

end Names

/-! ### What is asked, and when -/

section Request

variable {rt : Runtime} {cfg : Config} {sessionID sessionToken : String} {answer : Answers}

/-- A program over some of the commands returns what it does alone. -/
theorem answered_left {α : Type} (p : Admission.Prog α) :
    (p.left : Prog α).answered answer = p.answered fun c => answer (.inl c) := by
  induction p with
  | ret a => rfl
  | call c next ih => exact ih _

/-- **The first server lets a session pass exactly when the relay admits it.** -/
theorem validated_iff (hmode : cfg.mode ≠ .off) (h : wellFormed sessionID sessionToken = true) :
    (validateTurnBootstrapSession rt cfg sessionID sessionToken).answered answer = .ok () ↔
      Admits rt sessionID sessionToken answer := by
  rw [Admits, validateTURNUsername_buildUsername h, validateTurnBootstrapSession, if_neg hmode,
    Program.answered_bind, answered_left, Program.answered_ret]
  -- both sides run the same validation with the same answers
  cases (validateMatchedSession rt.sha256 sessionID sessionToken).answered
    fun c => answer (.inl c) with
  | ok result => simp [Except.map]
  | error err => simp [Except.map]

/-- The validation asks for nothing but the lookups. -/
theorem inr_notMem_validation (hmode : cfg.mode ≠ .off) (c : Cmd) :
    .inr c ∉ (validateTurnBootstrapSession rt cfg sessionID sessionToken).asked answer := by
  rw [validateTurnBootstrapSession, if_neg hmode, Program.asked_bind, Program.asked_left,
    Program.asked_ret, List.append_nil]
  intro hc
  obtain ⟨d, -, heq⟩ := List.mem_map.1 hc
  cases heq

/-- A command keeps to a key of the cache. -/
def KeepsTo (cacheKey : String) (c : Lookup ⊕ Cmd) : Prop :=
  ∀ d, c = .inr d → ∀ key, d.cacheKey? = some key → key = cacheKey

/-- **The provider's credentials are read and written under one key.** -/
theorem keepsTo_cloudflareCredentials (cacheKey : String) :
    (cloudflareCredentials rt cfg cacheKey).All (KeepsTo cacheKey) := by
  have hprovider : (askProvider rt cfg cacheKey).All (KeepsTo cacheKey) := by
    unfold askProvider
    split
    · refine ⟨?_, fun reply => ?_⟩
      · rintro d ⟨⟩ key ⟨⟩
      · rcases reply with e | _ | ⟨statusCode, parsed⟩
        · trivial
        · trivial
        · simp only [afterProvider]
          split
          · trivial
          · cases parsed with
            | none => trivial
            | some server =>
                dsimp only
                split_ifs
                · trivial
                · trivial
                · refine ⟨?_, fun _ => trivial⟩
                  rintro d ⟨⟩ key ⟨⟩
                  rfl
    · trivial
  refine ⟨?_, fun reply => ?_⟩
  · rintro d ⟨⟩ key ⟨⟩
    rfl
  · rcases reply with e | _ | cached
    · exact hprovider
    · exact hprovider
    · dsimp only
      split
      · exact hprovider
      · trivial

/-- A session that is not validated is refused, and nothing more is asked. -/
theorem refused_of_error (err : GoError) :
    ((afterValidation rt cfg sessionID sessionToken (.error err)).answered answer).statusCode ≠ 200 ∧
      (afterValidation rt cfg sessionID sessionToken (.error err)).asked answer = [] := by
  simp only [afterValidation]
  split
  · exact ⟨by simp, rfl⟩
  · exact ⟨by simp, rfl⟩

/-- **A request is refused at once, or the session is validated first.** -/
theorem refuses_or_validates (rt : Runtime) (cfg : Config) (sessionID sessionToken : String) :
    (∃ response, getTURNCredentials rt cfg sessionID sessionToken = .ret response ∧
      response.statusCode ≠ 200 ∧
      ¬(cfg.isValidForBootstrap = true ∧ wellFormed sessionID sessionToken = true)) ∨
    (wellFormed sessionID sessionToken = true ∧
      getTURNCredentials rt cfg sessionID sessionToken =
        (validateTurnBootstrapSession rt cfg sessionID sessionToken).bind
          (afterValidation rt cfg sessionID sessionToken)) := by
  by_cases hform : wellFormed sessionID sessionToken = true
  · by_cases hvalid : cfg.isValidForBootstrap = true
    · exact .inr ⟨hform, by simp [getTURNCredentials, hform, hvalid]⟩
    · exact .inl ⟨⟨503, .error "turn bootstrap unavailable"⟩,
        by simp [getTURNCredentials, hform, hvalid], by simp, fun h => hvalid h.1⟩
  · exact .inl ⟨⟨400, .error "invalid session_id or session_token format"⟩,
      by simp [getTURNCredentials, hform], by simp, fun h => hform h.2⟩

/-- What is asked beyond the lookups is asked after the validation. -/
theorem asked_afterValidation {v : Prog (Except GoError Unit)} (hmode : cfg.mode ≠ .off)
    (hv : v = validateTurnBootstrapSession rt cfg sessionID sessionToken) {c : Cmd}
    (hc : .inr c ∈ (v.bind (afterValidation rt cfg sessionID sessionToken)).asked answer) :
    .inr c ∈ (afterValidation rt cfg sessionID sessionToken (v.answered answer)).asked answer := by
  subst hv
  rw [Program.asked_bind] at hc
  exact (List.mem_append.1 hc).resolve_left (inr_notMem_validation hmode c)

/-- Only a session that the relay admits is answered with success. -/
theorem admits_of_success (hmode : cfg.mode ≠ .off)
    (h : ((getTURNCredentials rt cfg sessionID sessionToken).answered answer).statusCode = 200) :
    Admits rt sessionID sessionToken answer := by
  rcases refuses_or_validates rt cfg sessionID sessionToken with
    ⟨response, heq, hstatus, -⟩ | ⟨hform, heq⟩
  · rw [heq] at h
    exact absurd h hstatus
  · rw [heq, Program.answered_bind] at h
    cases hresult : (validateTurnBootstrapSession rt cfg sessionID sessionToken).answered answer with
    | error err =>
        rw [hresult] at h
        exact absurd h (refused_of_error err).1
    | ok u => exact (validated_iff hmode hform).1 hresult

/-- Only for such a session are the cache and the provider asked, and then under its own key. -/
theorem admits_of_asked (hmode : cfg.mode ≠ .off) {c : Cmd}
    (hc : .inr c ∈ (getTURNCredentials rt cfg sessionID sessionToken).asked answer) :
    Admits rt sessionID sessionToken answer ∧
      ∀ key, c.cacheKey? = some key →
        key = cloudflareTurnCacheKey rt.sha256 sessionID sessionToken := by
  rcases refuses_or_validates rt cfg sessionID sessionToken with ⟨response, heq, -⟩ | ⟨hform, heq⟩
  · rw [heq] at hc
    exact absurd hc List.not_mem_nil
  · rw [heq] at hc
    replace hc := asked_afterValidation hmode rfl hc
    cases hresult : (validateTurnBootstrapSession rt cfg sessionID sessionToken).answered answer with
    | error err =>
        rw [hresult, (refused_of_error err).2] at hc
        exact absurd hc List.not_mem_nil
    | ok u =>
        refine ⟨(validated_iff hmode hform).1 hresult, ?_⟩
        rw [hresult] at hc
        simp only [afterValidation] at hc
        split at hc
        · exact (keepsTo_cloudflareCredentials _).of_mem_asked hc c rfl
        · cases hc

/-- Every such session is told its name and the secret of the own relay. -/
theorem told_of_admits (hmode : cfg.mode = .integrated) (hvalid : cfg.isValidForBootstrap = true)
    (hform : wellFormed sessionID sessionToken = true)
    (h : Admits rt sessionID sessionToken answer) :
    ∃ iceServers, (getTURNCredentials rt cfg sessionID sessionToken).answered answer =
        ⟨200, .bootstrap .integrated iceServers⟩ ∧
      ∃ server ∈ iceServers, server.username = buildUsername rt.sha256 sessionID sessionToken ∧
        server.credential = cfg.credential ∧ server.urls = cfg.advertisedTURNURLs := by
  have hresult : (validateTurnBootstrapSession rt cfg sessionID sessionToken).answered answer =
      .ok () := (validated_iff (by simp [hmode]) hform).2 h
  rcases refuses_or_validates rt cfg sessionID sessionToken with ⟨-, -, -, hnot⟩ | ⟨-, heq⟩
  · exact absurd ⟨hvalid, hform⟩ hnot
  · refine ⟨cfg.iceServers rt sessionID sessionToken, ?_, ?_⟩
    · rw [heq, Program.answered_bind, hresult]
      simp [afterValidation, hmode]
    · refine ⟨⟨cfg.advertisedTURNURLs, buildUsername rt.sha256 sessionID sessionToken,
        cfg.credential⟩, List.mem_append_right _ ?_, rfl, rfl, rfl⟩
      rw [if_pos hmode]
      exact List.mem_singleton_self _

end Request

/-- **Two sessions have one name only if they are one, with tokens of one digest.** -/
theorem buildUsername_eq_iff {sha256 : String → Vector UInt8 32}
    {sessionID sessionToken sessionID' sessionToken' : String}
    (h : wellFormed sessionID sessionToken = true)
    (h' : wellFormed sessionID' sessionToken' = true) :
    buildUsername sha256 sessionID sessionToken = buildUsername sha256 sessionID' sessionToken' ↔
      sessionID = sessionID' ∧
        tokenDigest sha256 sessionToken = tokenDigest sha256 sessionToken' := by
  constructor
  · intro heq
    have hparse : parseUsername (buildUsername sha256 sessionID sessionToken) = _ :=
      parseUsername_buildUsername h
    rw [heq, parseUsername_buildUsername h'] at hparse
    obtain ⟨hid, hdigest⟩ := Prod.mk.inj (Option.some_inj.1 hparse)
    exact ⟨hid.symm, hdigest.symm⟩
  · rintro ⟨rfl, hdigest⟩
    rw [buildUsername, hdigest]
    rfl

/-! ### The law holds -/

/-- **The law of the credentials holds.** -/
theorem bootstrapLaw (rt : Runtime) : BootstrapLaw rt := by
  constructor
  · intro cfg sessionID sessionToken answer hmode
    exact ⟨admits_of_success hmode, fun c hc => admits_of_asked hmode hc, told_of_admits⟩
  · intro sessionID sessionToken sessionID' sessionToken' h h'
    exact buildUsername_eq_iff h h'

end Turn.Bootstrap
