/-
**The tokens of the admins.**

A token has a header, a payload and a signature, with dots between them, each in base 64.  The payload
is an object in JSON: who the token is for, the role, the type of the token, and when it was issued and
expires.  A token is accepted when it has three parts, the third is the code of the first two under the
secret, and the payload says that it is not expired and of the expected type; a payload without a type
is that of an access token.

The message authentication code is a parameter.  The wall clock counts nanoseconds in 64 bits, as
durations do.

Main definitions:

* `Admin.generateJWTWithType`, `Admin.verifyJWT` — a token is issued, and checked;
* `Admin.claimsOf`, `Admin.carried` — what a token says, and the type that it says it is of;
* `Admin.TokenLaw` — **a token is accepted for whom it was issued, what is accepted is signed, and no
  refresh token is an access token**.

Main results:

* `Admin.unmarshalClaims_print` — the claims are read as they were written;
* `Admin.verifyJWT_eq_ok` — what is known of an accepted token;
* `Admin.tokenLaw` — **the law holds for every code and every secret**.
-/

import Pairline.Base64
import Pairline.JsonText
import Pairline.Utf8

set_option relaxedAutoImplicit false
set_option autoImplicit false

namespace Admin

open Documents (Document Value unmarshalObject)
open JsonText (Scalar documents parse printObject repaired replacement)

/-! ### The clock -/

/-- A reading of the wall clock, since 1970, or a duration: nanoseconds in 64 bits. -/
abbrev Nanoseconds : Type := { n : ℤ // -2 ^ 63 ≤ n ∧ n < 2 ^ 63 }

/-- `Unix`: the seconds of a time in nanoseconds. -/
def unix (t : ℤ) : ℤ := t / 1000000000

/-- `float64` of an integer. -/
def float64 (n : ℤ) : ℚ := (Doubles.nearest n).getD 0

/-! ### Issuing a token -/

def dot : UInt8 := 46

def tokenTypeAccess : List UInt8 := Utf8.encode "access".toList

def tokenTypeRefresh : List UInt8 := Utf8.encode "refresh".toList

/-- `json.Marshal` of an object, as bytes. -/
def marshalObject (members : List (String × Scalar)) : List UInt8 :=
  Utf8.encode (printObject members)

def jwtHeader : List (String × Scalar) :=
  [("alg", .string ("HS256".toList.map some)), ("typ", .string ("JWT".toList.map some))]

/-- What a token says, where the clock is read twice. -/
def jwtPayload (now now' : Nanoseconds) (username role tokenType : List UInt8)
    (expiresIn : Nanoseconds) : List (String × Scalar) :=
  [("username", .string (Utf8.runes username)), ("role", .string (Utf8.runes role)),
    ("token_type", .string (Utf8.runes tokenType)), ("iat", .int64 (unix now'.1)),
    ("exp", .int64 (unix (now.1 + expiresIn.1)))]

section Tokens

variable (mac : List UInt8 → List UInt8 → List UInt8)

/-- The signature of a text. -/
def signature (jwtSecret signatureInput : List UInt8) : List UInt8 :=
  Base64.encode (mac jwtSecret signatureInput)

/-- **A token is issued.** -/
def generateJWTWithType (now now' : Nanoseconds)
    (username role tokenType jwtSecret : List UInt8) (expiresIn : Nanoseconds) : List UInt8 :=
  let headerEncoded := Base64.encode (marshalObject jwtHeader)
  let payloadEncoded :=
    Base64.encode (marshalObject (jwtPayload now now' username role tokenType expiresIn))
  let signatureInput := headerEncoded ++ dot :: payloadEncoded
  signatureInput ++ dot :: signature mac jwtSecret signatureInput

/-! ### Checking a token -/

/-- Why a token is refused. -/
inductive Refusal
  /-- The number of its parts. -/
  | invalidTokenFormat
  | invalidTokenSignature
  /-- Its payload is not in base 64, or no object. -/
  | payloadNotRead
  | missingExpiration
  | tokenExpired
  | missingUsername
  | missingRole
  | invalidTokenType

/-- `json.Unmarshal` into a map; null is the map nil. -/
def decodeClaims : Document → Option (List (String × Value))
  | .null => some []
  | document => unmarshalObject document

/-- The claims that some bytes stand for; a byte that is part of no character is replaced. -/
def unmarshalClaims (bytes : List UInt8) : Option (List (String × Value)) :=
  (parse ((Utf8.runes bytes).map fun c => c.getD replacement)).bind decodeClaims

/-- A claim that is a text. -/
def textClaim (claims : List (String × Value)) (name : String) : Option String :=
  match Members.get claims name with
  | some (.string text) => some text
  | _ => none

/-- A claim that is a number. -/
def numberClaim (claims : List (String × Value)) (name : String) : Option ℚ :=
  match Members.get claims name with
  | some (.float64 q) => some q
  | _ => none

/-- The checks of the claims. -/
def checkClaims (now : Nanoseconds) (claims : List (String × Value)) (expectedType : List UInt8) :
    Except Refusal (String × String) :=
  match numberClaim claims "exp" with
  | none => .error .missingExpiration
  | some expires =>
      if float64 (unix now.1) > expires then .error .tokenExpired
      else
        match textClaim claims "username" with
        | none => .error .missingUsername
        | some username =>
            match textClaim claims "role" with
            | none => .error .missingRole
            | some role =>
                let tokenType := ((textClaim claims "token_type").map fun text =>
                  Utf8.encode text.toList).getD tokenTypeAccess
                if expectedType ≠ [] ∧ tokenType ≠ expectedType then .error .invalidTokenType
                else .ok (username, role)

/-- **A token is checked**: whom it is for, and the role. -/
def verifyJWT (now : Nanoseconds) (token jwtSecret expectedType : List UInt8) :
    Except Refusal (String × String) :=
  match token.splitOn dot with
  | [first, second, third] =>
      if third ≠ signature mac jwtSecret (first ++ dot :: second) then .error .invalidTokenSignature
      else
        match (Base64.decode second).bind unmarshalClaims with
        | none => .error .payloadNotRead
        | some claims => checkClaims now claims expectedType
  | _ => .error .invalidTokenFormat

end Tokens

/-! ### What it is for -/

/-- What a token says. -/
def claimsOf (token : List UInt8) : Option (List (String × Value)) :=
  match token.splitOn dot with
  | [_, second, _] => (Base64.decode second).bind unmarshalClaims
  | _ => none

/-- The type that a token carries: bytes that are part of no character are replaced in it. -/
def carried (tokenType : List UInt8) : List UInt8 :=
  Utf8.encode (repaired (Utf8.runes tokenType)).toList

/-- A valid text is carried as it is. -/
theorem carried_encode (text : List Char) : carried (Utf8.encode text) = Utf8.encode text := by
  simp [carried, Utf8.runes_encode, repaired]

/-- The token is not expired. -/
def Unexpired (issued expiresIn now : Nanoseconds) : Prop :=
  unix now.1 ≤ unix (issued.1 + expiresIn.1)

/-- The type is expected, where one is. -/
def Expected (tokenType expectedType : List UInt8) : Prop :=
  expectedType = [] ∨ expectedType = carried tokenType

/-- **What is asked of the tokens under a secret.** -/
structure TokenLaw (mac : List UInt8 → List UInt8 → List UInt8) (jwtSecret : List UInt8) : Prop where
  /-- A token is accepted for whom it was issued, as long as it is not expired and of the expected
  type. -/
  accepted : ∀ (issued issued' expiresIn now : Nanoseconds) (username role : String)
    (tokenType expectedType : List UInt8),
    Unexpired issued expiresIn now → Expected tokenType expectedType →
      verifyJWT mac now (generateJWTWithType mac issued issued' (Utf8.encode username.toList)
        (Utf8.encode role.toList) tokenType jwtSecret expiresIn) jwtSecret expectedType =
          .ok (username, role)
  /-- Otherwise it is refused. -/
  refused : ∀ (issued issued' expiresIn now : Nanoseconds) (username role : String)
    (tokenType expectedType : List UInt8),
    ¬ (Unexpired issued expiresIn now ∧ Expected tokenType expectedType) →
      ∃ refusal, verifyJWT mac now (generateJWTWithType mac issued issued'
        (Utf8.encode username.toList) (Utf8.encode role.toList) tokenType jwtSecret expiresIn)
          jwtSecret expectedType = .error refusal
  /-- Whatever is accepted has three parts, and the third is the code of the first two. -/
  signed : ∀ (now : Nanoseconds) (token expectedType : List UInt8) (user : String × String),
    verifyJWT mac now token jwtSecret expectedType = .ok user →
      ∃ first second, dot ∉ first ∧ dot ∉ second ∧
        token = first ++ dot :: second ++ dot :: Base64.encode (mac jwtSecret (first ++ dot :: second))
  /-- What says that it is a refresh token is not accepted as an access token. -/
  refresh : ∀ (now : Nanoseconds) (token : List UInt8) (claims : List (String × Value)),
    claimsOf token = some claims → textClaim claims "token_type" = some "refresh" →
      ∃ refusal, verifyJWT mac now token jwtSecret tokenTypeAccess = .error refusal

/-! ### Claims are read as they were written -/

/-- An integer that a double holds. -/
def Scalar.Exact : Scalar → Prop
  | .string _ => True
  | .int64 n => |n| ≤ 2 ^ 53

/-- What a written value is decoded to. -/
def decoded : Scalar → Value
  | .string text => .string (repaired text)
  | .int64 n => .float64 n

theorem unmarshal_document {value : Scalar} (h : Scalar.Exact value) :
    Documents.unmarshal value.document = some (decoded value) := by
  cases value with
  | string text => rfl
  | int64 n =>
      rw [Scalar.document, Documents.unmarshal, Doubles.nearest_intCast h]
      rfl

/-- **The claims are read as they were written.** -/
theorem unmarshalClaims_print {members : List (String × Scalar)}
    (h : ∀ e ∈ members, Scalar.Exact e.2) :
    ∃ claims, unmarshalClaims (marshalObject members) = some claims ∧
      ∀ name, Members.get claims name = (Members.get members name).map decoded := by
  have hsorted : ∀ e ∈ Members.sorted members, Scalar.Exact e.2 := by
    intro e he
    obtain ⟨name, -, hname⟩ := List.mem_filterMap.1 he
    obtain ⟨value, hget, rfl⟩ := Option.map_eq_some_iff.1 hname
    exact h _ (Members.mem_of_get hget)
  have htext : (Utf8.runes (marshalObject members)).map (fun c => c.getD replacement) =
      printObject members := by
    rw [marshalObject, Utf8.runes_encode, List.map_map]
    simp
  have hsome : (Documents.unmarshalMembers (documents (Members.sorted members))).isSome = true := by
    rw [Documents.isSome_unmarshalMembers]
    intro e he
    obtain ⟨e, hmem, rfl⟩ := List.mem_map.1 he
    rw [unmarshal_document (hsorted e hmem)]
    rfl
  obtain ⟨ms, hms⟩ := Option.isSome_iff_exists.1 hsome
  have hobject : unmarshalObject (.object (documents (Members.sorted members))) =
      some (Members.sorted ms) := by
    rw [unmarshalObject, hms, Option.map_some]
  refine ⟨Members.sorted ms, ?_, fun name => ?_⟩
  · rw [unmarshalClaims, htext, JsonText.parse_printObject, Option.bind_some, decodeClaims, hobject]
    simp
  · rw [Documents.get_unmarshalObject hobject, documents, Members.get_map, Members.get_sorted]
    cases hget : Members.get members name with
    | none => rfl
    | some value => exact unmarshal_document (h _ (Members.mem_of_get hget))

/-- Seconds are integers that a double holds. -/
theorem abs_unix_le (t u : Nanoseconds) : |unix (t.1 + u.1)| ≤ 2 ^ 53 ∧ |unix t.1| ≤ 2 ^ 53 := by
  obtain ⟨t, ht, ht'⟩ := t
  obtain ⟨u, hu, hu'⟩ := u
  simp only [unix, abs_le]
  omega

theorem float64_of_abs_le {n : ℤ} (h : |n| ≤ 2 ^ 53) : float64 n = n := by
  rw [float64, Doubles.nearest_intCast h, Option.getD_some]

/-! ### Tokens -/

theorem not_mem_encode (bytes : List UInt8) : dot ∉ Base64.encode bytes := by
  intro h
  obtain ⟨n, hn⟩ := Base64.mem_alphabet_of_mem_encode h
  cases hn

/-- A token falls into its three parts. -/
theorem splitOn_token {first second third : List UInt8} (hfirst : dot ∉ first)
    (hsecond : dot ∉ second) (hthird : dot ∉ third) :
    (first ++ dot :: second ++ dot :: third).splitOn dot = [first, second, third] := by
  rw [List.append_assoc, List.cons_append, List.splitOn_append_cons_self_of_not_mem hfirst,
    List.splitOn_append_cons_self_of_not_mem hsecond, List.splitOn_eq_singleton hthird]

/-- A text in three parts is put together from them. -/
theorem eq_of_splitOn {token first second third : List UInt8}
    (h : token.splitOn dot = [first, second, third]) :
    dot ∉ first ∧ dot ∉ second ∧ token = first ++ dot :: second ++ dot :: third := by
  have hmem : dot ∈ token := by
    by_contra hnot
    rw [List.splitOn_eq_singleton hnot] at h
    cases h
  obtain ⟨a, rest, rfl, ha⟩ := List.eq_append_cons_of_mem hmem
  rw [List.splitOn_append_cons_self_of_not_mem ha, List.cons.injEq] at h
  obtain ⟨rfl, hrest⟩ := h
  obtain ⟨rfl, hsecond, -⟩ := Numerals.splitOn_eq_pair_iff.1 hrest
  exact ⟨ha, hsecond, by simp⟩

section Checks

variable {mac : List UInt8 → List UInt8 → List UInt8} {now : Nanoseconds}
  {token jwtSecret expectedType : List UInt8} {user : String × String}

/-- **What is known of an accepted token.** -/
theorem verifyJWT_eq_ok (h : verifyJWT mac now token jwtSecret expectedType = .ok user) :
    ∃ first second claims,
      token.splitOn dot = [first, second, signature mac jwtSecret (first ++ dot :: second)] ∧
        claimsOf token = some claims ∧ checkClaims now claims expectedType = .ok user := by
  unfold verifyJWT at h
  split at h
  · rename_i first second third hsplit
    split_ifs at h with hsig
    split at h
    · cases h
    · rename_i claims hclaims
      rw [ne_eq, not_not] at hsig
      refine ⟨first, second, claims, by rw [hsplit, hsig], ?_, h⟩
      rw [claimsOf, hsplit]
      exact hclaims
  · cases h

/-- An issued token is checked by what it says. -/
theorem verifyJWT_generate (issued issued' expiresIn : Nanoseconds)
    (username role tokenType : List UInt8) :
    ∃ claims, verifyJWT mac now (generateJWTWithType mac issued issued' username role tokenType
        jwtSecret expiresIn) jwtSecret expectedType = checkClaims now claims expectedType ∧
      numberClaim claims "exp" = some (unix (issued.1 + expiresIn.1) : ℚ) ∧
      textClaim claims "username" = some (repaired (Utf8.runes username)) ∧
      textClaim claims "role" = some (repaired (Utf8.runes role)) ∧
      textClaim claims "token_type" = some (repaired (Utf8.runes tokenType)) := by
  have hexact : ∀ e ∈ jwtPayload issued issued' username role tokenType expiresIn, Scalar.Exact e.2 := by
    simp only [jwtPayload, List.forall_mem_cons, Scalar.Exact, true_and]
    exact ⟨(abs_unix_le issued' expiresIn).2, (abs_unix_le issued expiresIn).1, by simp⟩
  obtain ⟨claims, hclaims, hget⟩ := unmarshalClaims_print hexact
  refine ⟨claims, ?_, ?_⟩
  · have hthird (input : List UInt8) : dot ∉ signature mac jwtSecret input := not_mem_encode _
    simp only [verifyJWT, generateJWTWithType]
    rw [splitOn_token (not_mem_encode _) (not_mem_encode _) (hthird _)]
    simp only [Base64.decode_encode, Option.bind_some, hclaims, ne_eq, not_true_eq_false, if_false]
  · simp only [numberClaim, textClaim, hget]
    simp [jwtPayload, Members.get, List.lookup_cons, decoded]

/-- An issued token is accepted as long as it is not expired and of the expected type. -/
theorem checkClaims_issued {claims : List (String × Value)} {expires : ℤ} {username role type : String}
    (hexpires : numberClaim claims "exp" = some (expires : ℚ))
    (husername : textClaim claims "username" = some username)
    (hrole : textClaim claims "role" = some role)
    (htype : textClaim claims "token_type" = some type) :
    checkClaims now claims expectedType =
      if unix now.1 ≤ expires then
        if expectedType = [] ∨ expectedType = Utf8.encode type.toList then .ok (username, role)
        else .error .invalidTokenType
      else .error .tokenExpired := by
  have hnow := float64_of_abs_le (abs_unix_le now now).2
  simp only [checkClaims, hexpires, husername, hrole, htype, hnow, Option.map_some, Option.getD_some]
  by_cases hle : unix now.1 ≤ expires
  · have hnot : ¬ ((unix now.1 : ℚ) > (expires : ℚ)) := by
      rw [gt_iff_lt, Int.cast_lt]
      omega
    rw [if_neg hnot, if_pos hle]
    by_cases hnil : expectedType = []
    · rw [if_neg (by simp [hnil]), if_pos (Or.inl hnil)]
    · by_cases heq : expectedType = Utf8.encode type.toList
      · rw [if_neg (by simp [heq]), if_pos (Or.inr heq)]
      · rw [if_pos ⟨hnil, Ne.symm heq⟩, if_neg (not_or.2 ⟨hnil, heq⟩)]
  · have hlt : (unix now.1 : ℚ) > (expires : ℚ) := by
      rw [gt_iff_lt, Int.cast_lt]
      omega
    rw [if_pos hlt, if_neg hle]

/-- **How an issued token is checked.** -/
theorem verifyJWT_issued (issued issued' expiresIn : Nanoseconds) (username role : String)
    (tokenType : List UInt8) :
    verifyJWT mac now (generateJWTWithType mac issued issued' (Utf8.encode username.toList)
        (Utf8.encode role.toList) tokenType jwtSecret expiresIn) jwtSecret expectedType =
      if unix now.1 ≤ unix (issued.1 + expiresIn.1) then
        if expectedType = [] ∨ expectedType = carried tokenType then .ok (username, role)
        else .error .invalidTokenType
      else .error .tokenExpired := by
  obtain ⟨claims, hverify, hexpires, husername, hrole, htype⟩ :=
    @verifyJWT_generate mac now jwtSecret expectedType issued issued' expiresIn
      (Utf8.encode username.toList) (Utf8.encode role.toList) tokenType
  have htext (text : String) : repaired (Utf8.runes (Utf8.encode text.toList)) = text := by
    simp [Utf8.runes_encode, repaired]
  rw [htext] at husername hrole
  rw [hverify, checkClaims_issued hexpires husername hrole htype]
  rfl

end Checks

/-- **The law of the tokens holds for every code and every secret.** -/
theorem tokenLaw (mac : List UInt8 → List UInt8 → List UInt8) (jwtSecret : List UInt8) :
    TokenLaw mac jwtSecret where
  accepted issued issued' expiresIn now username role tokenType expectedType hfresh htype := by
    unfold Unexpired at hfresh
    unfold Expected at htype
    rw [verifyJWT_issued, if_pos hfresh, if_pos htype]
  refused issued issued' expiresIn now username role tokenType expectedType hnot := by
    rw [verifyJWT_issued]
    by_cases hfresh : unix now.1 ≤ unix (issued.1 + expiresIn.1)
    · have htype : ¬ (expectedType = [] ∨ expectedType = carried tokenType) := fun htype =>
        hnot ⟨hfresh, htype⟩
      rw [if_pos hfresh, if_neg htype]
      exact ⟨_, rfl⟩
    · rw [if_neg hfresh]
      exact ⟨_, rfl⟩
  signed now token expectedType user h := by
    obtain ⟨first, second, claims, hsplit, -, -⟩ := verifyJWT_eq_ok h
    obtain ⟨hfirst, hsecond, htoken⟩ := eq_of_splitOn hsplit
    exact ⟨first, second, hfirst, hsecond, htoken⟩
  refresh now token claims hclaims htype := by
    cases h : verifyJWT mac now token jwtSecret tokenTypeAccess with
    | error refusal => exact ⟨refusal, rfl⟩
    | ok user =>
        -- the claims are checked, and the type that they give is not the expected one
        obtain ⟨first, second, claims', hsplit, hclaims', hcheck⟩ := verifyJWT_eq_ok h
        rw [hclaims, Option.some.injEq] at hclaims'
        subst hclaims'
        have hne : tokenTypeAccess ≠ [] ∧ Utf8.encode "refresh".toList ≠ tokenTypeAccess := by decide
        simp only [checkClaims, htype, Option.map_some, Option.getD_some, if_pos hne] at hcheck
        split at hcheck
        · cases hcheck
        · split_ifs at hcheck
          split at hcheck
          · cases hcheck
          · split at hcheck <;> cases hcheck

end Admin
