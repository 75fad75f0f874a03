/-
**The fields of the pending releases.**

A release that is still to be made is kept as a field of a hash: the user name and the operation id,
each encoded, with a colon between them.  Names come from outside, so a text is any list of bytes here,
and a user name may hold colons or begin with the name of another user.  None of this reaches the
field, since the encoding has no colon in it.

Main definitions:

* `Turn.PendingFields.pendingReleaseField`, `Turn.PendingFields.decodePendingReleaseField` — a field,
  and what it stands for;
* `Turn.PendingFields.pendingReleasesFromGlobalFields` — the pending releases of a user, picked out of
  all fields by what they begin with.

Main results:

* `Turn.PendingFields.pendingRelease_codec` — **a field gives back what it was made from, belongs to
  one release only, and is picked for its own user only**.
-/

import Pairline.Base64
import Pairline.ByteSpace
import Pairline.Numerals
import Pairline.Turn.Control

set_option relaxedAutoImplicit false
set_option autoImplicit false

namespace Turn.PendingFields

open ByteSpace (trimSpace trimSpace_trimSpace)
open Numerals (cut cut_append)
open Control (Sentinel)

/-- A string of the runtime: any bytes. -/
abbrev GoString := List UInt8

/-! ### Names -/

/-- A digit, or a letter from `a` to `f`. -/
def isHexDigit (c : UInt8) : Bool := (48 ≤ c && c ≤ 57) || (97 ≤ c && c ≤ 102)

/-- `ParseUsername`: the session id and the digest, with a bar between them. -/
def parseUsername (username : GoString) : Option (GoString × GoString) :=
  match cut 124 username with
  | none => none
  | some (first, second) =>
      let sessionID := trimSpace first
      let tokenDigest := trimSpace second
      if sessionID = [] ∨ tokenDigest = [] then none
      else if tokenDigest.length ≠ 64 then none
      else if tokenDigest.all isHexDigit then some (sessionID, tokenDigest) else none

/-! ### Fields -/

structure PendingRelease where
  username : GoString
  operationID : GoString
  deriving DecidableEq

def pendingReleaseField (username operationID : GoString) : Except Sentinel GoString :=
  if trimSpace username = [] ∨ trimSpace operationID = [] then .error .invalidSessionIdentity
  else if (parseUsername (trimSpace username)).isNone then .error .invalidSessionIdentity
  else .ok (Base64.encode (trimSpace username) ++ 58 :: Base64.encode (trimSpace operationID))

def pendingReleaseFieldPrefix (username : GoString) : Except Sentinel GoString :=
  if trimSpace username = [] then .ok []
  else if (parseUsername (trimSpace username)).isNone then .error .invalidSessionIdentity
  else .ok (Base64.encode (trimSpace username) ++ [58])

def decodePendingReleaseField (field : GoString) : Except Sentinel PendingRelease :=
  match cut 58 field with
  | none => .error .validationBackend
  | some (usernamePart, operationPart) =>
      match Base64.decode usernamePart, Base64.decode operationPart with
      | some usernameBytes, some operationBytes =>
          let release : PendingRelease := ⟨trimSpace usernameBytes, trimSpace operationBytes⟩
          match pendingReleaseField release.username release.operationID with
          | .error _ => .error .validationBackend
          | .ok _ => .ok release
      | _, _ => .error .validationBackend

/-- The order of the releases that are returned: by user name, and by operation id. -/
def PendingRelease.less (r r' : PendingRelease) : Bool :=
  if r.username = r'.username then decide (r.operationID < r'.operationID)
  else decide (r.username < r'.username)

/-- `pendingReleasesFromGlobalFields`: without a user name it is all of them. -/
def pendingReleasesFromGlobalFields (fields : List GoString) (username : GoString) :
    Except Sentinel (List PendingRelease) :=
  match pendingReleaseFieldPrefix username with
  | .error cause => .error cause
  | .ok start =>
      match (fields.filter (start.isPrefixOf ·)).mapM decodePendingReleaseField with
      | .error cause => .error cause
      | .ok releases => .ok (releases.mergeSort fun r r' => !r'.less r)

/-! A user has a hash of their own as well, with the operation alone in a field. -/

/-- `turnPendingReleaseIndexKey`, as bytes. -/
def turnPendingReleaseIndexKey : GoString :=
  Control.turnPendingReleaseIndexKey.toUTF8.toList

def pendingReleaseUserKey (username : GoString) : Except Sentinel GoString :=
  if trimSpace username = [] then .error .invalidSessionIdentity
  else if (parseUsername (trimSpace username)).isNone then .error .invalidSessionIdentity
  else .ok (turnPendingReleaseIndexKey ++ 58 :: Base64.encode (trimSpace username))

def pendingReleaseOperationField (operationID : GoString) : Except Sentinel GoString :=
  if trimSpace operationID = [] then .error .invalidSessionIdentity
  else .ok (Base64.encode (trimSpace operationID))

def decodePendingReleaseOperationField (field : GoString) : Except Sentinel GoString :=
  match Base64.decode field with
  | none => .error .validationBackend
  | some operationBytes =>
      match pendingReleaseOperationField (trimSpace operationBytes) with
      | .error _ => .error .validationBackend
      | .ok _ => .ok (trimSpace operationBytes)

/-! ### What a field stands for -/

section Codec

variable {username username' operationID operationID' field : GoString}

/-- A name that is accepted makes a field of its own encoding. -/
theorem pendingReleaseField_eq_ok :
    pendingReleaseField username operationID = .ok field ↔
      trimSpace username ≠ [] ∧ trimSpace operationID ≠ [] ∧
        (parseUsername (trimSpace username)).isSome ∧
        field = Base64.encode (trimSpace username) ++ 58 :: Base64.encode (trimSpace operationID) := by
  unfold pendingReleaseField
  by_cases hempty : trimSpace username = [] ∨ trimSpace operationID = []
  · rw [if_pos hempty]
    refine iff_of_false (fun h => nomatch h) fun h => hempty.elim h.1 h.2.1
  · rw [if_neg hempty]
    rw [not_or] at hempty
    cases hparse : parseUsername (trimSpace username) with
    | none => simp
    | some parsed =>
        simp only [Option.isNone_some, Bool.false_eq_true, if_false, Except.ok.injEq,
          Option.isSome_some, true_and]
        exact ⟨fun h => ⟨hempty.1, hempty.2, h.symm⟩, fun h => h.2.2.symm⟩

/-- The encoding of a text has no colon. -/
theorem colon_notMem_encode (bytes : GoString) : (58 : UInt8) ∉ Base64.encode bytes := by
  intro h
  obtain ⟨n, hn⟩ := Base64.mem_alphabet_of_mem_encode h
  cases hn

theorem cut_field (username operationID : GoString) :
    cut 58 (Base64.encode username ++ 58 :: Base64.encode operationID) =
      some (Base64.encode username, Base64.encode operationID) :=
  cut_append (colon_notMem_encode username) _

/-- **Decoding a field gives back the trimmed pair.** -/
theorem decode_pendingReleaseField (h : pendingReleaseField username operationID = .ok field) :
    decodePendingReleaseField field = .ok ⟨trimSpace username, trimSpace operationID⟩ := by
  obtain ⟨hname, hoperation, hparse, rfl⟩ := pendingReleaseField_eq_ok.1 h
  unfold decodePendingReleaseField
  rw [cut_field]
  simp only [Base64.decode_encode, trimSpace_trimSpace]
  -- the pair is trimmed, so it is accepted again
  have hagain : pendingReleaseField (trimSpace username) (trimSpace operationID) =
      .ok (Base64.encode (trimSpace username) ++ 58 :: Base64.encode (trimSpace operationID)) := by
    rw [pendingReleaseField_eq_ok]
    simp only [trimSpace_trimSpace, and_true]
    exact ⟨hname, hoperation, hparse⟩
  rw [hagain]

/-- **Two different trimmed pairs never share a field.** -/
theorem pendingReleaseField_injective (h : pendingReleaseField username operationID = .ok field)
    (h' : pendingReleaseField username' operationID' = .ok field) :
    trimSpace username = trimSpace username' ∧ trimSpace operationID = trimSpace operationID' := by
  have hdecode := (decode_pendingReleaseField h).symm.trans (decode_pendingReleaseField h')
  exact PendingRelease.mk.inj (Except.ok.inj hdecode)

/-- **Two users never share a hash.** -/
theorem pendingReleaseUserKey_injective {key : GoString}
    (h : pendingReleaseUserKey username = .ok key)
    (h' : pendingReleaseUserKey username' = .ok key) :
    trimSpace username = trimSpace username' := by
  have hkey : ∀ {name : GoString}, pendingReleaseUserKey name = .ok key →
      key = turnPendingReleaseIndexKey ++ 58 :: Base64.encode (trimSpace name) := by
    intro name hname
    unfold pendingReleaseUserKey at hname
    split_ifs at hname
    exact (Except.ok.inj hname).symm
  have heq := (hkey h).symm.trans (hkey h')
  exact Base64.encode_injective (List.cons.inj (List.append_cancel_left heq)).2

/-- **Decoding a field of a user's own hash gives back the trimmed operation.** -/
theorem decode_pendingReleaseOperationField (h : pendingReleaseOperationField operationID = .ok field) :
    decodePendingReleaseOperationField field = .ok (trimSpace operationID) := by
  unfold pendingReleaseOperationField at h
  split_ifs at h with hempty
  obtain rfl := Except.ok.inj h
  unfold decodePendingReleaseOperationField
  simp only [Base64.decode_encode, trimSpace_trimSpace]
  have hagain : pendingReleaseOperationField (trimSpace operationID) =
      .ok (Base64.encode (trimSpace operationID)) := by
    rw [pendingReleaseOperationField, trimSpace_trimSpace, if_neg hempty]
  rw [hagain]

/-! ### The fields of a user -/

/-- What the fields of a user begin with. -/
theorem pendingReleaseFieldPrefix_eq_ok {start : GoString} (hname : trimSpace username ≠ []) :
    pendingReleaseFieldPrefix username = .ok start ↔
      (parseUsername (trimSpace username)).isSome ∧
        start = Base64.encode (trimSpace username) ++ [58] := by
  unfold pendingReleaseFieldPrefix
  rw [if_neg hname]
  cases hparse : parseUsername (trimSpace username) with
  | none => simp
  | some parsed =>
      simp only [Option.isNone_some, Bool.false_eq_true, if_false, Except.ok.injEq,
        Option.isSome_some, true_and]
      exact eq_comm

/-- **A field begins as those of a user do exactly when it is a field of that user.** -/
theorem isPrefixOf_field_iff {start : GoString} (hname : trimSpace username ≠ [])
    (hstart : pendingReleaseFieldPrefix username = .ok start)
    (h : pendingReleaseField username' operationID = .ok field) :
    start.isPrefixOf field = true ↔ trimSpace username' = trimSpace username := by
  obtain ⟨-, rfl⟩ := (pendingReleaseFieldPrefix_eq_ok hname).1 hstart
  obtain ⟨-, -, -, rfl⟩ := pendingReleaseField_eq_ok.1 h
  rw [List.isPrefixOf_iff_prefix]
  constructor
  · rintro ⟨rest, hrest⟩
    -- both sides are cut at their first colon
    have hcut := congrArg (cut 58) hrest
    rw [cut_field, List.append_assoc, List.singleton_append,
      cut_append (colon_notMem_encode _)] at hcut
    exact (Base64.encode_injective (Prod.mk.inj (Option.some_inj.1 hcut)).1).symm
  · intro heq
    rw [heq]
    exact ⟨Base64.encode (trimSpace operationID), by simp⟩

/-- The fields of some trimmed pairs decode to them. -/
theorem mapM_decode {releases : List PendingRelease} {fields : List GoString}
    (h : List.Forall₂ (fun r field => pendingReleaseField r.username r.operationID = .ok field ∧
      trimSpace r.username = r.username ∧ trimSpace r.operationID = r.operationID)
      releases fields) :
    fields.mapM decodePendingReleaseField = .ok releases := by
  induction h with
  | nil => rfl
  | cons hfield _ ih =>
      obtain ⟨hfield, hname, hoperation⟩ := hfield
      rw [List.mapM_cons, decode_pendingReleaseField hfield, hname, hoperation, ih]
      rfl

/-- What is kept of the fields of some trimmed pairs are the fields of those that a user has. -/
theorem forall₂_filter {start : GoString} (hname : trimSpace username ≠ [])
    (hstart : pendingReleaseFieldPrefix username = .ok start) {releases : List PendingRelease}
    {fields : List GoString}
    (h : List.Forall₂ (fun r field => pendingReleaseField r.username r.operationID = .ok field ∧
      trimSpace r.username = r.username ∧ trimSpace r.operationID = r.operationID)
      releases fields) :
    List.Forall₂ (fun r field => pendingReleaseField r.username r.operationID = .ok field ∧
      trimSpace r.username = r.username ∧ trimSpace r.operationID = r.operationID)
      (releases.filter fun r => r.username = trimSpace username)
      (fields.filter (start.isPrefixOf ·)) := by
  induction h with
  | nil => exact .nil
  | @cons r field releases fields hfield _ ih =>
      have hiff := isPrefixOf_field_iff hname hstart hfield.1
      rw [hfield.2.1] at hiff
      by_cases hkept : r.username = trimSpace username
      · rw [List.filter_cons_of_pos (by simpa using hkept),
          List.filter_cons_of_pos (hiff.2 hkept)]
        exact .cons hfield ih
      · rw [List.filter_cons_of_neg (by simpa using hkept),
          List.filter_cons_of_neg fun hstarts => hkept (hiff.1 hstarts)]
        exact ih

/-- **Of the fields of some trimmed pairs those of a user are returned**, decoded and sorted. -/
theorem pendingReleasesFromGlobalFields_eq {start : GoString} (hname : trimSpace username ≠ [])
    (hstart : pendingReleaseFieldPrefix username = .ok start) {releases : List PendingRelease}
    {fields : List GoString}
    (h : List.Forall₂ (fun r field => pendingReleaseField r.username r.operationID = .ok field ∧
      trimSpace r.username = r.username ∧ trimSpace r.operationID = r.operationID)
      releases fields) :
    ∃ returned, pendingReleasesFromGlobalFields fields username = .ok returned ∧
      returned.Perm (releases.filter fun r => r.username = trimSpace username) := by
  refine ⟨(releases.filter fun r => r.username = trimSpace username).mergeSort
    fun r r' => !r'.less r, ?_, List.mergeSort_perm _ _⟩
  rw [pendingReleasesFromGlobalFields, hstart]
  dsimp only
  rw [mapM_decode (forall₂_filter hname hstart h)]

end Codec

/-! ### The codec -/

/-- **The codec of pending releases**: a field that is accepted decodes to the trimmed pair, two
different trimmed pairs never share a field, and what the fields of a user begin with is in the
fields of that user and of nobody else. -/
theorem pendingRelease_codec :
    (∀ username operationID field, pendingReleaseField username operationID = .ok field →
      decodePendingReleaseField field = .ok ⟨trimSpace username, trimSpace operationID⟩) ∧
    (∀ username operationID username' operationID' field,
      pendingReleaseField username operationID = .ok field →
      pendingReleaseField username' operationID' = .ok field →
        trimSpace username = trimSpace username' ∧ trimSpace operationID = trimSpace operationID') ∧
    ∀ username start, trimSpace username ≠ [] → pendingReleaseFieldPrefix username = .ok start →
      (∀ username' operationID field, pendingReleaseField username' operationID = .ok field →
        (start.isPrefixOf field = true ↔ trimSpace username' = trimSpace username)) ∧
      ∀ releases fields,
        List.Forall₂ (fun r field => pendingReleaseField r.username r.operationID = .ok field ∧
          trimSpace r.username = r.username ∧ trimSpace r.operationID = r.operationID)
          releases fields →
        ∃ returned, pendingReleasesFromGlobalFields fields username = .ok returned ∧
          returned.Perm (releases.filter fun r => r.username = trimSpace username) :=
  ⟨fun _ _ _ => decode_pendingReleaseField, fun _ _ _ _ _ => pendingReleaseField_injective,
    fun _ _ hname hstart => ⟨fun _ _ _ => isPrefixOf_field_iff hname hstart,
      fun _ _ => pendingReleasesFromGlobalFields_eq hname hstart⟩⟩

/-- A user name: the session id, a bar and a digest of zeros. -/
def usernameOf (sessionID : GoString) : GoString := sessionID ++ 124 :: List.replicate 64 48

/-- The operation `x` of a session whose id begins with the id of another. -/
def longerUser : PendingRelease := ⟨usernameOf [97, 98], [120]⟩

/-- The operation `x` of the other session. -/
def shorterUser : PendingRelease := ⟨usernameOf [97], [120]⟩

/-- Two sessions of which one id begins with the other, each with a release, and the releases of the
shorter one are asked for. -/
theorem pendingRelease_codec_twoUsers :
    ∃ field field', pendingReleaseField longerUser.username longerUser.operationID = .ok field ∧
      pendingReleaseField shorterUser.username shorterUser.operationID = .ok field' ∧
      decodePendingReleaseField field = .ok longerUser ∧ field ≠ field' ∧
      pendingReleasesFromGlobalFields [field, field'] shorterUser.username = .ok [shorterUser] := by
  obtain ⟨hdecode, hinjective, huser⟩ := pendingRelease_codec
  have hfields : (∃ field, pendingReleaseField longerUser.username longerUser.operationID =
      .ok field) ∧ ∃ field, pendingReleaseField shorterUser.username shorterUser.operationID =
      .ok field := ⟨⟨_, rfl⟩, ⟨_, rfl⟩⟩
  obtain ⟨⟨field, hfield⟩, field', hfield'⟩ := hfields
  have htrimmed : trimSpace longerUser.username = longerUser.username ∧
      trimSpace shorterUser.username = shorterUser.username ∧
      trimSpace longerUser.operationID = longerUser.operationID ∧
      trimSpace shorterUser.operationID = shorterUser.operationID := by decide +kernel
  obtain ⟨hlonger, hshorter, hlonger', hshorter'⟩ := htrimmed
  have hdecoded := hdecode _ _ _ hfield
  rw [hlonger, hlonger'] at hdecoded
  have hnames : longerUser.username ≠ shorterUser.username ∧
      trimSpace shorterUser.username ≠ [] := by decide +kernel
  have hstart : ∃ start, pendingReleaseFieldPrefix shorterUser.username = .ok start := ⟨_, rfl⟩
  obtain ⟨start, hstart⟩ := hstart
  obtain ⟨returned, hreturned, hperm⟩ := (huser _ _ hnames.2 hstart).2 [longerUser, shorterUser]
    [field, field'] (.cons ⟨hfield, hlonger, hlonger'⟩ (.cons ⟨hfield', hshorter, hshorter'⟩ .nil))
  have hfilter : ([longerUser, shorterUser].filter fun r =>
      r.username = trimSpace shorterUser.username) = [shorterUser] := by decide +kernel
  rw [hfilter] at hperm
  refine ⟨field, field', hfield, hfield', hdecoded, fun heq => ?_, ?_⟩
  · have hsame := (hinjective _ _ _ _ _ hfield (heq ▸ hfield')).1
    rw [hlonger, hshorter] at hsame
    exact hnames.1 hsame
  · rw [hreturned, List.perm_singleton.1 hperm]

end Turn.PendingFields
