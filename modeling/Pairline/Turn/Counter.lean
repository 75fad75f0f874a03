/-
**The allocation counters of the TURN relay.**

The relay bounds how many allocations a session may hold.  Redis keeps one hash for each session,
with the count and a mark for every release that was applied, and two Lua scripts change it: one
reserves a slot, the other gives a slot back under an operation id.

Main definitions:

* `Turn.Key`, `Turn.CounterKeys` — the keys of the store, with their types and expiry times;
* `Turn.reserveAllocationSlotScript`, `Turn.releaseAllocationSlotScript` — the two scripts;
* `Turn.parseUsername`, `Turn.reserveAllocationSlot`, `Turn.releaseAllocationSlot` — the functions
  that run them;
* `Turn.Ledger` — the keys with the history of the calls made so far.

Main results:

* `Turn.Ledger.Accounts.record` — **the accounts of every counter balance after every call**;
* `Turn.allocation_counter_accounts` — so they balance after any sequence of calls.
-/

import Mathlib.Data.List.TakeDrop
import Pairline.Turn.Service

set_option relaxedAutoImplicit false
set_option autoImplicit false

namespace Turn

open Whitespace

/-! ### Keys -/

/-- The value of a key.  Of a string only the number matters that `tonumber` reads off it. -/
inductive Value
  | string (number : Option ℤ)
  | hash (fields : GoMap ℤ)
  | other

structure Key where
  value : Value
  expireAt : Option ℕ

/-- The keys of the store. -/
abbrev CounterKeys := String → Option Key

/-- Why a script fails. -/
inductive ScriptError
  | wrongType
  | notANumber

/-- `turnAllocationCounterTTL`, in milliseconds. -/
def turnAllocationCounterTTL : ℕ := 24 * 60 * 60 * 1000

def turnAllocationKey (sessionID : String) : String := "turn:allocations:" ++ sessionID

theorem turnAllocationKey_inj {sessionID sessionID' : String} :
    turnAllocationKey sessionID = turnAllocationKey sessionID' ↔ sessionID = sessionID' :=
  String.append_right_inj "turn:allocations:"

/-- The field that marks an operation as applied. -/
def operationField (operationID : String) : String := "release:" ++ operationID

theorem operationField_inj {operationID operationID' : String} :
    operationField operationID = operationField operationID' ↔ operationID = operationID' :=
  String.append_right_inj "release:"

/-- No mark is the count. -/
theorem operationField_ne_count (operationID : String) : operationField operationID ≠ "count" := by
  intro h
  have hlength : "release:".length + operationID.length = "count".length := by
    rw [← String.length_append, ← operationField, h]
  have hrelease : "release:".length = 8 := by decide
  have hcount : "count".length = 5 := by decide
  omega

/-! ### The scripts -/

/-- The hash that both scripts work on: a counter of the old kind, a string, is replaced by a hash,
and a key of any other type is refused. -/
def counterFields : Option Key → Except ScriptError (GoMap ℤ)
  | none => .ok ∅
  | some ⟨.string (some current), _⟩ =>
      .ok (if current > 0 then (∅ : GoMap ℤ).insert "count" current else ∅)
  | some ⟨.string none, _⟩ => .error .notANumber
  | some ⟨.hash fields, _⟩ => .ok fields
  | some ⟨.other, _⟩ => .error .wrongType

/-- What a script that fails leaves behind: it deletes a string before it looks at its number. -/
def afterScriptError : Option Key → Option Key
  | some ⟨.string _, _⟩ => none
  | key => key

/-- `reserveAllocationSlotScriptSource`. -/
def reserveAllocationSlotScript (now : ℕ) (limit : ℤ) (ttl : ℕ) (key : Option Key) :
    Except ScriptError ℤ × Option Key :=
  match counterFields key with
  | .error e => (.error e, afterScriptError key)
  | .ok fields =>
      let current := fields.get "count" + 1
      let fields := fields.insert "count" current
      if current > limit then
        let remaining := current - 1
        (.ok 0,
          if remaining ≤ 0 then none
          else some ⟨.hash (fields.insert "count" remaining), some (now + ttl)⟩)
      else (.ok 1, some ⟨.hash fields, some (now + ttl)⟩)

/-- `releaseAllocationSlotScriptSource`.  An operation that is marked changes nothing, also not the
expiry time. -/
def releaseAllocationSlotScript (now : ℕ) (operationID : String) (ttl : ℕ) (key : Option Key) :
    Except ScriptError ℤ × Option Key :=
  match key with
  | none =>
      (.ok 0,
        some ⟨.hash (((∅ : GoMap ℤ).insert "count" 0).insert (operationField operationID) 1),
          some (now + ttl)⟩)
  | some ⟨value, expireAt⟩ =>
      match counterFields (some ⟨value, expireAt⟩) with
      | .error e => (.error e, afterScriptError (some ⟨value, expireAt⟩))
      | .ok fields =>
          if operationField operationID ∈ fields then
            (.ok (fields.get "count"), some ⟨.hash fields, expireAt⟩)
          else
            let remaining := fields.get "count" - 1
            let fields := (fields.insert "count" remaining).insert (operationField operationID) 1
            if remaining ≤ 0 then
              (.ok 0, some ⟨.hash (fields.insert "count" 0), some (now + ttl)⟩)
            else (.ok remaining, some ⟨.hash fields, some (now + ttl)⟩)

/-- The stored allocation count of a key. -/
def Key.count : Option Key → ℤ
  | some ⟨.hash fields, _⟩ => fields.get "count"
  | some ⟨.string number, _⟩ => number.getD 0
  | _ => 0

/-- The marks of a key. -/
def Key.Marked (operationID : String) : Option Key → Prop
  | some ⟨.hash fields, _⟩ => operationField operationID ∈ fields
  | _ => False

section Keys

variable (fields : GoMap ℤ) (expireAt : Option ℕ) (operationID : String)

@[simp] theorem Key.count_none : Key.count none = 0 := rfl

@[simp] theorem Key.count_hash : Key.count (some ⟨.hash fields, expireAt⟩) = fields.get "count" :=
  rfl

@[simp] theorem Key.marked_none : Key.Marked operationID none ↔ False := Iff.rfl

@[simp] theorem Key.marked_hash :
    Key.Marked operationID (some ⟨.hash fields, expireAt⟩) ↔
      operationField operationID ∈ fields := Iff.rfl

end Keys

instance (operationID : String) (key : Option Key) : Decidable (Key.Marked operationID key) := by
  unfold Key.Marked
  split <;> infer_instance

/-! ### The functions that run them -/

/-- The characters of a hexadecimal digest in small letters. -/
def isDigestChar (c : Char) : Bool := ('0' ≤ c && c ≤ '9') || ('a' ≤ c && c ≤ 'f')

/-- `ParseUsername`: the session id and the token digest. -/
def parseUsername (username : String) : Option (String × String) :=
  let parts := username.toList.span (· ≠ '|')
  match parts.2 with
  | [] => none
  | _ :: digest =>
      let sessionID := trim (String.ofList parts.1)
      let tokenDigest := trim (String.ofList digest)
      if sessionID = "" ∨ tokenDigest = "" then none
      else if tokenDigest.utf8ByteSize ≠ 64 then none
      else if tokenDigest.toList.all isDigestChar then some (sessionID, tokenDigest)
      else none

/-- **A name is read alike with and without white space around it.** -/
theorem parseUsername_trim (username : String) :
    parseUsername (trim username) = parseUsername username := by
  by_cases hmem : '|' ∈ username.toList
  · obtain ⟨a, b, hsplit, ha⟩ := List.eq_append_cons_of_mem hmem
    have hspan : ∀ a' : List Char, (∀ c ∈ a', c ≠ '|') → ∀ b' : List Char,
        (a' ++ '|' :: b').span (· ≠ '|') = (a', '|' :: b') := by
      intro a' ha' b'
      rw [List.span_eq_takeWhile_dropWhile, List.takeWhile_append_of_pos (by simpa using ha'),
        List.dropWhile_append_of_pos (by simpa using ha')]
      simp
    have ha : ∀ c ∈ a, c ≠ '|' := fun c hc heq => ha (heq ▸ hc)
    have htrim : (trim username).toList =
        a.dropWhile isSpace ++ '|' :: b.rdropWhile isSpace := by
      rw [trim, String.toList_ofList, hsplit, trimList_append_cons isSpace a b (by decide)]
    have ha' : ∀ c ∈ a.dropWhile isSpace, c ≠ '|' :=
      fun c hc => ha c (List.dropWhile_subset _ hc)
    have hleft : trim (String.ofList (a.dropWhile isSpace)) = trim (String.ofList a) := by
      simp only [trim, String.toList_ofList, trimList_dropWhile]
    have hright : trim (String.ofList (b.rdropWhile isSpace)) = trim (String.ofList b) := by
      simp only [trim, String.toList_ofList, trimList_rdropWhile]
    simp only [parseUsername, htrim, hsplit, hspan _ ha, hspan _ ha', hleft, hright]
  · have hnone : ∀ name : String, '|' ∉ name.toList → parseUsername name = none := by
      intro name hname
      have hdrop : name.toList.dropWhile (· ≠ '|') = [] :=
        List.dropWhile_eq_nil_iff.2 fun c hc => decide_eq_true fun heq => hname (heq ▸ hc)
      simp only [parseUsername, List.span_eq_takeWhile_dropWhile, hdrop]
    have htrim : '|' ∉ (trim username).toList := by
      rw [trim, String.toList_ofList]
      exact fun h => hmem (List.dropWhile_subset _ ((List.rdropWhile_prefix _ _).subset h))
    rw [hnone _ hmem, hnone _ htrim]

/-- Why a call fails. -/
inductive ValidationFailure
  | invalidSessionIdentity
  | validationBackend

/-- Run a script on the counter of a session. -/
def runCounterScript {α : Type} (keys : CounterKeys) (sessionID : String)
    (script : Option Key → Except ScriptError ℤ × Option Key) (reply : ℤ → α) :
    Except ValidationFailure α × CounterKeys :=
  let (result, key) := script (keys (turnAllocationKey sessionID))
  (match result with
    | .ok value => .ok (reply value)
    | .error _ => .error .validationBackend,
    Function.update keys (turnAllocationKey sessionID) key)

/-- `ReserveAllocationSlot`. -/
def reserveAllocationSlot (now : ℕ) (limit : ℤ) (username : String) (keys : CounterKeys) :
    Except ValidationFailure Bool × CounterKeys :=
  if limit ≤ 0 then (.ok true, keys)
  else
    match parseUsername username with
    | none => (.error .invalidSessionIdentity, keys)
    | some (sessionID, _) =>
        runCounterScript keys sessionID
          (reserveAllocationSlotScript now limit turnAllocationCounterTTL) fun result => result = 1

/-- `ReleaseAllocationSlot`. -/
def releaseAllocationSlot (now : ℕ) (username operationID : String) (keys : CounterKeys) :
    Except ValidationFailure Unit × CounterKeys :=
  match parseUsername username with
  | none => (.error .invalidSessionIdentity, keys)
  | some (sessionID, _) =>
      let operationID := trim operationID
      if operationID = "" then (.error .invalidSessionIdentity, keys)
      else
        runCounterScript keys sessionID
          (releaseAllocationSlotScript now operationID turnAllocationCounterTTL) fun _ => ()

/-! ### What the scripts do to a counter -/

/-- A counter of the new kind, or none. -/
def IsCounter (key : Option Key) : Prop :=
  key = none ∨ ∃ fields expireAt, key = some ⟨.hash fields, expireAt⟩

/-- Writing the count leaves the marks alone. -/
theorem marked_insert_count {fields : GoMap ℤ} {count : ℤ} {operationID : String} :
    operationField operationID ∈ fields.insert "count" count ↔
      operationField operationID ∈ fields := by
  simp [AList.mem_insert, operationField_ne_count]

/-- The fields of a counter hold its count and its marks. -/
theorem IsCounter.fields {key : Option Key} (h : IsCounter key) :
    ∃ fields : GoMap ℤ, counterFields key = .ok fields ∧ fields.get "count" = Key.count key ∧
      ∀ operationID, operationField operationID ∈ fields ↔ Key.Marked operationID key := by
  rcases h with rfl | ⟨fields, expireAt, rfl⟩
  · refine ⟨∅, rfl, rfl, fun operationID => ?_⟩
    simp [Key.Marked]
  · exact ⟨fields, rfl, rfl, fun operationID => Iff.rfl⟩

section Scripts

variable {key : Option Key} (h : IsCounter key) (now ttl : ℕ)

include h

/-- **A reserve is granted while the count is below the limit**, and only then it counts; granted or
not, it puts the expiry off. -/
theorem reserveAllocationSlotScript_counter {limit : ℤ} (hlimit : 1 ≤ limit) :
    ∃ fields, reserveAllocationSlotScript now limit ttl key =
        (.ok (if Key.count key < limit then 1 else 0), some ⟨.hash fields, some (now + ttl)⟩) ∧
      fields.get "count" = (if Key.count key < limit then Key.count key + 1 else Key.count key) ∧
      ∀ operationID, operationField operationID ∈ fields ↔ Key.Marked operationID key := by
  obtain ⟨fields, hfields, hcount, hmarks⟩ := h.fields
  by_cases hlt : Key.count key < limit
  · have hgranted : ¬ Key.count key + 1 > limit := by omega
    refine ⟨fields.insert "count" (Key.count key + 1), ?_, ?_, fun operationID => ?_⟩
    · simp only [reserveAllocationSlotScript, hfields, hcount, if_neg hgranted, if_pos hlt]
    · simp only [GoMap.get_insert, if_pos hlt]
    · exact marked_insert_count.trans (hmarks operationID)
  · -- the count is at least the limit, so at least one: the key is not deleted
    have hdenied : Key.count key + 1 > limit := by omega
    have hkept : ¬ Key.count key + 1 - 1 ≤ 0 := by omega
    refine ⟨(fields.insert "count" (Key.count key + 1)).insert "count" (Key.count key + 1 - 1),
      ?_, ?_, fun operationID => ?_⟩
    · simp only [reserveAllocationSlotScript, hfields, hcount, if_pos hdenied, if_neg hkept,
        if_neg hlt]
    · simp only [GoMap.get_insert, if_neg hlt]
      omega
    · exact (marked_insert_count.trans marked_insert_count).trans (hmarks operationID)

/-- A marked operation changes nothing. -/
theorem releaseAllocationSlotScript_marked {operationID : String}
    (hmark : Key.Marked operationID key) :
    releaseAllocationSlotScript now operationID ttl key = (.ok (Key.count key), key) := by
  rcases h with rfl | ⟨fields, expireAt, rfl⟩
  · exact absurd hmark id
  · have hmem : operationField operationID ∈ fields := hmark
    simp only [releaseAllocationSlotScript, counterFields, if_pos hmem, Key.count]

/-- **An operation that is not marked gives one slot back**, if there is one, and is marked; this
puts the expiry off. -/
theorem releaseAllocationSlotScript_unmarked {operationID : String}
    (hmark : ¬ Key.Marked operationID key) :
    ∃ remaining fields, releaseAllocationSlotScript now operationID ttl key =
        (.ok remaining, some ⟨.hash fields, some (now + ttl)⟩) ∧
      fields.get "count" = max (Key.count key - 1) 0 ∧
      ∀ other, operationField other ∈ fields ↔ other = operationID ∨ Key.Marked other key := by
  have hne : "count" ≠ operationField operationID := (operationField_ne_count operationID).symm
  rcases h with rfl | ⟨fields, expireAt, rfl⟩
  · refine ⟨_, _, rfl, ?_, fun other => ?_⟩
    · simp only [GoMap.get_insert_of_ne _ _ hne, GoMap.get_insert]
      rfl
    · simp only [Key.marked_none, AList.mem_insert, operationField_ne_count, AList.notMem_empty,
        operationField_inj, or_self]
  · have hmem : operationField operationID ∉ fields := hmark
    have hmarks : ∀ other (count : ℤ),
        operationField other ∈
            (fields.insert "count" count).insert (operationField operationID) 1 ↔
          other = operationID ∨ operationField other ∈ fields := by
      intro other count
      simp only [AList.mem_insert, operationField_ne_count, operationField_inj, false_or]
    simp only [releaseAllocationSlotScript, counterFields, if_neg hmem, Key.count_hash]
    by_cases hpos : 0 < fields.get "count" - 1
    · refine ⟨_, _, by rw [if_neg (by omega)], ?_, fun other => hmarks other _⟩
      rw [GoMap.get_insert_of_ne _ _ hne, GoMap.get_insert]
      omega
    · refine ⟨_, _, by rw [if_pos (by omega)], ?_, fun other => ?_⟩
      · rw [GoMap.get_insert]
        omega
      · exact marked_insert_count.trans (hmarks other _)

end Scripts

/-! ### The accounts -/

/-- A call of the session service, with its time. -/
inductive Call
  | reserve (now : ℕ) (username : String)
  | release (now : ℕ) (username operationID : String)

/-- The keys, with the history of the calls: the session of every granted reserve, the operations
that were applied (each once), and those among them that found a positive count. -/
structure Ledger where
  keys : CounterKeys
  granted : List String
  applied : List (String × String)
  spent : List (String × String)

/-- Before the first call there is no counter. -/
def emptyLedger : Ledger where
  keys := fun _ => none
  granted := []
  applied := []
  spent := []

namespace Ledger

def key (w : Ledger) (sessionID : String) : Option Key := w.keys (turnAllocationKey sessionID)

/-- The stored allocation count of a session. -/
def count (w : Ledger) (sessionID : String) : ℤ := Key.count (w.key sessionID)

/-- What the history keeps of a granted reserve. -/
def recordGrant (w : Ledger) (sessionID : String) : Ledger :=
  { w with granted := sessionID :: w.granted }

/-- What the history keeps of a release that found the count `before`. -/
def recordRelease (w : Ledger) (before : ℤ) (sessionID operationID : String) : Ledger :=
  if (sessionID, operationID) ∈ w.applied then w
  else
    { w with
      applied := (sessionID, operationID) :: w.applied
      spent := if 0 < before then (sessionID, operationID) :: w.spent else w.spent }

/-- **One call.** -/
def record (limit : ℤ) (w : Ledger) : Call → Ledger
  | .reserve now username =>
      let (reply, keys) := reserveAllocationSlot now limit username w.keys
      match reply, parseUsername username with
      | .ok true, some (sessionID, _) => { w with keys := keys }.recordGrant sessionID
      | _, _ => { w with keys := keys }
  | .release now username operationID =>
      let (reply, keys) := releaseAllocationSlot now username operationID w.keys
      match reply, parseUsername username with
      | .ok (), some (sessionID, _) =>
          { w with keys := keys }.recordRelease (w.count sessionID) sessionID (trim operationID)
      | _, _ => { w with keys := keys }

/-- **The accounts of the counters balance**: each count is the granted reserves less the releases
that found a positive count, and the marks are the operations that were applied. -/
structure Accounts (limit : ℤ) (w : Ledger) : Prop where
  counter : ∀ sessionID, IsCounter (w.key sessionID)
  nonneg : ∀ sessionID, 0 ≤ w.count sessionID
  le_limit : ∀ sessionID, w.count sessionID ≤ limit
  balance : ∀ sessionID, w.count sessionID =
    w.granted.count sessionID - (w.spent.map Prod.fst).count sessionID
  marks : ∀ sessionID operationID,
    Key.Marked operationID (w.key sessionID) ↔ (sessionID, operationID) ∈ w.applied
  spent : w.spent.Sublist w.applied
  distinct : w.applied.Nodup

theorem count_emptyLedger (sessionID : String) : emptyLedger.count sessionID = 0 := rfl

theorem accounts_emptyLedger {limit : ℤ} (hlimit : 1 ≤ limit) : emptyLedger.Accounts limit where
  counter _ := .inl rfl
  nonneg sessionID := Int.le_of_eq (count_emptyLedger sessionID).symm
  le_limit sessionID := by
    rw [count_emptyLedger]
    omega
  balance _ := rfl
  marks _ _ := ⟨fun h => absurd h id, fun h => absurd h List.not_mem_nil⟩
  spent := .slnil
  distinct := .nil

section Write

variable {w w' : Ledger} {sessionID : String} {key' : Option Key}
  (hkeys : w'.keys = Function.update w.keys (turnAllocationKey sessionID) key')

include hkeys

/-- The counter of one session is written. -/
theorem key_of_update : w'.key sessionID = key' := by
  rw [key, hkeys, Function.update_self]

theorem key_of_update_of_ne {other : String} (h : other ≠ sessionID) :
    w'.key other = w.key other := by
  have hne : turnAllocationKey other ≠ turnAllocationKey sessionID :=
    fun heq => h (turnAllocationKey_inj.1 heq)
  rw [key, hkeys, Function.update_of_ne hne, key]

/-- **What a call has to show**: it writes the counter of one session, and the entries of that
session in the history match it; the entries of the others are as they were. -/
theorem Accounts.write {limit : ℤ} (h : w.Accounts limit) (hcounter : IsCounter key')
    (hnonneg : 0 ≤ Key.count key') (hle : Key.count key' ≤ limit)
    (hbalance : Key.count key' =
      w'.granted.count sessionID - (w'.spent.map Prod.fst).count sessionID)
    (hmarks : ∀ operationID, Key.Marked operationID key' ↔ (sessionID, operationID) ∈ w'.applied)
    (hothers : ∀ other, other ≠ sessionID →
      w'.granted.count other = w.granted.count other ∧
      (w'.spent.map Prod.fst).count other = (w.spent.map Prod.fst).count other ∧
      ∀ operationID, (other, operationID) ∈ w'.applied ↔ (other, operationID) ∈ w.applied)
    (hspent : w'.spent.Sublist w'.applied) (hdistinct : w'.applied.Nodup) :
    w'.Accounts limit := by
  have hself : w'.key sessionID = key' := key_of_update hkeys
  have hother := fun other (hne : other ≠ sessionID) => key_of_update_of_ne hkeys hne
  constructor
  case counter =>
    intro other
    rcases eq_or_ne other sessionID with rfl | hne
    · exact hself.symm ▸ hcounter
    · exact hother other hne ▸ h.counter other
  case nonneg =>
    intro other
    rcases eq_or_ne other sessionID with rfl | hne
    · rwa [count, hself]
    · rw [count, hother other hne]
      exact h.nonneg other
  case le_limit =>
    intro other
    rcases eq_or_ne other sessionID with rfl | hne
    · rwa [count, hself]
    · rw [count, hother other hne]
      exact h.le_limit other
  case balance =>
    intro other
    rcases eq_or_ne other sessionID with rfl | hne
    · rw [count, hself, hbalance]
    · rw [count, hother other hne, (hothers other hne).1, (hothers other hne).2.1]
      exact h.balance other
  case marks =>
    intro other operationID
    rcases eq_or_ne other sessionID with rfl | hne
    · rw [hself, hmarks]
    · rw [hother other hne, (hothers other hne).2.2]
      exact h.marks other operationID
  case spent => exact hspent
  case distinct => exact hdistinct

end Write

section Calls

variable {limit : ℤ} {w : Ledger} (h : w.Accounts limit) (now : ℕ)
  {username sessionID tokenDigest : String}
  (hparse : parseUsername username = some (sessionID, tokenDigest))

include h hparse

/-- What a reserve does. -/
theorem Accounts.reserve (hlimit : 1 ≤ limit) :
    ∃ key', reserveAllocationSlot now limit username w.keys =
        (.ok (w.count sessionID < limit : Bool),
          Function.update w.keys (turnAllocationKey sessionID) key') ∧ IsCounter key' ∧
      Key.count key' =
        (if w.count sessionID < limit then w.count sessionID + 1 else w.count sessionID) ∧
      ∀ operationID, Key.Marked operationID key' ↔ Key.Marked operationID (w.key sessionID) := by
  obtain ⟨fields, hscript, hkey'⟩ := reserveAllocationSlotScript_counter (h.counter sessionID) now
    turnAllocationCounterTTL hlimit
  refine ⟨some ⟨.hash fields, some (now + turnAllocationCounterTTL)⟩, ?_, .inr ⟨_, _, rfl⟩, hkey'⟩
  have hpos : ¬ limit ≤ 0 := by omega
  simp only [key] at hscript
  simp only [reserveAllocationSlot, if_neg hpos, hparse, runCounterScript, hscript, count, key]
  by_cases hlt : Key.count (w.keys (turnAllocationKey sessionID)) < limit
  · simp [hlt]
  · simp [hlt]

/-- A release of an operation that was applied changes nothing. -/
theorem Accounts.release_applied {operationID : String}
    (happlied : (sessionID, trim operationID) ∈ w.applied) :
    (releaseAllocationSlot now username operationID w.keys).2 = w.keys := by
  have hmark := (h.marks sessionID (trim operationID)).2 happlied
  have hscript := releaseAllocationSlotScript_marked (h.counter sessionID) now
    turnAllocationCounterTTL hmark
  simp only [key] at hscript
  simp only [releaseAllocationSlot, hparse]
  split
  · rfl
  · simp only [runCounterScript, hscript, Function.update_eq_self]

/-- What a release of another operation does. -/
theorem Accounts.release_fresh {operationID : String} (hne : trim operationID ≠ "")
    (hfresh : (sessionID, trim operationID) ∉ w.applied) :
    ∃ key', releaseAllocationSlot now username operationID w.keys =
        (.ok (), Function.update w.keys (turnAllocationKey sessionID) key') ∧ IsCounter key' ∧
      Key.count key' = max (w.count sessionID - 1) 0 ∧
      ∀ other, Key.Marked other key' ↔
        other = trim operationID ∨ Key.Marked other (w.key sessionID) := by
  have hmark : ¬ Key.Marked (trim operationID) (w.key sessionID) :=
    fun hmark => hfresh ((h.marks _ _).1 hmark)
  obtain ⟨remaining, fields, hscript, hkey'⟩ := releaseAllocationSlotScript_unmarked
    (h.counter sessionID) now turnAllocationCounterTTL hmark
  refine ⟨some ⟨.hash fields, some (now + turnAllocationCounterTTL)⟩, ?_, .inr ⟨_, _, rfl⟩, hkey'⟩
  simp only [key] at hscript
  simp only [releaseAllocationSlot, hparse, if_neg hne, runCounterScript, hscript]

end Calls

/-- A reserve keeps the accounts balanced. -/
theorem Accounts.record_reserve {limit : ℤ} {w : Ledger} (h : w.Accounts limit)
    (hlimit : 1 ≤ limit) (now : ℕ) (username : String) :
    (w.record limit (.reserve now username)).Accounts limit := by
  cases hparse : parseUsername username with
  | none =>
      have hpos : ¬ limit ≤ 0 := by omega
      simpa only [record, reserveAllocationSlot, if_neg hpos, hparse] using h
  | some identity =>
      obtain ⟨sessionID, tokenDigest⟩ := identity
      obtain ⟨key', hreserve, hcounter, hcount, hmarks⟩ := h.reserve now hparse hlimit
      have hbalance := h.balance sessionID
      have hnonneg := h.nonneg sessionID
      have hle := h.le_limit sessionID
      simp only [record, hreserve, hparse]
      by_cases hlt : w.count sessionID < limit
      · rw [if_pos hlt] at hcount
        simp only [hlt, decide_true]
        refine h.write rfl hcounter (by omega) (by omega) ?_
          (fun operationID => (hmarks operationID).trans (h.marks _ _)) (fun other hne => ?_)
          h.spent h.distinct
        · simp only [recordGrant, List.count_cons_self]
          omega
        · simp only [recordGrant, List.count_cons_of_ne hne.symm, true_and, implies_true]
      · rw [if_neg hlt] at hcount
        simp only [hlt, decide_false]
        exact h.write rfl hcounter (by omega) (by omega) (hcount.trans hbalance)
          (fun operationID => (hmarks operationID).trans (h.marks _ _))
          (fun other _ => ⟨rfl, rfl, fun _ => Iff.rfl⟩) h.spent h.distinct

/-- A release of an operation that was not applied before keeps the accounts balanced. -/
theorem Accounts.record_release_fresh {limit : ℤ} {w : Ledger} (h : w.Accounts limit) (now : ℕ)
    {username sessionID tokenDigest operationID : String}
    (hparse : parseUsername username = some (sessionID, tokenDigest))
    (hne : trim operationID ≠ "") (hfresh : (sessionID, trim operationID) ∉ w.applied) :
    (w.record limit (.release now username operationID)).Accounts limit := by
  obtain ⟨key', hrelease, hcounter, hcount, hmarks⟩ := h.release_fresh now hparse hne hfresh
  have hbalance := h.balance sessionID
  have hnonneg := h.nonneg sessionID
  have hle := h.le_limit sessionID
  simp only [record, hrelease, hparse, recordRelease, if_neg hfresh]
  have hmarks' : ∀ other, Key.Marked other key' ↔
      (sessionID, other) ∈ (sessionID, trim operationID) :: w.applied := by
    intro other
    rw [hmarks, List.mem_cons, h.marks, Prod.mk.injEq]
    simp only [true_and]
  have hothers : ∀ other, other ≠ sessionID → ∀ op,
      (other, op) ∈ (sessionID, trim operationID) :: w.applied ↔ (other, op) ∈ w.applied := by
    intro other hother op
    simp only [List.mem_cons, Prod.mk.injEq, hother, false_and, false_or]
  have hdistinct : ((sessionID, trim operationID) :: w.applied).Nodup :=
    List.nodup_cons.2 ⟨hfresh, h.distinct⟩
  by_cases hpos : 0 < w.count sessionID
  · simp only [if_pos hpos]
    refine h.write rfl hcounter (by omega) (by omega) ?_ hmarks' (fun other hother => ?_)
      (h.spent.cons_cons _) hdistinct
    · simp only [List.map_cons, List.count_cons_self]
      omega
    · exact ⟨rfl, List.count_cons_of_ne hother.symm, hothers other hother⟩
  · -- an empty counter stays empty, and the release is not counted
    simp only [if_neg hpos]
    have hsame : Key.count key' = w.count sessionID := by omega
    exact h.write rfl hcounter (by omega) (by omega) (hsame.trans hbalance) hmarks'
      (fun other hother => ⟨rfl, rfl, hothers other hother⟩) (h.spent.cons _) hdistinct

/-- A release keeps the accounts balanced. -/
theorem Accounts.record_release {limit : ℤ} {w : Ledger} (h : w.Accounts limit) (now : ℕ)
    (username operationID : String) :
    (w.record limit (.release now username operationID)).Accounts limit := by
  cases hparse : parseUsername username with
  | none => simpa only [record, releaseAllocationSlot, hparse] using h
  | some identity =>
      obtain ⟨sessionID, tokenDigest⟩ := identity
      by_cases hempty : trim operationID = ""
      · simpa only [record, releaseAllocationSlot, hparse, if_pos hempty] using h
      by_cases happlied : (sessionID, trim operationID) ∈ w.applied
      · have hkeys := h.release_applied now hparse happlied
        simp only [record, hkeys, hparse]
        split
        next heq =>
            obtain rfl := (Prod.mk.injEq _ _ _ _ ▸ Option.some_inj.1 heq).1
            simpa only [recordRelease, if_pos happlied] using h
        next => exact h
      · exact h.record_release_fresh now hparse hempty happlied

/-- **Every call keeps the accounts balanced.** -/
theorem Accounts.record {limit : ℤ} {w : Ledger} (h : w.Accounts limit) (hlimit : 1 ≤ limit)
    (call : Call) : (w.record limit call).Accounts limit := by
  cases call with
  | reserve now username => exact h.record_reserve hlimit now username
  | release now username operationID => exact h.record_release now username operationID

/-- The keys with their history after a sequence of calls. -/
def recordAll (limit : ℤ) (calls : List Call) : Ledger :=
  calls.foldl (Ledger.record limit) emptyLedger

theorem accounts_recordAll {limit : ℤ} (hlimit : 1 ≤ limit) (calls : List Call) :
    (recordAll limit calls).Accounts limit := by
  suffices h : ∀ w : Ledger, w.Accounts limit → (calls.foldl (Ledger.record limit) w).Accounts limit
    from h _ (accounts_emptyLedger hlimit)
  induction calls with
  | nil => exact fun w h => h
  | cons call calls ih => exact fun w h => ih _ (h.record hlimit call)

end Ledger

/-- **The accounts of the allocation counters balance after any sequence of calls**: a count is
between zero and the limit and is the number of granted reserves less the number of distinct
releases that found a positive count; a reserve is granted exactly below the limit, and a release
that was applied before changes no key. -/
theorem allocation_counter_accounts {limit : ℤ} (hlimit : 1 ≤ limit) (calls : List Call) :
    (Ledger.recordAll limit calls).spent.Nodup ∧
    ∀ now username sessionID tokenDigest,
      parseUsername username = some (sessionID, tokenDigest) →
      let w := Ledger.recordAll limit calls
      (0 ≤ w.count sessionID ∧ w.count sessionID ≤ limit) ∧
      w.count sessionID = w.granted.count sessionID - (w.spent.map Prod.fst).count sessionID ∧
      (reserveAllocationSlot now limit username w.keys).1 =
        .ok (decide (w.count sessionID < limit)) ∧
      ∀ operationID, (sessionID, trim operationID) ∈ w.applied →
        (releaseAllocationSlot now username operationID w.keys).2 = w.keys := by
  have h := Ledger.accounts_recordAll hlimit calls
  refine ⟨h.spent.nodup h.distinct, fun now username sessionID tokenDigest hparse => ?_⟩
  obtain ⟨key', hreserve, -⟩ := h.reserve now hparse hlimit
  refine ⟨⟨h.nonneg sessionID, h.le_limit sessionID⟩, h.balance sessionID, ?_, ?_⟩
  · rw [hreserve]
  · exact fun operationID happlied => h.release_applied now hparse happlied

/-- A TURN username of one session. -/
def sessionUsername : String := "session-1|" ++ String.ofList (List.replicate 64 'a')

/-- Two reserves under a limit of one, and a release that is retried before the next reserve. -/
def retriedRelease : List Call :=
  [.reserve 0 sessionUsername, .reserve 1 sessionUsername,
    .release 2 sessionUsername "turn-release-1", .release 3 sessionUsername " turn-release-1",
    .reserve 4 sessionUsername, .release 5 sessionUsername "turn-release-1"]

theorem allocation_counter_accounts_retriedRelease :
    (Ledger.recordAll 1 retriedRelease).count "session-1" = 1 ∧
      ("session-1", "turn-release-1") ∈ (Ledger.recordAll 1 retriedRelease).applied ∧
      (releaseAllocationSlot 6 sessionUsername "turn-release-1"
        (Ledger.recordAll 1 retriedRelease).keys).2 = (Ledger.recordAll 1 retriedRelease).keys := by
  have happlied : ("session-1", trim "turn-release-1") ∈
      (Ledger.recordAll 1 retriedRelease).applied := by decide +kernel
  obtain ⟨-, haccounts⟩ := allocation_counter_accounts (show (1 : ℤ) ≤ 1 by decide) retriedRelease
  obtain ⟨-, -, -, hrelease⟩ := haccounts 6 sessionUsername "session-1"
    (String.ofList (List.replicate 64 'a')) (by decide +kernel)
  exact ⟨by decide +kernel, happlied, hrelease "turn-release-1" happlied⟩

end Turn
