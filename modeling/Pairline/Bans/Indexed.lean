/-
**A key with an index, and what is left of it after an error.**

A ban is a key of the store, and an index set lists the keys of all bans.  The two are written by two
commands: the key is set, then it is added to the index.  If the second command reports an error, the
key is deleted again.  A command may fail before its effect or after it, so that only the answer is lost.

The deletion restores what was there before when nothing was there before.  A ban that is refreshed was
there before.

Main definitions:

* `Bans.Indexed.IndexStore`, `Bans.Indexed.IndexCmd` — keys with their values, and index sets;
* `Bans.Indexed.setIndexedValue` — the program;
* `Bans.Indexed.AtomicOnError` — after an error, everything is as it was;
* `Bans.Indexed.Unharmed` — the failures that leave everything as it was.

Main results:

* `Bans.Indexed.atomicOnError_iff` — **the call is atomic on error exactly when its failures are harmless**;
* `Bans.Indexed.removed_iff` — **which failures remove a key that was there**.
-/

import Mathlib.Logic.Function.Basic
import Pairline.Program

set_option relaxedAutoImplicit false
set_option autoImplicit false

namespace Bans.Indexed

open Program

/-! ### Keys and index sets -/

/-- What a key holds, and for how long; no time stands for a key that does not expire. -/
structure IndexedEntry where
  value : String
  ttl : Option ℕ

structure IndexStore where
  entry : String → Option IndexedEntry
  /-- The members of the index sets. -/
  member : String → String → Bool

namespace IndexStore

def value? (s : IndexStore) (key : String) : Option String := (s.entry key).map IndexedEntry.value

def setEntry (s : IndexStore) (key : String) (entry : Option IndexedEntry) : IndexStore :=
  { s with entry := Function.update s.entry key entry }

def add (s : IndexStore) (indexKey key : String) : IndexStore :=
  { s with member := fun set member => (set = indexKey && member = key) || s.member set member }

variable {s : IndexStore} {key key' indexKey value : String} {entry : Option IndexedEntry}

@[simp] theorem value?_setEntry : (s.setEntry key entry).value? key = entry.map IndexedEntry.value := by
  simp [value?, setEntry]

@[simp] theorem member_setEntry : (s.setEntry key entry).member = s.member := rfl

@[simp] theorem value?_add : (s.add indexKey key).value? key' = s.value? key' := rfl

@[simp] theorem member_add : (s.add indexKey key).member indexKey key = true := by simp [add]

end IndexStore

inductive IndexCmd
  | set (key value : String) (ttl : Option ℕ)
  | sadd (indexKey key : String)
  | del (key : String)

abbrev IndexCmd.Reply (_ : IndexCmd) : Type := Unit

def IndexStore.exec (c : IndexCmd) (s : IndexStore) : c.Reply × IndexStore :=
  match c with
  | .set key value ttl => ((), s.setEntry key (some ⟨value, ttl⟩))
  | .sadd indexKey key => ((), s.add indexKey key)
  | .del key => ((), s.setEntry key none)

/-! ### The program -/

abbrev IndexProg := Program IndexCmd.Reply String

/-- The errors of `SetIndexedValue`: that of the first command, or that of the second with what came of
the rollback. -/
inductive SetError
  | set (err : String)
  | addIndexEntry (err : String) (rollbackErr : Option String)

def SetError.text : SetError → String
  | .set err => err
  | .addIndexEntry err none => "add index entry: " ++ err
  | .addIndexEntry err (some rollbackErr) =>
      "add index entry: " ++ err ++ " (rollback delete failed: " ++ rollbackErr ++ ")"

/-- `SetIndexedValue`. -/
def setIndexedValue (indexKey key value : String) (ttl : Option ℕ) :
    IndexProg (Except SetError Unit) := do
  match ← command (.set key value ttl) with
  | .error err => return .error (.set err)
  | .ok _ =>
      match ← command (.sadd indexKey key) with
      | .ok _ => return .ok ()
      | .error err =>
          match ← command (.del key) with
          | .error rollbackErr => return .error (.addIndexEntry err (some rollbackErr))
          | .ok _ => return .error (.addIndexEntry err none)

/-- **A call**: its arguments, the store that it finds, and what becomes of each of its commands. -/
structure SetCall where
  indexKey : String
  key : String
  value : String
  ttl : Option ℕ
  store : IndexStore
  fates : ℕ → Fate
  err : String

def SetCall.run (call : SetCall) : Except SetError Unit × IndexStore :=
  (setIndexedValue call.indexKey call.key call.value call.ttl).runFates IndexStore.exec call.err
    call.fates call.store

/-- **After an error, the value of the key and its membership in the index are what they were.** -/
def AtomicOnError (call : SetCall) : Prop :=
  ∀ err, call.run.1 = .error err →
    call.run.2.value? call.key = call.store.value? call.key ∧
      call.run.2.member call.indexKey call.key = call.store.member call.indexKey call.key

/-! ### Failures -/

/-- **The failures that do no harm.**  If only the answer to the first command is lost, the key had this
value before.  If the second command fails, the key did not exist before, or it had this value before and
the rollback fails as well; if the second command has taken effect nevertheless, the key was in the
index before. -/
def Unharmed (call : SetCall) : Prop :=
  match call.fates 0, call.fates 1 with
  | .failed, _ => True
  | .lost, _ => call.store.value? call.key = some call.value
  | .answered, .answered => True
  | .answered, second =>
      (second = .lost → call.store.member call.indexKey call.key = true) ∧
        call.store.value? call.key = if call.fates 2 = .failed then some call.value else none

section Calls

variable {call : SetCall}

/-- What the run of a call comes to. -/
theorem run_eq (call : SetCall) : call.run =
    let s := call.store
    let stored := s.setEntry call.key (some ⟨call.value, call.ttl⟩)
    let added := if call.fates 1 = .failed then stored else stored.add call.indexKey call.key
    match call.fates 0, call.fates 1 with
    | .failed, _ => (.error (.set call.err), s)
    | .lost, _ => (.error (.set call.err), stored)
    | .answered, .answered => (.ok (), added)
    | .answered, _ => (.error (.addIndexEntry call.err
        (if call.fates 2 = .answered then none else some call.err)),
        if call.fates 2 = .failed then added else added.setEntry call.key none) := by
  unfold SetCall.run setIndexedValue
  cases hfirst : call.fates 0 <;> cases hsecond : call.fates 1 <;> cases hthird : call.fates 2 <;>
    simp [command, runFates, IndexStore.exec, hfirst, hsecond, hthird]

/-- **A call is atomic on error exactly when its failures are harmless.** -/
theorem atomicOnError_iff (call : SetCall) : AtomicOnError call ↔ Unharmed call := by
  have hflip : ∀ value? : Option String, value? = call.store.value? call.key ↔
      call.store.value? call.key = value? := fun _ => eq_comm
  unfold AtomicOnError Unharmed
  rw [run_eq]
  cases hfirst : call.fates 0 with
  | failed => simp
  | lost => simp [hflip]
  | answered =>
      -- the second command decides about the index, the third one about the key
      cases hsecond : call.fates 1 with
      | answered => simp
      | failed => cases hthird : call.fates 2 <;> simp [hflip]
      | lost => cases hthird : call.fates 2 <;> simp [hflip, and_comm]

/-- **Which failures remove a key that was there**: the second command fails, and the rollback does not. -/
theorem removed_iff (h : (call.store.value? call.key).isSome) :
    call.run.2.value? call.key = none ↔
      call.fates 0 = .answered ∧ call.fates 1 ≠ .answered ∧ call.fates 2 ≠ .failed := by
  obtain ⟨value, hvalue⟩ := Option.isSome_iff_exists.1 h
  rw [run_eq]
  cases hfirst : call.fates 0 with
  | failed => simp [hvalue]
  | lost => simp
  | answered =>
      cases hsecond : call.fates 1 with
      | answered => simp
      | failed => cases hthird : call.fates 2 <;> simp
      | lost => cases hthird : call.fates 2 <;> simp

end Calls

/-! ### A ban that is refreshed -/

/-- A ban is refreshed with the same reason, and its key cannot be added to the index. -/
def refreshCall : SetCall where
  indexKey := "bans:index"
  key := "ban:ip:192.0.2.7"
  value := "spam"
  ttl := some 600
  store := ⟨fun _ => some ⟨"spam", some 60⟩, fun _ _ => true⟩
  fates k := if k = 1 then .failed else .answered
  err := "connection reset"

/-- **The error removes the ban.** -/
theorem refresh_removes_ban : ¬ ∀ call, AtomicOnError call := by
  intro h
  have hkept := (h refreshCall (.addIndexEntry "connection reset" none) rfl).1
  have hremoved : refreshCall.run.2.value? refreshCall.key = none := rfl
  rw [hremoved] at hkept
  cases hkept

end Bans.Indexed
