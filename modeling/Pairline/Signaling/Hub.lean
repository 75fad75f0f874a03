/-
**The signalling hub.**

A session talks to its partner over a websocket, which any instance may serve.  An instance keeps an
entry for the sessions it serves, under a lock; the store says which instance owns a session, and
keeps the signals for a session that nobody serves.  Below is what each locked part and each script
does with the entry, or with the keys, of one session.

Main definitions:

* `Signaling.Entry`, `Signaling.Keys` — a session at an instance, and in the store;
* `Signaling.reserve`, `Signaling.settle`, `Signaling.unregister` — the locked parts of `Register`
  and of `Unregister`;
* `Signaling.Keys.claimSession`, `Signaling.Keys.compareAndDelete` — the scripts they run;
* `Signaling.Keys.sendOrQueue` — the script that hands a signal on or keeps it.

Main results:

* `Signaling.registered_unregister` — a session that has been unregistered has no client;
* `Signaling.Keys.claimSession_eq_some` — **what a claim takes, and what it leaves**;
* `Signaling.Keys.owner_compareAndDelete` — an owner that is left was there before;
* `Signaling.Keys.owner_sendOrQueue` — a signal changes no owner.
-/

import Pairline.Matchmaker.Queue

set_option relaxedAutoImplicit false
set_option autoImplicit false

namespace Signaling

open Matchmaker (SessionId)

/-- An instance of the service, by its identifier. -/
abbrev InstanceId := ℕ

/-- A connection, by the number of its handler. -/
abbrev Conn := ℕ

/-! ### The entry of a session at an instance -/

structure Entry where
  client : Option Conn
  claiming : Bool

/-- The client that the hub knows for a session. -/
def registered (entry : Option Entry) : Option Conn := entry.bind Entry.client

/-- **The first locked part of `Register`**: nothing if the session is owned already. -/
def reserve : Option Entry → Option Entry
  | none => some ⟨none, true⟩
  | some e => if e.client.isSome || e.claiming then none else some { e with claiming := true }

/-- The locked part of `Register` after the claim has failed. -/
def abandon : Option Entry → Option Entry
  | none => none
  | some e => if e.client.isNone then none else some { e with claiming := false }

/-- **The last locked part of `Register`**: whether the connection is registered now. -/
def settle (c : Conn) : Option Entry → Bool × Option Entry
  | none => (false, none)
  | some e =>
      if e.client.isSome then (false, some { e with claiming := false })
      else (true, some ⟨some c, false⟩)

/-- **The locked part of `Unregister`.** -/
def unregister : Option Entry → Option Entry
  | none => none
  | some e => if e.claiming then some { e with client := none } else none

@[simp] theorem registered_none : registered none = none := rfl

@[simp] theorem registered_some (e : Entry) : registered (some e) = e.client := rfl

theorem registered_reserve {entry : Option Entry} {e : Entry} (h : reserve entry = some e) :
    registered (some e) = registered entry := by
  cases entry with
  | none =>
      cases h
      rfl
  | some e₀ =>
      simp only [reserve] at h
      split at h
      · cases h
      · cases h
        rfl

theorem registered_abandon (entry : Option Entry) :
    registered (abandon entry) = registered entry := by
  cases entry with
  | none => rfl
  | some e =>
      cases h : e.client <;> simp [abandon, h]

/-- The client of a settled entry is the new one, or the one it has had. -/
theorem registered_settle (c : Conn) (entry : Option Entry) :
    registered (settle c entry).2 = registered entry ∨
      ((settle c entry).1 = true ∧ registered (settle c entry).2 = some c) := by
  cases entry with
  | none => exact .inl rfl
  | some e =>
      cases h : e.client with
      | none => exact .inr (by simp [settle, h])
      | some d => exact .inl (by simp [settle, h])

@[simp] theorem registered_unregister (entry : Option Entry) :
    registered (unregister entry) = none := by
  cases entry with
  | none => rfl
  | some e => cases h : e.claiming <;> simp [unregister, h]

/-! ### The keys of a session -/

variable {P : Type}

structure Keys (P : Type) where
  owner : Option InstanceId
  ready : Bool
  pending : List P

def maxPendingMsgs : ℕ := 64

namespace Keys

/-- **The claim**: the pending signals, unless another instance owns the session. -/
def claimSession (self : InstanceId) (k : Keys P) : Option (List P × Keys P) :=
  if k.owner.all (· = self) then
    some (k.pending.take maxPendingMsgs, { owner := some self, ready := false, pending := [] })
  else none

/-- The owner key is deleted if it names the instance. -/
def compareAndDelete (self : InstanceId) (k : Keys P) : Keys P :=
  if k.owner = some self then { k with owner := none } else k

def delReady (k : Keys P) : Keys P := { k with ready := false }

def markReady (k : Keys P) : Keys P := { k with ready := true }

/-- A signal is appended, and only the last ones are kept. -/
def enqueuePending (payload : P) (k : Keys P) : Keys P :=
  { k with pending := (k.pending ++ [payload]).drop (k.pending.length + 1 - maxPendingMsgs) }

/-- **The script of `SendOrQueue`**: the instance the signal is published to, or it is kept. -/
def sendOrQueue (self : InstanceId) (subscribed : InstanceId → Bool) (payload : P) (k : Keys P) :
    Option InstanceId × Keys P :=
  match k.owner with
  | none => (none, k.enqueuePending payload)
  | some owner =>
      if owner ≠ self ∧ subscribed owner then (some owner, k)
      else (none, k.enqueuePending payload)

theorem claimSession_eq_some {self : InstanceId} {k k' : Keys P} {pending : List P}
    (h : k.claimSession self = some (pending, k')) :
    k.owner.all (· = self) ∧ pending = k.pending.take maxPendingMsgs ∧
      k' = { owner := some self, ready := false, pending := [] } := by
  unfold claimSession at h
  split at h
  case isTrue howner =>
      obtain ⟨rfl, rfl⟩ := Prod.mk.inj (Option.some_inj.1 h)
      exact ⟨howner, rfl, rfl⟩
  case isFalse => cases h

theorem owner_compareAndDelete {self i : InstanceId} {k : Keys P}
    (h : (k.compareAndDelete self).owner = some i) : k.owner = some i := by
  unfold compareAndDelete at h
  split at h
  · cases h
  · exact h

@[simp] theorem owner_delReady (k : Keys P) : k.delReady.owner = k.owner := rfl

@[simp] theorem owner_markReady (k : Keys P) : k.markReady.owner = k.owner := rfl

@[simp] theorem owner_enqueuePending (payload : P) (k : Keys P) :
    (k.enqueuePending payload).owner = k.owner := by
  simp only [enqueuePending]

/-- A signal that is published changes no key, and one that is not is kept. -/
theorem snd_sendOrQueue (self : InstanceId) (subscribed : InstanceId → Bool) (payload : P)
    (k : Keys P) : (k.sendOrQueue self subscribed payload).2 =
      if (k.sendOrQueue self subscribed payload).1.isSome then k else k.enqueuePending payload := by
  unfold sendOrQueue
  split
  · rfl
  · split <;> rfl

@[simp] theorem owner_sendOrQueue (self : InstanceId) (subscribed : InstanceId → Bool)
    (payload : P) (k : Keys P) : (k.sendOrQueue self subscribed payload).2.owner = k.owner := by
  rw [snd_sendOrQueue]
  split
  · rfl
  · exact owner_enqueuePending payload k

/-- Few enough signals are all kept. -/
theorem pending_enqueuePending {payload : P} {k : Keys P}
    (h : k.pending.length < maxPendingMsgs) :
    (k.enqueuePending payload).pending = k.pending ++ [payload] := by
  have hzero : k.pending.length + 1 - maxPendingMsgs = 0 := Nat.sub_eq_zero_of_le h
  simp only [enqueuePending, hzero, List.drop_zero]

end Keys

end Signaling
