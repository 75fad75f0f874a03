/-
**Keys that are taken for a while.**

A lease gives a key to the holder of a token until some time.  A key is taken only when it is free;
it is renewed and given back by a comparison with the token, so that whoever comes late with an old
token changes nothing.  A lease whose time is over is gone.

Main definitions:

* `Leases` — the leases of a table of keys;
* `Leases.take`, `Leases.renew`, `Leases.giveBack`, `Leases.lapse` — what can be done with them;
* `Leases.Held` — a key is held with a token;
* `Leases.Spares` — what is held with other tokens is left as it is.

Main results:

* `Leases.held_unique` — a key is held with one token;
* `Leases.held_take`, `Leases.held_renew`, `Leases.held_giveBack` — what is held afterwards;
* `Leases.lapse_eq_self` — no lease is lost before its time.
-/

import Mathlib.Data.Nat.Notation
import Mathlib.Logic.Function.Basic
import Mathlib.Tactic.SplitIfs

set_option relaxedAutoImplicit false
set_option autoImplicit false

/-- A token that holds a key, and the time from which it does no more. -/
structure Lease (T : Type) where
  token : T
  expiresAt : ℕ

/-- The leases of the keys that are not free. -/
abbrev Leases (K T : Type) := K → Option (Lease T)

namespace Leases

variable {K T : Type}

/-- **The key is held with the token.** -/
def Held (leases : Leases K T) (key : K) (token : T) : Prop :=
  ∃ lease, leases key = some lease ∧ lease.token = token

/-- **What is held with other tokens is left as it is**, time and all. -/
def Spares (token : T) (leases leases' : Leases K T) : Prop :=
  ∀ key lease, leases key = some lease → lease.token ≠ token → leases' key = some lease

/-- The leases whose time is not over. -/
def lapse (leases : Leases K T) (now : ℕ) : Leases K T :=
  fun key => (leases key).filter fun lease => now < lease.expiresAt

section

variable {leases : Leases K T} {key : K} {token token' : T} {now : ℕ}

theorem held_unique (h : leases.Held key token) (h' : leases.Held key token') : token = token' := by
  obtain ⟨lease, hlease, rfl⟩ := h
  obtain ⟨lease', hlease', rfl⟩ := h'
  rw [hlease] at hlease'
  rw [Option.some_inj.1 hlease']

theorem not_held_none : ¬ Held (fun _ : K => none) key token := by
  rintro ⟨lease, hlease, -⟩
  cases hlease

/-- **No lease is lost before its time.** -/
theorem lapse_eq_self (h : ∀ key lease, leases key = some lease → now < lease.expiresAt) :
    leases.lapse now = leases := by
  funext key
  cases hlease : leases key with
  | none => simp [lapse, hlease]
  | some lease => simp [lapse, hlease, h key lease hlease]

end

variable [DecidableEq K]

/-- A free key is taken. -/
def take (leases : Leases K T) (key : K) (token : T) (expiresAt : ℕ) : Bool × Leases K T :=
  match leases key with
  | none => (true, Function.update leases key (some ⟨token, expiresAt⟩))
  | some _ => (false, leases)

section Compare

variable [DecidableEq T]

/-- The lease of a key is prolonged, if it is held with the token. -/
def renew (leases : Leases K T) (key : K) (token : T) (expiresAt : ℕ) : Bool × Leases K T :=
  match leases key with
  | none => (false, leases)
  | some lease =>
      if lease.token = token then
        (true, Function.update leases key (some { lease with expiresAt := expiresAt }))
      else (false, leases)

/-- A key becomes free, if it is held with the token. -/
def giveBack (leases : Leases K T) (key : K) (token : T) : Bool × Leases K T :=
  match leases key with
  | none => (false, leases)
  | some lease =>
      if lease.token = token then (true, Function.update leases key none) else (false, leases)

end Compare

variable {leases : Leases K T} {key key' : K} {token token' : T} {expiresAt : ℕ}

/-! ### Taking -/

theorem take_fst : (leases.take key token expiresAt).1 = true ↔ leases key = none := by
  unfold take
  split
  next hfree => simp [hfree]
  next lease hlease => simp [hlease]

/-- **A taken key is held, and no other key changes hands.** -/
theorem held_take : (leases.take key token expiresAt).2.Held key' token' ↔
    leases.Held key' token' ∨ leases key = none ∧ key' = key ∧ token' = token := by
  unfold take
  split
  next hfree =>
    rcases eq_or_ne key' key with rfl | hne
    · simp [Held, hfree, eq_comm]
    · simp [Held, hne]
  next lease hlease => simp [hlease]

variable [DecidableEq T]

/-! ### Renewing -/

/-- **A renewal changes no hands.** -/
theorem held_renew :
    (leases.renew key token expiresAt).2.Held key' token' ↔ leases.Held key' token' := by
  unfold renew
  split
  next => rfl
  next lease hlease =>
    split_ifs
    · rcases eq_or_ne key' key with rfl | hne
      · simp [Held, hlease]
      · simp [Held, hne]
    · rfl

theorem spares_renew : Spares token leases (leases.renew key token expiresAt).2 := by
  intro key' lease hlease hother
  unfold renew
  split
  next => exact hlease
  next lease' hlease' =>
    split_ifs with htoken
    · rcases eq_or_ne key' key with rfl | hne
      · rw [hlease'] at hlease
        exact absurd (Option.some_inj.1 hlease ▸ htoken) hother
      · exact (Function.update_of_ne hne _ _).trans hlease
    · exact hlease

/-! ### Giving back -/

/-- **A key that is given back is held no more with the token, and no other key is freed.** -/
theorem held_giveBack : (leases.giveBack key token).2.Held key' token' ↔
    leases.Held key' token' ∧ ¬ (key' = key ∧ token' = token) := by
  unfold giveBack
  split
  next hfree =>
    refine ⟨fun h => ⟨h, ?_⟩, And.left⟩
    rintro ⟨rfl, rfl⟩
    obtain ⟨lease, hlease, -⟩ := h
    cases hfree.symm.trans hlease
  next lease hlease =>
    split_ifs with htoken
    · rcases eq_or_ne key' key with rfl | hne
      · simp [Held, hlease, htoken, eq_comm]
      · simp [Held, hne]
    · refine ⟨fun h => ⟨h, ?_⟩, And.left⟩
      rintro ⟨rfl, rfl⟩
      obtain ⟨lease', hlease', rfl⟩ := h
      exact htoken (congrArg Lease.token (Option.some_inj.1 (hlease.symm.trans hlease')))

theorem spares_giveBack : Spares token leases (leases.giveBack key token).2 := by
  intro key' lease hlease hother
  unfold giveBack
  split
  next => exact hlease
  next lease' hlease' =>
    split_ifs with htoken
    · rcases eq_or_ne key' key with rfl | hne
      · rw [hlease'] at hlease
        exact absurd (Option.some_inj.1 hlease ▸ htoken) hother
      · exact (Function.update_of_ne hne _ _).trans hlease
    · exact hlease

end Leases
