/-
**Counters that expire.**

Integer counters of a key-value store, each with an optional time at which the store drops it.  An
absent counter reads as zero, and a change of the value leaves the expiry time as it is.

Main definitions:

* `ExpiringCounter.Counters` — the counters of a store, over any type of keys;
* `ExpiringCounter.incr`, `decr`, `expire`, `del`, `purge` — the operations on them.

Main results:

* `ExpiringCounter.value_incr`, `value_decr`, `value_expire`, `value_del` — **the value of every
  counter after an operation**;
* `ExpiringCounter.value_purge` — dropping the expired counters changes no other.
-/

import Mathlib.Data.Int.Basic
import Mathlib.Logic.Function.Basic

set_option relaxedAutoImplicit false
set_option autoImplicit false

namespace ExpiringCounter

/-- A counter, and the time at which it expires if it does. -/
structure Counter where
  value : ℤ
  expireAt : Option ℕ

/-- **The counters of a store.** -/
abbrev Counters (κ : Type*) := κ → Option Counter

variable {κ : Type*}

/-- The value of a counter; zero when there is none. -/
def value (m : Counters κ) (k : κ) : ℤ := (m k).elim 0 Counter.value

/-- The time at which a counter expires. -/
def expireAt (m : Counters κ) (k : κ) : Option ℕ := (m k).bind Counter.expireAt

/-- Drop the counters whose time has come. -/
def purge (now : ℕ) (m : Counters κ) : Counters κ := fun k =>
  (m k).filter fun c => c.expireAt.all fun t => now < t

theorem value_purge {m : Counters κ} {now : ℕ} {k : κ}
    (h : ∀ t, expireAt m k = some t → now < t) : value (purge now m) k = value m k := by
  cases hm : m k with
  | none => simp [value, purge, hm]
  | some c =>
      have hlive : c.expireAt.all (fun t => decide (now < t)) = true := by
        rw [Option.all_eq_true]
        intro t ht
        exact decide_eq_true (h t (by simp [expireAt, hm, ht]))
      simp [value, purge, hm, Option.filter, hlive]

/-- A counter that is dropped reads as zero. -/
theorem value_purge_or (m : Counters κ) (now : ℕ) (k : κ) :
    value (purge now m) k = value m k ∨ value (purge now m) k = 0 := by
  cases hm : m k with
  | none => simp [value, purge, hm]
  | some c =>
      by_cases hlive : c.expireAt.all (fun t => decide (now < t)) = true
      · left
        simp only [value, purge, hm, Option.filter, hlive, if_true]
      · right
        simp only [value, purge, hm, Option.filter, hlive]
        rfl

variable [DecidableEq κ]

/-- Add to a counter, with its new value. -/
def add (m : Counters κ) (k : κ) (d : ℤ) : ℤ × Counters κ :=
  (value m k + d, Function.update m k (some ⟨value m k + d, expireAt m k⟩))

/-- `INCR`. -/
def incr (m : Counters κ) (k : κ) : ℤ × Counters κ := add m k 1

/-- `DECR`. -/
def decr (m : Counters κ) (k : κ) : ℤ × Counters κ := add m k (-1)

/-- `EXPIRE`: a counter that exists expires after `ttl`. -/
def expire (m : Counters κ) (k : κ) (now ttl : ℕ) : Counters κ :=
  Function.update m k ((m k).map fun c => { c with expireAt := some (now + ttl) })

/-- `DEL`. -/
def del (m : Counters κ) (k : κ) : Counters κ := Function.update m k none

/-! ### Values -/

@[simp] theorem incr_fst (m : Counters κ) (k : κ) : (incr m k).1 = value m k + 1 := rfl

@[simp] theorem decr_fst (m : Counters κ) (k : κ) : (decr m k).1 = value m k - 1 := rfl

theorem value_add (m : Counters κ) (k k' : κ) (d : ℤ) :
    value (add m k d).2 k' = if k' = k then value m k + d else value m k' := by
  by_cases h : k' = k
  · subst h
    simp [value, add]
  · simp [value, add, h]

theorem value_incr (m : Counters κ) (k k' : κ) :
    value (incr m k).2 k' = if k' = k then value m k + 1 else value m k' := value_add m k k' 1

theorem value_decr (m : Counters κ) (k k' : κ) :
    value (decr m k).2 k' = if k' = k then value m k - 1 else value m k' := value_add m k k' (-1)

@[simp] theorem value_expire (m : Counters κ) (k k' : κ) (now ttl : ℕ) :
    value (expire m k now ttl) k' = value m k' := by
  by_cases h : k' = k
  · subst h
    cases hm : m k' with
    | none => simp [value, expire, hm]
    | some c => simp [value, expire, hm]
  · simp [value, expire, h]

theorem value_del (m : Counters κ) (k k' : κ) :
    value (del m k) k' = if k' = k then 0 else value m k' := by
  by_cases h : k' = k
  · subst h
    simp [value, del]
  · simp [value, del, h]

end ExpiringCounter
