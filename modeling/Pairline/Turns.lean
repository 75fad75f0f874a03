/-
**Runs of a program amid others.**

Whenever a program issues a command, it is its turn: until then others have made something of the
store, and then the command takes effect or fails.  A run is given by all the turns beforehand; it
reads as many of them as it issues commands.

Main definitions:

* `Turn` — what the others do, and whether the command fails;
* `Program.runAmong` — the run of a program.

Main results:

* `Program.runAmong_bind` — a run of one program and then of another;
* `Program.All.runAmong_invariant` — what the others and every command preserve, a run preserves.
-/

import Pairline.Program

set_option relaxedAutoImplicit false
set_option autoImplicit false

/-- What the world adds to a command, what others do before it, and how it fails. -/
structure Turn (X S E : Type) where
  world : X
  meanwhile : S → S
  fault : Option E

/-- What a run ends with, and the number of the turn that comes next. -/
structure Ended (α S : Type) where
  result : α
  store : S
  turn : ℕ

namespace Program

variable {C X : Type} {V : C → Type} {E S α β : Type}

section

variable (exec : X → (c : C) → S → V c × S) (turns : ℕ → Turn X S E)

/-- **A run from the turn `n` on.** -/
def runAmong : Program V E α → ℕ → S → Ended α S
  | .ret a, n, s => ⟨a, s, n⟩
  | .call c next, n, s =>
      match (turns n).fault with
      | none =>
          let reply := exec (turns n).world c ((turns n).meanwhile s)
          (next (.ok reply.1)).runAmong (n + 1) reply.2
      | some e => (next (.error e)).runAmong (n + 1) ((turns n).meanwhile s)

end

variable {exec : X → (c : C) → S → V c × S} {turns : ℕ → Turn X S E} {n : ℕ} {s : S}

@[simp] theorem runAmong_ret (a : α) :
    (ret a : Program V E α).runAmong exec turns n s = ⟨a, s, n⟩ := rfl

theorem runAmong_call {c : C} {next : Except E (V c) → Program V E α} :
    (call c next).runAmong exec turns n s =
      match (turns n).fault with
      | none =>
          (next (.ok (exec (turns n).world c ((turns n).meanwhile s)).1)).runAmong exec turns (n + 1)
            (exec (turns n).world c ((turns n).meanwhile s)).2
      | some e => (next (.error e)).runAmong exec turns (n + 1) ((turns n).meanwhile s) := by
  cases hfault : (turns n).fault <;> simp only [runAmong, hfault]

/-- **One program and then another.** -/
theorem runAmong_bind (p : Program V E α) (f : α → Program V E β) :
    (p.bind f).runAmong exec turns n s =
      (f (p.runAmong exec turns n s).result).runAmong exec turns (p.runAmong exec turns n s).turn
        (p.runAmong exec turns n s).store := by
  induction p generalizing n s with
  | ret a => rfl
  | call c next ih =>
      rw [call_bind, runAmong_call, runAmong_call]
      cases (turns n).fault with
      | none => exact ih _
      | some e => exact ih _

/-- A run goes forward. -/
theorem le_turn_runAmong (p : Program V E α) : n ≤ (p.runAmong exec turns n s).turn := by
  induction p generalizing n s with
  | ret a => exact Nat.le_refl n
  | call c next ih =>
      rw [runAmong_call]
      cases (turns n).fault with
      | none => exact Nat.le_trans (Nat.le_succ n) (ih _)
      | some e => exact Nat.le_trans (Nat.le_succ n) (ih _)

/-- **What the others and every command of a program preserve, its runs preserve.** -/
theorem All.runAmong_invariant {P : C → Prop} {I : S → Prop} {p : Program V E α} (hp : p.All P)
    (hstep : ∀ c, P c → ∀ x s, I s → I (exec x c s).2)
    (hothers : ∀ k, n ≤ k → ∀ s, I s → I ((turns k).meanwhile s)) (hs : I s) :
    I (p.runAmong exec turns n s).store := by
  induction p generalizing n s with
  | ret a => exact hs
  | call c next ih =>
      have hmeanwhile := hothers n (Nat.le_refl n) s hs
      have hlater : ∀ k, n + 1 ≤ k → ∀ s, I s → I ((turns k).meanwhile s) :=
        fun k hk => hothers k (Nat.le_of_succ_le hk)
      rw [runAmong_call]
      cases (turns n).fault with
      | none => exact ih _ (hp.2 _) hlater (hstep c hp.1 _ _ hmeanwhile)
      | some e => exact ih _ (hp.2 _) hlater hmeanwhile

end Program
