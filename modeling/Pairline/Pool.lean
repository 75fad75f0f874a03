/-
**Programs that run side by side over one store.**

A pool holds processes, each with the operation it runs and what is left of its program.  An event
starts an operation, lets one process take its next command, makes that command fail, or changes the
store from outside.  Which process moves, what the world adds to a command (the time, a random
choice) and where commands fail is part of the event, so a run of the pool is one interleaving.

Main definitions:

* `Program.Secure` — a program keeps to its guard and ends in its postcondition, whatever the rest
  of the pool does within its rely;
* `Program.Must` — a program issues a certain command before it ends;
* `Program.Everywhere` — a property of a program and of all that may be left of it;
* `Program.Hazards`, `Program.Amid` — what may happen to commands, and programs that are safe
  whenever it happens;
* `Pool.System`, `Pool.Config`, `Pool.Event`, `Pool.step` — pools and their steps;
* `Pool.Contract` — an invariant of the store, with the rely, the guard and the postcondition of
  every operation.

Main results:

* `Program.Secure.bind`, `Program.Secure.stable` — the rules of secure programs;
* `Pool.step_cases` — **what one event can do**;
* `Pool.everywhere_of_run` — a property of the programs holds of all that is ever left of them;
* `Pool.amid_of_run` — the rule of hazards;
* `Pool.Contract.keeps_of_run` — **when every step stays within the relies of the others, every
  process keeps its contract in every run**.
-/

import Mathlib.Data.List.Nodup
import Pairline.Program
import Pairline.Transition

set_option relaxedAutoImplicit false
set_option autoImplicit false

/-! ### What holds of a program among others -/

namespace Program

variable {C : Type} {V : C → Type} {E S X α β : Type}

/-- What the program has returned. -/
def result? : Program V E α → Option α
  | .ret a => some a
  | .call _ _ => none

/-- The command that comes next. -/
def next? : Program V E α → Option C
  | .ret _ => none
  | .call c _ => some c

@[simp] theorem result?_ret (a : α) : (ret a : Program V E α).result? = some a := rfl

@[simp] theorem result?_call (c : C) (next : Except E (V c) → Program V E α) :
    (call c next).result? = none := rfl

@[simp] theorem next?_ret (a : α) : (ret a : Program V E α).next? = none := rfl

@[simp] theorem next?_call (c : C) (next : Except E (V c) → Program V E α) :
    (call c next).next? = some c := rfl

theorem result?_eq_some {p : Program V E α} {a : α} : p.result? = some a ↔ p = .ret a := by
  cases p with
  | ret b => simp
  | call c next => simp

section Secure

variable (exec : X → (c : C) → S → V c × S) (rely : S → S → Prop) (guard : C → S → Prop)
  (faults : E → Prop)

/-- **A program is secure in a store** when it keeps to its guard and ends in `Φ`, whatever the
others make of the store within the rely between its commands, and whichever of its commands
fail with one of the faults. -/
def Secure : Program V E α → (α → S → Prop) → S → Prop
  | .ret a, Φ, s => Φ a s
  | .call c next, Φ, s => ∀ s', rely s s' → guard c s' ∧
      (∀ x, (next (.ok (exec x c s').1)).Secure Φ (exec x c s').2) ∧
      ∀ e, faults e → (next (.error e)).Secure Φ s'

variable {exec rely guard faults} {Φ Ψ : α → S → Prop} {s t : S}

@[simp] theorem secure_ret {a : α} : (ret a : Program V E α).Secure exec rely guard faults Φ s ↔ Φ a s :=
  Iff.rfl

theorem secure_call {c : C} {next : Except E (V c) → Program V E α} :
    (call c next).Secure exec rely guard faults Φ s ↔ ∀ s', rely s s' → guard c s' ∧
      (∀ x, (next (.ok (exec x c s').1)).Secure exec rely guard faults Φ (exec x c s').2) ∧
      ∀ e, faults e → (next (.error e)).Secure exec rely guard faults Φ s' := Iff.rfl

theorem Secure.mono {p : Program V E α} (h : p.Secure exec rely guard faults Φ s)
    (hΦ : ∀ a s, Φ a s → Ψ a s) : p.Secure exec rely guard faults Ψ s := by
  induction p generalizing s with
  | ret a => exact hΦ a s h
  | call c next ih =>
      intro s' hs'
      obtain ⟨hguard, hok, herror⟩ := h s' hs'
      exact ⟨hguard, fun x => ih _ (hok x), fun e he => ih _ (herror e he)⟩

/-- Secure programs compose. -/
theorem Secure.bind {p : Program V E α} {f : α → Program V E β} {Ψ : β → S → Prop}
    (h : p.Secure exec rely guard faults (fun a s => (f a).Secure exec rely guard faults Ψ s) s) :
    (p.bind f).Secure exec rely guard faults Ψ s := by
  induction p generalizing s with
  | ret a => exact h
  | call c next ih =>
      intro s' hs'
      obtain ⟨hguard, hok, herror⟩ := h s' hs'
      exact ⟨hguard, fun x => ih _ (hok x), fun e he => ih _ (herror e he)⟩

/-- **What the others do leaves a program secure.** -/
theorem Secure.stable (htrans : ∀ s t u, rely s t → rely t u → rely s u)
    (hΦ : ∀ a s t, Φ a s → rely s t → Φ a t) {p : Program V E α}
    (h : p.Secure exec rely guard faults Φ s) (hrely : rely s t) :
    p.Secure exec rely guard faults Φ t := by
  cases p with
  | ret a => exact hΦ a s t h hrely
  | call c next => exact fun s' hs' => h s' (htrans _ _ _ hrely hs')

/-- What a program never issues but within `P`, its guard may ask for. -/
theorem Secure.and_all {P : C → Prop} {p : Program V E α}
    (h : p.Secure exec rely guard faults Φ s) (hall : p.All P) :
    p.Secure exec rely (fun c s => guard c s ∧ P c) faults Φ s := by
  induction p generalizing s with
  | ret a => exact h
  | call c next ih =>
      intro s' hs'
      obtain ⟨hguard, hok, herror⟩ := h s' hs'
      exact ⟨⟨hguard, hall.1⟩, fun x => ih _ (hok x) (hall.2 _), fun e he => ih _ (herror e he) (hall.2 _)⟩

/-- A secure program over some of the commands is secure among all. -/
theorem Secure.left {D : Type} {W : D → Type}
    {exec' : X → (d : C ⊕ D) → S → Sum.elim V W d × S} {guard' : C ⊕ D → S → Prop}
    (hexec : ∀ x c s, exec' x (.inl c) s = exec x c s)
    (hguard : ∀ c s, guard c s → guard' (.inl c) s) {p : Program V E α}
    (h : p.Secure exec rely guard faults Φ s) : p.left.Secure exec' rely guard' faults Φ s := by
  induction p generalizing s with
  | ret a => exact h
  | call c next ih =>
      intro s' hs'
      obtain ⟨hc, hok, herror⟩ := h s' hs'
      refine ⟨hguard c s' hc, fun x => ?_, fun e he => ih _ (herror e he)⟩
      rw [hexec]
      exact ih _ (hok x)

end Secure

/-- **The program issues a command of `P` before it ends**, whatever the replies. -/
def Must (P : C → Prop) : Program V E α → Prop
  | .ret _ => False
  | .call c next => P c ∨ ∀ reply, (next reply).Must P

section Must

variable {P : C → Prop}

@[simp] theorem must_ret (a : α) : (ret a : Program V E α).Must P ↔ False := Iff.rfl

theorem must_call {c : C} {next : Except E (V c) → Program V E α} :
    (call c next).Must P ↔ P c ∨ ∀ reply, (next reply).Must P := Iff.rfl

theorem Must.bind {p : Program V E α} (h : p.Must P) (f : α → Program V E β) :
    (p.bind f).Must P := by
  induction p with
  | ret a => exact absurd h id
  | call c next ih => exact h.imp_right fun hnext reply => ih reply (hnext reply)

/-- What the second part of a program issues after each end of the first. -/
theorem Ends.must {p : Program V E α} {f : α → Program V E β} (h : p.Ends fun a => (f a).Must P) :
    (p.bind f).Must P := by
  induction p with
  | ret a => exact h
  | call c next ih => exact .inr fun reply => ih reply (h reply)

/-- A pipeline issues each of its commands. -/
theorem must_pipeline {cs : List C} {c : C} (hc : c ∈ cs) (hP : P c) :
    (pipeline cs : Program V E _).Must P := by
  induction cs with
  | nil => exact absurd hc List.not_mem_nil
  | cons d cs ih =>
      rcases List.mem_cons.1 hc with rfl | hc
      · exact .inl hP
      · exact .inr fun reply => (ih hc).bind _

/-- What a pipeline issues, when nothing of `P` comes after it. -/
theorem must_pipeline_bind {cs : List C} {f : Except E Unit → Program V E β} (e : E)
    (hf : ∀ result, ¬ (f result).Must P) :
    ((pipeline cs).bind f).Must P ↔ ∃ c ∈ cs, P c := by
  constructor
  · intro h
    induction cs generalizing f with
    | nil => exact absurd h (hf _)
    | cons c cs ih =>
        rw [pipeline_cons_bind] at h
        rcases h with hc | h
        · exact ⟨c, List.mem_cons_self, hc⟩
        · -- any reply will do: take an error
          obtain ⟨d, hd, hP⟩ := ih (fun result => hf _) (h (.error e))
          exact ⟨d, List.mem_cons_of_mem _ hd, hP⟩
  · rintro ⟨c, hc, hP⟩
    exact (must_pipeline hc hP).bind f

/-- What a program never issues, it need not issue: an error is always among the replies. -/
theorem not_must_of_all {p : Program V E α} (e : E) (h : p.All fun c => ¬ P c) : ¬ p.Must P := by
  induction p with
  | ret a => exact id
  | call c next ih =>
      rintro (hc | hnext)
      · exact h.1 hc
      · exact ih (.error e) (h.2 _) (hnext _)

/-- **What one of the commands that a program must issue brings about, and its others keep, holds at
the end of its runs.** -/
theorem Must.run_establishes {exec : (c : C) → S → V c × S} {K : C → Prop} {I : S → Prop}
    {p : Program V E α} {s : S} (h : p.Must P) (hall : p.All K)
    (hP : ∀ c s, P c → I (exec c s).2) (hK : ∀ c, K c → ∀ s, I s → I (exec c s).2) :
    I (p.run exec s).2 := by
  induction p generalizing s with
  | ret a => exact absurd h id
  | call c next ih =>
      rcases h with hc | hnext
      · exact (hall.2 _).run_invariant hK (hP c s hc)
      · exact ih _ (hnext _) (hall.2 _)

theorem next?_pipeline_bind (c : C) (cs : List C) (f : Except E Unit → Program V E β) :
    ((pipeline (c :: cs)).bind f).next? = some c := by
  rw [pipeline_cons_bind]
  rfl

end Must

section Everywhere

variable {T : (c : C) → Except E (V c) → Prop}

/-- **A property of a program and of all that may be left of it**, when the replies are in `T`. -/
def Everywhere (T : (c : C) → Except E (V c) → Prop) (Q : Program V E α → Prop) :
    Program V E α → Prop
  | .ret a => Q (.ret a)
  | .call c next => Q (.call c next) ∧ ∀ reply, T c reply → (next reply).Everywhere T Q

theorem Everywhere.here {Q : Program V E α → Prop} {p : Program V E α} (h : p.Everywhere T Q) :
    Q p := by
  cases p with
  | ret a => exact h
  | call c next => exact h.1

theorem Everywhere.next {Q : Program V E α → Prop} {c : C}
    {next : Except E (V c) → Program V E α} (h : (call c next).Everywhere T Q)
    {reply : Except E (V c)} (hreply : T c reply) : (next reply).Everywhere T Q := h.2 reply hreply

/-- A property that follows from what a program may issue holds everywhere in it. -/
theorem All.everywhere {P : C → Prop} {Q : Program V E α → Prop} {p : Program V E α} (h : p.All P)
    (hQ : ∀ p : Program V E α, p.All P → Q p) : p.Everywhere T Q := by
  induction p with
  | ret a => exact hQ _ h
  | call c next ih => exact ⟨hQ _ h, fun reply _ => ih reply (h.2 reply)⟩

/-- What is issued at most once is issued at most once in all that may be left. -/
theorem Once.everywhere {P : C → Prop} {p : Program V E α} (h : p.Once P) :
    p.Everywhere T fun p => p.Once P := by
  induction p with
  | ret a => trivial
  | call c next ih => exact ⟨h, fun reply _ => ih reply (h.2 reply)⟩

theorem everywhere_of_forall {Q : Program V E α → Prop} (h : ∀ p, Q p) (p : Program V E α) :
    p.Everywhere T Q := by
  induction p with
  | ret a => exact h _
  | call c next ih => exact ⟨h _, fun reply _ => ih reply⟩

theorem Everywhere.mono {Q Q' : Program V E α → Prop} {p : Program V E α} (h : p.Everywhere T Q)
    (hQ : ∀ p, Q p → Q' p) : p.Everywhere T Q' := by
  induction p with
  | ret a => exact hQ _ h
  | call c next ih => exact ⟨hQ _ h.1, fun reply hreply => ih reply (h.2 reply hreply)⟩

/-- A pipeline passes through its suffixes; what is made of the first error depends on the replies
that came before. -/
theorem everywhere_pipeline {Q : Program V E β → Prop} {cs : List C} :
    ∀ {f : Except E Unit → Program V E β},
      (∀ (g : Except E Unit → Except E Unit) (c : C) (cs' : List C), c :: cs' <:+ cs →
        Q ((pipeline (c :: cs')).bind fun result => f (g result))) →
      (∀ result, (f result).Everywhere T Q) → ((pipeline cs).bind f).Everywhere T Q := by
  induction cs with
  | nil => exact fun _ hf => hf _
  | cons c cs ih =>
      intro f hQ hf
      have hhere := hQ id c cs List.suffix_rfl
      rw [pipeline_cons_bind] at hhere ⊢
      refine ⟨hhere, fun reply _ => ih (fun g c' cs' hsuffix => ?_) fun result => hf _⟩
      exact hQ (fun result => orError reply (g result)) c' cs'
        (hsuffix.trans (List.suffix_cons c cs))

end Everywhere

/-! ### Programs amid hazards -/

/-- **What may happen to the commands**: in which stores they take effect, and in which they fail. -/
structure Hazards (C E S : Type) where
  effect : C → S → Prop
  fault : C → E → S → Prop

section Amid

variable (exec : X → (c : C) → S → V c × S) (rely : S → S → Prop) (guard : C → S → Prop)
  (hazards : Hazards C E S)

/-- **A program is safe amid hazards** when it keeps to its guard, whatever the others make of the
store within the rely, and whatever happens to its commands that may happen to them. -/
def Amid : Program V E α → (α → S → Prop) → S → Prop
  | .ret a, Φ, s => Φ a s
  | .call c next, Φ, s => ∀ s', rely s s' → guard c s' ∧
      (∀ x, hazards.effect c s' → (next (.ok (exec x c s').1)).Amid Φ (exec x c s').2) ∧
      ∀ e, hazards.fault c e s' → (next (.error e)).Amid Φ s'

variable {exec rely guard hazards} {Φ Ψ : α → S → Prop} {s t : S}

theorem amid_ret {a : α} : (ret a : Program V E α).Amid exec rely guard hazards Φ s ↔ Φ a s :=
  Iff.rfl

theorem amid_call {c : C} {next : Except E (V c) → Program V E α} :
    (call c next).Amid exec rely guard hazards Φ s ↔ ∀ s', rely s s' → guard c s' ∧
      (∀ x, hazards.effect c s' →
        (next (.ok (exec x c s').1)).Amid exec rely guard hazards Φ (exec x c s').2) ∧
      ∀ e, hazards.fault c e s' → (next (.error e)).Amid exec rely guard hazards Φ s' := Iff.rfl

theorem Amid.mono {p : Program V E α} (h : p.Amid exec rely guard hazards Φ s)
    (hΦ : ∀ a s, Φ a s → Ψ a s) : p.Amid exec rely guard hazards Ψ s := by
  induction p generalizing s with
  | ret a => exact hΦ a s h
  | call c next ih =>
      intro s' hs'
      obtain ⟨hguard, hok, herror⟩ := h s' hs'
      exact ⟨hguard, fun x hx => ih _ (hok x hx), fun e he => ih _ (herror e he)⟩

theorem Amid.bind {p : Program V E α} {f : α → Program V E β} {Ψ : β → S → Prop}
    (h : p.Amid exec rely guard hazards (fun a s => (f a).Amid exec rely guard hazards Ψ s) s) :
    (p.bind f).Amid exec rely guard hazards Ψ s := by
  induction p generalizing s with
  | ret a => exact h
  | call c next ih =>
      intro s' hs'
      obtain ⟨hguard, hok, herror⟩ := h s' hs'
      exact ⟨hguard, fun x hx => ih _ (hok x hx), fun e he => ih _ (herror e he)⟩

theorem Amid.stable (htrans : ∀ s t u, rely s t → rely t u → rely s u)
    (hΦ : ∀ a s t, Φ a s → rely s t → Φ a t) {p : Program V E α}
    (h : p.Amid exec rely guard hazards Φ s) (hrely : rely s t) :
    p.Amid exec rely guard hazards Φ t := by
  cases p with
  | ret a => exact hΦ a s t h hrely
  | call c next => exact fun s' hs' => h s' (htrans _ _ _ hrely hs')

/-- **What all commands stay within, a safe program stays within.** -/
theorem Amid.frame {I : S → Prop} (htrans : ∀ s t u, rely s t → rely t u → rely s u)
    (hrefl : ∀ s, I s → rely s s) (hinv : ∀ s t, rely s t → I t)
    (hkeep : ∀ x c s, I s → guard c s → hazards.effect c s →
      I (exec x c s).2 ∧ rely s (exec x c s).2)
    {p : Program V E α} (h : p.Amid exec rely guard hazards Φ s) (hs : I s) :
    p.Amid exec rely guard hazards (fun a t => Φ a t ∧ rely s t) s := by
  induction p generalizing s with
  | ret a => exact ⟨h, hrefl s hs⟩
  | call c next ih =>
      intro s' hs'
      obtain ⟨hguard, hok, herror⟩ := h s' hs'
      refine ⟨hguard, fun x hx => ?_, fun e he => ?_⟩
      · obtain ⟨hinv', hrely⟩ := hkeep x c s' (hinv _ _ hs') hguard hx
        exact (ih _ (hok x hx) hinv').mono fun a t ht =>
          ⟨ht.1, htrans _ _ _ hs' (htrans _ _ _ hrely ht.2)⟩
      · exact (ih _ (herror e he) (hinv _ _ hs')).mono fun a t ht =>
          ⟨ht.1, htrans _ _ _ hs' ht.2⟩

end Amid

end Program

/-! ### Pools -/

namespace Pool

open Transition

variable {O X N C : Type} {V : C → Type} {E S R : Type}

/-- **A pool**: the program of every operation, the effect of the commands, the operations that a
command starts, and what may happen to the store from outside. -/
structure System (O X N : Type) {C : Type} (V : C → Type) (E S R : Type) where
  program : O → Program V E R
  exec : X → (c : C) → S → V c × S
  spawns : (c : C) → V c → List O
  env : N → S → Option S

/-- A process: its operation, and what is left of the program. -/
structure Process (O : Type) {C : Type} (V : C → Type) (E R : Type) where
  op : O
  rest : Program V E R

structure Config (O : Type) {C : Type} (V : C → Type) (E S R : Type) where
  store : S
  procs : List (Process O V E R)

inductive Event (O X N E : Type)
  | start (op : O)
  | advance (i : ℕ) (x : X)
  | fail (i : ℕ) (e : E)
  | env (n : N)

variable (sys : System O X N V E S R)

/-- The process of an operation that begins. -/
def System.launch (op : O) : Process O V E R := ⟨op, sys.program op⟩

/-- The pool after the process `i` took the command `c`. -/
def System.advance (cfg : Config O V E S R) (i : ℕ) (x : X) (op : O) (c : C)
    (next : Except E (V c) → Program V E R) : Config O V E S R where
  store := (sys.exec x c cfg.store).2
  procs := cfg.procs.set i ⟨op, next (.ok (sys.exec x c cfg.store).1)⟩ ++
    (sys.spawns c (sys.exec x c cfg.store).1).map sys.launch

/-- The pool after the command of the process `i` failed. -/
def Config.failed (cfg : Config O V E S R) (i : ℕ) (e : E) (op : O) (c : C)
    (next : Except E (V c) → Program V E R) : Config O V E S R :=
  { cfg with procs := cfg.procs.set i ⟨op, next (.error e)⟩ }

/-- **One event.** -/
def step (cfg : Config O V E S R) : Event O X N E → Option (Config O V E S R)
  | .start op => some { cfg with procs := cfg.procs ++ [sys.launch op] }
  | .advance i x =>
      match cfg.procs[i]? with
      | some ⟨op, .call c next⟩ => some (sys.advance cfg i x op c next)
      | _ => none
  | .fail i e =>
      match cfg.procs[i]? with
      | some ⟨op, .call c next⟩ => some (cfg.failed i e op c next)
      | _ => none
  | .env n => (sys.env n cfg.store).map fun store => { cfg with store := store }

/-- A pool that has not begun. -/
def idle (store : S) : Config O V E S R := ⟨store, []⟩

variable {sys} {cfg cfg' : Config O V E S R}

/-- **What one event can do.** -/
theorem step_cases {ev : Event O X N E} (h : step sys cfg ev = some cfg') :
    (∃ op, ev = .start op ∧ cfg' = { cfg with procs := cfg.procs ++ [sys.launch op] }) ∨
    (∃ i x op c next, ev = .advance i x ∧ cfg.procs[i]? = some ⟨op, .call c next⟩ ∧
      cfg' = sys.advance cfg i x op c next) ∨
    (∃ i e op c next, ev = .fail i e ∧ cfg.procs[i]? = some ⟨op, .call c next⟩ ∧
      cfg' = cfg.failed i e op c next) ∨
    (∃ n store, ev = .env n ∧ sys.env n cfg.store = some store ∧
      cfg' = { cfg with store := store }) := by
  cases ev with
  | start op => exact .inl ⟨op, rfl, (Option.some_inj.1 h).symm⟩
  | advance i x =>
      simp only [step] at h
      split at h
      next op c next hget =>
          exact .inr (.inl ⟨i, x, op, c, next, rfl, hget, (Option.some_inj.1 h).symm⟩)
      next => cases h
  | fail i e =>
      simp only [step] at h
      split at h
      next op c next hget =>
          exact .inr (.inr (.inl ⟨i, e, op, c, next, rfl, hget, (Option.some_inj.1 h).symm⟩))
      next => cases h
  | env n =>
      obtain ⟨store, hstore, hcfg⟩ := Option.map_eq_some_iff.1 h
      exact .inr (.inr (.inr ⟨n, store, rfl, hstore, hcfg.symm⟩))

/-! ### The processes after a step -/

section Procs

variable {procs : List (Process O V E R)} {i : ℕ} {p q : Process O V E R}

/-- A process after one of them changed: it, or another that is as it was. -/
theorem getElem?_set_cases {j : ℕ} (h : (procs.set i p)[j]? = some q) :
    (j = i ∧ q = p) ∨ (j ≠ i ∧ procs[j]? = some q) := by
  rcases eq_or_ne j i with rfl | hne
  · have hlt : j < procs.length := by
      have := (List.getElem?_eq_some_iff.1 h).1
      simpa using this
    rw [List.getElem?_set_self hlt] at h
    exact .inl ⟨rfl, (Option.some_inj.1 h).symm⟩
  · rw [List.getElem?_set_ne hne.symm] at h
    exact .inr ⟨hne, h⟩

theorem mem_set_cases (h : q ∈ procs.set i p) :
    q = p ∨ ∃ j, j ≠ i ∧ procs[j]? = some q := by
  obtain ⟨j, hj⟩ := List.mem_iff_getElem?.1 h
  rcases getElem?_set_cases hj with ⟨-, hq⟩ | ⟨hne, hq⟩
  · exact .inl hq
  · exact .inr ⟨j, hne, hq⟩

theorem mem_of_getElem? (h : procs[i]? = some p) : p ∈ procs := List.mem_of_getElem? h

/-- A process of the pool after a step of the process `i`. -/
theorem mem_advance {x : X} {op : O} {c : C} {next : Except E (V c) → Program V E R}
    (h : q ∈ (sys.advance cfg i x op c next).procs) :
    q = ⟨op, next (.ok (sys.exec x c cfg.store).1)⟩ ∨ (∃ j, j ≠ i ∧ cfg.procs[j]? = some q) ∨
      ∃ op' ∈ sys.spawns c (sys.exec x c cfg.store).1, q = sys.launch op' := by
  rcases List.mem_append.1 h with h | h
  · rcases mem_set_cases h with h | h
    · exact .inl h
    · exact .inr (.inl h)
  · obtain ⟨op', hop', rfl⟩ := List.mem_map.1 h
    exact .inr (.inr ⟨op', hop', rfl⟩)

end Procs

/-- A process goes on with its operation. -/
theorem map_op_set {procs : List (Process O V E R)} {i : ℕ} {op : O} {rest rest' : Program V E R}
    (hget : procs[i]? = some ⟨op, rest⟩) :
    (procs.set i ⟨op, rest'⟩).map Process.op = procs.map Process.op := by
  have hself : (procs.map Process.op)[i]? = some op := by
    rw [List.getElem?_map, hget]
    rfl
  obtain ⟨hlt, hop⟩ := List.getElem?_eq_some_iff.1 hself
  calc (procs.set i ⟨op, rest'⟩).map Process.op
      = (procs.map Process.op).set i (procs.map Process.op)[i] := by rw [List.map_set, hop]
    _ = procs.map Process.op := List.set_getElem_self hlt

/-- A step of a process adds the operations that its command starts. -/
theorem map_op_advance {i : ℕ} {x : X} {op : O} {c : C} {next : Except E (V c) → Program V E R}
    (hget : cfg.procs[i]? = some ⟨op, .call c next⟩) :
    (sys.advance cfg i x op c next).procs.map Process.op =
      cfg.procs.map Process.op ++ sys.spawns c (sys.exec x c cfg.store).1 := by
  simp only [System.advance, List.map_append, map_op_set hget, List.map_map]
  exact congrArg _ (List.map_id' _)

/-! ### Operations that are told apart -/

section Tokens

variable {K : Type} {token : O → K}

/-- **Operations stay apart** by a token of their own. -/
theorem nodup_token_step (hspawns : ∀ c v, sys.spawns c v = []) {ev : Event O X N E}
    (hstart : ∀ op, ev = .start op → ∀ p ∈ cfg.procs, token p.op ≠ token op)
    (hs : step sys cfg ev = some cfg') (h : (cfg.procs.map fun p => token p.op).Nodup) :
    (cfg'.procs.map fun p => token p.op).Nodup := by
  have hmap : ∀ procs : List (Process O V E R),
      procs.map (fun p => token p.op) = (procs.map Process.op).map token := by simp
  rcases step_cases hs with ⟨op, rfl, rfl⟩ | ⟨i, x, op, c, next, -, hget, rfl⟩ |
    ⟨i, e, op, c, next, -, hget, rfl⟩ | ⟨n, store, -, -, rfl⟩
  · rw [List.map_append, List.nodup_append]
    refine ⟨h, List.nodup_singleton _, fun a ha b hb heq => ?_⟩
    obtain ⟨p, hp, rfl⟩ := List.mem_map.1 ha
    obtain rfl := List.mem_singleton.1 hb
    exact hstart op rfl p hp heq
  · rw [hmap] at h ⊢
    rw [map_op_advance hget, hspawns, List.append_nil]
    exact h
  · rw [hmap] at h ⊢
    rw [Config.failed, map_op_set hget]
    exact h
  · exact h

/-- Another process has another token. -/
theorem token_ne {procs : List (Process O V E R)} (h : (procs.map fun p => token p.op).Nodup)
    {i j : ℕ} {p q : Process O V E R} (hne : j ≠ i) (hi : procs[i]? = some p)
    (hj : procs[j]? = some q) : token q.op ≠ token p.op := by
  intro heq
  obtain ⟨hilt, hi⟩ := List.getElem?_eq_some_iff.1 hi
  obtain ⟨hjlt, hj⟩ := List.getElem?_eq_some_iff.1 hj
  have hi' : i < (procs.map fun p => token p.op).length := by simpa using hilt
  have hj' : j < (procs.map fun p => token p.op).length := by simpa using hjlt
  have htokens : (procs.map fun p => token p.op)[j] = (procs.map fun p => token p.op)[i] := by
    simpa [hi, hj] using heq
  exact hne (h.getElem_inj_iff.1 htokens)

end Tokens

/-! ### Commands to come -/

/-- **A command that a process has ahead of it stays ahead, until the process comes to it.** -/
theorem must_of_step {P : C → Prop} {ev : Event O X N E} (hs : step sys cfg ev = some cfg')
    {p : Process O V E R} (hp : p ∈ cfg.procs) (hmust : p.rest.Must P) :
    (∃ q ∈ cfg'.procs, q.op = p.op ∧ q.rest.Must P) ∨
      ∃ i c next, cfg.procs[i]? = some ⟨p.op, .call c next⟩ ∧ P c ∧
        ((∃ x, ev = .advance i x ∧ cfg' = sys.advance cfg i x p.op c next) ∨
          ∃ e, ev = .fail i e ∧ cfg' = cfg.failed i e p.op c next) := by
  obtain ⟨j, hj⟩ := List.mem_iff_getElem?.1 hp
  have hlt : j < cfg.procs.length := (List.getElem?_eq_some_iff.1 hj).1
  rcases step_cases hs with ⟨op, -, rfl⟩ | ⟨i, x, op, c, next, rfl, hget, rfl⟩ |
    ⟨i, e, op, c, next, rfl, hget, rfl⟩ | ⟨n, store, -, -, rfl⟩
  · exact .inl ⟨p, List.mem_append_left _ hp, rfl, hmust⟩
  · rcases eq_or_ne j i with rfl | hne
    · obtain rfl := Option.some_inj.1 (hj.symm.trans hget)
      rcases hmust with hc | hnext
      · exact .inr ⟨j, c, next, hget, hc, .inl ⟨x, rfl, rfl⟩⟩
      · exact .inl ⟨_, List.mem_append_left _ (List.mem_set hlt _), rfl, hnext _⟩
    · refine .inl ⟨p, List.mem_append_left _ (List.mem_of_getElem? (i := j) ?_), rfl, hmust⟩
      rw [List.getElem?_set_ne hne.symm, hj]
  · rcases eq_or_ne j i with rfl | hne
    · obtain rfl := Option.some_inj.1 (hj.symm.trans hget)
      rcases hmust with hc | hnext
      · exact .inr ⟨j, c, next, hget, hc, .inr ⟨e, rfl, rfl⟩⟩
      · exact .inl ⟨_, List.mem_set hlt _, rfl, hnext _⟩
    · refine .inl ⟨p, List.mem_of_getElem? (i := j) ?_, rfl, hmust⟩
      simp only [Config.failed]
      rw [List.getElem?_set_ne hne.symm, hj]
  · exact .inl ⟨p, hp, rfl, hmust⟩

/-! ### Properties of the programs -/

/-- **A property of the programs holds of all that is ever left of them.** -/
theorem everywhere_of_run {ok : Config O V E S R → Event O X N E → Prop}
    {T : (c : C) → Except E (V c) → Prop} {Q : O → Program V E R → Prop}
    (hok : ∀ x c s, T c (.ok (sys.exec x c s).1)) (herror : ∀ c e, T c (.error e))
    (hQ : ∀ op, (sys.program op).Everywhere T (Q op)) {s : S}
    {l : List (Event O X N E)} (h : Run (step sys) ok (idle s) l cfg) :
    ∀ p ∈ cfg.procs, p.rest.Everywhere T (Q p.op) := by
  refine h.invariant (I := fun cfg => ∀ p ∈ cfg.procs, p.rest.Everywhere T (Q p.op)) ?_
    fun p hp => absurd hp List.not_mem_nil
  intro cfg ev cfg' hinv _ hs p hp
  rcases step_cases hs with ⟨op, -, rfl⟩ | ⟨i, x, op, c, next, -, hget, rfl⟩ |
    ⟨i, e, op, c, next, -, hget, rfl⟩ | ⟨n, store, -, -, rfl⟩
  · rcases List.mem_append.1 hp with hp | hp
    · exact hinv p hp
    · obtain rfl := List.mem_singleton.1 hp
      exact hQ op
  · rcases mem_advance hp with rfl | ⟨j, -, hj⟩ | ⟨op', -, rfl⟩
    · exact (hinv _ (mem_of_getElem? hget)).next (hok x c cfg.store)
    · exact hinv p (mem_of_getElem? hj)
    · exact hQ op'
  · rcases mem_set_cases hp with rfl | ⟨j, -, hj⟩
    · exact (hinv _ (mem_of_getElem? hget)).next (herror c e)
    · exact hinv p (mem_of_getElem? hj)
  · exact hinv p hp

/-! ### Hazards -/

section Amid

variable {rely : S → S → Prop} {guard : C → S → Prop} {hazards : Program.Hazards C E S}

/-- **The rule of hazards**, for programs that all rely on the same: when every command that keeps to
its guard stays within the rely, every process of the pool is safe amid the hazards that the run
meets. -/
theorem amid_of_run {ok : Config O V E S R → Event O X N E → Prop} {I : S → Prop}
    (htrans : ∀ s t u, rely s t → rely t u → rely s u) (hrefl : ∀ s, I s → rely s s)
    (hstart : ∀ op s, I s → (sys.program op).Amid sys.exec rely guard hazards (fun _ _ => True) s)
    (hspawns : ∀ c v, sys.spawns c v = [])
    (hkeep : ∀ x c s, I s → guard c s → hazards.effect c s →
      I (sys.exec x c s).2 ∧ rely s (sys.exec x c s).2)
    (henv : ∀ n s t, I s → sys.env n s = some t → I t ∧ rely s t)
    (hadvance : ∀ cfg i x op c next, ok cfg (.advance i x) →
      cfg.procs[i]? = some ⟨op, .call c next⟩ → hazards.effect c cfg.store)
    (hfail : ∀ cfg i e op c next, ok cfg (.fail i e) →
      cfg.procs[i]? = some ⟨op, .call c next⟩ → hazards.fault c e cfg.store)
    {s : S} (h₀ : I s) {l : List (Event O X N E)} (h : Run (step sys) ok (idle s) l cfg) :
    I cfg.store ∧
      ∀ p ∈ cfg.procs, p.rest.Amid sys.exec rely guard hazards (fun _ _ => True) cfg.store := by
  refine h.invariant (I := fun cfg => I cfg.store ∧
    ∀ p ∈ cfg.procs, p.rest.Amid sys.exec rely guard hazards (fun _ _ => True) cfg.store) ?_
    ⟨h₀, fun p hp => absurd hp List.not_mem_nil⟩
  rintro cfg ev cfg' ⟨hinv, hprocs⟩ hok hs
  -- the others stay safe in a store within the rely
  have hothers : ∀ t, rely cfg.store t → ∀ p ∈ cfg.procs,
      p.rest.Amid sys.exec rely guard hazards (fun _ _ => True) t :=
    fun t ht p hp => (hprocs p hp).stable htrans (fun _ _ _ _ _ => trivial) ht
  rcases step_cases hs with ⟨op, -, rfl⟩ | ⟨i, x, op, c, next, rfl, hget, rfl⟩ |
    ⟨i, e, op, c, next, rfl, hget, rfl⟩ | ⟨n, store, -, hstore, rfl⟩
  · refine ⟨hinv, fun p hp => ?_⟩
    rcases List.mem_append.1 hp with hp | hp
    · exact hprocs p hp
    · obtain rfl := List.mem_singleton.1 hp
      exact hstart op _ hinv
  · obtain ⟨hguard, hown, -⟩ := hprocs _ (mem_of_getElem? hget) cfg.store (hrefl _ hinv)
    have heffect := hadvance cfg i x op c next hok hget
    obtain ⟨hinv', hrely⟩ := hkeep x c cfg.store hinv hguard heffect
    refine ⟨hinv', fun p hp => ?_⟩
    rcases mem_advance hp with rfl | ⟨j, -, hj⟩ | ⟨op', hop', -⟩
    · exact hown x heffect
    · exact hothers _ hrely p (mem_of_getElem? hj)
    · rw [hspawns] at hop'
      exact absurd hop' List.not_mem_nil
  · obtain ⟨-, -, herror⟩ := hprocs _ (mem_of_getElem? hget) cfg.store (hrefl _ hinv)
    refine ⟨hinv, fun p hp => ?_⟩
    rcases mem_set_cases hp with rfl | ⟨j, -, hj⟩
    · exact herror e (hfail cfg i e op c next hok hget)
    · exact hprocs p (mem_of_getElem? hj)
  · obtain ⟨hinv', hrely⟩ := henv n cfg.store store hinv hstore
    exact ⟨hinv', hothers _ hrely⟩

end Amid

/-! ### Contracts -/

/-- An invariant of the store and, for every operation, what it relies on, what it asks of its
commands and what holds when it has ended; and the errors with which a command may fail. -/
structure Contract (O C E S R : Type) where
  inv : S → Prop
  rely : O → S → S → Prop
  guard : O → C → S → Prop
  post : O → R → S → Prop
  faults : E → Prop

namespace Contract

variable (k : Contract O C E S R)

/-- The rest of a process is secure in a store. -/
def Secures (sys : System O X N V E S R) (p : Process O V E R) (s : S) : Prop :=
  p.rest.Secure sys.exec (k.rely p.op) (k.guard p.op) k.faults (k.post p.op) s

/-- **Every process of the pool keeps its contract.** -/
def Keeps (sys : System O X N V E S R) (cfg : Config O V E S R) : Prop :=
  k.inv cfg.store ∧ ∀ p ∈ cfg.procs, k.Secures sys p cfg.store

/-- A change of the store leaves a process alone: it is one that the process relies on, or the
process has ended and what it achieved stands. -/
def Unaffected (p : Process O V E R) (s t : S) : Prop :=
  k.rely p.op s t ∨ ∃ a, p.rest = .ret a ∧ (k.post p.op a s → k.post p.op a t)

/-- What the relies and the postconditions must be for the rule below. -/
structure Lawful : Prop where
  refl : ∀ op s, k.inv s → k.rely op s s
  trans : ∀ op s t u, k.rely op s t → k.rely op t u → k.rely op s u
  stable : ∀ op a s t, k.post op a s → k.rely op s t → k.post op a t

variable {k}

theorem Secures.unaffected (hk : k.Lawful) {p : Process O V E R} {s t : S}
    (h : k.Secures sys p s) (hp : k.Unaffected p s t) : k.Secures sys p t := by
  rcases hp with hrely | ⟨a, hret, hpost⟩
  · exact Program.Secure.stable (hk.trans p.op) (hk.stable p.op) h hrely
  · simp only [Secures, hret, Program.secure_ret] at h ⊢
    exact hpost h

/-- A command that comes next keeps to its guard. -/
theorem Keeps.guard (hk : k.Lawful) (h : k.Keeps sys cfg) {i : ℕ} {op : O} {c : C}
    {next : Except E (V c) → Program V E R} (hget : cfg.procs[i]? = some ⟨op, .call c next⟩) :
    k.guard op c cfg.store :=
  (h.2 _ (mem_of_getElem? hget) cfg.store (hk.refl op _ h.1)).1

/-- **The rule of contracts**: operations begin secure, every command that keeps to its guard keeps
the invariant and leaves the other processes alone, and so does the world outside; then every
process keeps its contract in every run. -/
theorem keeps_of_run {ok : Config O V E S R → Event O X N E → Prop} (hk : k.Lawful)
    (hstart : ∀ cfg op, k.Keeps sys cfg → ok cfg (.start op) → k.Secures sys (sys.launch op)
      cfg.store)
    (hadvance : ∀ cfg i x op c next, k.Keeps sys cfg → ok cfg (.advance i x) →
      cfg.procs[i]? = some ⟨op, .call c next⟩ → k.guard op c cfg.store →
      k.inv (sys.exec x c cfg.store).2 ∧
      (∀ op' ∈ sys.spawns c (sys.exec x c cfg.store).1,
        k.Secures sys (sys.launch op') (sys.exec x c cfg.store).2) ∧
      ∀ j p, j ≠ i → cfg.procs[j]? = some p → k.Unaffected p cfg.store (sys.exec x c cfg.store).2)
    (henv : ∀ cfg n store, k.Keeps sys cfg → ok cfg (.env n) → sys.env n cfg.store = some store →
      k.inv store ∧ ∀ p ∈ cfg.procs, k.Unaffected p cfg.store store)
    (hfail : ∀ cfg i e, ok cfg (.fail i e) → k.faults e)
    {cfg₀ : Config O V E S R} (h₀ : k.Keeps sys cfg₀) {l : List (Event O X N E)}
    (h : Run (step sys) ok cfg₀ l cfg) : k.Keeps sys cfg := by
  refine h.invariant ?_ h₀
  intro cfg ev cfg' hkeeps hok hs
  obtain ⟨hinv, hprocs⟩ := hkeeps
  -- a command may be issued in the store as it is
  have hnow : ∀ {i : ℕ} {op : O} {c : C} {next : Except E (V c) → Program V E R},
      cfg.procs[i]? = some ⟨op, .call c next⟩ → k.guard op c cfg.store ∧
      (∀ x, k.Secures sys ⟨op, next (.ok (sys.exec x c cfg.store).1)⟩ (sys.exec x c cfg.store).2) ∧
      ∀ e, k.faults e → k.Secures sys ⟨op, next (.error e)⟩ cfg.store := by
    intro i op c next hget
    exact hprocs _ (mem_of_getElem? hget) cfg.store (hk.refl op _ hinv)
  rcases step_cases hs with ⟨op, rfl, rfl⟩ | ⟨i, x, op, c, next, rfl, hget, rfl⟩ |
    ⟨i, e, op, c, next, rfl, hget, rfl⟩ | ⟨n, store, rfl, hstore, rfl⟩
  · refine ⟨hinv, fun p hp => ?_⟩
    rcases List.mem_append.1 hp with hp | hp
    · exact hprocs p hp
    · obtain rfl := List.mem_singleton.1 hp
      exact hstart cfg op ⟨hinv, hprocs⟩ hok
  · obtain ⟨hguard, hown, -⟩ := hnow hget
    obtain ⟨hinv', hspawn, hothers⟩ :=
      hadvance cfg i x op c next ⟨hinv, hprocs⟩ hok hget hguard
    refine ⟨hinv', fun p hp => ?_⟩
    rcases mem_advance hp with rfl | ⟨j, hne, hj⟩ | ⟨op', hop', rfl⟩
    · exact hown x
    · exact (hprocs p (mem_of_getElem? hj)).unaffected hk (hothers j p hne hj)
    · exact hspawn op' hop'
  · obtain ⟨-, -, herror⟩ := hnow hget
    refine ⟨hinv, fun p hp => ?_⟩
    rcases mem_set_cases hp with rfl | ⟨j, -, hj⟩
    · exact herror e (hfail cfg i e hok)
    · exact hprocs p (mem_of_getElem? hj)
  · obtain ⟨hinv', hothers⟩ := henv cfg n store ⟨hinv, hprocs⟩ hok hstore
    exact ⟨hinv', fun p hp => (hprocs p hp).unaffected hk (hothers p hp)⟩

end Contract

end Pool
