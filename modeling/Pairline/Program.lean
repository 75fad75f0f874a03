/-
**Programs over a store, and the failure of one command.**

A program issues commands one after another; which one comes next may depend on the replies.  A
command either takes effect and is answered, or it fails: then it leaves the store as it is, the
program gets an error for a reply and goes on with what it does in that case.  The same programs run
alone here, with at most one failing command, and in the company of others elsewhere.

Main definitions:

* `Program` — a tree of commands, branching on the replies;
* `Program.run`, `Program.runFault` — a run alone, and one in which one command fails;
* `Program.Fate`, `Program.afterCommand` — one command, which may fail before or after its effect;
* `Program.runFates`, `Program.runFate` — runs in which every command has its own fate, or one has;
* `Program.answered`, `Program.asked` — what a program returns when every command has its answer, and
  which commands it issues;
* `Program.pipeline` — a list of commands that are all issued, with the first error;
* `Program.All` — every command that may be issued meets a condition;
* `Program.Once` — at most one of certain commands is issued;
* `Program.Ends` — every end of the program meets a condition;
* `Program.Reads` — a program that changes nothing and hands on any failure.

Main results:

* `Program.runFault_bind_of_lt`, `Program.runFault_bind_of_le` — a failure falls into the first part
  of a program or into the rest;
* `Program.All.run_invariant` — **what every command preserves, the program preserves**;
* `Program.ends_bind` — the ends of a program are those of its second part;
* `Program.Reads.bind` — reading programs compose;
* `Program.runFault_pipeline` — a failure anywhere in a pipeline is reported.
-/

import Mathlib.Data.Nat.Notation

set_option relaxedAutoImplicit false
set_option autoImplicit false

/-- **A program over commands `C`**, whose replies are of type `V c` or an error in `E`. -/
inductive Program {C : Type} (V : C → Type) (E : Type) (α : Type) : Type
  | ret (a : α)
  | call (c : C) (next : Except E (V c) → Program V E α)

namespace Program

variable {C : Type} {V : C → Type} {E S α β : Type}

/-! ### Composition -/

def bind (p : Program V E α) (f : α → Program V E β) : Program V E β :=
  match p with
  | .ret a => f a
  | .call c next => .call c fun reply => (next reply).bind f

instance : Monad (Program V E) where
  pure := .ret
  bind := bind

@[simp] theorem pure_eq (a : α) : (pure a : Program V E α) = .ret a := rfl

@[simp] theorem bind_eq (p : Program V E α) (f : α → Program V E β) : p >>= f = p.bind f := rfl

@[simp] theorem ret_bind (a : α) (f : α → Program V E β) : (ret a).bind f = f a := rfl

@[simp] theorem call_bind (c : C) (next : Except E (V c) → Program V E α)
    (f : α → Program V E β) : (call c next).bind f = call c fun reply => (next reply).bind f := rfl

@[simp] theorem bind_ret (p : Program V E α) : p.bind .ret = p := by
  induction p with
  | ret a => rfl
  | call c next ih => simp only [call_bind, ih]

theorem bind_assoc {γ : Type} (p : Program V E α) (f : α → Program V E β)
    (g : β → Program V E γ) : (p.bind f).bind g = p.bind fun a => (f a).bind g := by
  induction p with
  | ret a => rfl
  | call c next ih => simp only [call_bind, ih]

/-- One command, with its reply. -/
def command (c : C) : Program V E (Except E (V c)) := .call c .ret

/-- **A list of commands that are all issued**, and the first error among the replies. -/
def pipeline : List C → Program V E (Except E Unit)
  | [] => .ret (.ok ())
  | c :: cs => .call c fun reply =>
      (pipeline cs).bind fun rest =>
        .ret (match reply with
          | .ok _ => rest
          | .error e => .error e)

/-- The first error of a command and of those after it. -/
def orError {γ : Type} (reply : Except E γ) (rest : Except E Unit) : Except E Unit :=
  match reply with
  | .ok _ => rest
  | .error e => .error e

theorem pipeline_cons_bind (c : C) (cs : List C) (f : Except E Unit → Program V E β) :
    (pipeline (c :: cs)).bind f =
      call c fun reply => (pipeline cs).bind fun rest => f (orError reply rest) := by
  simp only [pipeline, call_bind, bind_assoc, ret_bind]
  congr 1
  funext reply
  cases reply <;> rfl

/-- **A program over some of the commands.** -/
def left {D : Type} {W : D → Type} : Program V E α → Program (Sum.elim V W) E α
  | .ret a => .ret a
  | .call c next => .call (.inl c) fun reply => (next reply).left

@[simp] theorem left_ret {D : Type} {W : D → Type} (a : α) :
    (ret a : Program V E α).left = (ret a : Program (Sum.elim V W) E α) := rfl

theorem left_bind {D : Type} {W : D → Type} (p : Program V E α) (f : α → Program V E β) :
    (p.bind f).left = (p.left : Program (Sum.elim V W) E α).bind fun a => (f a).left := by
  induction p with
  | ret a => rfl
  | call c next ih =>
      simp only [call_bind, left]
      exact congrArg _ (funext fun reply => ih reply)

theorem left_pipeline {D : Type} {W : D → Type} (cs : List C) :
    (pipeline cs : Program V E _).left =
      (pipeline (cs.map .inl) : Program (Sum.elim V W) E _) := by
  induction cs with
  | nil => rfl
  | cons c cs ih =>
      simp only [pipeline, left, left_bind, List.map_cons, ih]
      refine congrArg _ (funext fun reply => ?_)
      cases reply <;> rfl

/-! ### Runs -/

section Runs

variable (exec : (c : C) → S → V c × S) (e : E)

/-- A run of a program in which every command takes effect. -/
def run : Program V E α → S → α × S
  | .ret a, s => (a, s)
  | .call c next, s => (next (.ok (exec c s).1)).run (exec c s).2

/-- **A run in which the command number `k` fails** with the error `e`. -/
def runFault : Program V E α → ℕ → S → α × S
  | .ret a, _, s => (a, s)
  | .call _ next, 0, s => (next (.error e)).run exec s
  | .call c next, k + 1, s => (next (.ok (exec c s).1)).runFault k (exec c s).2

/-- How many commands a run without failure issues. -/
def issued : Program V E α → S → ℕ
  | .ret _, _ => 0
  | .call c next, s => (next (.ok (exec c s).1)).issued (exec c s).2 + 1

variable {exec e}

theorem run_bind (p : Program V E α) (f : α → Program V E β) (s : S) :
    (p.bind f).run exec s = (f (p.run exec s).1).run exec (p.run exec s).2 := by
  induction p generalizing s with
  | ret a => rfl
  | call c next ih => exact ih _ _

theorem issued_bind (p : Program V E α) (f : α → Program V E β) (s : S) :
    (p.bind f).issued exec s = p.issued exec s +
      (f (p.run exec s).1).issued exec (p.run exec s).2 := by
  induction p generalizing s with
  | ret a => exact (Nat.zero_add _).symm
  | call c next ih =>
      have hrest := ih (.ok (exec c s).1) (exec c s).2
      simp only [call_bind, issued, run, hrest]
      omega

/-- A program over some of the commands runs as it does alone. -/
theorem run_left {D : Type} {W : D → Type} {exec' : (c : C ⊕ D) → S → Sum.elim V W c × S}
    (hexec : ∀ c s, exec' (.inl c) s = exec c s) (p : Program V E α) (s : S) :
    p.left.run exec' s = p.run exec s := by
  induction p generalizing s with
  | ret a => rfl
  | call c next ih =>
      simp only [left, run, hexec]
      exact ih _ _

/-- A failure among the commands of the first part. -/
theorem runFault_bind_of_lt {p : Program V E α} (f : α → Program V E β) {s : S} {k : ℕ}
    (h : k < p.issued exec s) : (p.bind f).runFault exec e k s =
      (f (p.runFault exec e k s).1).run exec (p.runFault exec e k s).2 := by
  induction p generalizing s k with
  | ret a => exact absurd h (Nat.not_lt_zero k)
  | call c next ih =>
      cases k with
      | zero => exact run_bind _ _ _
      | succ k => exact ih _ (Nat.lt_of_succ_lt_succ h)

/-- A failure after the commands of the first part. -/
theorem runFault_bind_of_le {p : Program V E α} (f : α → Program V E β) {s : S} {k : ℕ}
    (h : p.issued exec s ≤ k) : (p.bind f).runFault exec e k s =
      (f (p.run exec s).1).runFault exec e (k - p.issued exec s) (p.run exec s).2 := by
  induction p generalizing s k with
  | ret a => rfl
  | call c next ih =>
      cases k with
      | zero => exact absurd h (Nat.not_succ_le_zero _)
      | succ k =>
          have hrest := ih (.ok (exec c s).1) (s := (exec c s).2) (Nat.le_of_succ_le_succ h)
          have hsub : k + 1 - (call c next).issued exec s =
              k - (next (.ok (exec c s).1)).issued exec (exec c s).2 :=
            Nat.add_sub_add_right _ _ _
          rw [hsub]
          exact hrest

/-- A command that is not issued does not fail. -/
theorem runFault_eq_run {p : Program V E α} {s : S} {k : ℕ} (h : p.issued exec s ≤ k) :
    p.runFault exec e k s = p.run exec s := by
  have hrest := runFault_bind_of_le (e := e) (f := ret) h
  rwa [bind_ret] at hrest

/-- What is made of the result of a program changes nothing about its run. -/
theorem runFault_bind_ret (p : Program V E α) (g : α → β) (s : S) (k : ℕ) :
    (p.bind fun a => .ret (g a)).runFault exec e k s =
      (g (p.runFault exec e k s).1, (p.runFault exec e k s).2) := by
  by_cases h : k < p.issued exec s
  · exact runFault_bind_of_lt _ h
  · rw [runFault_bind_of_le _ (Nat.le_of_not_lt h), runFault_eq_run (Nat.le_of_not_lt h)]
    rfl

end Runs

/-! ### Answers -/

section Answers

variable (answer : (c : C) → Except E (V c))

/-- What a program returns, given the answer to each command. -/
def answered : Program V E α → α
  | .ret a => a
  | .call c next => (next (answer c)).answered

/-- The commands that it issues. -/
def asked : Program V E α → List C
  | .ret _ => []
  | .call c next => c :: (next (answer c)).asked

@[simp] theorem answered_ret (a : α) : (ret a : Program V E α).answered answer = a := rfl

@[simp] theorem answered_call (c : C) (next : Except E (V c) → Program V E α) :
    (call c next).answered answer = (next (answer c)).answered answer := rfl

@[simp] theorem asked_ret (a : α) : (ret a : Program V E α).asked answer = [] := rfl

@[simp] theorem asked_call (c : C) (next : Except E (V c) → Program V E α) :
    (call c next).asked answer = c :: (next (answer c)).asked answer := rfl

@[simp] theorem answered_bind (p : Program V E α) (f : α → Program V E β) :
    (p.bind f).answered answer = (f (p.answered answer)).answered answer := by
  induction p with
  | ret a => rfl
  | call c next ih => exact ih _

@[simp] theorem asked_bind (p : Program V E α) (f : α → Program V E β) :
    (p.bind f).asked answer = p.asked answer ++ (f (p.answered answer)).asked answer := by
  induction p with
  | ret a => rfl
  | call c next ih => exact congrArg (List.cons c) (ih _)

/-- A program over some of the commands issues what it does alone. -/
theorem asked_left {D : Type} {W : D → Type} (answer : (c : C ⊕ D) → Except E (Sum.elim V W c))
    (p : Program V E α) :
    p.left.asked answer = (p.asked fun c => answer (.inl c)).map .inl := by
  induction p with
  | ret a => rfl
  | call c next ih => exact congrArg (List.cons _) (ih _)

end Answers

/-! ### Commands among failures -/

/-- **What becomes of a command**: it is answered, it fails, or it takes effect and the answer is
lost. -/
inductive Fate
  | answered
  | failed
  | lost
  deriving DecidableEq

/-- What a program goes on with after a command, and the store. -/
def afterCommand (exec : (c : C) → S → V c × S) (e : E) (c : C)
    (next : Except E (V c) → Program V E α) (s : S) : Fate → Program V E α × S
  | .answered => (next (.ok (exec c s).1), (exec c s).2)
  | .failed => (next (.error e), s)
  | .lost => (next (.error e), (exec c s).2)

section Fates

variable (exec : (c : C) → S → V c × S) (e : E)

/-- **A run in which every command has its own fate.** -/
def runFates : Program V E α → (ℕ → Fate) → S → α × S
  | .ret a, _, s => (a, s)
  | .call c next, fates, s =>
      match fates 0 with
      | .answered =>
          (next (.ok (exec c s).1)).runFates (fun k => fates (k + 1)) (exec c s).2
      | .failed => (next (.error e)).runFates (fun k => fates (k + 1)) s
      | .lost => (next (.error e)).runFates (fun k => fates (k + 1)) (exec c s).2

variable {exec e}

/-- What is made of the result of a program changes nothing about such a run. -/
theorem runFates_bind_ret (p : Program V E α) (g : α → β) (fates : ℕ → Fate) (s : S) :
    (p.bind fun a => .ret (g a)).runFates exec e fates s =
      (g (p.runFates exec e fates s).1, (p.runFates exec e fates s).2) := by
  induction p generalizing fates s with
  | ret a => rfl
  | call c next ih =>
      simp only [call_bind, runFates]
      cases fates 0 with
      | answered => exact ih _ _ _
      | failed => exact ih _ _ _
      | lost => exact ih _ _ _

end Fates

/-! ### Among answered commands, one that is not -/

section Fate

variable (exec : (c : C) → S → V c × S) (e : E)

/-- **A run in which the command number `k` has a fate of its own**, and all others are answered. -/
def runFate : Program V E α → ℕ → Fate → S → α × S
  | .ret a, _, _, s => (a, s)
  | .call c next, 0, fate, s =>
      (afterCommand exec e c next s fate).1.run exec (afterCommand exec e c next s fate).2
  | .call c next, k + 1, fate, s => (next (.ok (exec c s).1)).runFate k fate (exec c s).2

variable {exec e}

theorem runFate_answered (p : Program V E α) (k : ℕ) (s : S) :
    p.runFate exec e k .answered s = p.run exec s := by
  induction p generalizing k s with
  | ret a => rfl
  | call c next ih =>
      cases k with
      | zero => rfl
      | succ k => exact ih _ _ _

theorem runFate_bind_of_lt {p : Program V E α} (f : α → Program V E β) {s : S} {k : ℕ} (fate : Fate)
    (h : k < p.issued exec s) : (p.bind f).runFate exec e k fate s =
      (f (p.runFate exec e k fate s).1).run exec (p.runFate exec e k fate s).2 := by
  induction p generalizing s k with
  | ret a => exact absurd h (Nat.not_lt_zero k)
  | call c next ih =>
      cases k with
      | zero =>
          cases fate with
          | answered => exact run_bind _ _ _
          | failed => exact run_bind _ _ _
          | lost => exact run_bind _ _ _
      | succ k => exact ih _ (Nat.lt_of_succ_lt_succ h)

theorem runFate_bind_of_le {p : Program V E α} (f : α → Program V E β) {s : S} {k : ℕ} (fate : Fate)
    (h : p.issued exec s ≤ k) : (p.bind f).runFate exec e k fate s =
      (f (p.run exec s).1).runFate exec e (k - p.issued exec s) fate (p.run exec s).2 := by
  induction p generalizing s k with
  | ret a => rfl
  | call c next ih =>
      cases k with
      | zero => exact absurd h (Nat.not_succ_le_zero _)
      | succ k =>
          have hrest := ih (.ok (exec c s).1) (s := (exec c s).2) (Nat.le_of_succ_le_succ h)
          have hsub : k + 1 - (call c next).issued exec s =
              k - (next (.ok (exec c s).1)).issued exec (exec c s).2 :=
            Nat.add_sub_add_right _ _ _
          rw [hsub]
          exact hrest

theorem runFate_eq_run {p : Program V E α} {s : S} {k : ℕ} (fate : Fate)
    (h : p.issued exec s ≤ k) : p.runFate exec e k fate s = p.run exec s := by
  have hrest := runFate_bind_of_le (e := e) (f := ret) fate h
  rwa [bind_ret] at hrest

end Fate

/-! ### Beside another store -/

section Beside

variable {D T : Type} {W : D → Type} {exec : (c : C) → S → V c × S} {e : E}

section

variable {exec' : (c : C ⊕ D) → S → Sum.elim V W c × S}
  (hexec : ∀ c s, exec' (.inl c) s = exec c s)

include hexec

theorem issued_left (p : Program V E α) (s : S) :
    p.left.issued exec' s = p.issued exec s := by
  induction p generalizing s with
  | ret a => rfl
  | call c next ih =>
      simp only [left, issued, hexec]
      exact congrArg (· + 1) (ih _ _)

theorem runFate_left (p : Program V E α) (k : ℕ) (fate : Fate) (s : S) :
    p.left.runFate exec' e k fate s = p.runFate exec e k fate s := by
  induction p generalizing k s with
  | ret a => rfl
  | call c next ih =>
      cases k with
      | zero =>
          cases fate with
          | answered =>
              simp only [left, runFate, afterCommand, hexec]
              exact run_left hexec _ _
          | failed => exact run_left hexec _ _
          | lost =>
              simp only [left, runFate, afterCommand, hexec]
              exact run_left hexec _ _
      | succ k =>
          simp only [left, runFate, hexec]
          exact ih _ _ _

end

variable {exec' : (c : C ⊕ D) → S × T → Sum.elim V W c × (S × T)}
  (hexec : ∀ c s t, exec' (.inl c) (s, t) = ((exec c s).1, ((exec c s).2, t)))

include hexec

/-- **A program over the commands on one store runs beside another store as it does alone.** -/
theorem run_left_beside (p : Program V E α) (s : S) (t : T) :
    p.left.run exec' (s, t) = ((p.run exec s).1, ((p.run exec s).2, t)) := by
  induction p generalizing s with
  | ret a => rfl
  | call c next ih =>
      simp only [left, run, hexec]
      exact ih _ _

theorem issued_left_beside (p : Program V E α) (s : S) (t : T) :
    p.left.issued exec' (s, t) = p.issued exec s := by
  induction p generalizing s with
  | ret a => rfl
  | call c next ih =>
      simp only [left, issued, hexec]
      exact congrArg (· + 1) (ih _ _)

theorem runFate_left_beside (p : Program V E α) (k : ℕ) (fate : Fate) (s : S) (t : T) :
    p.left.runFate exec' e k fate (s, t) =
      ((p.runFate exec e k fate s).1, ((p.runFate exec e k fate s).2, t)) := by
  induction p generalizing k s with
  | ret a => rfl
  | call c next ih =>
      cases k with
      | zero =>
          cases fate with
          | answered =>
              simp only [left, runFate, afterCommand, hexec]
              exact run_left_beside hexec _ _ _
          | failed => exact run_left_beside hexec _ _ _
          | lost =>
              simp only [left, runFate, afterCommand, hexec]
              exact run_left_beside hexec _ _ _
      | succ k =>
          simp only [left, runFate, hexec]
          exact ih _ _ _

end Beside

/-! ### What every command preserves -/

/-- **Every command that a program may issue meets a condition**, whatever the replies. -/
def All (P : C → Prop) : Program V E α → Prop
  | .ret _ => True
  | .call c next => P c ∧ ∀ reply, (next reply).All P

section All

variable {P : C → Prop}

theorem All.bind {p : Program V E α} {f : α → Program V E β} (hp : p.All P)
    (hf : ∀ a, (f a).All P) : (p.bind f).All P := by
  induction p with
  | ret a => exact hf a
  | call c next ih => exact ⟨hp.1, fun reply => ih reply (hp.2 reply)⟩

theorem All.mono {P' : C → Prop} {p : Program V E α} (hp : p.All P) (h : ∀ c, P c → P' c) :
    p.All P' := by
  induction p with
  | ret a => trivial
  | call c next ih => exact ⟨h c hp.1, fun reply => ih reply (hp.2 reply)⟩

theorem All.command {c : C} (h : P c) : (command c : Program V E (Except E (V c))).All P :=
  ⟨h, fun _ => trivial⟩

theorem All.pipeline {cs : List C} (h : ∀ c ∈ cs, P c) : (pipeline cs : Program V E _).All P := by
  induction cs with
  | nil => trivial
  | cons c cs ih =>
      refine ⟨h c List.mem_cons_self, fun reply => ?_⟩
      exact (ih fun d hd => h d (List.mem_cons_of_mem _ hd)).bind fun _ => trivial

theorem All.left {D : Type} {W : D → Type} {P' : C ⊕ D → Prop} {p : Program V E α} (hp : p.All P)
    (h : ∀ c, P c → P' (.inl c)) : (p.left : Program (Sum.elim V W) E α).All P' := by
  induction p with
  | ret a => trivial
  | call c next ih => exact ⟨h c hp.1, fun reply => ih reply (hp.2 reply)⟩

theorem All.of_mem_asked {answer : (c : C) → Except E (V c)} {p : Program V E α} (hp : p.All P)
    {c : C} (hc : c ∈ p.asked answer) : P c := by
  induction p with
  | ret a => cases hc
  | call d next ih =>
      rcases List.mem_cons.1 hc with rfl | hc
      · exact hp.1
      · exact ih _ (hp.2 _) hc

variable {exec : (c : C) → S → V c × S} {e : E} {I : S → Prop} {p : Program V E α} {s : S}

/-- **What every command of a program preserves, its runs preserve.** -/
theorem All.run_invariant (hp : p.All P) (hstep : ∀ c, P c → ∀ s, I s → I (exec c s).2)
    (hs : I s) : I (p.run exec s).2 := by
  induction p generalizing s with
  | ret a => exact hs
  | call c next ih => exact ih _ (hp.2 _) (hstep c hp.1 s hs)

/-- **… and so do its runs with a failure.** -/
theorem All.runFault_invariant (hp : p.All P) (hstep : ∀ c, P c → ∀ s, I s → I (exec c s).2)
    (k : ℕ) (hs : I s) : I (p.runFault exec e k s).2 := by
  induction p generalizing s k with
  | ret a => exact hs
  | call c next ih =>
      cases k with
      | zero => exact (hp.2 _).run_invariant hstep hs
      | succ k => exact ih _ (hp.2 _) k (hstep c hp.1 s hs)

/-- **… whatever becomes of one of its commands.** -/
theorem All.runFate_invariant (hp : p.All P) (hstep : ∀ c, P c → ∀ s, I s → I (exec c s).2)
    (k : ℕ) (fate : Fate) (hs : I s) : I (p.runFate exec e k fate s).2 := by
  induction p generalizing s k with
  | ret a => exact hs
  | call c next ih =>
      cases k with
      | zero =>
          cases fate with
          | answered => exact (hp.2 _).run_invariant hstep (hstep c hp.1 s hs)
          | failed => exact (hp.2 _).run_invariant hstep hs
          | lost => exact (hp.2 _).run_invariant hstep (hstep c hp.1 s hs)
      | succ k => exact ih _ (hp.2 _) k (hstep c hp.1 s hs)

end All

/-! ### Commands that are issued at most once -/

section Once

variable {P : C → Prop}

/-- **At most one command of `P` is issued**, whatever the replies. -/
def Once (P : C → Prop) : Program V E α → Prop
  | .ret _ => True
  | .call c next => (P c → ∀ reply, (next reply).All fun c => ¬ P c) ∧ ∀ reply, (next reply).Once P

theorem Once.of_all {p : Program V E α} (h : p.All fun c => ¬ P c) : p.Once P := by
  induction p with
  | ret a => trivial
  | call c next ih => exact ⟨fun hc => absurd hc h.1, fun reply => ih reply (h.2 reply)⟩

/-- Nothing of `P` comes first. -/
theorem All.once_bind {p : Program V E α} {f : α → Program V E β} (hp : p.All fun c => ¬ P c)
    (hf : ∀ a, (f a).Once P) : (p.bind f).Once P := by
  induction p with
  | ret a => exact hf a
  | call c next ih => exact ⟨fun hc => absurd hc hp.1, fun reply => ih reply (hp.2 reply)⟩

/-- Nothing of `P` comes after. -/
theorem Once.bind_all {p : Program V E α} {f : α → Program V E β} (hp : p.Once P)
    (hf : ∀ a, (f a).All fun c => ¬ P c) : (p.bind f).Once P := by
  induction p with
  | ret a => exact .of_all (hf a)
  | call c next ih =>
      exact ⟨fun hc reply => (hp.1 hc reply).bind hf, fun reply => ih reply (hp.2 reply)⟩

end Once

/-! ### How programs end -/

/-- **Every end of a program meets a condition**, whatever the replies. -/
def Ends (P : α → Prop) : Program V E α → Prop
  | .ret a => P a
  | .call _ next => ∀ reply, (next reply).Ends P

section Ends

variable {P Q : α → Prop}

@[simp] theorem ends_ret (a : α) : (ret a : Program V E α).Ends P ↔ P a := Iff.rfl

theorem ends_call {c : C} {next : Except E (V c) → Program V E α} :
    (call c next).Ends P ↔ ∀ reply, (next reply).Ends P := Iff.rfl

@[simp] theorem ends_command {c : C} {P : Except E (V c) → Prop} :
    (command c : Program V E (Except E (V c))).Ends P ↔ ∀ reply, P reply := Iff.rfl

/-- A program ends well when its second part does after each end of the first. -/
theorem ends_bind {p : Program V E α} {f : α → Program V E β} {P : β → Prop} :
    (p.bind f).Ends P ↔ p.Ends fun a => (f a).Ends P := by
  induction p with
  | ret a => exact Iff.rfl
  | call c next ih => exact forall_congr' ih

theorem Ends.mono {p : Program V E α} (h : p.Ends P) (hPQ : ∀ a, P a → Q a) : p.Ends Q := by
  induction p with
  | ret a => exact hPQ a h
  | call c next ih => exact fun reply => ih reply (h reply)

/-- A run ends as its program does. -/
theorem Ends.runFates {exec : (c : C) → S → V c × S} {e : E} {p : Program V E α} (h : p.Ends P)
    (fates : ℕ → Fate) (s : S) : P (p.runFates exec e fates s).1 := by
  induction p generalizing fates s with
  | ret a => exact h
  | call c next ih =>
      simp only [Program.runFates]
      cases fates 0 with
      | answered => exact ih _ (h _) _ _
      | failed => exact ih _ (h _) _ _
      | lost => exact ih _ (h _) _ _

theorem ends_and {p : Program V E α} :
    (p.Ends fun a => P a ∧ Q a) ↔ p.Ends P ∧ p.Ends Q := by
  induction p with
  | ret a => exact Iff.rfl
  | call c next ih =>
      simp only [ends_call, ih]
      exact forall_and

theorem ends_of_forall (h : ∀ a, P a) (p : Program V E α) : p.Ends P := by
  induction p with
  | ret a => exact h a
  | call c next ih => exact fun reply => ih reply

/-- Every program has an end: an error is always among the replies. -/
theorem exists_of_ends {p : Program V E α} (e : E) (h : p.Ends P) : ∃ a, P a := by
  induction p with
  | ret a => exact ⟨a, h⟩
  | call c next ih => exact ih (.error e) (h (.error e))

theorem ends_const {p : Program V E α} (e : E) {R : Prop} : (p.Ends fun _ => R) ↔ R :=
  ⟨fun h => (exists_of_ends e h).elim fun _ hR => hR, fun h => ends_of_forall (fun _ => h) p⟩

end Ends

/-! ### Reading programs -/

section Reads

/-- **A program that reads**: alone it returns `a` after `n` commands and leaves the store as it is,
and the failure of any of them is what it returns. -/
structure Reads (exec : (c : C) → S → V c × S) (e : E) (p : Program V E (Except E α)) (s : S)
    (a : α) (n : ℕ) : Prop where
  issued : p.issued exec s = n
  result : p.run exec s = (.ok a, s)
  fault : ∀ k, k < n → p.runFault exec e k s = (.error e, s)

variable {exec : (c : C) → S → V c × S} {e : E} {s : S} {a : α} {b : β} {n m : ℕ}
  {p : Program V E (Except E α)}

theorem Reads.ret : Reads exec e (ret (.ok a)) s a 0 :=
  ⟨rfl, rfl, fun k h => absurd h (Nat.not_lt_zero k)⟩

theorem Reads.command {c : C} {v : V c} (h : exec c s = (v, s)) :
    Reads exec e (command c) s v 1 := by
  refine ⟨rfl, ?_, fun k hk => ?_⟩
  · simp only [Program.command, run, h]
  · obtain rfl := Nat.lt_one_iff.1 hk
    rfl

section Rest

variable {f : Except E α → Program V E β}

/-- What comes after a reading program finds the store as it was. -/
theorem Reads.run_bind (h : Reads exec e p s a n) :
    (p.bind f).run exec s = (f (.ok a)).run exec s := by
  rw [Program.run_bind, h.result]

theorem Reads.issued_bind (h : Reads exec e p s a n) :
    (p.bind f).issued exec s = n + (f (.ok a)).issued exec s := by
  rw [Program.issued_bind, h.result, h.issued]

/-- A failure among the reads is what comes after. -/
theorem Reads.runFault_of_lt (h : Reads exec e p s a n) {k : ℕ} (hk : k < n) :
    (p.bind f).runFault exec e k s = (f (.error e)).run exec s := by
  rw [runFault_bind_of_lt f (h.issued.symm ▸ hk), h.fault k hk]

theorem Reads.runFault_of_le (h : Reads exec e p s a n) {k : ℕ} (hk : n ≤ k) :
    (p.bind f).runFault exec e k s = (f (.ok a)).runFault exec e (k - n) s := by
  rw [runFault_bind_of_le f (h.issued.symm ▸ hk), h.result, h.issued]

end Rest

/-- **Reading programs compose**, where the second hands on the failure of the first. -/
theorem Reads.bind {f : Except E α → Program V E (Except E β)} (h : Reads exec e p s a n)
    (hf : f (.error e) = .ret (.error e)) (h' : Reads exec e (f (.ok a)) s b m) :
    Reads exec e (p.bind f) s b (n + m) := by
  refine ⟨?_, ?_, fun k hk => ?_⟩
  · rw [h.issued_bind, h'.issued]
  · rw [h.run_bind, h'.result]
  · by_cases hlt : k < n
    · rw [h.runFault_of_lt hlt, hf]
      rfl
    · rw [h.runFault_of_le (by omega)]
      exact h'.fault (k - n) (by omega)

end Reads

/-! ### Pipelines -/

section Pipelines

variable {exec : (c : C) → S → V c × S} {e : E} {s : S}

theorem issued_pipeline (cs : List C) :
    (pipeline cs : Program V E _).issued exec s = cs.length := by
  induction cs generalizing s with
  | nil => rfl
  | cons c cs ih => simp only [pipeline, issued, issued_bind, ih, List.length_cons, Nat.add_zero]

theorem run_pipeline (cs : List C) :
    (pipeline cs : Program V E _).run exec s =
      (.ok (), cs.foldl (fun s c => (exec c s).2) s) := by
  induction cs generalizing s with
  | nil => rfl
  | cons c cs ih => simp only [pipeline, run, run_bind, ih, List.foldl_cons]

/-- **A failure anywhere in a pipeline is reported.** -/
theorem runFault_pipeline (cs : List C) {k : ℕ} (h : k < cs.length) :
    ((pipeline cs : Program V E _).runFault exec e k s).1 = .error e := by
  induction cs generalizing s k with
  | nil => exact absurd h (Nat.not_lt_zero k)
  | cons c cs ih =>
      cases k with
      | zero => simp only [pipeline, runFault, run_bind, run]
      | succ k =>
          have hk : k < cs.length := Nat.lt_of_succ_lt_succ h
          have hissued : k < (pipeline cs : Program V E _).issued exec (exec c s).2 := by
            rwa [issued_pipeline]
          simp only [pipeline, runFault]
          rw [runFault_bind_of_lt _ hissued]
          exact ih hk

/-- **A command of a pipeline that fails is left out**; one whose answer is lost is not. -/
theorem runFate_pipeline (cs : List C) (k : ℕ) (fate : Fate) :
    (pipeline cs : Program V E _).runFate exec e k fate s =
      (if k < cs.length ∧ fate ≠ .answered then .error e else .ok (),
        (if fate = .failed then cs.eraseIdx k else cs).foldl (fun s c => (exec c s).2) s) := by
  induction cs generalizing s k with
  | nil => simp [pipeline, runFate]
  | cons c cs ih =>
      cases k with
      | zero =>
          cases fate with
          | answered => simp [runFate_answered, run_pipeline]
          | failed => simp [pipeline, runFate, afterCommand, run_bind, run_pipeline, run]
          | lost => simp [pipeline, runFate, afterCommand, run_bind, run_pipeline, run]
      | succ k =>
          have hrest := ih (s := (exec c s).2) k
          by_cases hk : k < cs.length
          · have hissued : k < (pipeline cs : Program V E _).issued exec (exec c s).2 := by
              rwa [issued_pipeline]
            simp only [pipeline, runFate]
            rw [runFate_bind_of_lt _ fate hissued, hrest]
            cases fate <;> simp [run]
          · have hissued : (pipeline cs : Program V E _).issued exec (exec c s).2 ≤ k := by
              rw [issued_pipeline]
              exact Nat.le_of_not_lt hk
            simp only [pipeline, runFate]
            rw [runFate_bind_of_le _ fate hissued, run_pipeline]
            cases fate <;> simp [runFate, hk, List.eraseIdx_of_length_le (Nat.le_of_not_lt hk)]

end Pipelines

end Program
