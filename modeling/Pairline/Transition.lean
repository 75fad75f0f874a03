/-
**Runs of a transition system with labelled, partial steps.**

A system is given by a step function `σ → α → Option σ`: the label says which event happens and how
every choice of the environment falls, the result is `none` when the event cannot happen.  A run
carries in addition a condition on its steps, read in the state *before* the step, so that a law
can be stated once and asked both of all runs and of the runs whose steps meet a condition.

Main definitions:

* `Transition.Run` — the labels `l` lead from one state to another, each step meeting a condition;
* `Transition.exec`, `Transition.execWhere` — the run of a list of labels, computed.

Main results:

* `Transition.Run.invariant` — **what every allowed step keeps, every run keeps**;
* `Transition.Run.law_iff` — when the allowed steps are just those that keep a law;
* `Transition.run_of_execWhere` — a computed run is a run.
-/

import Mathlib.Data.List.Infix
import Mathlib.Logic.Basic
import Mathlib.Tactic.TypeStar

set_option relaxedAutoImplicit false
set_option autoImplicit false

namespace Transition

variable {σ α : Type*}

/-! ### Runs -/

/-- **`Run step ok s l t`: the labels `l` lead from `s` to `t`, and `ok` holds of each of them in
the state where it is taken.** -/
inductive Run (step : σ → α → Option σ) (ok : σ → α → Prop) : σ → List α → σ → Prop
  | refl (s : σ) : Run step ok s [] s
  | head {s m t : σ} {a : α} {l : List α} :
      ok s a → step s a = some m → Run step ok m l t → Run step ok s (a :: l) t

/-- The condition that every step meets. -/
def Always (_ : σ) (_ : α) : Prop := True

instance (s : σ) (a : α) : Decidable (Always s a) := .isTrue trivial

variable {step : σ → α → Option σ} {ok ok' : σ → α → Prop}

theorem Run.single {s t : σ} {a : α} (hok : ok s a) (h : step s a = some t) :
    Run step ok s [a] t :=
  .head hok h (.refl t)

theorem Run.append {s m t : σ} {l l' : List α} (h : Run step ok s l m)
    (h' : Run step ok m l' t) : Run step ok s (l ++ l') t := by
  induction h with
  | refl s => exact h'
  | head hok hs _ ih => exact .head hok hs (ih h')

/-- The last step of a run. -/
theorem Run.last {a : α} {l : List α} : ∀ {s t : σ}, Run step ok s (l ++ [a]) t →
    ∃ m, Run step ok s l m ∧ ok m a ∧ step m a = some t := by
  induction l with
  | nil =>
      rintro s t (_ | ⟨ha, hs, hrest⟩)
      cases hrest
      exact ⟨s, .refl s, ha, hs⟩
  | cons b l ih =>
      rintro s t (_ | ⟨hb, hs, hrest⟩)
      obtain ⟨m, hm, hlast⟩ := ih hrest
      exact ⟨m, .head hb hs hm, hlast⟩

/-- The labels determine where a run ends. -/
theorem Run.unique {s t t' : σ} {l : List α} (h : Run step ok s l t) (h' : Run step ok' s l t') :
    t = t' := by
  induction h with
  | refl s =>
      cases h'
      rfl
  | head _ hs _ ih =>
      obtain _ | ⟨_, hs', hrest⟩ := h'
      rw [hs] at hs'
      cases hs'
      exact ih hrest

/-- A weaker condition allows more runs. -/
theorem Run.mono (hok : ∀ s a, ok s a → ok' s a) {s t : σ} {l : List α}
    (h : Run step ok s l t) : Run step ok' s l t := by
  induction h with
  | refl s => exact .refl s
  | head ha hs _ ih => exact .head (hok _ _ ha) hs ih

theorem Run.always {s t : σ} {l : List α} (h : Run step ok s l t) : Run step Always s l t :=
  h.mono fun _ _ _ => trivial

/-! ### Invariants -/

/-- **What every allowed step keeps, every run keeps.** -/
theorem Run.invariant {I : σ → Prop}
    (hstep : ∀ s a t, I s → ok s a → step s a = some t → I t) {s t : σ} {l : List α}
    (h : Run step ok s l t) (hs : I s) : I t := by
  induction h with
  | refl s => exact hs
  | head ha hm _ ih => exact ih (hstep _ _ _ hs ha hm)

/-- … also when the step is taken in a state that a run has reached. -/
theorem Run.invariant_of_reached {I : σ → Prop} {s₀ : σ}
    (hstep : ∀ s a t l, Run step ok s₀ l s → I s → ok s a → step s a = some t → I t) {t : σ}
    {l : List α} (h : Run step ok s₀ l t) (h₀ : I s₀) : I t := by
  have hboth : (∃ l, Run step ok s₀ l t) ∧ I t := by
    refine h.invariant (I := fun s => (∃ l, Run step ok s₀ l s) ∧ I s) ?_ ?_
    · rintro s a t ⟨⟨l, hl⟩, hs⟩ ha ht
      exact ⟨⟨l ++ [a], hl.append (.single ha ht)⟩, hstep s a t l hl hs ha ht⟩
    · exact ⟨⟨[], .refl s₀⟩, h₀⟩
  exact hboth.2

/-- What every allowed step keeps may be counted on at every step. -/
theorem Run.strengthen {I : σ → Prop} (hstep : ∀ s a t, I s → ok s a → step s a = some t → I t)
    {s t : σ} {l : List α} (h : Run step ok s l t) (hs : I s) :
    Run step (fun s a => ok s a ∧ I s) s l t := by
  induction h with
  | refl s => exact .refl s
  | head ha hm _ ih => exact .head ⟨ha, hs⟩ hm (ih (hstep _ _ _ hs ha hm))

/-- What the allowed steps from an invariant state meet, they may be allowed by. -/
theorem Run.exchange {I : σ → Prop}
    (hstep : ∀ s a t, I s → ok s a → step s a = some t → ok' s a ∧ I t) {s t : σ} {l : List α}
    (h : Run step ok s l t) (hs : I s) : Run step ok' s l t := by
  induction h with
  | refl s => exact .refl s
  | head ha hm _ ih =>
      obtain ⟨hok, hi⟩ := hstep _ _ _ hs ha hm
      exact .head hok hm (ih hi)

/-- A reflexive and transitive relation that every allowed step from an invariant state respects
relates the ends of a run. -/
theorem Run.relates {I : σ → Prop} {R : σ → σ → Prop} (hrefl : ∀ s, R s s)
    (htrans : ∀ s m t, R s m → R m t → R s t)
    (hstep : ∀ s a t, I s → ok s a → step s a = some t → I t ∧ R s t) {s t : σ} {l : List α}
    (h : Run step ok s l t) (hs : I s) : I t ∧ R s t := by
  induction h with
  | refl s => exact ⟨hs, hrefl s⟩
  | head ha hm _ ih =>
      obtain ⟨hi, hr⟩ := hstep _ _ _ hs ha hm
      obtain ⟨ht, hr'⟩ := ih hi
      exact ⟨ht, htrans _ _ _ hr hr'⟩

/-- **Where the allowed steps keep the law, and a step that keeps the law must be allowed, the law
holds all along a run exactly when all its steps are allowed.** -/
theorem Run.law_iff {I L : σ → Prop} (hkeep : ∀ s a t, I s → ok s a → step s a = some t → I t)
    (hlaw : ∀ s, I s → L s) (hforce : ∀ s a t, I s → step s a = some t → L t → ok s a) {s t : σ}
    {l : List α} (h : Run step Always s l t) (hs : I s) :
    (∀ l' v, l' <+: l → Run step Always s l' v → L v) ↔ Run step ok s l t := by
  induction h with
  | refl s =>
      refine ⟨fun _ => .refl s, fun _ l' v hl' hv => ?_⟩
      obtain rfl := List.prefix_nil.1 hl'
      cases hv
      exact hlaw s hs
  | @head s m t a l _ hm _ ih =>
      constructor
      · intro hall
        have hok : ok s a :=
          hforce s a m hs hm (hall [a] m ⟨l, rfl⟩ (.single trivial hm))
        refine .head hok hm ((ih (hkeep s a m hs hok hm)).1 fun l' v hl' hv => ?_)
        exact hall (a :: l') v (List.cons_prefix_cons.2 ⟨rfl, hl'⟩) (.head trivial hm hv)
      · rintro (_ | ⟨hok, hm', hrest⟩) l' v hl' hv
        obtain rfl : _ = m := Option.some.inj (hm'.symm.trans hm)
        cases hv with
        | refl => exact hlaw s hs
        | head _ hs' hv =>
            obtain ⟨rfl, htail⟩ := List.cons_prefix_cons.1 hl'
            obtain rfl := Option.some.inj (hs'.symm.trans hm)
            exact (ih (hkeep _ _ _ hs hok hm)).2 hrest _ v htail hv

/-! ### Computed runs -/

/-- The state a list of labels leads to. -/
def exec (step : σ → α → Option σ) : σ → List α → Option σ
  | s, [] => some s
  | s, a :: l => (step s a).bind fun m => exec step m l

/-- The state a list of labels leads to when each step meets the condition. -/
def execWhere (step : σ → α → Option σ) (ok : σ → α → Prop) [∀ s a, Decidable (ok s a)] :
    σ → List α → Option σ
  | s, [] => some s
  | s, a :: l => if ok s a then (step s a).bind fun m => execWhere step ok m l else none

theorem run_of_exec {l : List α} : ∀ {s t : σ}, exec step s l = some t → Run step Always s l t := by
  induction l with
  | nil =>
      intro s t h
      cases h
      exact .refl s
  | cons a l ih =>
      intro s t h
      obtain ⟨m, hm, ht⟩ := Option.bind_eq_some_iff.1 h
      exact .head trivial hm (ih ht)

theorem run_of_execWhere [∀ s a, Decidable (ok s a)] {l : List α} :
    ∀ {s t : σ}, execWhere step ok s l = some t → Run step ok s l t := by
  induction l with
  | nil =>
      intro s t h
      cases h
      exact .refl s
  | cons a l ih =>
      intro s t h
      by_cases ha : ok s a
      · simp only [execWhere, if_pos ha] at h
        obtain ⟨m, hm, ht⟩ := Option.bind_eq_some_iff.1 h
        exact .head ha hm (ih ht)
      · simp only [execWhere, if_neg ha, reduceCtorEq] at h

/-- A run is computed. -/
theorem execWhere_of_run [∀ s a, Decidable (ok s a)] {s t : σ} {l : List α}
    (h : Run step ok s l t) : execWhere step ok s l = some t := by
  induction h with
  | refl s => rfl
  | head ha hs _ ih => rw [execWhere, if_pos ha, hs, Option.bind_some, ih]

/-- A computed run that ends in a state of `p`. -/
theorem exists_run_of_execWhere [∀ s a, Decidable (ok s a)] {s : σ} {l : List α} {p : σ → Bool}
    (h : (execWhere step ok s l).any p = true) : ∃ t, Run step ok s l t ∧ p t = true := by
  cases hexec : execWhere step ok s l with
  | none =>
      rw [hexec] at h
      cases h
  | some t =>
      rw [hexec] at h
      exact ⟨t, run_of_execWhere hexec, h⟩

end Transition
