/-
**A line before one server.**

Those who come are served one after the other: whoever is not served at once waits at the end of a
line, and the head of the line is called when the server is free.  The order of a line puts those
who were served before the one who is being served and that one before those who wait; it is the
order in which all of them have their turn.

Main definitions:

* `WaitingLine`, `WaitingLine.order` — a line, and the order of the turns in it;
* `WaitingLine.join`, `WaitingLine.call`, `WaitingLine.leave` — someone comes and waits, is called,
  has been served;
* `WaitingLine.serveNow` — someone comes and is served at once.

Main results:

* `WaitingLine.order_join`, `WaitingLine.order_call`, `WaitingLine.order_leave` — whoever comes has
  the last turn, and a turn is kept;
* `WaitingLine.pairwise_serveNow_iff` — **serving a newcomer at once keeps the order of arrival
  exactly when nobody waits.**
-/

import Mathlib.Data.List.Basic

set_option relaxedAutoImplicit false
set_option autoImplicit false

/-- Who has been served, who is being served, and who waits. -/
structure WaitingLine (α : Type*) where
  served : List α
  current : Option α
  waiting : List α

namespace WaitingLine

variable {α : Type*}

/-- **The order in which those of a line have their turn.** -/
def order (l : WaitingLine α) : List α := l.served ++ l.current.toList ++ l.waiting

/-- Someone comes and waits. -/
def join (l : WaitingLine α) (x : α) : WaitingLine α := { l with waiting := l.waiting ++ [x] }

/-- Someone comes and is served at once. -/
def serveNow (l : WaitingLine α) (x : α) : WaitingLine α := { l with current := some x }

/-- The one who is being served has been served. -/
def leave (l : WaitingLine α) : WaitingLine α :=
  { l with served := l.served ++ l.current.toList, current := none }

/-- The head of the line is called. -/
def call (l : WaitingLine α) : WaitingLine α :=
  match l.waiting with
  | [] => l
  | x :: rest => { l with current := some x, waiting := rest }

variable {l : WaitingLine α} {x : α}

@[simp] theorem leave_current : l.leave.current = none := rfl

theorem order_join : (l.join x).order = l.order ++ [x] := by
  simp only [order, join, List.append_assoc]

theorem order_leave : l.leave.order = l.order := by
  simp only [order, leave, Option.toList_none, List.append_nil]

theorem order_call (h : l.current = none) : l.call.order = l.order := by
  obtain ⟨served, current, waiting⟩ := l
  obtain rfl : current = none := h
  cases waiting with
  | nil => rfl
  | cons y rest => simp [order, call]

theorem order_serveNow : (l.serveNow x).order = l.served ++ x :: l.waiting := by
  simp only [order, serveNow, Option.toList_some, List.append_assoc, List.singleton_append]

theorem order_of_free (h : l.current = none) : l.order = l.served ++ l.waiting := by
  simp only [order, h, Option.toList_none, List.append_nil]

/-! ### The order of arrival -/

section Arrival

variable {r : α → α → Prop}

theorem pairwise_join (hl : l.order.Pairwise r) (hx : ∀ y ∈ l.order, r y x) :
    (l.join x).order.Pairwise r := by
  rw [order_join, List.pairwise_append]
  refine ⟨hl, List.pairwise_singleton r x, fun y hy z hz => ?_⟩
  obtain rfl := List.mem_singleton.1 hz
  exact hx y hy

/-- **Serving a newcomer at once keeps the order of arrival exactly when nobody waits.** -/
theorem pairwise_serveNow_iff (hasymm : ∀ a b, r a b → ¬r b a) (h : l.current = none)
    (hl : l.order.Pairwise r) (hx : ∀ y ∈ l.order, r y x) :
    (l.serveNow x).order.Pairwise r ↔ l.waiting = [] := by
  rw [order_of_free h] at hl hx
  rw [order_serveNow]
  constructor
  · -- the head of the line would have its turn after someone who came later
    intro hp
    by_contra hne
    obtain ⟨y, hy⟩ := List.exists_mem_of_ne_nil _ hne
    have hxy : r x y := (List.pairwise_cons.1 (List.pairwise_append.1 hp).2.1).1 y hy
    exact hasymm x y hxy (hx y (List.mem_append_right _ hy))
  · intro hnil
    rw [hnil, List.append_nil] at hl hx
    rw [hnil, List.pairwise_append]
    refine ⟨hl, List.pairwise_singleton r x, fun y hy z hz => ?_⟩
    obtain rfl := List.mem_singleton.1 hz
    exact hx y hy

end Arrival

end WaitingLine
