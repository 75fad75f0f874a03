/-
**Locks that are taken in one order.**

Processes hold locks and may want one more.  One waits for another when it wants a lock that the
other holds.  If a process only wants locks that are not below those it holds, nobody waits for
himself through others.

Main definitions:

* `OrderedLocks.WaitsFor` — a process waits for another.

Main results:

* `OrderedLocks.le_of_transGen` — along a chain of waiting processes the wanted locks increase;
* `OrderedLocks.not_transGen_self` — **there is no cycle of waiting processes**.
-/

import Mathlib.Logic.Relation
import Mathlib.Order.Defs.PartialOrder

set_option relaxedAutoImplicit false
set_option autoImplicit false

namespace OrderedLocks

variable {P K : Type*} (holds : P → K → Prop) (wants : P → Option K)

/-- A process wants a lock that another one holds. -/
def WaitsFor (p q : P) : Prop := p ≠ q ∧ ∃ k ∈ wants p, holds q k

variable {holds wants} [PartialOrder K]

/-- Along a chain of waiting processes, the last one holds a lock that is not below the one that the
first one wants. -/
theorem le_of_transGen (hordered : ∀ p k k', holds p k → k' ∈ wants p → k ≤ k') {p q : P}
    (h : Relation.TransGen (WaitsFor holds wants) p q) :
    ∃ k ∈ wants p, ∃ k', holds q k' ∧ k ≤ k' := by
  induction h with
  | single hwait =>
      obtain ⟨-, k, hwants, hholds⟩ := hwait
      exact ⟨k, hwants, k, hholds, le_refl k⟩
  | tail _ hwait ih =>
      obtain ⟨k, hwants, k', hholds, hle⟩ := ih
      obtain ⟨-, k'', hwants', hholds'⟩ := hwait
      exact ⟨k, hwants, k'', hholds', le_trans hle (hordered _ _ _ hholds hwants')⟩

/-- **There is no cycle of waiting processes**, if every lock has one holder at most. -/
theorem not_transGen_self (hordered : ∀ p k k', holds p k → k' ∈ wants p → k ≤ k')
    (hexclusive : ∀ p q k, holds p k → holds q k → p = q) (p : P) :
    ¬ Relation.TransGen (WaitsFor holds wants) p p := by
  intro h
  obtain ⟨k, hwants, k', hholds, hle⟩ := le_of_transGen hordered h
  -- it holds the very lock that it wants, and so does the one that it waits for
  obtain rfl : k = k' := le_antisymm hle (hordered p k' k hholds hwants)
  obtain ⟨q, hwait, -⟩ := (Relation.TransGen.head'_iff).1 h
  obtain ⟨hne, k'', hwants', hholds'⟩ := hwait
  obtain rfl : k = k'' := Option.some_inj.1 (hwants.symm.trans hwants')
  exact hne (hexclusive p q k hholds hholds')

end OrderedLocks
