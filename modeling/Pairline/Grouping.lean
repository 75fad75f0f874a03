/-
**A list sorted into groups.**

The elements of a list are put into groups one after another, each at the end of the group of its own
key, which is opened where there is none yet.  Nothing is lost and nothing comes twice, so what is
gathered from the groups, in whatever order they are taken, is what the list itself gives.

Main definitions:

* `Grouping.place` — an element at the end of the group of its key;
* `Grouping.groups` — the groups of a list.

Main results:

* `Grouping.perm_groups` — **the groups hold the elements of the list**;
* `Grouping.eq_of_mem_groups` — the elements of a group have its key.
-/

import Mathlib.Data.List.Perm.Basic

set_option relaxedAutoImplicit false
set_option autoImplicit false

namespace Grouping

variable {κ α : Type*} [DecidableEq κ]

/-- An element at the end of the group of a key. -/
def place (k : κ) (a : α) : List (κ × List α) → List (κ × List α)
  | [] => [(k, [a])]
  | (k', group) :: rest =>
      if k' = k then (k', group ++ [a]) :: rest else (k', group) :: place k a rest

/-- **The groups of a list**, by the key of its elements. -/
def groups (key : α → κ) (l : List α) : List (κ × List α) :=
  l.foldl (fun made a => place (key a) a made) []

/-- What is in the groups after one more element. -/
theorem perm_place (k : κ) (a : α) (made : List (κ × List α)) :
    ((place k a made).flatMap Prod.snd).Perm (a :: made.flatMap Prod.snd) := by
  induction made with
  | nil => rfl
  | cons entry rest ih =>
      obtain ⟨k', group⟩ := entry
      rw [place]
      by_cases h : k' = k
      · rw [if_pos h, List.flatMap_cons, List.flatMap_cons, List.append_assoc]
        exact List.perm_middle
      · rw [if_neg h, List.flatMap_cons, List.flatMap_cons]
        exact (ih.append_left group).trans List.perm_middle

/-- An element has come to the group of its key. -/
theorem mem_place {k : κ} {a : α} {made : List (κ × List α)} {entry : κ × List α}
    (h : entry ∈ place k a made) :
    entry ∈ made ∨ entry = (k, [a]) ∨ ∃ group, (k, group) ∈ made ∧ entry = (k, group ++ [a]) := by
  induction made with
  | nil => exact .inr (.inl (List.mem_singleton.1 h))
  | cons entry' rest ih =>
      obtain ⟨k', group⟩ := entry'
      rw [place] at h
      by_cases hk : k' = k
      · rw [if_pos hk, List.mem_cons] at h
        rcases h with rfl | h
        · subst hk
          exact .inr (.inr ⟨group, List.mem_cons_self, rfl⟩)
        · exact .inl (List.mem_cons_of_mem _ h)
      · rw [if_neg hk, List.mem_cons] at h
        rcases h with rfl | h
        · exact .inl List.mem_cons_self
        · rcases ih h with h | h | ⟨group', h, heq⟩
          · exact .inl (List.mem_cons_of_mem _ h)
          · exact .inr (.inl h)
          · exact .inr (.inr ⟨group', List.mem_cons_of_mem _ h, heq⟩)

/-- The groups of a list, of which the first elements are in groups already. -/
theorem perm_foldl_place (key : α → κ) (l : List α) (made : List (κ × List α)) :
    ((l.foldl (fun made a => place (key a) a made) made).flatMap Prod.snd).Perm
      (made.flatMap Prod.snd ++ l) := by
  induction l generalizing made with
  | nil => rw [List.append_nil]; rfl
  | cons a l ih =>
      rw [List.foldl_cons]
      refine (ih _).trans (((perm_place (key a) a made).append_right l).trans ?_)
      exact List.perm_middle.symm

/-- **The groups hold the elements of the list.** -/
theorem perm_groups (key : α → κ) (l : List α) : ((groups key l).flatMap Prod.snd).Perm l :=
  perm_foldl_place key l []

theorem eq_of_mem_foldl_place {key : α → κ} {l : List α} {made : List (κ × List α)}
    (hmade : ∀ entry ∈ made, ∀ a ∈ entry.2, key a = entry.1) :
    ∀ entry ∈ l.foldl (fun made a => place (key a) a made) made, ∀ a ∈ entry.2,
      key a = entry.1 := by
  induction l generalizing made with
  | nil => exact hmade
  | cons b l ih =>
      rw [List.foldl_cons]
      refine ih fun entry hentry a ha => ?_
      rcases mem_place hentry with h | rfl | ⟨group, hgroup, rfl⟩
      · exact hmade entry h a ha
      · rw [List.mem_singleton.1 ha]
      · rcases List.mem_append.1 ha with ha | ha
        · exact hmade _ hgroup a ha
        · rw [List.mem_singleton.1 ha]

/-- **The elements of a group have its key.** -/
theorem eq_of_mem_groups {key : α → κ} {l : List α} {entry : κ × List α}
    (h : entry ∈ groups key l) : ∀ a ∈ entry.2, key a = entry.1 :=
  eq_of_mem_foldl_place (fun _ hnone => absurd hnone List.not_mem_nil) entry h

end Grouping
