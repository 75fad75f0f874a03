/-
**The first few distinct elements of a list, in two orders.**

Two ways to keep at most `k` distinct elements of a list: the `k` smallest ones, and the `k` that
occur first.  Membership in either is a matter of how many distinct elements come before, in the
order of the elements or in that of the list.

Main definitions:

* `FirstDistinct.smallest`, `FirstDistinct.rank` — the `k` smallest elements, and how many distinct
  elements are smaller than a given one;
* `FirstDistinct.distinct` — the distinct elements, in the order of the list;
* `FirstDistinct.earliest`, `FirstDistinct.delay` — the `k` elements that occur first, and how many
  distinct elements occur before a given one.

Main results:

* `FirstDistinct.pairwise_place_distinct` — the distinct elements come in the order of the list;
* `FirstDistinct.foldl_addNew` — the distinct elements are found by adding those that are new;
* `FirstDistinct.mem_smallest` — **the smallest are the elements of rank less than `k`**;
* `FirstDistinct.mem_earliest` — **the earliest are the elements of delay less than `k`**;
* `FirstDistinct.earliest_earliest` — the earliest of the earliest are all of them.
-/

import Mathlib.Data.List.Dedup
import Mathlib.Data.List.Sort
import Mathlib.Data.List.TakeWhile

set_option relaxedAutoImplicit false
set_option autoImplicit false

namespace FirstDistinct

variable {α : Type*}

/-! ### The smallest elements -/

section Smallest

variable [LinearOrder α]

/-- The distinct elements of a list, in increasing order. -/
def sorted (l : List α) : List α := l.dedup.insertionSort (· ≤ ·)

/-- **The `k` smallest elements of a list.** -/
def smallest (k : ℕ) (l : List α) : List α := (sorted l).take k

/-- How many distinct elements of a list are smaller than `x`. -/
def rank (l : List α) (x : α) : ℕ := l.dedup.countP (· < x)

@[simp] theorem mem_sorted {l : List α} {x : α} : x ∈ sorted l ↔ x ∈ l := by
  rw [sorted, List.mem_insertionSort, List.mem_dedup]

theorem countP_sorted (p : α → Bool) (l : List α) : (sorted l).countP p = l.dedup.countP p :=
  (List.perm_insertionSort _ _).countP_eq p

/-- The sorted list of distinct elements is strictly increasing. -/
theorem pairwise_sorted (l : List α) : (sorted l).Pairwise (· < ·) := by
  have hle : (sorted l).Pairwise (· ≤ ·) := List.pairwise_insertionSort _ _
  have hne : (sorted l).Pairwise (· ≠ ·) :=
    (List.perm_insertionSort _ _).nodup_iff.2 l.nodup_dedup
  exact (hle.and hne).imp fun h => lt_of_le_of_ne h.1 h.2

/-- In a strictly increasing list, an element stands after those smaller than it. -/
theorem mem_take_iff_of_pairwise {s : List α} (hs : s.Pairwise (· < ·)) (k : ℕ) (x : α) :
    x ∈ s.take k ↔ x ∈ s ∧ s.countP (· < x) < k := by
  induction s generalizing k with
  | nil => simp
  | cons a s ih =>
      obtain ⟨ha, hs⟩ := List.pairwise_cons.1 hs
      cases k with
      | zero => simp
      | succ k =>
          rw [List.take_succ_cons, List.mem_cons, List.mem_cons, ih hs k]
          by_cases hx : x = a
          · subst hx
            have hnone : s.countP (· < x) = 0 := by
              rw [List.countP_eq_zero]
              intro y hy
              simpa using (ha y hy).le
            simp [hnone]
          · simp only [hx, false_or]
            refine and_congr_right fun hmem => ?_
            rw [List.countP_cons_of_pos (by simpa using ha x hmem)]
            omega

/-- **The `k` smallest elements are those of rank less than `k`.** -/
theorem mem_smallest {k : ℕ} {l : List α} {x : α} :
    x ∈ smallest k l ↔ x ∈ l ∧ rank l x < k := by
  rw [smallest, mem_take_iff_of_pairwise (pairwise_sorted l), mem_sorted, countP_sorted, rank]

/-- An element has a rank below the length of the list. -/
theorem rank_lt_length {l : List α} {x : α} (h : x ∈ l) : rank l x < l.length := by
  refine lt_of_lt_of_le (lt_of_le_of_ne List.countP_le_length fun heq => ?_)
    (List.dedup_sublist l).length_le
  simpa using List.countP_eq_length.1 heq x (List.mem_dedup.2 h)

end Smallest

/-! ### The earliest elements -/

section Earliest

variable [DecidableEq α]

/-- **The distinct elements of a list**, in the order in which they occur first. -/
def distinct (l : List α) : List α := l.eraseDups

/-- An element is added to a list that does not have it. -/
def addNew (l : List α) (a : α) : List α := if a ∈ l then l else l ++ [a]

/-- **The `k` elements of a list that occur first.** -/
def earliest (k : ℕ) (l : List α) : List α := l.eraseDups.take k

/-- How many distinct elements of a list occur before `x`. -/
def delay (l : List α) (x : α) : ℕ := (l.takeWhile (· ≠ x)).eraseDups.length

/-- Where an element of a list occurs first. -/
def place (l : List α) (x : α) : ℕ := l.idxOf x

/-- Leaving out an element that is not `x` moves no other element across `x`. -/
theorem takeWhile_filter_ne {a x : α} (h : a ≠ x) (l : List α) :
    (l.filter (· ≠ a)).takeWhile (· ≠ x) = (l.takeWhile (· ≠ x)).filter (· ≠ a) := by
  induction l with
  | nil => rfl
  | cons b l ih =>
      by_cases hx : b = x
      · subst hx
        simp [Ne.symm h]
      · by_cases ha : b = a
        · subst ha
          simpa [hx] using ih
        · simpa [hx, ha] using ih

/-- The distinct elements of a list are its head and those of the rest without it. -/
theorem eraseDups_cons_filter_ne (a : α) (l : List α) :
    (a :: l).eraseDups = a :: (l.filter (· ≠ a)).eraseDups := by
  have hfilter : (l.filter fun b => !b == a) = l.filter (· ≠ a) :=
    List.filter_congr fun b _ => by simp [Bool.beq_eq_decide_eq]
  rw [List.eraseDups_cons, hfilter]

@[simp] theorem distinct_nil : distinct ([] : List α) = [] := rfl

theorem distinct_cons (a : α) (l : List α) : distinct (a :: l) = a :: distinct (l.filter (· ≠ a)) :=
  eraseDups_cons_filter_ne a l

@[simp] theorem mem_distinct {l : List α} {x : α} : x ∈ distinct l ↔ x ∈ l := List.mem_eraseDups

/-- **Adding the elements one by one, those that are new, gives the distinct ones.** -/
theorem foldl_addNew (result l : List α) :
    l.foldl addNew result = result ++ distinct (l.filter (· ∉ result)) := by
  induction l generalizing result with
  | nil => simp
  | cons a l ih =>
      rw [List.foldl_cons, ih, addNew]
      by_cases hmem : a ∈ result
      · rw [if_pos hmem, List.filter_cons_of_neg (by simpa using hmem)]
      · rw [if_neg hmem, List.filter_cons_of_pos (by simpa using hmem), distinct_cons,
          List.append_assoc, List.singleton_append, List.filter_filter]
        have hfilter : (l.filter fun b => b ∉ result ++ [a]) =
            l.filter fun b => decide (b ≠ a) && decide (b ∉ result) :=
          List.filter_congr fun b _ => by simp [not_or, and_comm]
        rw [hfilter]

/-- Before an element other than the head stands the head, and then what is before it without the
head. -/
theorem delay_cons {a x : α} (h : a ≠ x) (l : List α) :
    delay (a :: l) x = delay (l.filter (· ≠ a)) x + 1 := by
  rw [delay, delay, List.takeWhile_cons_of_pos (by simpa using h), eraseDups_cons_filter_ne,
    List.length_cons, takeWhile_filter_ne h]

/-- **The `k` earliest elements are those of delay less than `k`.** -/
theorem mem_earliest {k : ℕ} {l : List α} {x : α} :
    x ∈ earliest k l ↔ x ∈ l ∧ delay l x < k := by
  unfold earliest
  induction k generalizing l with
  | zero => simp
  | succ k ih =>
      cases l with
      | nil => simp
      | cons a l =>
          rw [eraseDups_cons_filter_ne, List.take_succ_cons, List.mem_cons]
          have hrest := ih (l := l.filter (· ≠ a))
          rw [hrest]
          by_cases hx : a = x
          · subst hx
            simp [delay]
          · have hmem : x ∈ l.filter (· ≠ a) ↔ x ∈ a :: l := by
              simp [List.mem_filter, Ne.symm hx]
            have hx' : x ≠ a := Ne.symm hx
            rw [delay_cons hx, hmem]
            simp [hx']

theorem length_eraseDups_le (l : List α) : l.eraseDups.length ≤ l.length := by
  induction hn : l.length using Nat.strong_induction_on generalizing l with
  | _ n ih =>
      subst hn
      cases l with
      | nil => simp
      | cons a l =>
          have hfilter : (l.filter (· ≠ a)).length ≤ l.length := List.length_filter_le _ _
          have hrest := ih _ (by rw [List.length_cons]; omega) (l.filter (· ≠ a)) rfl
          rw [eraseDups_cons_filter_ne, List.length_cons, List.length_cons]
          omega

/-- An element is delayed by less than the whole list. -/
theorem delay_lt_length {l : List α} {x : α} (h : x ∈ l) : delay l x < l.length := by
  have hlt : (l.takeWhile (· ≠ x)).length < l.length := by
    refine lt_of_le_of_ne (List.takeWhile_prefix _).length_le fun heq => ?_
    have hall := (List.takeWhile_prefix _).eq_of_length heq
    simpa using List.takeWhile_eq_self_iff.1 hall x h
  exact lt_of_le_of_lt (length_eraseDups_le _) hlt

/-- No element occurs twice among the distinct ones. -/
theorem nodup_distinct (l : List α) : (distinct l).Nodup := by
  induction hn : l.length using Nat.strong_induction_on generalizing l with
  | _ n ih =>
      subst hn
      cases l with
      | nil => exact List.nodup_nil
      | cons a l =>
          have hfilter : (l.filter (· ≠ a)).length ≤ l.length := List.length_filter_le _ _
          have hrest := ih _ (by rw [List.length_cons]; omega) (l.filter (· ≠ a)) rfl
          rw [distinct_cons, List.nodup_cons, mem_distinct]
          exact ⟨by simp, hrest⟩

theorem distinct_of_nodup {l : List α} (h : l.Nodup) : distinct l = l := by
  induction l with
  | nil => rfl
  | cons a l ih =>
      obtain ⟨ha, hl⟩ := List.nodup_cons.1 h
      have hfilter : l.filter (· ≠ a) = l := by
        rw [List.filter_eq_self]
        intro b hb
        have hne : b ≠ a := by
          rintro rfl
          exact ha hb
        simpa using hne
      rw [distinct_cons, hfilter, ih hl]

theorem place_cons_self (x : α) (l : List α) : place (x :: l) x = 0 := List.idxOf_cons_self

theorem place_cons_of_ne {x a : α} (h : x ≠ a) (l : List α) : place (x :: l) a = place l a + 1 :=
  List.idxOf_cons_ne l h

/-- Leaving out elements leaves the others in their order. -/
theorem place_lt_of_filter {p : α → Bool} {l : List α} {b c : α} (hb : p b = true) (hc : p c = true)
    (h : place (l.filter p) b < place (l.filter p) c) : place l b < place l c := by
  induction l with
  | nil => exact h
  | cons x l ih =>
      by_cases hx : p x = true
      · rw [List.filter_cons_of_pos hx] at h
        by_cases hxc : x = c
        · rw [hxc, place_cons_self] at h
          omega
        · by_cases hxb : x = b
          · rw [hxb, place_cons_self, place_cons_of_ne (hxb ▸ hxc)]
            omega
          · rw [place_cons_of_ne hxb, place_cons_of_ne hxc] at h ⊢
            have hrest := ih (by omega)
            omega
      · have hxb : x ≠ b := by
          rintro rfl
          exact hx hb
        have hxc : x ≠ c := by
          rintro rfl
          exact hx hc
        rw [List.filter_cons_of_neg hx] at h
        have hrest := ih h
        rw [place_cons_of_ne hxb, place_cons_of_ne hxc]
        omega

/-- **The distinct elements come in the order in which they occur first.** -/
theorem pairwise_place_distinct (l : List α) :
    (distinct l).Pairwise fun a b => place l a < place l b := by
  induction hn : l.length using Nat.strong_induction_on generalizing l with
  | _ n ih =>
      subst hn
      cases l with
      | nil => exact List.Pairwise.nil
      | cons a l =>
          have hfilter : (l.filter (· ≠ a)).length ≤ l.length := List.length_filter_le _ _
          have hrest := ih _ (by rw [List.length_cons]; omega) (l.filter (· ≠ a)) rfl
          have hne {b : α} (hb : b ∈ distinct (l.filter (· ≠ a))) : b ≠ a := by
            simpa using (List.mem_filter.1 (mem_distinct.1 hb)).2
          rw [distinct_cons, List.pairwise_cons]
          constructor
          · intro b hb
            rw [place_cons_self, place_cons_of_ne (hne hb).symm]
            omega
          · refine hrest.imp_of_mem fun {b c} hb hc hlt => ?_
            have hlt' := place_lt_of_filter (by simpa using hne hb) (by simpa using hne hc) hlt
            rw [place_cons_of_ne (hne hb).symm, place_cons_of_ne (hne hc).symm]
            omega

/-- **Taking the `k` earliest elements a second time changes nothing.** -/
theorem earliest_earliest (k : ℕ) (l : List α) : earliest k (earliest k l) = earliest k l := by
  have hnodup : (earliest k l).Nodup := (nodup_distinct l).sublist (List.take_sublist k _)
  have hdistinct : (earliest k l).eraseDups = earliest k l := distinct_of_nodup hnodup
  have hlength : (earliest k l).length ≤ k := List.length_take_le k _
  rw [earliest, hdistinct, List.take_of_length_le hlength]

end Earliest

end FirstDistinct
