/-
**Decimal numerals, and a separator.**

How programs read what programs write: a number in decimal digits, perhaps with a sign, and a text
that is cut at the first occurrence of a separator.

Main definitions:

* `Numerals.digits?` — the number that a text of digits stands for;
* `Numerals.sign` — a sign, and what comes after it;
* `Numerals.cut` — what comes before the first separator, and what comes after it.

Main results:

* `Numerals.digits?_toString` — **a number is read as it was written**;
* `Numerals.cut_append` — **a text without the separator is cut off as it was put before it**;
* `Numerals.splitOn_eq_pair_iff` — a text falls into two parts when it holds the separator once.
-/

import Mathlib.Data.List.Basic
import Mathlib.Data.List.TakeWhile

set_option relaxedAutoImplicit false
set_option autoImplicit false

namespace Numerals

/-! ### Digits -/

/-- **The number that a text of decimal digits stands for**; a text without digits stands for none. -/
def digits? (l : List Char) : Option ℕ :=
  if l ≠ [] ∧ l.all Char.isDigit then some (Nat.ofDigitChars 10 l 0) else none

theorem toList_toString (n : ℕ) : (toString n).toList = Nat.toDigits 10 n := by
  rw [Nat.toString_eq_ofList_toDigits, String.toList_ofList]

theorem isDigit_of_mem_toString {n : ℕ} {c : Char} (h : c ∈ (toString n).toList) :
    c.isDigit = true := by
  rw [toList_toString] at h
  exact Nat.isDigit_of_mem_toDigits (by decide) (by decide) h

theorem toNat_of_isDigit {c : Char} (h : c.isDigit = true) : 48 ≤ c.toNat ∧ c.toNat ≤ 57 := by
  simp only [Char.isDigit, Bool.and_eq_true, decide_eq_true_eq] at h
  exact h

theorem toList_toString_ne_nil (n : ℕ) : (toString n).toList ≠ [] := by
  rw [toList_toString]
  exact Nat.toDigits_ne_nil

/-- **A number is read as it was written.** -/
@[simp] theorem digits?_toString (n : ℕ) : digits? (toString n).toList = some n := by
  have hall : (toString n).toList.all Char.isDigit = true :=
    List.all_eq_true.2 fun c hc => isDigit_of_mem_toString hc
  rw [digits?, if_pos ⟨toList_toString_ne_nil n, hall⟩, toList_toString,
    Nat.ofDigitChars_ten_toDigits]

/-- The digits at the beginning of a text. -/
theorem takeWhile_isDigit_toString (n : ℕ) :
    (toString n).toList.takeWhile Char.isDigit = (toString n).toList ∧
      (toString n).toList.dropWhile Char.isDigit = [] := by
  have hall : ∀ c ∈ (toString n).toList, c.isDigit = true := fun c hc => isDigit_of_mem_toString hc
  exact ⟨List.takeWhile_eq_self_iff.2 hall, List.dropWhile_eq_nil_iff.2 hall⟩

/-! ### Signs -/

/-- **A sign, and what comes after it**: whether the number is negative. -/
def sign : List Char → Bool × List Char
  | [] => (false, [])
  | c :: l => if c = '-' then (true, l) else if c = '+' then (false, l) else (false, c :: l)

def signed (negative : Bool) (n : ℕ) : ℤ := if negative then -(n : ℤ) else n

/-- A numeral without a sign. -/
@[simp] theorem sign_toString (n : ℕ) : sign (toString n).toList = (false, (toString n).toList) := by
  cases hl : (toString n).toList with
  | nil => rfl
  | cons c l =>
      have hdigit : c.isDigit = true := isDigit_of_mem_toString (n := n) (by rw [hl]; simp)
      have hne : c ≠ '-' ∧ c ≠ '+' := by
        constructor <;>
        · rintro rfl
          cases hdigit
      simp only [sign, if_neg hne.1, if_neg hne.2]

/-! ### Separators -/

section Separators

variable {α : Type*} [DecidableEq α]

/-- **What comes before the first separator, and what comes after it.** -/
def cut (separator : α) : List α → Option (List α × List α)
  | [] => none
  | c :: l => if c = separator then some ([], l) else (cut separator l).map fun p => (c :: p.1, p.2)

/-- **A text without the separator is cut off as it was put before it.** -/
theorem cut_append {separator : α} {a : List α} (h : separator ∉ a) (b : List α) :
    cut separator (a ++ separator :: b) = some (a, b) := by
  induction a with
  | nil => exact if_pos rfl
  | cons c a ih =>
      have hc : c ≠ separator := fun heq => h (heq ▸ List.mem_cons_self)
      have hrest := ih fun hmem => h (List.mem_cons_of_mem c hmem)
      simp only [List.cons_append, cut, if_neg hc, hrest, Option.map_some]

theorem cut_eq_none {separator : α} {l : List α} (h : separator ∉ l) : cut separator l = none := by
  induction l with
  | nil => rfl
  | cons c l ih =>
      simp only [List.mem_cons, not_or] at h
      rw [cut, if_neg (Ne.symm h.1), ih h.2, Option.map_none]

theorem eq_of_cut_eq_some {separator : α} {l a b : List α} (h : cut separator l = some (a, b)) :
    l = a ++ separator :: b ∧ separator ∉ a := by
  induction l generalizing a with
  | nil => cases h
  | cons c l ih =>
      by_cases hc : c = separator
      · rw [cut, if_pos hc] at h
        cases h
        exact ⟨by rw [hc, List.nil_append], List.not_mem_nil⟩
      · rw [cut, if_neg hc] at h
        obtain ⟨⟨a', b'⟩, hrest, heq⟩ := Option.map_eq_some_iff.1 h
        cases heq
        obtain ⟨rfl, hnot⟩ := ih hrest
        refine ⟨rfl, ?_⟩
        simp [hnot, Ne.symm hc]

/-- **A text falls into two parts exactly when it holds the separator once.** -/
theorem splitOn_eq_pair_iff {separator : α} {l a b : List α} :
    l.splitOn separator = [a, b] ↔ l = a ++ separator :: b ∧ separator ∉ a ∧ separator ∉ b := by
  constructor
  · intro h
    have hmem : separator ∈ l := by
      by_contra hnot
      rw [List.splitOn_eq_singleton hnot] at h
      simp at h
    obtain ⟨x, y, rfl, hx⟩ := List.eq_append_cons_of_mem hmem
    rw [List.splitOn_append_cons_self_of_not_mem hx, List.cons.injEq] at h
    obtain ⟨rfl, hy⟩ := h
    have hnot : separator ∉ y := by
      intro hmem
      obtain ⟨u, v, rfl, hu⟩ := List.eq_append_cons_of_mem hmem
      rw [List.splitOn_append_cons_self_of_not_mem hu, List.cons.injEq] at hy
      exact List.splitOn_ne_nil _ _ hy.2
    rw [List.splitOn_eq_singleton hnot, List.singleton_inj] at hy
    exact ⟨by rw [hy], hx, hy ▸ hnot⟩
  · rintro ⟨rfl, ha, hb⟩
    rw [List.splitOn_append_cons_self_of_not_mem ha, List.splitOn_eq_singleton hb]

end Separators

end Numerals
