/-
**Trimming white space off a string.**

The characters of the Unicode property `White_Space`, and the operation that removes them from both
ends of a string: `strings.TrimSpace` of one runtime and `String.trim` of another agree on it.

Main definitions:

* `Whitespace.isSpace`, `Whitespace.isBreaking` — the characters of `White_Space`, and those of them
  at which a line may be broken;
* `Whitespace.trim` — a string without its leading and trailing white space.

Main results:

* `Whitespace.trim_trim` — **trimming is idempotent**;
* `Whitespace.trimList_append_cons` — the two sides of a separator are trimmed on their outer ends.
-/

import Mathlib.Data.List.DropRight

set_option relaxedAutoImplicit false
set_option autoImplicit false

namespace Whitespace

/-- The characters with the property `White_Space`. -/
def isSpace (c : Char) : Bool :=
  let n := c.toNat
  (9 ≤ n && n ≤ 13) || n == 0x20 || n == 0x85 || n == 0xA0 || n == 0x1680 ||
    (0x2000 ≤ n && n ≤ 0x200A) || n == 0x2028 || n == 0x2029 || n == 0x202F || n == 0x205F ||
    n == 0x3000

/-- White space at which a line may be broken: not a no-break space. -/
def isBreaking (c : Char) : Bool :=
  isSpace c && !(c == '\u00a0' || c == '\u2007' || c == '\u202f')

theorem isSpace_of_isBreaking {c : Char} (h : isBreaking c = true) : isSpace c = true :=
  (Bool.and_eq_true_iff.1 h).1

/-- No visible ASCII character is white space. -/
theorem isSpace_of_visible {c : Char} (h : 32 < c.toNat) (h' : c.toNat < 127) :
    isSpace c = false := by
  simp only [isSpace, Bool.or_eq_false_iff, Bool.and_eq_false_iff, decide_eq_false_iff_not,
    beq_eq_false_iff_ne]
  omega

/-- What holds of every character of a text is decided along the text. -/
-- Stronger than deciding `∀ c : Char` over all characters, which an import of the library brings.
instance (priority := 2000) decidableForallChar (p : Char → Prop) [DecidablePred p]
    (text : List Char) : Decidable (∀ c ∈ text, p c) :=
  List.decidableBAll p text

/-! ### Trimming a list -/

section Lists

variable {α : Type*} (p : α → Bool)

/-- A list without the elements of `p` at its two ends. -/
def trimList (l : List α) : List α := (l.dropWhile p).rdropWhile p

@[simp] theorem trimList_nil : trimList p [] = [] := rfl

theorem trimList_sublist (l : List α) : (trimList p l).Sublist l :=
  (List.rdropWhile_prefix p _).sublist.trans (List.dropWhile_suffix p).sublist

/-- What is left of a list does not begin with an element of `p`. -/
theorem dropWhile_trimList (l : List α) : (trimList p l).dropWhile p = trimList p l := by
  rw [List.dropWhile_eq_self_iff]
  intro hl
  have hpre : trimList p l <+: l.dropWhile p := List.rdropWhile_prefix p _
  have hd : 0 < (l.dropWhile p).length := lt_of_lt_of_le hl hpre.length_le
  have hhead : (trimList p l)[0] = (l.dropWhile p)[0] := hpre.getElem hl
  have hnot := List.dropWhile_get_zero_not p l hd
  simp only [List.get_eq_getElem] at hnot ⊢
  rwa [hhead]

theorem trimList_trimList (l : List α) : trimList p (trimList p l) = trimList p l := by
  rw [trimList, dropWhile_trimList]
  exact List.rdropWhile_idempotent p _

theorem dropWhile_append_cons (a : List α) {c : α} (b : List α) (hc : p c = false) :
    (a ++ c :: b).dropWhile p = a.dropWhile p ++ c :: b := by
  induction a with
  | nil => simp [hc]
  | cons x a ih =>
      by_cases hx : p x = true
      · simp only [List.cons_append, List.dropWhile_cons, if_pos hx, ih]
      · simp only [List.cons_append, List.dropWhile_cons, if_neg hx]

/-- It does not matter at which end one begins. -/
theorem dropWhile_rdropWhile (l : List α) :
    (l.rdropWhile p).dropWhile p = (l.dropWhile p).rdropWhile p := by
  induction l using List.reverseRecOn with
  | nil => rfl
  | append_singleton l c ih =>
      by_cases hc : p c = true
      · rw [List.rdropWhile_concat_pos p l c hc, ih, List.dropWhile_append]
        split_ifs with hempty
        · rw [List.isEmpty_iff.1 hempty, List.dropWhile_cons, if_pos hc]
          rfl
        · exact (List.rdropWhile_concat_pos p _ c hc).symm
      · rw [List.rdropWhile_concat_neg p l c hc,
          dropWhile_append_cons p l [] (Bool.eq_false_iff.2 hc)]
        exact (List.rdropWhile_concat_neg p _ c hc).symm

/-- The two sides of an element that is kept are trimmed on their outer ends only. -/
theorem trimList_append_cons (a : List α) {c : α} (b : List α) (hc : p c = false) :
    trimList p (a ++ c :: b) = a.dropWhile p ++ c :: b.rdropWhile p := by
  have hreverse : (a.dropWhile p ++ c :: b).reverse = b.reverse ++ c :: (a.dropWhile p).reverse := by
    simp
  rw [trimList, dropWhile_append_cons p a b hc, List.rdropWhile, hreverse,
    dropWhile_append_cons p _ _ hc, List.rdropWhile]
  simp

theorem trimList_dropWhile (l : List α) : trimList p (l.dropWhile p) = trimList p l := by
  rw [trimList, List.dropWhile_idempotent, trimList]

theorem trimList_rdropWhile (l : List α) : trimList p (l.rdropWhile p) = trimList p l := by
  rw [trimList, dropWhile_rdropWhile, List.rdropWhile_idempotent, trimList]

/-- Trimming after a change that keeps what is trimmed. -/
theorem trimList_map {f : α → α} (hf : ∀ a, p (f a) = p a) (l : List α) :
    trimList p (l.map f) = (trimList p l).map f := by
  have hcomp : p ∘ f = p := funext hf
  have hdrop (l : List α) : (l.map f).dropWhile p = (l.dropWhile p).map f := by
    rw [List.dropWhile_map, hcomp]
  rw [trimList, trimList, hdrop, List.rdropWhile, List.rdropWhile, ← List.map_reverse, hdrop,
    List.map_reverse]

theorem trimList_eq_self {l : List α} (h : ∀ x ∈ l, p x = false) : trimList p l = l := by
  have hdrop : l.dropWhile p = l :=
    List.dropWhile_eq_self_iff.2 fun hl => by simp [h _ (List.getElem_mem hl)]
  rw [trimList, hdrop, List.rdropWhile_eq_self_iff]
  intro hl
  simp [h _ (List.getLast_mem hl)]

/-- Nothing is trimmed off a list whose ends are kept. -/
theorem trimList_eq_self_of_ends {l : List α} (hhead : ∃ a ∈ l.head?, p a = false)
    (hlast : ∃ a ∈ l.getLast?, p a = false) : trimList p l = l := by
  obtain ⟨a, hhead, ha⟩ := hhead
  obtain ⟨b, hlast, hb⟩ := hlast
  have hdrop : l.dropWhile p = l := by
    obtain ⟨rest, rfl⟩ : ∃ rest, l = a :: rest := List.head?_eq_some_iff.1 hhead
    rw [List.dropWhile_cons_of_neg (by simp [ha])]
  rw [trimList, hdrop, List.rdropWhile_eq_self_iff]
  intro hne
  rw [List.getLast?_eq_some_getLast hne, Option.mem_some_iff] at hlast
  rw [hlast, hb]
  exact Bool.false_ne_true

end Lists

/-! ### Trimming a string -/

/-- **A string without its leading and trailing white space.** -/
def trim (s : String) : String := String.ofList (trimList isSpace s.toList)

@[simp] theorem trim_empty : trim "" = "" := rfl

/-- **Trimming is idempotent.** -/
@[simp] theorem trim_trim (s : String) : trim (trim s) = trim s := by
  simp only [trim, String.toList_ofList, trimList_trimList]

/-- A string without white space is trimmed. -/
theorem trim_eq_self {s : String} (h : ∀ c ∈ s.toList, isSpace c = false) : trim s = s := by
  rw [trim, trimList_eq_self isSpace h, String.ofList_toList]

end Whitespace
