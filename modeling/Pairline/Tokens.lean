/-
**The tokens of a text.**

A text is split at its separators, and each part is trimmed to what stands between its first and its
last element that counts; parts without such an element are dropped.  What remains are the tokens.

Main definitions:

* `Tokens.token` — the token of a part, if it has one;
* `Tokens.tokens` — **the tokens of a text**.

Main results:

* `Tokens.tokens_eq_flatMap` — the tokens are those of the parts;
* `Tokens.tokens_append_cons` — **a separator divides the tokens**;
* `Tokens.tokens_pad` — elements that do not count around a text leave its tokens as they are;
* `Tokens.splitOnP_flatMap_map`, `Tokens.splitOnP_refine` — the parts of a text whose elements are
  replaced, and those by more separators;
* `Tokens.mem_chunkEvery_iff` — the windows of a list are its infixes;
* `Tokens.flatMap_eq_iff` — parts that give at least as many elements give the same only one by one.
-/

import Mathlib.Data.List.Basic
import Pairline.Whitespace

set_option relaxedAutoImplicit false
set_option autoImplicit false

namespace Tokens

open Whitespace

variable {α β : Type*}

/-! ### Parts -/

section Parts

variable {sep : α → Bool}

/-- A text is one part, or a part, a separator and a text. -/
theorem parts_induction (sep : α → Bool) {P : List α → Prop} (hlast : ∀ part, (∀ a ∈ part, sep a = false) → P part)
    (hcons : ∀ part a l, (∀ b ∈ part, sep b = false) → sep a = true → P l → P (part ++ a :: l))
    (l : List α) : P l := by
  have hpart : ∀ (l part : List α), (∀ a ∈ part, sep a = false) → P (part ++ l) := by
    intro l
    induction l with
    | nil =>
        intro part hpart
        rw [List.append_nil]
        exact hlast part hpart
    | cons a l ih =>
        intro part hpart
        cases ha : sep a with
        | true => exact hcons part a l hpart ha (ih [] fun _ h => absurd h List.not_mem_nil)
        | false =>
            have hrest := ih (part ++ [a]) fun b hb => by
              rcases List.mem_append.1 hb with hb | hb
              · exact hpart b hb
              · rwa [List.mem_singleton.1 hb]
            rwa [List.append_assoc, List.singleton_append] at hrest
  exact hpart l [] fun _ h => absurd h List.not_mem_nil

/-- What a text is split into when the elements are replaced, separators by separators. -/
theorem splitOnP_flatMap_map {sep' : β → Bool} {f : α → List β}
    (hsep : ∀ a, sep a = true → ∃ b, f a = [b] ∧ sep' b = true)
    (hother : ∀ a, sep a = false → ∀ b ∈ f a, sep' b = false) (l : List α) :
    (l.flatMap f).splitOnP sep' = (l.splitOnP sep).map fun part => part.flatMap f := by
  have hpart : ∀ part : List α, (∀ a ∈ part, sep a = false) →
      ∀ b ∈ part.flatMap f, sep' b = false := by
    intro part hpart b hb
    obtain ⟨a, ha, hb⟩ := List.mem_flatMap.1 hb
    exact hother a (hpart a ha) b hb
  induction l using parts_induction sep with
  | hlast part h =>
      rw [List.splitOnP_eq_singleton h, List.splitOnP_eq_singleton (hpart part h), List.map_singleton]
  | hcons part a l h ha ih =>
      obtain ⟨b, hfa, hb⟩ := hsep a ha
      rw [List.flatMap_append, List.flatMap_cons, hfa, List.singleton_append,
        List.splitOnP_append_cons_of_forall_mem (hpart part h) b hb, ih,
        List.splitOnP_append_cons_of_forall_mem h a ha, List.map_cons]

/-- **More separators split the parts further.** -/
theorem splitOnP_refine {sep' : α → Bool} (h : ∀ a, sep' a = true → sep a = true) (l : List α) :
    l.splitOnP sep = (l.splitOnP sep').flatMap fun part => part.splitOnP sep := by
  induction l using parts_induction sep' with
  | hlast part hpart => rw [List.splitOnP_eq_singleton hpart, List.flatMap_singleton]
  | hcons part a l hpart ha ih =>
      rw [List.splitOnP_append_cons part l (h a ha), ih,
        List.splitOnP_append_cons_of_forall_mem hpart a ha, List.flatMap_cons]

/-- A part has no separator. -/
theorem not_sep_of_mem_splitOnP {l part : List α} (hpart : part ∈ l.splitOnP sep) :
    ∀ a ∈ part, sep a = false := by
  induction l using parts_induction sep with
  | hlast last hlast =>
      rw [List.splitOnP_eq_singleton hlast, List.mem_singleton] at hpart
      rwa [hpart]
  | hcons first a l hfirst ha ih =>
      rw [List.splitOnP_append_cons_of_forall_mem hfirst a ha] at hpart
      rcases List.mem_cons.1 hpart with rfl | hpart
      · exact hfirst
      · exact ih hpart

/-- What stands in a part stands in the text. -/
theorem mem_of_mem_splitOnP {l part : List α} (hpart : part ∈ l.splitOnP sep) {a : α}
    (ha : a ∈ part) : a ∈ l := by
  induction l using parts_induction sep with
  | hlast last hlast =>
      rw [List.splitOnP_eq_singleton hlast, List.mem_singleton] at hpart
      rwa [← hpart]
  | hcons first b l hfirst hb ih =>
      rw [List.splitOnP_append_cons_of_forall_mem hfirst b hb] at hpart
      rcases List.mem_cons.1 hpart with rfl | hpart
      · exact List.mem_append_left _ ha
      · exact List.mem_append_right _ (List.mem_cons_of_mem _ (ih hpart))

end Parts

/-! ### Trimming -/

section Trim

variable {keep : α → Bool}

/-- A list between its first and its last element that counts. -/
def trim (keep : α → Bool) (l : List α) : List α := trimList (fun a => !keep a) l

/-- **What does not count at the ends of a list makes no difference.** -/
theorem trim_pad {l r : List α} (hl : ∀ a ∈ l, keep a = false) (hr : ∀ a ∈ r, keep a = false)
    (m : List α) : trim keep (l ++ m ++ r) = trim keep m := by
  have hdrop : (l ++ (m ++ r)).dropWhile (fun a => !keep a) =
      (m ++ r).dropWhile fun a => !keep a :=
    List.dropWhile_append_of_pos fun a ha => by simp [hl a ha]
  have hrdrop : (m ++ r).rdropWhile (fun a => !keep a) = m.rdropWhile fun a => !keep a := by
    rw [List.rdropWhile, List.reverse_append, List.dropWhile_append_of_pos, ← List.rdropWhile]
    exact fun a ha => by simp [hr a (List.mem_reverse.1 ha)]
  rw [List.append_assoc, trim, ← trimList_dropWhile, hdrop, trimList_dropWhile,
    ← trimList_rdropWhile, hrdrop, trimList_rdropWhile, trim]

theorem trim_eq_nil_iff {l : List α} : trim keep l = [] ↔ ∀ a ∈ l, keep a = false := by
  constructor
  · intro h a ha
    by_contra hkeep
    rw [Bool.not_eq_false] at hkeep
    -- the element stays
    obtain ⟨x, y, rfl⟩ := List.append_of_mem ha
    rw [trim, trimList_append_cons _ x y (by simp [hkeep])] at h
    exact absurd h (by simp)
  · intro h
    have hpad : trim keep (l ++ [] ++ []) = trim keep [] :=
      trim_pad h (fun _ ha => absurd ha List.not_mem_nil) []
    rwa [List.append_nil, List.append_nil] at hpad

theorem mem_of_mem_trim {l : List α} {a : α} (h : a ∈ trim keep l) : a ∈ l :=
  (List.dropWhile_suffix _).subset ((List.rdropWhile_prefix _ _).subset h)

/-- A list is what is left of it between elements that do not count. -/
theorem exists_pad (keep : α → Bool) (l : List α) : ∃ x y, l = x ++ trim keep l ++ y ∧
    (∀ a ∈ x, keep a = false) ∧ ∀ a ∈ y, keep a = false := by
  refine ⟨l.takeWhile fun a => !keep a, (l.dropWhile fun a => !keep a).rtakeWhile fun a => !keep a,
    ?_, fun a ha => ?_, fun a ha => ?_⟩
  · rw [List.append_assoc, trim, trimList, List.rdropWhile_append_rtakeWhile]
    exact (List.takeWhile_append_dropWhile).symm
  · simpa using List.mem_takeWhile_imp ha
  · simpa using List.mem_rtakeWhile_imp ha

end Trim

/-! ### Tokens -/

section Token

variable (sep keep : α → Bool)

/-- The token of a part, if something in it counts. -/
def token (part : List α) : List (List α) := if part.any keep then [trim keep part] else []

/-- **The tokens of a text.** -/
def tokens (l : List α) : List (List α) :=
  ((l.splitOnP sep).map (trim keep)).filter (· ≠ [])

variable {sep keep}

theorem any_eq_false_iff {l : List α} : l.any keep = false ↔ ∀ a ∈ l, keep a = false := by
  simp

/-- **The tokens are those of the parts.** -/
theorem tokens_eq_flatMap (l : List α) : tokens sep keep l = (l.splitOnP sep).flatMap (token keep) := by
  unfold tokens
  induction l.splitOnP sep with
  | nil => rfl
  | cons part parts ih =>
      rw [List.map_cons, List.flatMap_cons, ← ih, token]
      cases hany : part.any keep with
      | true =>
          have hne : trim keep part ≠ [] := fun h => by
            rw [any_eq_false_iff.2 (trim_eq_nil_iff.1 h)] at hany
            cases hany
          rw [List.filter_cons_of_pos (by simpa using hne)]
          rfl
      | false =>
          rw [trim_eq_nil_iff.2 (any_eq_false_iff.1 hany), List.filter_cons_of_neg (by simp)]
          rfl

theorem tokens_part {l : List α} (h : ∀ a ∈ l, sep a = false) : tokens sep keep l = token keep l := by
  rw [tokens_eq_flatMap, List.splitOnP_eq_singleton h, List.flatMap_singleton]

/-- **A separator divides the tokens.** -/
theorem tokens_append_cons (l : List α) {a : α} (r : List α) (ha : sep a = true) :
    tokens sep keep (l ++ a :: r) = tokens sep keep l ++ tokens sep keep r := by
  simp only [tokens_eq_flatMap, List.splitOnP_append_cons l r ha, List.flatMap_append]

theorem token_pad {l r : List α} (hl : ∀ a ∈ l, keep a = false) (hr : ∀ a ∈ r, keep a = false)
    (m : List α) : token keep (l ++ m ++ r) = token keep m := by
  rw [token, token, trim_pad hl hr, List.any_append, List.any_append, any_eq_false_iff.2 hl,
    any_eq_false_iff.2 hr, Bool.false_or, Bool.or_false]

/-- What counts neither as a separator nor as part of a token. -/
def Idle (sep keep : α → Bool) (l : List α) : Prop := ∀ a ∈ l, sep a = false ∧ keep a = false

/-- **What does not count around a text leaves its tokens as they are.** -/
theorem tokens_pad {l r : List α} (hl : Idle sep keep l) (hr : Idle sep keep r) (m : List α) :
    tokens sep keep (l ++ m ++ r) = tokens sep keep m := by
  induction m using parts_induction sep generalizing l with
  | hlast part hpart =>
      have hall : ∀ a ∈ l ++ part ++ r, sep a = false := by
        intro a ha
        rcases List.mem_append.1 ha with ha | ha
        · rcases List.mem_append.1 ha with ha | ha
          · exact (hl a ha).1
          · exact hpart a ha
        · exact (hr a ha).1
      rw [tokens_part hall, tokens_part hpart,
        token_pad (fun a ha => (hl a ha).2) fun a ha => (hr a ha).2]
  | hcons part a m hpart ha ih =>
      have hpad : tokens sep keep (l ++ part) = tokens sep keep part := by
        have hall : ∀ b ∈ l ++ part, sep b = false := by
          intro b hb
          rcases List.mem_append.1 hb with hb | hb
          · exact (hl b hb).1
          · exact hpart b hb
        have htoken : token keep (l ++ part ++ []) = token keep part :=
          token_pad (fun a ha => (hl a ha).2) (fun _ h => absurd h List.not_mem_nil) part
        rw [List.append_nil] at htoken
        rw [tokens_part hall, tokens_part hpart, htoken]
      have hrest : tokens sep keep ([] ++ m ++ r) = tokens sep keep m :=
        ih fun _ h => absurd h List.not_mem_nil
      rw [List.nil_append] at hrest
      have hassoc : l ++ (part ++ a :: m) ++ r = l ++ part ++ a :: (m ++ r) := by simp
      rw [hassoc, tokens_append_cons _ _ ha, hpad, hrest, tokens_append_cons _ _ ha]

/-- A text without anything that counts has no token, and one with something has one. -/
theorem tokens_eq_nil_iff {l : List α} (h : ∀ a, sep a = true → keep a = false) :
    tokens sep keep l = [] ↔ ∀ a ∈ l, keep a = false := by
  induction l using parts_induction sep with
  | hlast part hpart =>
      rw [tokens_part hpart, token, ← any_eq_false_iff]
      cases part.any keep <;> simp
  | hcons part a l hpart ha ih =>
      rw [tokens_append_cons _ _ ha, List.append_eq_nil_iff, ih, tokens_part hpart, token]
      have hpartnil : (if part.any keep then [trim keep part] else []) = [] ↔
          ∀ b ∈ part, keep b = false := by
        rw [← any_eq_false_iff]
        cases part.any keep <;> simp
      rw [hpartnil]
      simp only [List.mem_append, List.mem_cons, or_imp, forall_and, forall_eq, h a ha, true_and]

theorem token_eq_token_iff {l r : List α} : token keep l = token keep r ↔ trim keep l = trim keep r := by
  have hnil {m : List α} : m.any keep = false ↔ trim keep m = [] := by
    rw [any_eq_false_iff, trim_eq_nil_iff]
  unfold token
  cases hl : l.any keep with
  | true =>
      cases hr : r.any keep with
      | true => simp
      | false =>
          rw [hnil.1 hr]
          refine iff_of_false (by simp) fun h => ?_
          rw [hnil.2 h] at hl
          cases hl
  | false =>
      cases hr : r.any keep with
      | true =>
          rw [hnil.1 hl]
          refine iff_of_false (by simp) fun h => ?_
          rw [hnil.2 h.symm] at hr
          cases hr
      | false => simp [hnil.1 hl, hnil.1 hr]

/-- What has been trimmed is its own token. -/
theorem token_trim {l : List α} (h : trim keep l ≠ []) :
    token keep (trim keep l) = [trim keep l] := by
  have htwice : trim keep (trim keep l) = trim keep l := trimList_trimList _ l
  have hany : (trim keep l).any keep = true := by
    by_contra hany
    rw [Bool.not_eq_true, any_eq_false_iff, ← trim_eq_nil_iff, htwice] at hany
    exact h hany
  rw [token, if_pos hany, htwice]

theorem length_token (l : List α) : (token keep l).length = if l.any keep then 1 else 0 := by
  unfold token
  split_ifs <;> rfl

/-- What counts in a text counts in one of its parts. -/
theorem forall_parts_iff (hsep : ∀ a, sep a = true → keep a = false) {l : List α} :
    (∀ part ∈ l.splitOnP sep, part.any keep = false) ↔ ∀ a ∈ l, keep a = false := by
  induction l using parts_induction sep with
  | hlast part hpart =>
      rw [List.splitOnP_eq_singleton hpart, List.forall_mem_singleton, any_eq_false_iff]
  | hcons part a l hpart ha ih =>
      rw [List.splitOnP_append_cons_of_forall_mem hpart a ha, List.forall_mem_cons, ih,
        any_eq_false_iff]
      simp only [List.mem_append, List.mem_cons, or_imp, forall_and, forall_eq, hsep a ha, true_and]

/-- **The only part with something that counts** stands in the text between what does not count. -/
theorem exists_of_countP_le_one (hsep : ∀ a, sep a = true → keep a = false) {l part : List α}
    (hmem : part ∈ l.splitOnP sep) (hany : part.any keep = true)
    (hcount : (l.splitOnP sep).countP (fun part => part.any keep) ≤ 1) :
    ∃ x y, l = x ++ part ++ y ∧ (∀ a ∈ x, keep a = false) ∧ ∀ a ∈ y, keep a = false := by
  induction l using parts_induction sep with
  | hlast last hlast =>
      rw [List.splitOnP_eq_singleton hlast, List.mem_singleton] at hmem
      exact ⟨[], [], by simp [hmem], nofun, nofun⟩
  | hcons first a l hfirst ha ih =>
      rw [List.splitOnP_append_cons_of_forall_mem hfirst a ha] at hmem hcount
      rw [List.countP_cons] at hcount
      rcases List.mem_cons.1 hmem with rfl | hmem
      · -- nothing that counts is left for the rest
        rw [if_pos hany] at hcount
        have hzero : (l.splitOnP sep).countP (fun part => part.any keep) = 0 := by omega
        have hrest : ∀ b ∈ l, keep b = false :=
          (forall_parts_iff hsep).1 fun part hpart =>
            Bool.eq_false_iff.2 (List.countP_eq_zero.1 hzero part hpart)
        refine ⟨[], a :: l, by simp, nofun, fun b hb => ?_⟩
        rcases List.mem_cons.1 hb with rfl | hb
        · exact hsep b ha
        · exact hrest b hb
      · have hpos : 0 < (l.splitOnP sep).countP (fun part => part.any keep) :=
          List.countP_pos_iff.2 ⟨part, hmem, hany⟩
        have hnone : first.any keep = false := by
          by_contra hfirstAny
          rw [Bool.not_eq_false] at hfirstAny
          rw [if_pos hfirstAny] at hcount
          omega
        obtain ⟨x, y, hl, hx, hy⟩ := ih hmem (by omega)
        refine ⟨first ++ a :: x, y, by simp [hl], fun b hb => ?_, hy⟩
        rcases List.mem_append.1 hb with hb | hb
        · exact any_eq_false_iff.1 hnone b hb
        · rcases List.mem_cons.1 hb with rfl | hb
          · exact hsep b ha
          · exact hx b hb

end Token

/-! ### Windows -/

section Windows

/-- The windows of `n` elements of a list. -/
def chunkEvery (n : ℕ) (l : List α) : List (List α) :=
  (List.range (l.length + 1 - n)).map fun k => (l.drop k).take n

/-- **A list is among the windows of its length exactly when it is an infix.** -/
theorem mem_chunkEvery_iff {l r : List α} : r ∈ chunkEvery r.length l ↔ r <:+: l := by
  simp only [chunkEvery, List.mem_map, List.mem_range]
  constructor
  · rintro ⟨k, -, hk⟩
    rw [← hk]
    exact (List.take_prefix _ _).isInfix.trans (List.drop_suffix _ _).isInfix
  · rintro ⟨x, y, rfl⟩
    refine ⟨x.length, ?_, ?_⟩
    · simp only [List.length_append]
      omega
    · rw [List.append_assoc, List.drop_left, List.take_left]

/-- A part that is not shorter than the whole is the whole. -/
theorem infix_iff_eq {l r : List α} (h : r.length ≤ l.length) : l <:+: r ↔ l = r :=
  ⟨fun hinfix => hinfix.eq_of_length_le h, fun heq => heq ▸ List.infix_rfl⟩

end Windows

/-! ### Lists that are put together part by part -/

section FlatMap

theorem length_flatMap_le {f g : α → List β} {l : List α}
    (hle : ∀ a ∈ l, (f a).length ≤ (g a).length) :
    (l.flatMap f).length ≤ (l.flatMap g).length := by
  induction l with
  | nil => exact Nat.le_refl _
  | cons b l ih =>
      have hb := hle b List.mem_cons_self
      have hl := ih fun a ha => hle a (List.mem_cons_of_mem _ ha)
      simp only [List.flatMap_cons, List.length_append]
      omega

/-- Where every part of a kind gives one element, and the others none. -/
theorem length_flatMap_eq_countP {p : α → Bool} {f : α → List β} {l : List α}
    (h : ∀ a ∈ l, (f a).length = if p a then 1 else 0) : (l.flatMap f).length = l.countP p := by
  induction l with
  | nil => rfl
  | cons b l ih =>
      have hb := h b List.mem_cons_self
      have hl := ih fun a ha => h a (List.mem_cons_of_mem _ ha)
      rw [List.flatMap_cons, List.length_append, hb, hl, List.countP_cons]
      omega

/-- Where only one part gives anything. -/
theorem flatMap_eq_of_countP_le_one {p : α → Bool} {f : α → List β} {l : List α} {a : α}
    (hf : ∀ b ∈ l, p b = false → f b = []) (ha : a ∈ l) (hpa : p a = true)
    (hcount : l.countP p ≤ 1) : l.flatMap f = f a := by
  obtain ⟨x, y, rfl⟩ := List.append_of_mem ha
  rw [List.countP_append, List.countP_cons_of_pos hpa] at hcount
  have hx : x.flatMap f = [] := List.flatMap_eq_nil_iff.2 fun b hb =>
    hf b (List.mem_append_left _ hb)
      (Bool.eq_false_iff.2 (List.countP_eq_zero.1 (by omega : x.countP p = 0) b hb))
  have hy : y.flatMap f = [] := List.flatMap_eq_nil_iff.2 fun b hb =>
    hf b (List.mem_append_right _ (List.mem_cons_of_mem _ hb))
      (Bool.eq_false_iff.2 (List.countP_eq_zero.1 (by omega : y.countP p = 0) b hb))
  rw [List.flatMap_append, List.flatMap_cons, hx, hy, List.nil_append, List.append_nil]

/-- **Parts that give at least as many elements as others give the same only one by one.** -/
theorem flatMap_eq_iff {f g : α → List β} {l : List α}
    (hle : ∀ a ∈ l, (f a).length ≤ (g a).length) :
    l.flatMap f = l.flatMap g ↔ ∀ a ∈ l, f a = g a := by
  refine ⟨fun h => ?_, List.flatMap_congr⟩
  induction l with
  | nil => exact fun a ha => absurd ha List.not_mem_nil
  | cons b l ih =>
      have hb := hle b List.mem_cons_self
      have hl := length_flatMap_le fun a ha => hle a (List.mem_cons_of_mem b ha)
      have hlength := congrArg List.length h
      simp only [List.flatMap_cons, List.length_append] at hlength
      rw [List.flatMap_cons, List.flatMap_cons] at h
      obtain ⟨hfirst, hrest⟩ := List.append_inj h (by omega)
      intro a ha
      rcases List.mem_cons.1 ha with rfl | ha
      · exact hfirst
      · exact ih (fun a ha => hle a (List.mem_cons_of_mem _ ha)) hrest a ha

end FlatMap

end Tokens
