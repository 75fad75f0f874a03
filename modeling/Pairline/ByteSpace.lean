/-
**White space around a text that is given by its bytes.**

A text of bytes need not be valid UTF-8.  A character of white space takes one, two or three bytes;
where these stand at the beginning or at the end of a text, they are that character, whatever else the
text holds.  So trimming takes away such groups of bytes, first at the beginning and then at the end.

Main definitions:

* `ByteSpace.Spaces` — the groups of elements that count as white space;
* `ByteSpace.Spaces.strip`, `ByteSpace.Spaces.trim` — without those at the beginning, or at both ends;
* `ByteSpace.trimSpace` — `strings.TrimSpace`.

Main results:

* `ByteSpace.Spaces.trim_trim` — **trimming is idempotent**;
* `ByteSpace.Spaces.trim_ne_nil` — what begins with no white space is not trimmed away;
* `ByteSpace.Spaces.trim_cons_append_cons` — of two parts that each begin apart from white space, the
  second alone is trimmed.
-/

import Mathlib.Data.List.Infix

set_option relaxedAutoImplicit false
set_option autoImplicit false

namespace ByteSpace

variable {α : Type*}

/-! ### Groups of elements -/

/-- The groups of one, two and three elements that are white space. -/
structure Spaces (α : Type*) where
  one : α → Bool
  two : α → α → Bool
  three : α → α → α → Bool

namespace Spaces

variable (sp : Spaces α)

/-- The same groups, read from the end. -/
def flip : Spaces α where
  one := sp.one
  two a b := sp.two b a
  three a b c := sp.three c b a

/-- A text begins with white space. -/
def begins : List α → Bool
  | [] => false
  | [a] => sp.one a
  | [a, b] => sp.one a || sp.two a b
  | a :: b :: c :: _ => sp.one a || sp.two a b || sp.three a b c

/-- A text without the white space that it begins with. -/
def strip : List α → List α
  | [] => []
  | [a] => if sp.one a then [] else [a]
  | [a, b] => if sp.one a then strip [b] else if sp.two a b then [] else [a, b]
  | a :: b :: c :: s =>
      if sp.one a then strip (b :: c :: s)
      else if sp.two a b then strip (c :: s)
      else if sp.three a b c then strip s
      else a :: b :: c :: s

variable {sp}

theorem begins_of_prefix {s t : List α} (hst : s <+: t) (h : sp.begins s = true) :
    sp.begins t = true := by
  obtain ⟨u, rfl⟩ := hst
  match s, u with
  | [], _ => cases h
  | [a], [] => exact h
  | [a], [b] => simp_all [begins]
  | [a], b :: c :: u => simp_all [begins]
  | [a, b], [] => exact h
  | [a, b], c :: u => simp_all [begins]
  | a :: b :: c :: s, u => exact h

theorem strip_eq_self {s : List α} (h : sp.begins s = false) : sp.strip s = s := by
  match s with
  | [] => rfl
  | [a] => simp_all [begins, strip]
  | [a, b] => simp_all [begins, strip]
  | a :: b :: c :: s => simp_all [begins, strip]

theorem begins_strip (s : List α) : sp.begins (sp.strip s) = false := by
  induction s using strip.induct sp <;> simp_all [begins, strip]

variable (sp) in
theorem strip_suffix (s : List α) : sp.strip s <:+ s := by
  induction s using strip.induct sp with
  | case1 => exact List.suffix_refl _
  | case2 a ha => simp [strip, ha]
  | case3 a ha => simp [strip, ha]
  | case4 a b ha ih =>
      rw [strip, if_pos ha]
      exact ih.trans (List.suffix_cons a _)
  | case5 a b ha hb => simp [strip, ha, hb]
  | case6 a b ha hb => simp [strip, ha, hb]
  | case7 a b c s ha ih =>
      rw [strip, if_pos ha]
      exact ih.trans (List.suffix_cons a _)
  | case8 a b c s ha hb ih =>
      rw [strip, if_neg ha, if_pos hb]
      exact ih.trans ((List.suffix_cons b _).trans (List.suffix_cons a _))
  | case9 a b c s ha hb hc ih =>
      rw [strip, if_neg ha, if_neg hb, if_pos hc]
      exact ih.trans (((List.suffix_cons c _).trans (List.suffix_cons b _)).trans
        (List.suffix_cons a _))
  | case10 a b c s ha hb hc =>
      rw [strip, if_neg ha, if_neg hb, if_neg hc]

/-- **What no group at the beginning of a text makes a difference to, stripping makes none to.** -/
theorem strip_iff {P : List α → Prop} (hone : ∀ {a} (s), sp.one a = true → (P (a :: s) ↔ P s))
    (htwo : ∀ {a b} (s), sp.two a b = true → (P (a :: b :: s) ↔ P s))
    (hthree : ∀ {a b c} (s), sp.three a b c = true → (P (a :: b :: c :: s) ↔ P s)) (s : List α) :
    P (sp.strip s) ↔ P s := by
  induction s using strip.induct sp with
  | case1 => rfl
  | case2 a ha =>
      rw [strip, if_pos ha]
      exact (hone [] ha).symm
  | case3 a ha => rw [strip, if_neg ha]
  | case4 a b ha ih =>
      rw [strip, if_pos ha]
      exact ih.trans (hone _ ha).symm
  | case5 a b ha hb =>
      rw [strip, if_neg ha, if_pos hb]
      exact (htwo [] hb).symm
  | case6 a b ha hb => rw [strip, if_neg ha, if_neg hb]
  | case7 a b c s ha ih =>
      rw [strip, if_pos ha]
      exact ih.trans (hone _ ha).symm
  | case8 a b c s ha hb ih =>
      rw [strip, if_neg ha, if_pos hb]
      exact ih.trans (htwo _ hb).symm
  | case9 a b c s ha hb hc ih =>
      rw [strip, if_neg ha, if_neg hb, if_pos hc]
      exact ih.trans (hthree _ hc).symm
  | case10 a b c s ha hb hc => rw [strip, if_neg ha, if_neg hb, if_neg hc]

/-! ### Both ends -/

variable (sp)

/-- A text without the white space at its two ends. -/
def trim (s : List α) : List α := (sp.flip.strip (sp.strip s).reverse).reverse

variable {sp}

theorem trim_prefix_strip (s : List α) : sp.trim s <+: sp.strip s := by
  have hsuffix := strip_suffix sp.flip (sp.strip s).reverse
  exact List.reverse_suffix.1 (by rwa [trim, List.reverse_reverse])

/-- What is left begins with no white space. -/
theorem begins_trim (s : List α) : sp.begins (sp.trim s) = false := by
  rw [Bool.eq_false_iff]
  intro h
  have hstrip := begins_of_prefix (trim_prefix_strip s) h
  rw [begins_strip] at hstrip
  cases hstrip

/-- Nor does it end with any. -/
theorem ends_trim (s : List α) : sp.flip.begins (sp.trim s).reverse = false := by
  rw [trim, List.reverse_reverse]
  exact begins_strip _

/-- **Trimming is idempotent.** -/
@[simp] theorem trim_trim (s : List α) : sp.trim (sp.trim s) = sp.trim s := by
  rw [trim, strip_eq_self (begins_trim s), strip_eq_self (ends_trim s), List.reverse_reverse]

/-! ### What is white space throughout -/

/-- A text that is white space throughout ends with white space. -/
theorem flip_begins_reverse_of_strip_eq_nil {s : List α} (h : sp.strip s = []) (hs : s ≠ []) :
    sp.flip.begins s.reverse = true := by
  induction s using strip.induct sp with
  | case1 => exact absurd rfl hs
  | case2 a ha => simpa [begins, flip] using ha
  | case3 a ha => simp [strip, ha] at h
  | case4 a b ha ih =>
      rw [strip, if_pos ha] at h
      have hlast := ih h (by simp)
      exact begins_of_prefix ⟨[a], by simp⟩ hlast
  | case5 a b ha hb => simp [begins, flip, hb]
  | case6 a b ha hb => simp [strip, ha, hb] at h
  | case7 a b c s ha ih =>
      rw [strip, if_pos ha] at h
      exact begins_of_prefix ⟨[a], by simp⟩ (ih h (by simp))
  | case8 a b c s ha hb ih =>
      rw [strip, if_neg ha, if_pos hb] at h
      exact begins_of_prefix ⟨[b, a], by simp⟩ (ih h (by simp))
  | case9 a b c s ha hb hc ih =>
      rw [strip, if_neg ha, if_neg hb, if_pos hc] at h
      cases s with
      | nil => simp [begins, flip, hc]
      | cons d s => exact begins_of_prefix ⟨[c, b, a], by simp⟩ (ih h (by simp))
  | case10 a b c s ha hb hc => simp [strip, ha, hb, hc] at h

/-- **What begins with no white space is not trimmed away.** -/
theorem trim_ne_nil {s : List α} (hbegins : sp.begins s = false) (hs : s ≠ []) :
    sp.trim s ≠ [] := by
  intro h
  rw [trim, strip_eq_self hbegins, List.reverse_eq_nil_iff] at h
  have hend := flip_begins_reverse_of_strip_eq_nil h (by simpa using hs)
  rw [List.reverse_reverse] at hend
  have hsame : sp.flip.flip.begins s = sp.begins s := rfl
  rw [hsame, hbegins] at hend
  cases hend

/-- One element of white space at the beginning of a text is trimmed. -/
theorem trim_cons_of_one {a : α} (h : sp.one a = true) (s : List α) : sp.trim (a :: s) = sp.trim s := by
  have hstrip : sp.strip (a :: s) = sp.strip s := by
    match s with
    | [] => simp [strip, h]
    | [b] => simp [strip, h]
    | b :: c :: s => simp only [strip, h, if_true]
  rw [trim, trim, hstrip]

/-! ### What stands apart from white space -/

/-- An element that belongs to no group of two or three. -/
structure Lone (sp : Spaces α) (x : α) : Prop where
  two : ∀ a, sp.two x a = false ∧ sp.two a x = false
  three : ∀ a b, sp.three x a b = false ∧ sp.three a x b = false ∧ sp.three a b x = false

/-- An element that belongs to no group. -/
structure Apart (sp : Spaces α) (x : α) : Prop extends Lone sp x where
  one : sp.one x = false

theorem Lone.flip {x : α} (h : sp.Lone x) : sp.flip.Lone x where
  two a := ⟨(h.two a).2, (h.two a).1⟩
  three a b := ⟨(h.three b a).2.2, (h.three b a).2.1, (h.three b a).1⟩

theorem Apart.flip {x : α} (h : sp.Apart x) : sp.flip.Apart x := ⟨h.toLone.flip, h.one⟩

theorem begins_cons {x : α} (h : sp.Apart x) (s : List α) : sp.begins (x :: s) = false := by
  match s with
  | [] => simp [begins, h.one]
  | [b] => simp [begins, h.one, (h.two b).1]
  | b :: c :: s => simp [begins, h.one, (h.two b).1, (h.three b c).1]

/-- White space is taken away up to a lone element, and goes on there if nothing is left before. -/
theorem strip_append_lone {x : α} (h : sp.Lone x) (a b : List α) :
    sp.strip (a ++ x :: b) = if sp.strip a = [] then sp.strip (x :: b) else sp.strip a ++ x :: b := by
  induction a using strip.induct sp with
  | case1 => simp [strip]
  | case2 a ha =>
      cases b with
      | nil => simp [strip, ha]
      | cons c b => simp only [List.cons_append, List.nil_append, strip, ha, if_true]
  | case3 a ha =>
      cases b with
      | nil => simp [strip, ha, (h.two a).2]
      | cons c b => simp [strip, ha, (h.two a).2, (h.three a c).2.1]
  | case4 a b' ha ih => simpa [strip, ha] using ih
  | case5 a b' ha hb => simp [strip, ha, hb]
  | case6 a b' ha hb => simp [strip, ha, hb, (h.three a b').2.2]
  | case7 a b' c s ha ih => simpa [strip, ha] using ih
  | case8 a b' c s ha hb ih => simpa [strip, ha, hb] using ih
  | case9 a b' c s ha hb hc ih => simpa [strip, ha, hb, hc] using ih
  | case10 a b' c s ha hb hc => simp [strip, ha, hb, hc]

/-- White space is taken away up to an element that stands apart. -/
theorem strip_append_cons {x : α} (h : sp.Apart x) (a b : List α) :
    sp.strip (a ++ x :: b) = sp.strip a ++ x :: b := by
  rw [strip_append_lone h.toLone]
  split
  · next ha => rw [ha, List.nil_append, strip_eq_self (begins_cons h b)]
  · rfl

/-- A text that begins apart from white space is trimmed at its end only. -/
theorem trim_cons {x : α} (h : sp.Apart x) (s : List α) :
    sp.trim (x :: s) = x :: (sp.flip.strip s.reverse).reverse := by
  rw [trim, strip_eq_self (begins_cons h s), List.reverse_cons, strip_append_cons h.flip]
  simp

/-- **Of two parts that each begin apart from white space, the second alone is trimmed.** -/
theorem trim_cons_append_cons {x y : α} (hx : sp.Apart x) (hy : sp.Apart y) (a b : List α) :
    sp.trim (x :: a ++ y :: b) = x :: a ++ sp.trim (y :: b) := by
  rw [List.cons_append, trim_cons hx, trim_cons hy, List.reverse_append, List.reverse_cons,
    List.append_assoc, List.singleton_append, strip_append_cons hy.flip]
  simp

end Spaces

/-! ### The white space of Unicode, in bytes -/

/-- The characters with the property `White_Space`, encoded in UTF-8: `U+0009` to `U+000D` and
`U+0020`; `U+0085` and `U+00A0`; `U+1680`, `U+2000` to `U+200A`, `U+2028`, `U+2029`, `U+202F`,
`U+205F` and `U+3000`. -/
def unicode : Spaces UInt8 where
  one a := (9 ≤ a && a ≤ 13) || a == 0x20
  two a b := a == 0xC2 && (b == 0x85 || b == 0xA0)
  three a b c :=
    (a == 0xE1 && b == 0x9A && c == 0x80) ||
    (a == 0xE2 && b == 0x80 && ((0x80 ≤ c && c ≤ 0x8A) || c == 0xA8 || c == 0xA9 || c == 0xAF)) ||
    (a == 0xE2 && b == 0x81 && c == 0x9F) ||
    (a == 0xE3 && b == 0x80 && c == 0x80)

/-- A visible ASCII character stands apart from white space. -/
theorem apart_of_visible {a : UInt8} (h : 0x20 < a.toNat) (h' : a.toNat < 0x80) : unicode.Apart a := by
  have hne : ∀ b : UInt8, b.toNat ≤ 0x20 ∨ 0x80 ≤ b.toNat → a ≠ b := by
    rintro b hb rfl
    omega
  have hlow : ¬a.toNat ≤ 13 := by omega
  have hhigh : ¬0x80 ≤ a.toNat := by omega
  have hspace := hne 0x20 (by decide)
  have hC2 := hne 0xC2 (by decide)
  have hE1 := hne 0xE1 (by decide)
  have hE2 := hne 0xE2 (by decide)
  have hE3 := hne 0xE3 (by decide)
  have h85 := hne 0x85 (by decide)
  have hA0 := hne 0xA0 (by decide)
  have h9A := hne 0x9A (by decide)
  have h80 := hne 0x80 (by decide)
  have h81 := hne 0x81 (by decide)
  have hA8 := hne 0xA8 (by decide)
  have hA9 := hne 0xA9 (by decide)
  have hAF := hne 0xAF (by decide)
  have h9F := hne 0x9F (by decide)
  refine ⟨⟨?_, ?_⟩, ?_⟩
  · intro b
    simp [unicode, hC2, h85, hA0]
  · intro b c
    simp [unicode, UInt8.le_iff_toNat_le, hhigh, hE1, hE2, hE3, h9A, h80, h81, hA8, hA9, hAF, h9F]
  · simp [unicode, UInt8.le_iff_toNat_le, hlow, hspace]

theorem lone_blank : unicode.Lone 0x20 := by
  constructor <;> simp [unicode, UInt8.le_iff_toNat_le]

/-- `strings.TrimSpace`. -/
def trimSpace (s : List UInt8) : List UInt8 := unicode.trim s

@[simp] theorem trimSpace_trimSpace (s : List UInt8) : trimSpace (trimSpace s) = trimSpace s :=
  Spaces.trim_trim s

/-- A text of visible characters has no white space around it. -/
theorem trimSpace_eq_self {s : List UInt8} (h : ∀ a ∈ s, 0x20 < a.toNat ∧ a.toNat < 0x80) :
    trimSpace s = s := by
  have happart : ∀ a ∈ s, unicode.Apart a := fun a ha => apart_of_visible (h a ha).1 (h a ha).2
  have hfront : unicode.begins s = false := by
    cases s with
    | nil => rfl
    | cons a s => exact Spaces.begins_cons (happart a List.mem_cons_self) s
  have hback : unicode.flip.begins s.reverse = false := by
    have hmem : ∀ a ∈ s.reverse, unicode.Apart a := fun a ha => happart a (List.mem_reverse.1 ha)
    cases hs : s.reverse with
    | nil => rfl
    | cons a l =>
        rw [hs] at hmem
        exact Spaces.begins_cons (hmem a List.mem_cons_self).flip l
  rw [trimSpace, Spaces.trim, Spaces.strip_eq_self hfront, Spaces.strip_eq_self hback,
    List.reverse_reverse]

example : trimSpace "\u00A0 a\u2003b\u3000".toUTF8.toList = "a\u2003b".toUTF8.toList := by
  decide +kernel

end ByteSpace
