/-
**The bits of numbers and of bytes, the highest first.**

A number of `w` bits is written from its highest bit down; a text of bytes is written byte by byte.
Programs compare the first `n` bits of two texts in two steps: the whole bytes among them are compared
as they are, and the byte after these under a mask that keeps its highest bits.

Main definitions:

* `Bits.ofNat`, `Bits.ofBytes` — the bits of a number, and of a text of bytes;
* `Bits.mask` — the byte whose `r` highest bits are set.

Main results:

* `Bits.ofNat_add` — a number is written as its high part and then its low part;
* `Bits.take_ofNat_iff` — under the mask two bytes agree exactly when their highest bits do;
* `Bits.take_ofBytes_iff` — **the first bits of two texts agree exactly when the whole bytes among them
  do, and the next byte under the mask**.
-/

import Mathlib.Data.List.Basic
import Mathlib.Data.Nat.Bitwise

set_option relaxedAutoImplicit false
set_option autoImplicit false

namespace Bits

/-! ### Numbers -/

/-- The lowest `w` bits of a number, the highest of them first. -/
def ofNat (w n : ℕ) : List Bool := (List.range w).map fun i => n.testBit (w - 1 - i)

@[simp] theorem length_ofNat (w n : ℕ) : (ofNat w n).length = w := by
  simp [ofNat]

theorem getElem?_ofNat {w i : ℕ} (h : i < w) (n : ℕ) :
    (ofNat w n)[i]? = some (n.testBit (w - 1 - i)) := by
  simp [ofNat, h]

/-- **A number is written as its high part and then its low part.** -/
theorem ofNat_add (u v n : ℕ) : ofNat (u + v) n = ofNat u (n >>> v) ++ ofNat v n := by
  apply List.ext_getElem?
  intro i
  rcases Nat.lt_or_ge i u with hi | hi
  · rw [List.getElem?_append_left (by simpa using hi), getElem?_ofNat (by omega), getElem?_ofNat hi,
      Nat.testBit_shiftRight]
    congr 2
    omega
  · rw [List.getElem?_append_right (by simpa using hi), length_ofNat]
    rcases Nat.lt_or_ge i (u + v) with hlt | hge
    · rw [getElem?_ofNat hlt, getElem?_ofNat (by omega)]
      congr 2
      omega
    · rw [List.getElem?_eq_none (by simpa using hge), List.getElem?_eq_none (by simp; omega)]

/-- The bits above the lowest `w` do not matter. -/
theorem ofNat_mod (w n : ℕ) : ofNat w (n % 2 ^ w) = ofNat w n := by
  apply List.ext_getElem?
  intro i
  rcases Nat.lt_or_ge i w with hi | hi
  · have hlt : w - 1 - i < w := by omega
    rw [getElem?_ofNat hi, getElem?_ofNat hi, Nat.testBit_mod_two_pow, decide_eq_true hlt,
      Bool.true_and]
  · rw [List.getElem?_eq_none (by simpa using hi), List.getElem?_eq_none (by simpa using hi)]

/-- A number below `2 ^ w` is known by its bits. -/
theorem ofNat_injective {w m n : ℕ} (hm : m < 2 ^ w) (hn : n < 2 ^ w)
    (h : ofNat w m = ofNat w n) : m = n := by
  apply Nat.eq_of_testBit_eq
  intro i
  rcases Nat.lt_or_ge i w with hi | hi
  · have hbit := congrArg (·[w - 1 - i]?) h
    simp only [getElem?_ofNat (show w - 1 - i < w by omega), Option.some.injEq] at hbit
    rwa [show w - 1 - (w - 1 - i) = i by omega] at hbit
  · have hpow : 2 ^ w ≤ 2 ^ i := Nat.pow_le_pow_right (by omega) hi
    rw [Nat.testBit_lt_two_pow (by omega), Nat.testBit_lt_two_pow (by omega)]

/-! ### The mask -/

/-- The byte whose `r` highest bits are set. -/
def mask (r : ℕ) : ℕ := 0xFF <<< (8 - r) &&& 0xFF

theorem testBit_mask (r i : ℕ) : (mask r).testBit i = decide (8 - r ≤ i ∧ i < 8) := by
  have h255 : (0xFF : ℕ) = 2 ^ 8 - 1 := by omega
  rw [mask, Nat.testBit_and, Nat.testBit_shiftLeft, h255, Nat.testBit_two_pow_sub_one,
    Nat.testBit_two_pow_sub_one]
  by_cases h₁ : 8 - r ≤ i <;> by_cases h₂ : i < 8 <;> simp [h₁, h₂]
  omega

/-- **Under the mask two bytes agree exactly when their highest bits do.** -/
theorem take_ofNat_iff {r : ℕ} (hr : r ≤ 8) (m n : ℕ) :
    (ofNat 8 m).take r = (ofNat 8 n).take r ↔ m &&& mask r = n &&& mask r := by
  constructor
  · intro h
    apply Nat.eq_of_testBit_eq
    intro i
    rw [Nat.testBit_and, Nat.testBit_and, testBit_mask]
    by_cases hi : 8 - r ≤ i ∧ i < 8
    · have hbit := congrArg (·[7 - i]?) h
      simp only [List.getElem?_take_of_lt (show 7 - i < r by omega),
        getElem?_ofNat (show 7 - i < 8 by omega), Option.some.injEq] at hbit
      rw [show 8 - 1 - (7 - i) = i by omega] at hbit
      rw [hbit]
    · rw [decide_eq_false hi, Bool.and_false, Bool.and_false]
  · intro h
    apply List.ext_getElem?
    intro i
    rcases Nat.lt_or_ge i r with hi | hi
    · rw [List.getElem?_take_of_lt hi, List.getElem?_take_of_lt hi, getElem?_ofNat (by omega),
        getElem?_ofNat (by omega)]
      have hbit := congrArg (Nat.testBit · (8 - 1 - i)) h
      have hmask : 8 - r ≤ 8 - 1 - i ∧ 8 - 1 - i < 8 := by omega
      simpa only [Nat.testBit_and, testBit_mask, decide_eq_true hmask, Bool.and_true,
        Option.some.injEq] using hbit
    · rw [List.getElem?_take_eq_none hi, List.getElem?_take_eq_none hi]

/-! ### Bytes -/

/-- The bits of a text of bytes. -/
def ofBytes (l : List UInt8) : List Bool := l.flatMap fun b => ofNat 8 b.toNat

@[simp] theorem ofBytes_nil : ofBytes [] = [] := rfl

@[simp] theorem ofBytes_cons (b : UInt8) (l : List UInt8) :
    ofBytes (b :: l) = ofNat 8 b.toNat ++ ofBytes l := List.flatMap_cons

@[simp] theorem length_ofBytes (l : List UInt8) : (ofBytes l).length = 8 * l.length := by
  induction l with
  | nil => rfl
  | cons b l ih =>
      simp only [ofBytes_cons, List.length_append, length_ofNat, ih, List.length_cons]
      omega

/-- Two bytes with the same bits are the same. -/
theorem ofByte_injective {a b : UInt8} (h : ofNat 8 a.toNat = ofNat 8 b.toNat) : a = b :=
  UInt8.toNat_inj.1 (ofNat_injective a.toNat_lt b.toNat_lt h)

/-- The first `8 + n` bits are those of the first byte and `n` of the rest. -/
theorem take_ofBytes_cons (b : UInt8) (l : List UInt8) (n : ℕ) :
    (ofBytes (b :: l)).take (8 + n) = ofNat 8 b.toNat ++ (ofBytes l).take n := by
  rw [ofBytes_cons, List.take_append, length_ofNat, List.take_of_length_le (by simp),
    Nat.add_sub_cancel_left]

/-- The first bits of two texts agree exactly when the whole bytes among them do, and the first bits of
what comes after these. -/
theorem take_ofBytes_add (k r : ℕ) : ∀ (a b : List UInt8), k ≤ a.length → k ≤ b.length →
    ((ofBytes a).take (8 * k + r) = (ofBytes b).take (8 * k + r) ↔
      a.take k = b.take k ∧ (ofBytes (a.drop k)).take r = (ofBytes (b.drop k)).take r) := by
  induction k with
  | zero =>
      intro a b _ _
      simp
  | succ k ih =>
      intro a b ha hb
      cases a with
      | nil => simp at ha
      | cons p a =>
          cases b with
          | nil => simp at hb
          | cons q b =>
              simp only [List.length_cons] at ha hb
              have hrec := ih a b (by omega) (by omega)
              rw [show 8 * (k + 1) + r = 8 + (8 * k + r) by omega, take_ofBytes_cons,
                take_ofBytes_cons, List.take_succ_cons, List.take_succ_cons, List.cons.injEq,
                List.drop_succ_cons, List.drop_succ_cons, and_assoc, ← hrec]
              constructor
              · intro h
                obtain ⟨hbyte, hrest⟩ := List.append_inj h (by simp)
                exact ⟨ofByte_injective hbyte, hrest⟩
              · rintro ⟨rfl, hrest⟩
                rw [hrest]

/-- Whole bytes agree exactly when their bits do. -/
theorem take_ofBytes_whole_iff {k : ℕ} {a b : List UInt8} (ha : k ≤ a.length) (hb : k ≤ b.length) :
    (ofBytes a).take (8 * k) = (ofBytes b).take (8 * k) ↔ a.take k = b.take k := by
  simpa using take_ofBytes_add k 0 a b ha hb

/-- **The first bits of two texts agree exactly when the whole bytes among them do, and the next byte
under the mask.** -/
theorem take_ofBytes_iff {k r : ℕ} (hr : r ≤ 8) {a b a' b' : List UInt8} {x y : UInt8}
    (ha : a.drop k = x :: a') (hb : b.drop k = y :: b') :
    (ofBytes a).take (8 * k + r) = (ofBytes b).take (8 * k + r) ↔
      a.take k = b.take k ∧ x.toNat &&& mask r = y.toNat &&& mask r := by
  have hle : ∀ {l l' : List UInt8} {z : UInt8}, l.drop k = z :: l' → k ≤ l.length := by
    intro l l' z h
    have hlen := congrArg List.length h
    simp only [List.length_drop, List.length_cons] at hlen
    omega
  have hfirst (z : UInt8) (l : List UInt8) :
      (ofBytes (z :: l)).take r = (ofNat 8 z.toNat).take r := by
    rw [ofBytes_cons, List.take_append_of_le_length (by simpa using hr)]
  rw [take_ofBytes_add k r a b (hle ha) (hle hb), ha, hb, hfirst, hfirst, take_ofNat_iff hr]

end Bits
