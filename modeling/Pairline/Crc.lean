/-
**Cyclic redundancy checks, bit by bit and by a table.**

A check of width `w` takes the bytes of a text one after another, the highest bit first: what has been
computed is shifted, and where a bit falls out the polynomial is added.  A shift is linear, so the
eight shifts of a byte can be looked up in a table of its 256 values.  The two ways are found side by
side in practice, and a client may compute in one way what its server computes in the other.

Main definitions:

* `Crc.shift`, `Crc.byte`, `Crc.ofBytes` — the check, one bit at a time;
* `Crc.table`, `Crc.byteOfTable` — the check, one byte at a time.

Main results:

* `Crc.byte_eq_byteOfTable` — **the two agree**.
-/

import Mathlib.Logic.Function.Iterate

set_option relaxedAutoImplicit false
set_option autoImplicit false

namespace Crc

variable {w : ℕ} (polynomial : BitVec w)

/-- One bit: the polynomial is added where a bit falls out. -/
def shift (crc : BitVec w) : BitVec w :=
  if crc.msb then (crc <<< 1) ^^^ polynomial else crc <<< 1

/-- A byte as the highest eight bits. -/
def lifted (b : BitVec 8) : BitVec w := b.setWidth w <<< (w - 8)

/-- One byte, bit by bit. -/
def byte (crc : BitVec w) (b : BitVec 8) : BitVec w := (shift polynomial)^[8] (crc ^^^ lifted b)

/-- **The check of some bytes.** -/
def ofBytes (bytes : List UInt8) : BitVec w :=
  bytes.foldl (fun crc b => byte polynomial crc b.toBitVec) 0

/-- The eight shifts of a byte. -/
def table (b : BitVec 8) : BitVec w := (shift polynomial)^[8] (lifted b)

/-- One byte, by the table. -/
def byteOfTable (crc : BitVec w) (b : BitVec 8) : BitVec w :=
  (crc <<< 8) ^^^ table polynomial ((crc >>> (w - 8)).setWidth 8 ^^^ b)

/-! ### A shift is linear -/

theorem shift_xor (a b : BitVec w) :
    shift polynomial (a ^^^ b) = shift polynomial a ^^^ shift polynomial b := by
  unfold shift
  rw [BitVec.msb_xor]
  apply BitVec.eq_of_getLsbD_eq
  intro i _
  cases a.msb <;> cases b.msb <;>
    simp only [Bool.xor_false, Bool.xor_true, Bool.not_true, Bool.not_false, if_true,
      Bool.false_eq_true, if_false, BitVec.getLsbD_xor, BitVec.shiftLeft_xor_distrib] <;>
    cases (a <<< 1).getLsbD i <;> cases (b <<< 1).getLsbD i <;> cases polynomial.getLsbD i <;> rfl

theorem iterate_shift_xor (n : ℕ) (a b : BitVec w) :
    (shift polynomial)^[n] (a ^^^ b) = (shift polynomial)^[n] a ^^^ (shift polynomial)^[n] b := by
  induction n generalizing a b with
  | zero => rfl
  | succ n ih =>
      rw [Function.iterate_succ_apply, Function.iterate_succ_apply, Function.iterate_succ_apply,
        shift_xor, ih]

/-- As long as no bit falls out, the shifts do nothing else. -/
theorem iterate_shift_of_clear {crc : BitVec w} {n : ℕ} (hn : n ≤ w)
    (h : ∀ i < w, w - n ≤ i → crc.getLsbD i = false) :
    (shift polynomial)^[n] crc = crc <<< n := by
  induction n with
  | zero => rw [Function.iterate_zero_apply, BitVec.shiftLeft_zero]
  | succ n ih =>
      rw [Function.iterate_succ_apply', ih (by omega) fun i hi hle => h i hi (by omega)]
      have hclear : (crc <<< n).msb = false := by
        rw [BitVec.msb_eq_getLsbD_last, BitVec.getLsbD_shiftLeft]
        rw [h (w - 1 - n) (by omega) (by omega), Bool.and_false]
      rw [shift, hclear, if_neg Bool.false_ne_true, ← BitVec.shiftLeft_add]

/-! ### The table -/

/-- The highest eight bits, and what is below them. -/
theorem getLsbD_lifted (hw : 8 ≤ w) (b : BitVec 8) {i : ℕ} (hi : i < w) :
    (lifted b : BitVec w).getLsbD i = (decide (w - 8 ≤ i) && b.getLsbD (i - (w - 8))) := by
  rw [lifted, BitVec.getLsbD_shiftLeft, BitVec.getLsbD_setWidth]
  by_cases h : i < w - 8
  · have hnot : ¬ w - 8 ≤ i := by omega
    rw [decide_eq_true h, decide_eq_false hnot]
    simp
  · have hlt : i - (w - 8) < w := by omega
    simp [h, hi, hlt, Nat.not_lt.1 h]

/-- **A byte is looked up in the table.** -/
theorem byte_eq_byteOfTable (hw : 8 ≤ w) (crc : BitVec w) (b : BitVec 8) :
    byte polynomial crc b = byteOfTable polynomial crc b := by
  -- the highest byte of what has been computed is taken off; the rest is only shifted
  have hsplit : crc ^^^ lifted b =
      (crc ^^^ lifted ((crc >>> (w - 8)).setWidth 8)) ^^^
        lifted ((crc >>> (w - 8)).setWidth 8 ^^^ b) := by
    apply BitVec.eq_of_getLsbD_eq
    intro i hi
    simp only [BitVec.getLsbD_xor, getLsbD_lifted hw _ hi]
    cases decide (w - 8 ≤ i) <;> cases crc.getLsbD i <;>
      cases ((crc >>> (w - 8)).setWidth 8).getLsbD (i - (w - 8)) <;>
      cases b.getLsbD (i - (w - 8)) <;> rfl
  have hclear : ∀ i < w, w - 8 ≤ i →
      (crc ^^^ lifted ((crc >>> (w - 8)).setWidth 8)).getLsbD i = false := by
    intro i hi hle
    rw [BitVec.getLsbD_xor, getLsbD_lifted hw _ hi, BitVec.getLsbD_setWidth,
      BitVec.getLsbD_ushiftRight]
    have hlt : i - (w - 8) < 8 := by omega
    have hadd : w - 8 + (i - (w - 8)) = i := by omega
    simp [hle, hlt, hadd]
  have hlow : (crc ^^^ lifted ((crc >>> (w - 8)).setWidth 8)) <<< 8 = crc <<< 8 := by
    apply BitVec.eq_of_getLsbD_eq
    intro i hi
    rw [BitVec.getLsbD_shiftLeft, BitVec.getLsbD_shiftLeft, BitVec.getLsbD_xor]
    by_cases h : i < 8
    · simp [h]
    · have hnot : ¬ w - 8 ≤ i - 8 := by omega
      rw [getLsbD_lifted hw _ (by omega), decide_eq_false hnot, Bool.false_and, Bool.xor_false]
  rw [byte, hsplit, iterate_shift_xor, iterate_shift_of_clear polynomial hw hclear, hlow, byteOfTable,
    table]

end Crc
