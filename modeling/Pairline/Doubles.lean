/-
**Double precision numbers, and their decimals.**

A double is a rational number with at most 53 binary digits; a number that is read is rounded to the
nearest one, halfway to an even last digit, unless it is out of range.  A double is printed as the
shortest decimal that is read as the same double.  The two zeros are one number here, and there are no
infinities.

Main definitions:

* `Doubles.lastPlace`, `Doubles.nearest` — the nearest double;
* `Doubles.Decimal`, `Doubles.shortest` — decimals, and the shortest one for a double.

Main results:

* `Doubles.nearest_nearest` — **a double is its own nearest**;
* `Doubles.nearest_intCast` — an integer of at most 53 binary digits is a double;
* `Doubles.nearest_shortest` — **what is printed is read as it was**.
-/

import Mathlib.Algebra.Order.Round
import Mathlib.Data.Int.Log
import Mathlib.Data.Rat.Floor
import Mathlib.Tactic.FieldSimp
import Mathlib.Tactic.Linarith
import Mathlib.Tactic.NormNum
import Mathlib.Tactic.Positivity
import Mathlib.Tactic.Ring

set_option relaxedAutoImplicit false
set_option autoImplicit false

namespace Doubles

/-! ### Rounding -/

/-- The nearest integer, halfway the even one. -/
def roundEven (q : ℚ) : ℤ :=
  if q - ⌊q⌋ < 1 / 2 then ⌊q⌋
  else if 1 / 2 < q - ⌊q⌋ then ⌊q⌋ + 1
  else if ⌊q⌋ % 2 = 0 then ⌊q⌋ else ⌊q⌋ + 1

/-- The exponent of the last binary digit of a double near a number. -/
def lastPlace (q : ℚ) : ℤ := max (Int.log 2 |q| - 52) (-1074)

/-- The double nearest to a number; none when it is out of range. -/
def nearest (q : ℚ) : Option ℚ :=
  let r := (roundEven (q / 2 ^ lastPlace q) : ℚ) * 2 ^ lastPlace q
  if |r| < 2 ^ 1024 then some r else none

theorem roundEven_intCast (n : ℤ) : roundEven n = n := by
  simp [roundEven]

theorem roundEven_le_succ_floor (q : ℚ) : roundEven q ≤ ⌊q⌋ + 1 := by
  unfold roundEven
  split_ifs <;> omega

theorem floor_le_roundEven (q : ℚ) : ⌊q⌋ ≤ roundEven q := by
  unfold roundEven
  split_ifs <;> omega

/-- Rounding does not lead beyond an integer. -/
theorem abs_roundEven_le {q : ℚ} {n : ℤ} (h : |q| < n) : |roundEven q| ≤ n := by
  obtain ⟨hlow, hhigh⟩ := abs_lt.1 h
  have hfloor : -n ≤ ⌊q⌋ := by
    rw [Int.le_floor]
    push_cast
    exact hlow.le
  have hfloor' : ⌊q⌋ < n := Int.floor_lt.2 hhigh
  have := roundEven_le_succ_floor q
  have := floor_le_roundEven q
  rw [abs_le]
  omega

/-- A number is a double when it is a multiple of its last place, and in range. -/
theorem nearest_of_multiple {q : ℚ} {n : ℤ} (h : q = n * 2 ^ lastPlace q) (hrange : |q| < 2 ^ 1024) :
    nearest q = some q := by
  have hpos : (0 : ℚ) < 2 ^ lastPlace q := zpow_pos (by norm_num) _
  have hdiv : q / 2 ^ lastPlace q = n := by
    rw [div_eq_iff hpos.ne']
    exact h
  have hround : (roundEven (q / 2 ^ lastPlace q) : ℚ) * 2 ^ lastPlace q = q := by
    rw [hdiv, roundEven_intCast, ← h]
  simp only [nearest, hround, if_pos hrange]

/-- What is a multiple of a power of two is one of every lower power. -/
theorem multiple_of_le {n e e' : ℤ} (h : e' ≤ e) :
    ∃ k : ℤ, (n : ℚ) * 2 ^ e = k * 2 ^ e' := by
  obtain ⟨d, rfl⟩ := Int.le.dest h
  refine ⟨n * 2 ^ d, ?_⟩
  rw [zpow_add₀ (by norm_num), zpow_natCast]
  push_cast
  ring

theorem log_lt_of_abs_lt {q : ℚ} (hq : q ≠ 0) {e : ℤ} (h : |q| < 2 ^ e) : Int.log 2 |q| < e := by
  have hpos : 0 < |q| := abs_pos.2 hq
  refine (Int.lt_zpow_iff_log_lt (b := 2) (by norm_num) hpos).1 ?_
  exact_mod_cast h

/-- **A number of at most 53 binary digits from a place on is a double.** -/
theorem nearest_of_digits {n e : ℤ} (hn : |n| ≤ 2 ^ 53) (he : -1074 ≤ e)
    (hrange : |(n : ℚ) * 2 ^ e| < 2 ^ 1024) : nearest ((n : ℚ) * 2 ^ e) = some ((n : ℚ) * 2 ^ e) := by
  have hpow : (0 : ℚ) < 2 ^ e := zpow_pos (by norm_num) _
  rcases eq_or_ne n 0 with rfl | hne
  · exact nearest_of_multiple (n := 0) (by simp) hrange
  have hq : (n : ℚ) * 2 ^ e ≠ 0 := mul_ne_zero (Int.cast_ne_zero.2 hne) hpow.ne'
  have habs : |(n : ℚ) * 2 ^ e| = |(n : ℚ)| * 2 ^ e := by rw [abs_mul, abs_of_pos hpow]
  rcases hn.lt_or_eq with hlt | heq
  · -- fewer digits than there is room for: the last place is no higher
    have hlast : lastPlace ((n : ℚ) * 2 ^ e) ≤ e := by
      have hlog : Int.log 2 |(n : ℚ) * 2 ^ e| < 53 + e := by
        refine log_lt_of_abs_lt hq ?_
        rw [habs, zpow_add₀ (by norm_num)]
        refine mul_lt_mul_of_pos_right ?_ hpow
        exact_mod_cast hlt
      unfold lastPlace
      omega
    obtain ⟨k, hk⟩ := multiple_of_le (n := n) hlast
    exact nearest_of_multiple hk hrange
  · -- a power of two, with its last place one higher
    have hcast : |(n : ℚ)| = 2 ^ (53 : ℤ) := by
      rw [← Int.cast_abs, heq]
      norm_num
    have hlog : Int.log 2 |(n : ℚ) * 2 ^ e| = 53 + e := by
      rw [habs, hcast, ← zpow_add₀ (by norm_num)]
      exact_mod_cast Int.log_zpow (R := ℚ) (b := 2) (by norm_num) (53 + e)
    have hlast : lastPlace ((n : ℚ) * 2 ^ e) = e + 1 := by
      unfold lastPlace
      omega
    have heven : ∃ k : ℤ, n = k * 2 := by
      rcases abs_eq (by norm_num) |>.1 heq with h | h
      · exact ⟨2 ^ 52, by rw [h]; norm_num⟩
      · exact ⟨-2 ^ 52, by rw [h]; norm_num⟩
    obtain ⟨k, hk⟩ := heven
    refine nearest_of_multiple (n := k) ?_ hrange
    rw [hlast, zpow_add₀ (by norm_num), hk]
    push_cast
    ring

/-- The nearest double has at most 53 binary digits. -/
theorem nearest_digits {q r : ℚ} (h : nearest q = some r) :
    ∃ n e : ℤ, |n| ≤ 2 ^ 53 ∧ -1074 ≤ e ∧ r = n * 2 ^ e ∧ |r| < 2 ^ 1024 := by
  simp only [nearest] at h
  split at h
  · next hrange =>
      obtain rfl := Option.some.inj h
      refine ⟨_, lastPlace q, ?_, le_max_right _ _, rfl, hrange⟩
      refine abs_roundEven_le ?_
      have hpos : (0 : ℚ) < 2 ^ lastPlace q := zpow_pos (by norm_num) _
      rw [abs_div, abs_of_pos hpos, div_lt_iff₀ hpos]
      rcases eq_or_ne q 0 with rfl | hq
      · simp only [abs_zero]
        positivity
      · -- the number is below the power of two after its own
        have hlog : |q| < 2 ^ (Int.log 2 |q| + 1) := by
          exact_mod_cast Int.lt_zpow_succ_log_self (R := ℚ) (b := 2) (by norm_num) |q|
        have hle : (2 : ℚ) ^ (Int.log 2 |q| + 1) ≤ 2 ^ (53 + lastPlace q) := by
          refine zpow_le_zpow_right₀ (by norm_num) ?_
          unfold lastPlace
          omega
        refine (hlog.trans_le hle).trans_eq ?_
        rw [zpow_add₀ (by norm_num)]
        norm_num
  · cases h

/-- **A double is its own nearest.** -/
theorem nearest_nearest {q r : ℚ} (h : nearest q = some r) : nearest r = some r := by
  obtain ⟨n, e, hn, he, rfl, hrange⟩ := nearest_digits h
  exact nearest_of_digits hn he hrange

/-- An integer of at most 53 binary digits is a double. -/
theorem nearest_intCast {n : ℤ} (h : |n| ≤ 2 ^ 53) : nearest n = some (n : ℚ) := by
  have hcast : |(n : ℚ)| ≤ 2 ^ 53 := by
    rw [← Int.cast_abs]
    exact_mod_cast h
  have hlt : |(n : ℚ)| < 2 ^ 1024 := hcast.trans_lt (pow_lt_pow_right₀ (by norm_num) (by norm_num))
  simpa using nearest_of_digits (n := n) (e := 0) h (by norm_num) (by simpa using hlt)

@[simp] theorem nearest_zero : nearest 0 = some 0 := by
  simpa using nearest_intCast (n := 0) (by norm_num)

/-! ### Decimals -/

/-- A decimal, as a number of digits and the exponent of the last. -/
structure Decimal where
  mantissa : ℤ
  exponent : ℤ

def Decimal.value (d : Decimal) : ℚ := d.mantissa * 10 ^ d.exponent

/-- The decimal with the given number of places that is read as a double: the closest one, or else
the one on its other side. -/
def withPlaces (q : ℚ) (places : ℤ) : Option Decimal :=
  let x := q * 10 ^ places
  ([roundEven x, ⌊x⌋, ⌊x⌋ + 1].map fun n => Decimal.mk n (-places)).find? fun d =>
    nearest d.value = some q

/-- **The shortest decimal that is read as a double**, from one digit on; the exact one would do. -/
def shortest (q : ℚ) : Decimal :=
  ((List.range 800).findSome? fun k => withPlaces q (k - Int.log 10 |q|)).getD
    ⟨(q * 10 ^ 1074).num, -1074⟩

/-- The binary places of a number are decimal places. -/
theorem scaled_eq (k : ℤ) (places : ℕ) :
    (k : ℚ) * 2 ^ (-(places : ℤ)) * 10 ^ places = ((k * 5 ^ places : ℤ) : ℚ) := by
  have hten : (10 : ℚ) ^ places = 2 ^ places * 5 ^ places := by
    rw [← mul_pow]
    norm_num
  rw [hten, zpow_neg, zpow_natCast]
  push_cast
  field_simp

/-- A number with finitely many binary places, as a decimal. -/
theorem value_exact (k : ℤ) (places : ℕ) :
    (Decimal.mk ((k : ℚ) * 2 ^ (-(places : ℤ)) * 10 ^ places).num (-places)).value =
      k * 2 ^ (-(places : ℤ)) := by
  rw [Decimal.value, scaled_eq, Rat.num_intCast, ← scaled_eq, zpow_neg 10, zpow_natCast]
  field_simp

/-- **What is printed is read as it was.** -/
theorem nearest_shortest {q r : ℚ} (h : nearest q = some r) :
    nearest (shortest r).value = some r := by
  unfold shortest
  cases hfind : (List.range 800).findSome? fun k => withPlaces r (k - Int.log 10 |r|) with
  | some d =>
      obtain ⟨k, -, hk⟩ := List.exists_of_findSome?_eq_some hfind
      simpa using List.find?_some hk
  | none =>
      -- all digits of a double stand before the last place that there is
      obtain ⟨n, e, -, he, hr, -⟩ := nearest_digits h
      obtain ⟨k, hk⟩ := multiple_of_le (n := n) he
      obtain rfl : r = k * 2 ^ (-((1074 : ℕ) : ℤ)) := hr.trans hk
      rw [Option.getD_none]
      exact (congrArg nearest (value_exact k 1074)).trans (nearest_nearest h)

end Doubles
