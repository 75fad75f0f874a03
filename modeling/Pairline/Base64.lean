/-
**Base 64 without padding, with the alphabet for file names and addresses.**

Three bytes make four characters of six bits each; one byte at the end makes two characters and two
make three.  The decoder passes over line breaks, refuses every other character outside the alphabet
and a single character at the end, and does not look at the bits that are left over.

Main definitions:

* `Base64.encode`, `Base64.decode` — the two directions, on lists of bytes.

Main results:

* `Base64.decode_encode` — **decoding an encoding gives back the bytes**;
* `Base64.encode_injective` — so no two lists of bytes have the same encoding;
* `Base64.mem_alphabet_of_mem_encode` — and an encoding has characters of the alphabet only.
-/

import Mathlib.Data.List.Basic
import Mathlib.Tactic.NormNum

set_option relaxedAutoImplicit false
set_option autoImplicit false

namespace Base64

/-! ### The alphabet -/

/-- The character of six bits: `A` to `Z`, `a` to `z`, `0` to `9`, `-` and `_`. -/
def char (n : ℕ) : UInt8 :=
  if n < 26 then UInt8.ofNat (65 + n)
  else if n < 52 then UInt8.ofNat (97 + (n - 26))
  else if n < 62 then UInt8.ofNat (48 + (n - 52))
  else if n = 62 then 45 else 95

/-- The six bits of a character of the alphabet. -/
def value (c : UInt8) : Option ℕ :=
  let n := c.toNat
  if 65 ≤ n ∧ n ≤ 90 then some (n - 65)
  else if 97 ≤ n ∧ n ≤ 122 then some (n - 97 + 26)
  else if 48 ≤ n ∧ n ≤ 57 then some (n - 48 + 52)
  else if n = 45 then some 62
  else if n = 95 then some 63 else none

theorem value_char {n : ℕ} (h : n < 64) : value (char n) = some n := by
  revert n
  decide

/-- A line feed or a carriage return. -/
def isLineBreak (c : UInt8) : Bool := c = 10 || c = 13

theorem not_isLineBreak_of_value {c : UInt8} {n : ℕ} (h : value c = some n) :
    isLineBreak c = false := by
  cases hbreak : isLineBreak c with
  | false => rfl
  | true =>
      simp only [isLineBreak, Bool.or_eq_true, decide_eq_true_eq] at hbreak
      rcases hbreak with rfl | rfl <;> cases h

/-! ### Groups of six bits -/

def toSextets : List UInt8 → List ℕ
  | [] => []
  | [a] => [a.toNat / 4, a.toNat % 4 * 16]
  | [a, b] => [a.toNat / 4, a.toNat % 4 * 16 + b.toNat / 16, b.toNat % 16 * 4]
  | a :: b :: c :: rest =>
      a.toNat / 4 :: (a.toNat % 4 * 16 + b.toNat / 16) :: (b.toNat % 16 * 4 + c.toNat / 64) ::
        c.toNat % 64 :: toSextets rest

def ofSextets : List ℕ → Option (List UInt8)
  | [] => some []
  | [_] => none
  | [x, y] => some [UInt8.ofNat (x * 4 + y / 16)]
  | [x, y, z] => some [UInt8.ofNat (x * 4 + y / 16), UInt8.ofNat (y % 16 * 16 + z / 4)]
  | x :: y :: z :: w :: rest =>
      (ofSextets rest).map fun bytes =>
        UInt8.ofNat (x * 4 + y / 16) :: UInt8.ofNat (y % 16 * 16 + z / 4) ::
          UInt8.ofNat (z % 4 * 64 + w) :: bytes

theorem lt_of_mem_toSextets (bytes : List UInt8) : ∀ n ∈ toSextets bytes, n < 64 := by
  induction bytes using toSextets.induct with
  | case1 => simp [toSextets]
  | case2 a =>
      have ha := a.toNat_lt
      simp only [toSextets, List.mem_cons, List.not_mem_nil, or_false]
      omega
  | case3 a b =>
      have ha := a.toNat_lt
      have hb := b.toNat_lt
      simp only [toSextets, List.mem_cons, List.not_mem_nil, or_false]
      omega
  | case4 a b c rest ih =>
      have ha := a.toNat_lt
      have hb := b.toNat_lt
      have hc := c.toNat_lt
      intro n hn
      simp only [toSextets, List.mem_cons] at hn
      rcases hn with rfl | rfl | rfl | rfl | hn
      · omega
      · omega
      · omega
      · omega
      · exact ih n hn

theorem ofNat_eq {b : UInt8} {n : ℕ} (h : n = b.toNat) : UInt8.ofNat n = b := by
  rw [h, UInt8.ofNat_toNat]

/-- **The groups of six bits make up the bytes again.** -/
theorem ofSextets_toSextets (bytes : List UInt8) : ofSextets (toSextets bytes) = some bytes := by
  induction bytes using toSextets.induct with
  | case1 => rfl
  | case2 a =>
      have ha := a.toNat_lt
      simp only [toSextets, ofSextets]
      rw [ofNat_eq (b := a) (by omega)]
  | case3 a b =>
      have ha := a.toNat_lt
      have hb := b.toNat_lt
      simp only [toSextets, ofSextets]
      rw [ofNat_eq (b := a) (by omega), ofNat_eq (b := b) (by omega)]
  | case4 a b c rest ih =>
      have ha := a.toNat_lt
      have hb := b.toNat_lt
      have hc := c.toNat_lt
      simp only [toSextets, ofSextets, ih, Option.map_some]
      rw [ofNat_eq (b := a) (by omega), ofNat_eq (b := b) (by omega), ofNat_eq (b := c) (by omega)]

/-! ### Characters -/

/-- `base64.RawURLEncoding.EncodeToString`. -/
def encode (bytes : List UInt8) : List UInt8 := (toSextets bytes).map char

/-- `base64.RawURLEncoding.DecodeString`. -/
def decode (text : List UInt8) : Option (List UInt8) :=
  ((text.filter fun c => !isLineBreak c).mapM value).bind ofSextets

theorem mapM_value_map_char {sextets : List ℕ} (h : ∀ n ∈ sextets, n < 64) :
    (sextets.map char).mapM value = some sextets := by
  induction sextets with
  | nil => rfl
  | cons n sextets ih =>
      have hn := value_char (h n List.mem_cons_self)
      have hrest := ih fun m hm => h m (List.mem_cons_of_mem _ hm)
      simp [List.mapM_cons, hn, hrest]

/-- **An encoding has characters of the alphabet only.** -/
theorem mem_alphabet_of_mem_encode {bytes : List UInt8} {c : UInt8} (h : c ∈ encode bytes) :
    ∃ n, value c = some n := by
  obtain ⟨n, hn, rfl⟩ := List.mem_map.1 h
  exact ⟨n, value_char (lt_of_mem_toSextets bytes n hn)⟩

/-- **Decoding an encoding gives back the bytes.** -/
theorem decode_encode (bytes : List UInt8) : decode (encode bytes) = some bytes := by
  have hfilter : (encode bytes).filter (fun c => !isLineBreak c) = encode bytes := by
    refine List.filter_eq_self.2 fun c hc => ?_
    obtain ⟨n, hn⟩ := mem_alphabet_of_mem_encode hc
    rw [not_isLineBreak_of_value hn]
    rfl
  rw [decode, hfilter, encode, mapM_value_map_char (lt_of_mem_toSextets bytes), Option.bind_some,
    ofSextets_toSextets]

/-- **No two lists of bytes have the same encoding.** -/
theorem encode_injective : Function.Injective encode := fun bytes bytes' h => by
  have hdecode := congrArg decode h
  rw [decode_encode, decode_encode] at hdecode
  exact Option.some_inj.1 hdecode

example : encode "ab:c".toUTF8.toList = "YWI6Yw".toUTF8.toList := by decide +kernel

end Base64
