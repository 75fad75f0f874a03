/-
**UTF-8 on lists of bytes.**

A text is encoded character by character.  A byte from `0x80` to `0xBF` continues a character, any
other begins one; so a text cut at some byte is valid again exactly when the cut is not made before a
byte that continues a character.

Main definitions:

* `Utf8.encode`, `Utf8.Valid` — the bytes of a text, and the bytes that are those of some text;
* `Utf8.continues` — a byte that continues a character;
* `Utf8.runes` — the characters of any bytes.

Main results:

* `Utf8.valid_take_iff` — **a cut text is valid exactly when the byte after the cut begins a
  character**;
* `Utf8.exists_space_of_begins` — bytes that count as white space encode a character of white space;
* `Utf8.valid_trimSpace_iff` — trimming bytes neither mends nor breaks a text;
* `Utf8.runes_encode` — the characters of an encoded text are those of the text.
-/

import Mathlib.Tactic.IntervalCases
import Pairline.ByteSpace
import Pairline.Whitespace

set_option relaxedAutoImplicit false
set_option autoImplicit false

namespace Utf8

open String (utf8EncodeChar)

/-- The bytes of a text. -/
def encode (s : List Char) : List UInt8 := s.flatMap utf8EncodeChar

/-- Bytes that are those of some text. -/
def Valid (bytes : List UInt8) : Prop := ∃ s, bytes = encode s

/-- The byte continues a character. -/
def continues (byte : UInt8) : Bool := 0x80 ≤ byte.toNat && byte.toNat < 0xC0

@[simp] theorem encode_nil : encode [] = [] := rfl

theorem encode_cons (c : Char) (s : List Char) : encode (c :: s) = utf8EncodeChar c ++ encode s :=
  List.flatMap_cons

theorem encode_append (s t : List Char) : encode (s ++ t) = encode s ++ encode t :=
  List.flatMap_append

theorem length_utf8EncodeChar_pos (c : Char) : 0 < (utf8EncodeChar c).length := by
  rw [String.length_utf8EncodeChar]
  exact c.utf8Size_pos

/-- What the bytes of a string are. -/
theorem toList_toUTF8 (s : String) : s.toUTF8.toList = encode s.toList := by
  have hloop : ∀ (bytes : ByteArray) (n i : ℕ) (r : List UInt8), bytes.size - i = n →
      ByteArray.toList.loop bytes i r = r.reverse ++ bytes.data.toList.drop i := by
    intro bytes n
    induction n with
    | zero =>
        intro i r hn
        have hsize : bytes.data.toList.length ≤ i := by
          rw [Array.length_toList]
          exact Nat.le_of_sub_eq_zero hn
        rw [ByteArray.toList.loop, if_neg (by omega), List.drop_eq_nil_of_le hsize, List.append_nil]
    | succ n ih =>
        intro i r hn
        have hi : i < bytes.data.toList.length := by
          rw [Array.length_toList]
          show i < bytes.size
          omega
        rw [ByteArray.toList.loop, if_pos (by omega), ih (i + 1) _ (by omega),
          List.drop_eq_getElem_cons hi]
        have hget : bytes.get! i = bytes.data.toList[i] := by
          rw [Array.length_toList] at hi
          show bytes.data[i]! = _
          rw [getElem!_pos bytes.data i hi, Array.getElem_toList]
        simp [hget]
  have hlist : s.toUTF8.toList = s.toUTF8.data.toList := by
    rw [ByteArray.toList, hloop _ _ 0 [] rfl]
    simp
  rw [hlist]
  have hbytes : s.toUTF8 = s.toList.utf8Encode := by simp
  rw [hbytes]
  simp [List.utf8Encode, encode]

theorem length_encode (s : String) : (encode s.toList).length = s.utf8ByteSize := by
  have hbytes : s.toByteArray = s.toList.utf8Encode := by simp
  rw [← String.size_toByteArray, hbytes]
  simp [List.utf8Encode, encode]

theorem encode_sublist {s t : List Char} (h : s.Sublist t) : (encode s).Sublist (encode t) := by
  induction h with
  | slnil => exact List.Sublist.refl _
  | cons c _ ih =>
      rw [encode_cons]
      exact ih.trans (List.sublist_append_right _ _)
  | cons_cons c _ ih =>
      rw [encode_cons, encode_cons]
      exact (List.Sublist.refl _).append ih

/-- A text takes no more bytes with some characters left out. -/
theorem byteSize_le_of_sublist {s t : String} (h : s.toList.Sublist t.toList) :
    s.utf8ByteSize ≤ t.utf8ByteSize := by
  rw [← length_encode, ← length_encode]
  exact (encode_sublist h).length_le

/-! ### Characters in bytes -/

/-- The first character can be read off the bytes. -/
theorem eq_of_append_eq {c d : Char} {x y : List UInt8}
    (h : utf8EncodeChar c ++ x = utf8EncodeChar d ++ y) : c = d := by
  have hdecode := congrArg (fun l : List UInt8 => l.toByteArray.utf8DecodeChar? 0) h
  simp only [List.toByteArray_append, ByteArray.utf8DecodeChar?_utf8EncodeChar_append] at hdecode
  exact Option.some.inj hdecode

theorem continues_ofNat {n : ℕ} (h : n < 256) :
    continues (UInt8.ofNat n) = (0x80 ≤ n && n < 0xC0) := by
  have hn : (UInt8.ofNat n).toNat = n := by
    rw [UInt8.toNat_ofNat']
    omega
  simp only [continues, hn]

/-- A character is one byte that begins it and some that continue it; the first is the character
itself where it is ASCII. -/
theorem exists_eq_cons (c : Char) : ∃ byte rest, utf8EncodeChar c = byte :: rest ∧
    (byte.toNat < 0x80 ∧ c.toNat = byte.toNat ∨ 0xC0 ≤ byte.toNat) ∧
      ∀ b ∈ rest, continues b = true := by
  have hmax : c.val.toNat < 0x110000 := by
    obtain h | h := c.valid <;> omega
  have hval : c.toNat = c.val.toNat := rfl
  have hyes : ∀ n : ℕ, continues (UInt8.ofNat (n % 0x40 + 0x80)) = true := by
    intro n
    rw [continues_ofNat (by omega), Bool.and_eq_true, decide_eq_true_eq, decide_eq_true_eq]
    omega
  simp only [utf8EncodeChar]
  split_ifs with h1 h2 h3
  · refine ⟨_, _, rfl, .inl ?_, by simp⟩
    rw [UInt8.toNat_ofNat']
    omega
  all_goals
    refine ⟨_, _, rfl, .inr ?_, ?_⟩
    · rw [UInt8.toNat_ofNat']
      omega
    · simp only [List.mem_cons, List.not_mem_nil, or_false, forall_eq_or_imp, forall_eq, hyes,
        and_self]

/-- A byte of ASCII is a character of its own. -/
theorem toNat_eq_of_mem_utf8EncodeChar {c : Char} {byte : UInt8} (h : byte.toNat < 0x80)
    (hmem : byte ∈ utf8EncodeChar c) : c.toNat = byte.toNat := by
  obtain ⟨first, rest, hc, hfirst, hrest⟩ := exists_eq_cons c
  rw [hc, List.mem_cons] at hmem
  obtain rfl | hmem := hmem
  · omega
  · have hcontinues := hrest byte hmem
    simp only [continues, Bool.and_eq_true, decide_eq_true_eq] at hcontinues
    omega

/-- A character of ASCII is a byte of its own. -/
theorem toNat_of_mem_utf8EncodeChar {c : Char} {byte : UInt8} (h : c.toNat < 0x80)
    (hmem : byte ∈ utf8EncodeChar c) : byte.toNat = c.toNat := by
  have hval : c.toNat = c.val.toNat := rfl
  have hone : c.val.toNat ≤ 0x7F := by omega
  simp only [utf8EncodeChar, if_pos hone, List.mem_singleton] at hmem
  rw [hmem, UInt8.toNat_ofNat']
  omega

theorem continues_of_begins {byte : UInt8} {n : ℕ}
    (h : byte.toNat < 0x80 ∧ n = byte.toNat ∨ 0xC0 ≤ byte.toNat) : continues byte = false := by
  rw [continues, Bool.and_eq_false_iff, decide_eq_false_iff_not, decide_eq_false_iff_not]
  omega

/-- No text holds a byte of ASCII unless it holds that character. -/
theorem not_mem_encode {s : List Char} {byte : UInt8} (h : byte.toNat < 0x80)
    (hs : ∀ c ∈ s, c.toNat ≠ byte.toNat) : byte ∉ encode s := by
  intro hmem
  obtain ⟨c, hc, hbyte⟩ := List.mem_flatMap.1 hmem
  exact hs c hc (toNat_eq_of_mem_utf8EncodeChar h hbyte)

/-! ### Cutting a text -/

theorem valid_encode (s : List Char) : Valid (encode s) := ⟨s, rfl⟩

theorem valid_nil : Valid [] := ⟨[], rfl⟩

theorem Valid.append {a b : List UInt8} (ha : Valid a) (hb : Valid b) : Valid (a ++ b) := by
  obtain ⟨s, rfl⟩ := ha
  obtain ⟨t, rfl⟩ := hb
  exact ⟨s ++ t, (encode_append s t).symm⟩

/-- A whole character may be taken off the beginning. -/
theorem valid_utf8EncodeChar_append_iff {c : Char} {bytes : List UInt8} :
    Valid (utf8EncodeChar c ++ bytes) ↔ Valid bytes := by
  constructor
  · rintro ⟨s, hs⟩
    cases s with
    | nil =>
        have hlength := congrArg List.length hs
        have hpos := length_utf8EncodeChar_pos c
        rw [List.length_append, encode_nil, List.length_nil] at hlength
        omega
    | cons d s =>
        rw [encode_cons] at hs
        obtain rfl := eq_of_append_eq hs
        exact ⟨s, List.append_cancel_left hs⟩
  · exact (Valid.append ⟨[c], by simp [encode]⟩ ·)

/-- A part of a character is no text. -/
theorem not_valid_take_utf8EncodeChar {c : Char} {n : ℕ} (hpos : 0 < n)
    (hn : n < (utf8EncodeChar c).length) : ¬Valid ((utf8EncodeChar c).take n) := by
  rintro ⟨s, hs⟩
  have hlength := congrArg List.length hs
  rw [List.length_take, Nat.min_eq_left hn.le] at hlength
  cases s with
  | nil =>
      rw [encode_nil, List.length_nil] at hlength
      omega
  | cons d s =>
      rw [encode_cons] at hs
      have hsplit : utf8EncodeChar d ++ (encode s ++ (utf8EncodeChar c).drop n) =
          utf8EncodeChar c ++ [] := by
        rw [← List.append_assoc, ← hs, List.take_append_drop, List.append_nil]
      obtain rfl := eq_of_append_eq hsplit
      rw [encode_cons, List.length_append] at hlength
      omega

/-- **A cut text is valid exactly when the byte after the cut begins a character.** -/
theorem valid_take_iff {s : List Char} {n : ℕ} (hn : n < (encode s).length) :
    Valid ((encode s).take n) ↔ continues (encode s)[n] = false := by
  induction s generalizing n with
  | nil => cases hn
  | cons c s ih =>
      simp only [encode_cons] at hn ⊢
      obtain ⟨byte, rest, hc, hfirst, hrest⟩ := exists_eq_cons c
      have hbyte := continues_of_begins hfirst
      by_cases hinside : n < (utf8EncodeChar c).length
      · rw [List.getElem_append_left hinside, List.take_append_of_le_length hinside.le]
        cases n with
        | zero => simp [hc, hbyte, valid_nil]
        | succ n =>
            have hcontinues : continues (utf8EncodeChar c)[n + 1] = true := by
              apply hrest
              simp [hc]
            rw [hcontinues]
            simpa using not_valid_take_utf8EncodeChar (Nat.succ_pos n) hinside
      · have hlater : (utf8EncodeChar c).length ≤ n := Nat.le_of_not_lt hinside
        rw [List.getElem_append_right hlater, List.take_append, List.take_of_length_le hlater,
          valid_utf8EncodeChar_append_iff]
        rw [List.length_append] at hn
        exact ih (by omega)

/-- A whole character may be taken off the end. -/
theorem valid_append_utf8EncodeChar_iff {c : Char} {bytes : List UInt8} :
    Valid (bytes ++ utf8EncodeChar c) ↔ Valid bytes := by
  constructor
  · rintro ⟨s, hs⟩
    obtain ⟨byte, rest, hc, hfirst, -⟩ := exists_eq_cons c
    have hbyte := continues_of_begins hfirst
    have hn : bytes.length < (encode s).length := by
      rw [← hs, hc, List.length_append, List.length_cons]
      omega
    have htake := valid_take_iff hn
    simp only [← hs, List.take_left, hc, List.getElem_append_right (Nat.le_refl bytes.length),
      Nat.sub_self, List.getElem_cons_zero] at htake
    exact htake.2 hbyte
  · exact (Valid.append · ⟨[c], by simp [encode]⟩)

/-! ### White space -/

open Whitespace (isSpace)
open ByteSpace (Spaces unicode trimSpace)

theorem exists_space_of_one {a : UInt8} (h : unicode.one a = true) :
    ∃ c, isSpace c = true ∧ utf8EncodeChar c = [a] := by
  simp only [unicode, Bool.or_eq_true, Bool.and_eq_true, decide_eq_true_eq, beq_iff_eq] at h
  obtain ⟨h9, h13⟩ | rfl := h
  · have hlow : 9 ≤ a.toNat := h9
    have hhigh : a.toNat ≤ 13 := h13
    obtain ⟨n, hn⟩ : ∃ n, a.toNat = n := ⟨_, rfl⟩
    obtain rfl : a = UInt8.ofNat n := by rw [← hn, UInt8.ofNat_toNat]
    rw [hn] at hlow hhigh
    refine ⟨Char.ofNat n, ?_, ?_⟩ <;> interval_cases n <;> decide
  · exact ⟨' ', by decide, by decide⟩

theorem exists_space_of_two {a b : UInt8} (h : unicode.two a b = true) :
    ∃ c, isSpace c = true ∧ utf8EncodeChar c = [a, b] := by
  simp only [unicode, Bool.or_eq_true, Bool.and_eq_true, beq_iff_eq] at h
  obtain ⟨rfl, rfl | rfl⟩ := h
  · exact ⟨'\u0085', by decide, by decide⟩
  · exact ⟨'\u00A0', by decide, by decide⟩

theorem exists_space_of_three {a b c : UInt8} (h : unicode.three a b c = true) :
    ∃ d, isSpace d = true ∧ utf8EncodeChar d = [a, b, c] := by
  simp only [unicode, Bool.or_eq_true, Bool.and_eq_true, decide_eq_true_eq, beq_iff_eq] at h
  obtain ((⟨⟨rfl, rfl⟩, rfl⟩ | ⟨⟨rfl, rfl⟩, ((⟨hlow, hhigh⟩ | rfl) | rfl) | rfl⟩) |
    ⟨⟨rfl, rfl⟩, rfl⟩) | ⟨⟨rfl, rfl⟩, rfl⟩ := h
  · exact ⟨'\u1680', by decide, by decide⟩
  · have hlow' : 0x80 ≤ c.toNat := hlow
    have hhigh' : c.toNat ≤ 0x8A := hhigh
    obtain ⟨n, hn⟩ : ∃ n, c.toNat = n := ⟨_, rfl⟩
    obtain rfl : c = UInt8.ofNat n := by rw [← hn, UInt8.ofNat_toNat]
    rw [hn] at hlow' hhigh'
    refine ⟨Char.ofNat (0x1F80 + n), ?_, ?_⟩ <;> interval_cases n <;> decide
  · exact ⟨'\u2028', by decide, by decide⟩
  · exact ⟨'\u2029', by decide, by decide⟩
  · exact ⟨'\u202F', by decide, by decide⟩
  · exact ⟨'\u205F', by decide, by decide⟩
  · exact ⟨'\u3000', by decide, by decide⟩

/-- **Bytes that count as white space encode a character of white space.** -/
theorem exists_space_of_begins {bytes : List UInt8} (h : unicode.begins bytes = true) :
    ∃ c rest, isSpace c = true ∧ bytes = utf8EncodeChar c ++ rest := by
  have hone : ∀ {a : UInt8} (rest : List UInt8), unicode.one a = true →
      ∃ c rest', isSpace c = true ∧ a :: rest = utf8EncodeChar c ++ rest' := by
    intro a rest ha
    obtain ⟨c, hspace, hc⟩ := exists_space_of_one ha
    exact ⟨c, rest, hspace, by rw [hc]; rfl⟩
  have htwo : ∀ {a b : UInt8} (rest : List UInt8), unicode.two a b = true →
      ∃ c rest', isSpace c = true ∧ a :: b :: rest = utf8EncodeChar c ++ rest' := by
    intro a b rest hab
    obtain ⟨c, hspace, hc⟩ := exists_space_of_two hab
    exact ⟨c, rest, hspace, by rw [hc]; rfl⟩
  match bytes with
  | [] => cases h
  | [a] => exact hone [] h
  | [a, b] =>
      simp only [Spaces.begins, Bool.or_eq_true] at h
      obtain h | h := h
      · exact hone [b] h
      · exact htwo [] h
  | a :: b :: c :: rest =>
      simp only [Spaces.begins, Bool.or_eq_true] at h
      obtain (h | h) | h := h
      · exact hone _ h
      · exact htwo _ h
      · obtain ⟨d, hspace, hd⟩ := exists_space_of_three h
        exact ⟨d, rest, hspace, by rw [hd]; rfl⟩

/-- A text that begins with a visible character begins with no white space. -/
theorem begins_utf8EncodeChar_append {c : Char} (h : isSpace c = false) (rest : List UInt8) :
    unicode.begins (utf8EncodeChar c ++ rest) = false := by
  rw [Bool.eq_false_iff]
  intro hbegins
  obtain ⟨d, rest', hspace, hd⟩ := exists_space_of_begins hbegins
  obtain rfl := eq_of_append_eq hd
  rw [h] at hspace
  cases hspace

theorem valid_strip_iff (bytes : List UInt8) : Valid (unicode.strip bytes) ↔ Valid bytes := by
  refine Spaces.strip_iff ?_ ?_ ?_ bytes
  · intro a rest ha
    obtain ⟨c, -, hc⟩ := exists_space_of_one ha
    have h := @valid_utf8EncodeChar_append_iff c rest
    rwa [hc] at h
  · intro a b rest hab
    obtain ⟨c, -, hc⟩ := exists_space_of_two hab
    have h := @valid_utf8EncodeChar_append_iff c rest
    rwa [hc] at h
  · intro a b c rest habc
    obtain ⟨d, -, hd⟩ := exists_space_of_three habc
    have h := @valid_utf8EncodeChar_append_iff d rest
    rwa [hd] at h

/-- … read from the end. -/
theorem valid_flip_strip_iff (bytes : List UInt8) :
    Valid (unicode.flip.strip bytes).reverse ↔ Valid bytes.reverse := by
  refine Spaces.strip_iff (P := fun s => Valid s.reverse) ?_ ?_ ?_ bytes
  · intro a rest ha
    obtain ⟨c, -, hc⟩ := exists_space_of_one ha
    have h := @valid_append_utf8EncodeChar_iff c rest.reverse
    simpa [hc] using h
  · intro a b rest hab
    obtain ⟨c, -, hc⟩ := exists_space_of_two hab
    have h := @valid_append_utf8EncodeChar_iff c rest.reverse
    simpa [hc] using h
  · intro a b c rest habc
    obtain ⟨d, -, hd⟩ := exists_space_of_three habc
    have h := @valid_append_utf8EncodeChar_iff d rest.reverse
    simpa [hd] using h

/-- **Trimming bytes neither mends nor breaks a text.** -/
theorem valid_trimSpace_iff (bytes : List UInt8) : Valid (trimSpace bytes) ↔ Valid bytes := by
  rw [trimSpace, Spaces.trim, valid_flip_strip_iff, List.reverse_reverse, valid_strip_iff]

/-! ### Decoding -/

/-- The characters of a text, where `skip` bytes of the one that is read are still to come; a byte with
which no character begins stands for itself. -/
def runesFrom : ℕ → List UInt8 → List (Option Char)
  | _, [] => []
  | skip + 1, _ :: rest => runesFrom skip rest
  | 0, byte :: rest =>
      match ByteArray.utf8DecodeChar? (byte :: rest).toByteArray 0 with
      | none => none :: runesFrom 0 rest
      | some c => some c :: runesFrom (c.utf8Size - 1) rest

/-- **The characters of a text**, with `none` for each byte that is not part of one. -/
def runes (bytes : List UInt8) : List (Option Char) := runesFrom 0 bytes

theorem runesFrom_append (l rest : List UInt8) : runesFrom l.length (l ++ rest) = runesFrom 0 rest := by
  induction l with
  | nil => rfl
  | cons byte l ih => exact ih

/-- **The characters of an encoded text are those of the text.** -/
theorem runes_encode (s : List Char) : runes (encode s) = s.map some := by
  induction s with
  | nil => rfl
  | cons c s ih =>
      obtain ⟨byte, rest, hcons, -⟩ := exists_eq_cons c
      have hlen : rest.length = c.utf8Size - 1 := by
        have hsize := String.length_utf8EncodeChar c
        rw [hcons, List.length_cons] at hsize
        omega
      have hdecode : ByteArray.utf8DecodeChar? (byte :: (rest ++ encode s)).toByteArray 0 = some c := by
        rw [← List.cons_append, ← hcons, List.toByteArray_append]
        exact ByteArray.utf8DecodeChar?_utf8EncodeChar_append
      rw [runes, encode_cons, hcons, List.cons_append, runesFrom, hdecode]
      dsimp only
      rw [← hlen, runesFrom_append, List.map_cons, ← ih, runes]

end Utf8
