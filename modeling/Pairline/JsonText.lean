/-
**JSON texts.**

The reader goes over a text one character at a time.  It keeps the arrays and objects that are open, at
most ten thousand of them, and what may come next; the body of a string, a number or a word is collected
and read when it ends.  The writer escapes the characters that are special in JSON and in HTML, and two
separators of lines.

Main definitions:

* `JsonText.unquote`, `JsonText.readNumber` — what the body of a string and a number stand for;
* `JsonText.step`, `JsonText.parse` — **the reader**;
* `JsonText.quote`, `JsonText.printMembers` — the writer, for objects of texts and integers.

Main results:

* `JsonText.unquote_escape` — a string is read as it was written;
* `JsonText.readNumber_toString` — and so is an integer;
* `JsonText.parse_printObject` — **and so is an object**.
-/

import Pairline.Documents
import Pairline.Numerals

set_option relaxedAutoImplicit false
set_option autoImplicit false

namespace JsonText

open Documents (Document Object)
open Numerals (digits? signed)

/-! ### Strings -/

/-- The value of a hexadecimal digit. -/
def hexDigit (c : Char) : Option ℕ :=
  if c.isDigit then some (c.toNat - 48)
  else if 97 ≤ c.toNat ∧ c.toNat ≤ 102 then some (c.toNat - 87)
  else if 65 ≤ c.toNat ∧ c.toNat ≤ 70 then some (c.toNat - 55) else none

/-- The number of four hexadecimal digits. -/
def hex4 (a b c d : Char) : Option ℕ :=
  match hexDigit a, hexDigit b, hexDigit c, hexDigit d with
  | some a, some b, some c, some d => some (a * 4096 + b * 256 + c * 16 + d)
  | _, _, _, _ => none

/-- What the body of a string is made of: characters, and code units that are given by number. -/
inductive Piece
  | char (c : Char)
  | unit (n : ℕ)

/-- What a character stands for after a backslash. -/
def escaped : Char → Option Char
  | '"' => some '"'
  | '\\' => some '\\'
  | '/' => some '/'
  | 'b' => some '\x08'
  | 'f' => some '\x0c'
  | 'n' => some '\n'
  | 'r' => some '\r'
  | 't' => some '\t'
  | _ => none

def pieces : List Char → Option (List Piece)
  | [] => some []
  | '\\' :: 'u' :: a :: b :: c :: d :: rest =>
      (hex4 a b c d).bind fun n => (pieces rest).map fun l => .unit n :: l
  | '\\' :: e :: rest => (escaped e).bind fun c => (pieces rest).map fun l => .char c :: l
  | '\\' :: [] => none
  | c :: rest => (pieces rest).map fun l => .char c :: l

/-- What is read for something that is no character. -/
def replacement : Char := '\ufffd'

def isHigh (n : ℕ) : Bool := 0xD800 ≤ n && n < 0xDC00

def isLow (n : ℕ) : Bool := 0xDC00 ≤ n && n < 0xE000

/-- The characters: two code units make one of them where they go together. -/
def joinUnits : List Piece → List Char
  | [] => []
  | .char c :: l => c :: joinUnits l
  | .unit n :: .unit m :: l =>
      if isHigh n && isLow m then
        Char.ofNat (0x10000 + (n - 0xD800) * 0x400 + (m - 0xDC00)) :: joinUnits l
      else (if isHigh n || isLow n then replacement else Char.ofNat n) :: joinUnits (.unit m :: l)
  | .unit n :: l => (if isHigh n || isLow n then replacement else Char.ofNat n) :: joinUnits l

/-- **What the body of a string stands for.** -/
def unquote (body : List Char) : Option String :=
  (pieces body).map fun l => String.ofList (joinUnits l)

/-! ### Numbers and words -/

/-- The digits after a point: as many as there are, and their number. -/
def fraction : List Char → Option (List Char × List Char)
  | '.' :: rest =>
      if rest.takeWhile Char.isDigit = [] then none
      else some (rest.takeWhile Char.isDigit, rest.dropWhile Char.isDigit)
  | rest => some ([], rest)

/-- The exponent, if there is one, to the end of the text. -/
def exponent : List Char → Option (Option ℤ)
  | [] => some none
  | c :: rest =>
      if c = 'e' ∨ c = 'E' then
        let (negative, digits) := Numerals.sign rest
        (digits? digits).map fun n => some (signed negative n)
      else none

/-- A number after its sign; it has no zeros before the first digit. -/
def readUnsigned (negative : Bool) (text : List Char) : Option Document :=
  let whole := text.takeWhile Char.isDigit
  if whole = [] ∨ (whole.head? = some '0' ∧ whole ≠ ['0']) then none
  else
    (fraction (text.dropWhile Char.isDigit)).bind fun (places, after) =>
      (exponent after).bind fun e =>
        match places, e with
        | [], none => (digits? whole).map fun n => .integer (signed negative n)
        | _, _ => (digits? (whole ++ places)).map fun n =>
            .decimal ⟨signed negative n, e.getD 0 - places.length⟩

/-- **What a number stands for.** -/
def readNumber (text : List Char) : Option Document :=
  if text.head? = some '-' then readUnsigned true text.tail else readUnsigned false text

def readWord (text : List Char) : Option Document :=
  if text = "null".toList then some .null
  else if text = "true".toList then some (.bool true)
  else if text = "false".toList then some (.bool false) else none

/-! ### The reader -/

/-- What is open: an array, an object, or an object that has read the name of a member. -/
inductive Frame
  | array (values : List Document)
  | object (members : Object)
  | member (members : Object) (name : String)

/-- What may come next. -/
inductive Mode
  /-- A value, or the end of an array that is empty. -/
  | value (orEnd : Bool)
  /-- The name of a member, or the end of an object that is empty. -/
  | name (orEnd : Bool)
  | colon
  /-- The rest of a string, perhaps after a backslash. -/
  | string (body : List Char) (escape : Bool)
  | number (text : List Char)
  | word (text : List Char)
  /-- A comma, or the end of what is open. -/
  | after
  /-- Nothing but white space. -/
  | done (document : Document)

structure State where
  stack : List Frame
  mode : Mode

def start : State := ⟨[], .value false⟩

/-- How deep arrays and objects may be nested. -/
def maxNestingDepth : ℕ := 10000

def push (frame : Frame) (mode : Mode) (stack : List Frame) : Option State :=
  if stack.length + 1 ≤ maxNestingDepth then some ⟨frame :: stack, mode⟩ else none

/-- A value is complete. -/
def complete (document : Document) : List Frame → Option State
  | [] => some ⟨[], .done document⟩
  | .array values :: stack => some ⟨.array (values ++ [document]) :: stack, .after⟩
  | .member members name :: stack => some ⟨.object (members ++ [(name, document)]) :: stack, .after⟩
  | .object _ :: _ => none

/-- A string is complete: a value, or the name of a member. -/
def completeString (text : String) : List Frame → Option State
  | .object members :: stack => some ⟨.member members text :: stack, .colon⟩
  | stack => complete (.string text) stack

def isSpace (c : Char) : Bool := c == ' ' || c == '\t' || c == '\r' || c == '\n'

def isNumberChar (c : Char) : Bool :=
  c.isDigit || c == '-' || c == '+' || c == '.' || c == 'e' || c == 'E'

/-- The first character of a value. -/
def beginValue (stack : List Frame) (c : Char) : Option State :=
  if c = '"' then some ⟨stack, .string [] false⟩
  else if c = '[' then push (.array []) (.value true) stack
  else if c = '\x7b' then push (.object []) (.name true) stack
  else if c.isDigit || c == '-' then some ⟨stack, .number [c]⟩
  else if c.isLower then some ⟨stack, .word [c]⟩ else none

/-- What comes after a value in what is open. -/
def afterValue (c : Char) : List Frame → Option State
  | .array values :: stack =>
      if c = ',' then some ⟨.array values :: stack, .value false⟩
      else if c = ']' then complete (.array values) stack else none
  | .object members :: stack =>
      if c = ',' then some ⟨.object members :: stack, .name false⟩
      else if c = '\x7d' then complete (.object members) stack else none
  | _ => none

/-- A character after a value: white space, or what comes after it in what is open. -/
def endValue (s : State) (c : Char) : Option State :=
  if isSpace c then some s
  else
    match s.mode with
    | .after => afterValue c s.stack
    | _ => none

/-- **One character of the text.** -/
def step (s : State) (c : Char) : Option State :=
  match s.mode with
  | .value orEnd =>
      if isSpace c then some s
      else if orEnd && c == ']' then afterValue c s.stack
      else beginValue s.stack c
  | .name orEnd =>
      if isSpace c then some s
      else if orEnd && c == '\x7d' then afterValue c s.stack
      else if c = '"' then some ⟨s.stack, .string [] false⟩ else none
  | .colon =>
      if isSpace c then some s
      else if c = ':' then some ⟨s.stack, .value false⟩ else none
  | .string body escape =>
      if c.toNat < 0x20 then none
      else if escape then some ⟨s.stack, .string (body ++ [c]) false⟩
      else if c = '\\' then some ⟨s.stack, .string (body ++ [c]) true⟩
      else if c = '"' then (unquote body).bind fun text => completeString text s.stack
      else some ⟨s.stack, .string (body ++ [c]) false⟩
  | .number text =>
      if isNumberChar c then some ⟨s.stack, .number (text ++ [c])⟩
      else (readNumber text).bind fun d => (complete d s.stack).bind fun t => endValue t c
  | .word text =>
      if c.isLower then some ⟨s.stack, .word (text ++ [c])⟩
      else (readWord text).bind fun d => (complete d s.stack).bind fun t => endValue t c
  | .after => endValue s c
  | .done _ => endValue s c

/-- The end of the text. -/
def finish (s : State) : Option Document :=
  match s.stack, s.mode with
  | [], .done d => some d
  | [], .number text => readNumber text
  | [], .word text => readWord text
  | _, _ => none

def run (s : State) (text : List Char) : Option State := text.foldlM step s

/-- **What a text stands for.** -/
def parse (text : List Char) : Option Document := (run start text).bind finish

/-! ### The writer -/

/-- A code unit, by its number. -/
def unicodeEscape (n : ℕ) : List Char :=
  ['\\', 'u', Nat.digitChar (n / 4096 % 16), Nat.digitChar (n / 256 % 16),
    Nat.digitChar (n / 16 % 16), Nat.digitChar (n % 16)]

/-- The characters that are written by number although they are not control characters. -/
def isHtml (c : Char) : Bool := c == '<' || c == '>' || c == '&' || c == '\u2028' || c == '\u2029'

/-- How a character is written in a string; a byte that is part of none is written as the replacement. -/
def escape : Option Char → List Char
  | none => unicodeEscape 0xFFFD
  | some c =>
      if c = '"' ∨ c = '\\' then ['\\', c]
      else if c = '\x08' then ['\\', 'b']
      else if c = '\x0c' then ['\\', 'f']
      else if c = '\n' then ['\\', 'n']
      else if c = '\r' then ['\\', 'r']
      else if c = '\t' then ['\\', 't']
      else if c.toNat < 0x20 || isHtml c then unicodeEscape c.toNat
      else [c]

def quote (text : List (Option Char)) : List Char := '"' :: text.flatMap escape ++ ['"']

/-- A value that is written: a text, or an integer of 64 bits. -/
inductive Scalar
  | string (text : List (Option Char))
  | int64 (n : ℤ)

/-- What the text of some bytes is, where the replacement stands for what is no character. -/
def repaired (text : List (Option Char)) : String :=
  String.ofList (text.map fun c => c.getD replacement)

def Scalar.document : Scalar → Document
  | .string text => .string (repaired text)
  | .int64 n => .integer n

def Scalar.print : Scalar → List Char
  | .string text => quote text
  | .int64 n => (toString n).toList

/-- The members of an object, with commas between them. -/
def printMembers : List (String × Scalar) → List Char
  | [] => []
  | [(name, value)] => quote (name.toList.map some) ++ ':' :: value.print
  | (name, value) :: next :: members =>
      quote (name.toList.map some) ++ ':' :: value.print ++ ',' :: printMembers (next :: members)

/-- **An object is written**, in the order of the names. -/
def printObject (members : List (String × Scalar)) : List Char :=
  '\x7b' :: printMembers (Members.sorted members) ++ ['\x7d']

/-! ### Strings are read as they were written -/

theorem hexDigit_digitChar {n : ℕ} (h : n < 16) : hexDigit (Nat.digitChar n) = some n := by
  revert n
  decide

/-- **Four digits make the number up again.** -/
theorem hex4_digitChar {n : ℕ} (h : n < 65536) :
    hex4 (Nat.digitChar (n / 4096 % 16)) (Nat.digitChar (n / 256 % 16))
      (Nat.digitChar (n / 16 % 16)) (Nat.digitChar (n % 16)) = some n := by
  have hmod (m : ℕ) : hexDigit (Nat.digitChar (m % 16)) = some (m % 16) :=
    hexDigit_digitChar (Nat.mod_lt m (by omega))
  simp only [hex4, hmod, Option.some.injEq]
  omega

theorem pieces_unicodeEscape {n : ℕ} (h : n < 65536) (rest : List Char) :
    pieces (unicodeEscape n ++ rest) = (pieces rest).map fun l => .unit n :: l := by
  simp only [unicodeEscape, List.cons_append, List.nil_append, pieces, hex4_digitChar h,
    Option.bind_some]

theorem pieces_cons_of_ne {c : Char} (h : c ≠ '\\') (rest : List Char) :
    pieces (c :: rest) = (pieces rest).map fun l => .char c :: l := by
  rw [pieces]
  all_goals simp_all

theorem pieces_escaped {e c : Char} (hu : e ≠ 'u') (h : escaped e = some c) (rest : List Char) :
    pieces ('\\' :: e :: rest) = (pieces rest).map fun l => .char c :: l := by
  rw [pieces]
  · rw [h, Option.bind_some]
  · simp_all

/-- The piece that a character is written as. -/
def pieceOf : Option Char → Piece
  | none => .unit 0xFFFD
  | some c =>
      if c = '"' ∨ c = '\\' ∨ c = '\x08' ∨ c = '\x0c' ∨ c = '\n' ∨ c = '\r' ∨ c = '\t' then .char c
      else if c.toNat < 0x20 || isHtml c then .unit c.toNat else .char c

/-- The characters that are written by number have few digits, and are no halves of others. -/
theorem toNat_of_numbered {c : Char} (h : (decide (c.toNat < 0x20) || isHtml c) = true) :
    c.toNat < 0xD800 := by
  simp only [isHtml, Bool.or_eq_true, decide_eq_true_eq, beq_iff_eq] at h
  rcases h with h | (((rfl | rfl) | rfl) | rfl) | rfl
  · omega
  all_goals decide

theorem pieces_escape (r : Option Char) (rest : List Char) :
    pieces (escape r ++ rest) = (pieces rest).map fun l => pieceOf r :: l := by
  cases r with
  | none => exact pieces_unicodeEscape (by omega) rest
  | some c =>
      by_cases hspecial : c = '"' ∨ c = '\\' ∨ c = '\x08' ∨ c = '\x0c' ∨ c = '\n' ∨ c = '\r' ∨ c = '\t'
      · rw [pieceOf, if_pos hspecial]
        rcases hspecial with rfl | rfl | rfl | rfl | rfl | rfl | rfl <;>
          exact pieces_escaped (by decide) (by decide) rest
      · rw [pieceOf, if_neg hspecial]
        simp only [not_or] at hspecial
        obtain ⟨hquote, hslash, hb, hf, hn, hr, ht⟩ := hspecial
        rw [escape, if_neg (not_or.2 ⟨hquote, hslash⟩), if_neg hb, if_neg hf, if_neg hn, if_neg hr,
          if_neg ht]
        by_cases hnumber : (decide (c.toNat < 0x20) || isHtml c) = true
        · rw [if_pos hnumber, if_pos hnumber]
          have hlt := toNat_of_numbered hnumber
          exact pieces_unicodeEscape (by omega) rest
        · rw [if_neg hnumber, if_neg hnumber]
          exact pieces_cons_of_ne hslash rest

/-- A code unit that is no half of a character is one. -/
theorem joinUnits_unit {n : ℕ} (hhigh : isHigh n = false) (hlow : isLow n = false) (l : List Piece) :
    joinUnits (.unit n :: l) = Char.ofNat n :: joinUnits l := by
  cases l with
  | nil => simp [joinUnits, hhigh, hlow]
  | cons p l => cases p <;> simp [joinUnits, hhigh, hlow]

theorem joinUnits_pieceOf (r : Option Char) (l : List Piece) :
    joinUnits (pieceOf r :: l) = r.getD replacement :: joinUnits l := by
  cases r with
  | none => exact joinUnits_unit (by decide) (by decide) l
  | some c =>
      rw [pieceOf]
      split_ifs with hspecial hnumber
      · rw [joinUnits, Option.getD_some]
      · have hlt := toNat_of_numbered hnumber
        rw [joinUnits_unit (by simp [isHigh]; omega) (by simp [isLow]; omega), Char.ofNat_toNat,
          Option.getD_some]
      · rw [joinUnits, Option.getD_some]

/-- **A string is read as it was written.** -/
theorem unquote_escape (text : List (Option Char)) :
    unquote (text.flatMap escape) = some (repaired text) := by
  have hpieces : pieces (text.flatMap escape) = some (text.map pieceOf) := by
    induction text with
    | nil => rfl
    | cons r text ih => rw [List.flatMap_cons, pieces_escape, ih, Option.map_some, List.map_cons]
  have hjoin : joinUnits (text.map pieceOf) = text.map fun c => c.getD replacement := by
    clear hpieces
    induction text with
    | nil => rfl
    | cons r text ih => rw [List.map_cons, joinUnits_pieceOf, ih, List.map_cons]
  rw [unquote, hpieces, Option.map_some, hjoin, repaired]

/-! ### Integers are read as they were written -/

/-- A number begins with no zero, unless it is zero. -/
theorem head_toDigits (n : ℕ) (h : (Nat.toDigits 10 n).head? = some '0') : n = 0 := by
  induction n using Nat.strong_induction_on with
  | _ n ih =>
      rcases Nat.lt_or_ge n 10 with hlt | hge
      · have hdigit : ∀ n < 10, Nat.digitChar n = '0' → n = 0 := by decide
        rw [Nat.toDigits_of_lt_base hlt, List.head?_cons, Option.some.injEq] at h
        exact hdigit n hlt h
      · rw [Nat.toDigits_of_base_le (by omega) hge, List.head?_append] at h
        have hne : Nat.toDigits 10 (n / 10) ≠ [] := Nat.toDigits_ne_nil
        obtain ⟨c, l, hcons⟩ := List.exists_cons_of_ne_nil hne
        rw [hcons] at h
        have hzero := ih (n / 10) (by omega) (by rw [hcons]; simpa using h)
        omega

theorem readUnsigned_toString (negative : Bool) (n : ℕ) :
    readUnsigned negative (toString n).toList = some (.integer (signed negative n)) := by
  obtain ⟨htake, hdrop⟩ := Numerals.takeWhile_isDigit_toString n
  have hne := Numerals.toList_toString_ne_nil n
  have hzero : ¬ ((toString n).toList.head? = some '0' ∧ (toString n).toList ≠ ['0']) := by
    rintro ⟨h, hnot⟩
    rw [Numerals.toList_toString] at h hnot
    exact hnot (by rw [head_toDigits n h]; decide)
  rw [readUnsigned, htake, hdrop, if_neg (not_or.2 ⟨hne, hzero⟩)]
  simp only [fraction, exponent, Option.bind_some, Numerals.digits?_toString, Option.map_some]

/-- How an integer is written: the digits, after a sign if it is negative. -/
theorem toList_toString_int (n : ℤ) : (toString n).toList =
    if n < 0 then '-' :: (toString n.natAbs).toList else (toString n.natAbs).toList := by
  cases n with
  | ofNat n =>
      rw [if_neg (by simp)]
      rfl
  | negSucc n =>
      rw [if_pos (Int.negSucc_lt_zero n)]
      exact String.toList_append

/-- **An integer is read as it was written.** -/
theorem readNumber_toString (n : ℤ) : readNumber (toString n).toList = some (.integer n) := by
  rw [toList_toString_int]
  split_ifs with hneg
  · rw [readNumber, List.head?_cons, if_pos rfl, List.tail_cons, readUnsigned_toString, signed,
      if_pos rfl]
    congr 2
    omega
  · have hhead : (toString n.natAbs).toList.head? ≠ some '-' := by
      intro h
      have hdigit := Numerals.isDigit_of_mem_toString (List.mem_of_mem_head? h)
      cases hdigit
    rw [readNumber, if_neg hhead, readUnsigned_toString, signed, if_neg (by decide)]
    congr 2
    omega

/-! ### Objects are read as they were written -/

@[simp] theorem run_nil (s : State) : run s [] = some s := rfl

theorem run_cons (s : State) (c : Char) (text : List Char) :
    run s (c :: text) = (step s c).bind fun t => run t text := List.foldlM_cons

theorem run_append (s : State) (text rest : List Char) :
    run s (text ++ rest) = (run s text).bind fun t => run t rest := List.foldlM_append

/-- A character that a string holds as it is. -/
def IsPlain (c : Char) : Prop := ¬ c.toNat < 0x20 ∧ c ≠ '"' ∧ c ≠ '\\'

instance (c : Char) : Decidable (IsPlain c) := inferInstanceAs (Decidable (_ ∧ _))

/-- How a character is written: as it is, or as a backslash, a character and others as they are. -/
theorem escape_cases (r : Option Char) :
    (∃ c, escape r = [c] ∧ IsPlain c) ∨
      ∃ e l, escape r = '\\' :: e :: l ∧ ¬ e.toNat < 0x20 ∧ ∀ c ∈ l, IsPlain c := by
  have hnumber (n : ℕ) : ∃ e l, unicodeEscape n = '\\' :: e :: l ∧ ¬ e.toNat < 0x20 ∧
      ∀ c ∈ l, IsPlain c := by
    have hdigit : ∀ m < 16, IsPlain (Nat.digitChar m) := by decide
    have hmod (m : ℕ) : IsPlain (Nat.digitChar (m % 16)) := hdigit _ (Nat.mod_lt m (by omega))
    refine ⟨'u', _, rfl, by decide, fun c hc => ?_⟩
    simp only [List.mem_cons, List.not_mem_nil, or_false] at hc
    rcases hc with rfl | rfl | rfl | rfl <;> exact hmod _
  cases r with
  | none => exact .inr (hnumber _)
  | some c =>
      rw [escape]
      split_ifs with hquote hb hf hn hr ht hc
      · right
        rcases hquote with rfl | rfl
        · exact ⟨'"', [], rfl, by decide, by simp⟩
        · exact ⟨'\\', [], rfl, by decide, by simp⟩
      · exact .inr ⟨'b', [], rfl, by decide, by simp⟩
      · exact .inr ⟨'f', [], rfl, by decide, by simp⟩
      · exact .inr ⟨'n', [], rfl, by decide, by simp⟩
      · exact .inr ⟨'r', [], rfl, by decide, by simp⟩
      · exact .inr ⟨'t', [], rfl, by decide, by simp⟩
      · exact .inr (hnumber _)
      · left
        simp only [Bool.or_eq_true, decide_eq_true_eq, not_or] at hc
        rw [not_or] at hquote
        exact ⟨c, rfl, hc.1, hquote.1, hquote.2⟩

theorem step_plain {c : Char} (h : IsPlain c) (stack : List Frame) (body : List Char) :
    step ⟨stack, .string body false⟩ c = some ⟨stack, .string (body ++ [c]) false⟩ := by
  simp [step, h.1, h.2.1, h.2.2]

theorem run_plain (stack : List Frame) (rest : List Char) : ∀ (l body : List Char),
    (∀ c ∈ l, IsPlain c) →
      run ⟨stack, .string body false⟩ (l ++ rest) = run ⟨stack, .string (body ++ l) false⟩ rest := by
  intro l
  induction l with
  | nil =>
      intro body _
      rw [List.nil_append, List.append_nil]
  | cons c l ih =>
      intro body h
      rw [List.cons_append, run_cons, step_plain (h c List.mem_cons_self), Option.bind_some,
        ih _ fun d hd => h d (List.mem_cons_of_mem c hd), List.append_assoc, List.singleton_append]

/-- The body of a string takes a character in as it is written. -/
theorem run_escape (stack : List Frame) (body : List Char) (r : Option Char) (rest : List Char) :
    run ⟨stack, .string body false⟩ (escape r ++ rest) =
      run ⟨stack, .string (body ++ escape r) false⟩ rest := by
  rcases escape_cases r with ⟨c, heq, hc⟩ | ⟨e, l, heq, he, hl⟩
  · rw [heq]
    exact run_plain stack rest [c] body (by simpa using hc)
  · have hslash : step ⟨stack, .string body false⟩ '\\' =
        some ⟨stack, .string (body ++ ['\\']) true⟩ := by
      simp [step]
    have hescape : step ⟨stack, .string (body ++ ['\\']) true⟩ e =
        some ⟨stack, .string (body ++ ['\\'] ++ [e]) false⟩ := by
      simp [step, he]
    rw [heq, List.cons_append, List.cons_append, run_cons, hslash, Option.bind_some, run_cons, hescape,
      Option.bind_some, run_plain stack rest l _ hl]
    simp

/-- **A string is taken in as it was written.** -/
theorem run_quote (stack : List Frame) (text : List (Option Char)) (rest : List Char) :
    run ⟨stack, .string [] false⟩ (text.flatMap escape ++ '"' :: rest) =
      (completeString (repaired text) stack).bind fun t => run t rest := by
  have hbody : ∀ (text : List (Option Char)) (body : List Char),
      run ⟨stack, .string body false⟩ (text.flatMap escape ++ '"' :: rest) =
        run ⟨stack, .string (body ++ text.flatMap escape) false⟩ ('"' :: rest) := by
    intro text
    induction text with
    | nil =>
        intro body
        simp
    | cons r text ih =>
        intro body
        rw [List.flatMap_cons, List.append_assoc, run_escape, ih, List.append_assoc]
  have hend : step ⟨stack, .string (text.flatMap escape) false⟩ '"' =
      completeString (repaired text) stack := by
    simp [step, unquote_escape]
  rw [hbody, List.nil_append, run_cons, hend]

/-- An integer is written in characters of a number, of which the first is a digit or the sign. -/
theorem toString_shape (n : ℤ) : ∃ c l, (toString n).toList = c :: l ∧
    (c.isDigit || c == '-') = true ∧ ∀ d ∈ l, isNumberChar d = true := by
  have hdigits (m : ℕ) : ∀ d ∈ (toString m).toList, isNumberChar d = true := by
    intro d hd
    simp [isNumberChar, Numerals.isDigit_of_mem_toString hd]
  rw [toList_toString_int]
  split_ifs with hneg
  · exact ⟨'-', _, rfl, by decide, hdigits _⟩
  · obtain ⟨c, l, hcons⟩ := List.exists_cons_of_ne_nil (Numerals.toList_toString_ne_nil n.natAbs)
    have hdigit := Numerals.isDigit_of_mem_toString (n := n.natAbs) (c := c) (by rw [hcons]; simp)
    refine ⟨c, l, hcons, by rw [hdigit]; rfl, fun d hd => hdigits n.natAbs d ?_⟩
    rw [hcons]
    exact List.mem_cons_of_mem c hd

theorem run_number (stack : List Frame) (rest : List Char) : ∀ (l text : List Char),
    (∀ c ∈ l, isNumberChar c = true) →
      run ⟨stack, .number text⟩ (l ++ rest) = run ⟨stack, .number (text ++ l)⟩ rest := by
  intro l
  induction l with
  | nil =>
      intro text _
      rw [List.nil_append, List.append_nil]
  | cons c l ih =>
      intro text h
      have hstep : step ⟨stack, .number text⟩ c = some ⟨stack, .number (text ++ [c])⟩ := by
        simp [step, h c List.mem_cons_self]
      rw [List.cons_append, run_cons, hstep, Option.bind_some,
        ih _ fun d hd => h d (List.mem_cons_of_mem c hd), List.append_assoc, List.singleton_append]

/-- A digit or a sign begins a number. -/
theorem step_beginNumber {c : Char} (h : (c.isDigit || c == '-') = true) (stack : List Frame) :
    step ⟨stack, .value false⟩ c = some ⟨stack, .number [c]⟩ := by
  have hcases : c.isDigit = true ∨ c = '-' := by simpa using h
  have hother : isSpace c = false ∧ c ≠ '"' ∧ c ≠ '[' ∧ c ≠ '\x7b' := by
    rcases hcases with hdigit | rfl
    · have hrange := Numerals.toNat_of_isDigit hdigit
      have hne {d : Char} (hd : ¬ (48 ≤ d.toNat ∧ d.toNat ≤ 57)) : c ≠ d := fun heq =>
        hd (heq ▸ hrange)
      refine ⟨?_, hne (by decide), hne (by decide), hne (by decide)⟩
      simp [isSpace, hne (d := ' ') (by decide), hne (d := '\t') (by decide),
        hne (d := '\r') (by decide), hne (d := '\n') (by decide)]
    · decide
  obtain ⟨hspace, hquote, hbracket, hbrace⟩ := hother
  simp [step, hspace, beginValue, hquote, hbracket, hbrace, hcases]

/-- A value of an object is taken in as it was written, before a character that is not of a number. -/
theorem run_scalar {members : Object} {name : String} {stack : List Frame} {c : Char}
    (hc : isNumberChar c = false) (value : Scalar) (rest : List Char) :
    run ⟨.member members name :: stack, .value false⟩ (value.print ++ c :: rest) =
      run ⟨.object (members ++ [(name, value.document)]) :: stack, .after⟩ (c :: rest) := by
  cases value with
  | string text =>
      have hbegin : step ⟨.member members name :: stack, .value false⟩ '"' =
          some ⟨.member members name :: stack, .string [] false⟩ := by
        simp [step, isSpace, beginValue]
      rw [Scalar.print, quote, List.cons_append, List.cons_append, run_cons, hbegin, Option.bind_some,
        List.append_assoc, List.singleton_append, run_quote]
      rfl
  | int64 n =>
      obtain ⟨d, l, hcons, hd, hl⟩ := toString_shape n
      have hend : step ⟨.member members name :: stack, .number (d :: l)⟩ c =
          step ⟨.object (members ++ [(name, .integer n)]) :: stack, .after⟩ c := by
        have hread := readNumber_toString n
        rw [hcons] at hread
        simp [step, hc, hread, complete]
      rw [Scalar.print, hcons, List.cons_append, run_cons, step_beginNumber hd, Option.bind_some,
        run_number _ _ l [d] hl, run_cons, List.singleton_append, hend, run_cons]
      rfl

/-- A name is taken in as it was written. -/
theorem run_name (members : Object) (stack : List Frame) (orEnd : Bool) (name : String)
    (rest : List Char) :
    run ⟨.object members :: stack, .name orEnd⟩ (quote (name.toList.map some) ++ ':' :: rest) =
      run ⟨.member members name :: stack, .value false⟩ rest := by
  have hbegin : step ⟨.object members :: stack, .name orEnd⟩ '"' =
      some ⟨.object members :: stack, .string [] false⟩ := by
    simp [step, isSpace]
  have hname : repaired (name.toList.map some) = name := by
    rw [repaired, List.map_map]
    simp
  have hcolon : step ⟨.member members name :: stack, .colon⟩ ':' =
      some ⟨.member members name :: stack, .value false⟩ := by
    simp [step, isSpace]
  rw [quote, List.cons_append, List.cons_append, run_cons, hbegin, Option.bind_some, List.append_assoc,
    List.singleton_append, run_quote, hname, completeString, Option.bind_some, run_cons, hcolon,
    Option.bind_some]

def documents (members : List (String × Scalar)) : Object :=
  members.map fun e => (e.1, e.2.document)

/-- The members of an object are taken in as they were written. -/
theorem run_printMembers (stack : List Frame) (rest : List Char) :
    ∀ (members : List (String × Scalar)) (read : Object) (orEnd : Bool), members ≠ [] →
      run ⟨.object read :: stack, .name orEnd⟩ (printMembers members ++ '\x7d' :: rest) =
        (complete (.object (read ++ documents members)) stack).bind fun t => run t rest := by
  intro members
  induction members with
  | nil =>
      intro read orEnd hne
      exact absurd rfl hne
  | cons e members ih =>
      intro read orEnd _
      obtain ⟨name, value⟩ := e
      cases members with
      | nil =>
          have hclose (all : Object) : step ⟨.object all :: stack, .after⟩ '\x7d' =
              complete (.object all) stack := by
            simp [step, endValue, isSpace, afterValue]
          rw [printMembers, List.append_assoc, List.cons_append, run_name,
            run_scalar (by decide), run_cons, hclose]
          rfl
      | cons e' members =>
          have hcomma (all : Object) : step ⟨.object all :: stack, .after⟩ ',' =
              some ⟨.object all :: stack, .name false⟩ := by
            simp [step, endValue, isSpace, afterValue]
          rw [printMembers, List.append_assoc, List.append_assoc, List.cons_append, List.cons_append,
            run_name, run_scalar (by decide), run_cons, hcomma, Option.bind_some,
            ih _ false (List.cons_ne_nil _ _)]
          simp [documents]

/-- **An object is read as it was written.** -/
theorem parse_printObject (members : List (String × Scalar)) :
    parse (printObject members) = some (.object (documents (Members.sorted members))) := by
  have hopen : step start '\x7b' = some ⟨[.object []], .name true⟩ := by
    simp [step, start, isSpace, beginValue, push, maxNestingDepth]
  have hrun : run ⟨[.object []], .name true⟩ (printMembers (Members.sorted members) ++ ['\x7d']) =
      some ⟨[], .done (.object (documents (Members.sorted members)))⟩ := by
    cases Members.sorted members with
    | nil => rfl
    | cons e l => exact run_printMembers [] [] (e :: l) [] true (List.cons_ne_nil e l)
  rw [parse, printObject, List.cons_append, run_cons, hopen, Option.bind_some, hrun]
  rfl

end JsonText
