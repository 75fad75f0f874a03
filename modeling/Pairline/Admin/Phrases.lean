/-
**From a banned word to a blocked message.**

The server that takes a banned word strips it of markup, and normalises it: it is put into lower case,
divided at white space, and its parts are trimmed to letters and numbers.  A node normalises what it
loads once more, and normalises messages, in the same way but in another language: there one character
may have several in lower case, and a no-break space does not divide.  A message is blocked when the
tokens of a loaded phrase stand next to each other among its tokens.

Letters and numbers are the characters of the categories L and N in both languages.

Main definitions:

* `BannedWords.Tables` — the two tables of lower case, with what they leave alone;
* `BannedWords.stripHTML`, `BannedWords.normalizeBannedWord` — the server's side;
* `BannedWords.blockedWord` — the node's side;
* `BannedWords.Mentions`, `BannedWords.Blocks` — every message that mentions the word is blocked;
* `BannedWords.Plain` — **no part of the word depends on which language divides and lowers it**.

Main results:

* `BannedWords.blockedWord_isSome_iff` — a message is blocked by the tokens of a loaded phrase;
* `BannedWords.elixirTokens_normalizeBannedWord` — what a node makes of a word as it was stored;
* `BannedWords.blocks_iff_plain` — **a banned word is blocked everywhere exactly when it is plain**;
* `BannedWords.noBreakPhrase_notBlocked` — a phrase with a no-break space.
-/

import Pairline.Admin.BannedWords
import Pairline.Tokens

set_option relaxedAutoImplicit false
set_option autoImplicit false

namespace BannedWords

open Tokens (tokens token Idle chunkEvery)
open Whitespace

/-! ### Characters -/

/-- **The lower case of characters**, of the server and of the nodes, and the letters and numbers. -/
structure Tables where
  /-- `unicode.ToLower`, one character for each. -/
  toLower : Char → Char
  /-- `String.downcase`, character by character. -/
  downcase : Char → List Char
  letterOrNumber : Char → Bool
  not_letter_of_isSpace : ∀ c, isSpace c = true → letterOrNumber c = false
  isSpace_toLower : ∀ c, isSpace (toLower c) = isSpace c
  letter_toLower : ∀ c, letterOrNumber (toLower c) = letterOrNumber c
  downcase_of_isBreaking : ∀ c, isBreaking c = true → downcase c = [c]
  not_isBreaking_downcase : ∀ c, isBreaking c = false → ∀ d ∈ downcase c, isBreaking d = false
  letter_downcase : ∀ c, letterOrNumber c = true → ∃ d ∈ downcase c, letterOrNumber d = true
  not_letter_downcase : ∀ c, letterOrNumber c = false → ∀ d ∈ downcase c, letterOrNumber d = false

/-- The tables of a node. -/
def Tables.alphabet (t : Tables) : Alphabet where
  downcase value := String.ofList (value.toList.flatMap t.downcase)
  letterOrNumber := t.letterOrNumber

/-! ### The server -/

/-- A text without what stands between an opening and the next closing bracket; `buffer` holds what
was read since one was opened. -/
def removeTags : Option (List Char) → List Char → List Char
  | none, [] => []
  | some buffer, [] => buffer
  | none, c :: s => if c = '<' then removeTags (some [c]) s else c :: removeTags none s
  | some buffer, c :: s =>
      if c = '>' then removeTags none s else removeTags (some (buffer ++ [c])) s

def stripHTML (s : String) : String :=
  let text := (removeTags none s.toList).filter fun c => c ≠ '<' ∧ c ≠ '>'
  let clean := text.filter fun c => c = '\n' ∨ c = '\t' ∨ 32 ≤ c.toNat
  trim (String.ofList clean)

theorem removeTags_sublist (s : List Char) : ∀ buffer : Option (List Char),
    (removeTags buffer s).Sublist (buffer.getD [] ++ s) := by
  induction s with
  | nil =>
      rintro (_ | buffer)
      · exact List.Sublist.refl _
      · rw [Option.getD_some, List.append_nil]
        exact List.Sublist.refl _
  | cons c s ih =>
      rintro (_ | buffer)
      · rw [removeTags]
        split_ifs with hopen
        · exact ih (some [c])
        · exact (ih none).cons_cons c
      · rw [removeTags]
        split_ifs with hclose
        · -- the tag is dropped, with what was read of it
          exact (ih none).trans ((List.sublist_cons_self c s).trans (List.sublist_append_right _ _))
        · have hsub := ih (some (buffer ++ [c]))
          rwa [Option.getD_some, List.append_assoc, List.singleton_append] at hsub

theorem removeTags_of_not_mem {s : List Char} (h : '<' ∉ s) : removeTags none s = s := by
  induction s with
  | nil => rfl
  | cons c s ih =>
      rw [List.mem_cons, not_or] at h
      rw [removeTags, if_neg (Ne.symm h.1), ih h.2]

/-- A character that is kept. -/
def Kept (c : Char) : Prop := c ≠ '<' ∧ c ≠ '>' ∧ (c = '\n' ∨ c = '\t' ∨ 32 ≤ c.toNat)

theorem stripHTML_sublist (s : String) : (stripHTML s).toList.Sublist s.toList := by
  rw [stripHTML, trim, String.toList_ofList, String.toList_ofList]
  refine (trimList_sublist _ _).trans (List.filter_sublist.trans (List.filter_sublist.trans ?_))
  exact removeTags_sublist s.toList none

/-- Only what is kept is left of a text. -/
theorem kept_of_mem_stripHTML {s : String} {c : Char} (h : c ∈ (stripHTML s).toList) : Kept c := by
  rw [stripHTML, trim, String.toList_ofList, String.toList_ofList] at h
  have hclean := List.mem_filter.1 ((trimList_sublist _ _).subset h)
  have htext := List.mem_filter.1 hclean.1
  have hangle := of_decide_eq_true htext.2
  exact ⟨hangle.1, hangle.2, of_decide_eq_true hclean.2⟩

/-- A trimmed text of which everything is kept is stripped of nothing. -/
theorem stripHTML_eq_self {s : String} (h : ∀ c ∈ s.toList, Kept c) (htrim : trim s = s) :
    stripHTML s = s := by
  have htags : removeTags none s.toList = s.toList :=
    removeTags_of_not_mem fun hmem => (h _ hmem).1 rfl
  have hangles : s.toList.filter (fun c => c ≠ '<' ∧ c ≠ '>') = s.toList :=
    List.filter_eq_self.2 fun c hc => decide_eq_true ⟨(h c hc).1, (h c hc).2.1⟩
  have hclean : s.toList.filter (fun c => c = '\n' ∨ c = '\t' ∨ 32 ≤ c.toNat) = s.toList :=
    List.filter_eq_self.2 fun c hc => decide_eq_true (h c hc).2.2
  rw [stripHTML, htags, hangles, hclean, String.ofList_toList, htrim]

/-- **What is stripped once is stripped for good.** -/
theorem stripHTML_stripHTML (s : String) : stripHTML (stripHTML s) = stripHTML s := by
  refine stripHTML_eq_self (fun c hc => kept_of_mem_stripHTML hc) ?_
  rw [stripHTML, trim_trim]

/-- The word as it is displayed. -/
def displayWord (raw : String) : String := trim (stripHTML raw)

variable (t : Tables)

/-- `strings.Fields`. -/
def fields (s : String) : List String :=
  ((s.toList.splitOnP isSpace).map String.ofList).filter (· ≠ "")

/-- `strings.TrimFunc` with the characters that are no letters or numbers. -/
def trimFunc (part : String) : String := String.ofList (Tokens.trim t.letterOrNumber part.toList)

def normalizeBannedWord (word : String) : String :=
  let parts := fields (String.ofList (word.toList.map t.toLower))
  " ".intercalate ((parts.map (trimFunc t)).filter (· ≠ ""))

/-- What `CreateBannedWordHandlerGin` requires of a word. -/
def accepts (raw : String) : Bool :=
  raw ≠ "" ∧ raw.length ≤ 128 ∧ normalizeBannedWord t (displayWord raw) ≠ ""

/-! ### A node -/

/-- `String.split` at spaces, without empty parts. -/
def splitTokens (s : String) : List String :=
  ((s.toList.splitOn ' ').map String.ofList).filter (· ≠ "")

def phraseMatches (contentTokens : List String) (phrase : String) : Bool :=
  let phraseTokens := splitTokens phrase
  phrase ≠ "" && 0 < phraseTokens.length &&
    (chunkEvery phraseTokens.length contentTokens).any (· = phraseTokens)

/-- **The phrase that a message is blocked by.** -/
def blockedWord (alphabet : Alphabet) (cache : Cache) (content : String) : Option String :=
  if ¬ cache.enabled then none
  else if normalize alphabet content = "" then none
  else cache.words.find? (phraseMatches (splitTokens (normalize alphabet content)))

/-! ### The law -/

/-- The cache has been loaded, with enforcement enabled, when these words were stored. -/
def Loaded (alphabet : Alphabet) (words : List String) (cache : Cache) : Prop :=
  cache.enabled = true ∧ cache.words = normalizedWords alphabet words

/-- A text of characters other than letters, numbers and the white space of the nodes. -/
def Punctuation (l : List Char) : Prop := Idle isBreaking t.letterOrNumber l

/-- **A message contains the word as written**, with punctuation around it, between white space or the
ends of the message. -/
def Mentions (word message : String) : Prop :=
  ∃ before left right after : List Char,
    message.toList = before ++ (left ++ word.toList ++ right) ++ after ∧
      Punctuation t left ∧ Punctuation t right ∧
      (before = [] ∨ ∃ b c, before = b ++ [c] ∧ isBreaking c = true) ∧
      (after = [] ∨ ∃ c a, after = c :: a ∧ isBreaking c = true)

/-- **Every message that mentions the word is blocked**, by every node that has loaded its cache since
the word was stored. -/
def Blocks (raw : String) : Prop :=
  ∀ (words : List String) (cache : Cache) (message : String),
    normalizeBannedWord t (displayWord raw) ∈ words → Loaded t.alphabet words cache →
      Mentions t (displayWord raw) message → (blockedWord t.alphabet cache message).isSome = true

/-- **No part of the word depends on which language divides and lowers it**: among the parts that only
no-break spaces divide, at most one has a letter or a number, and on every part the lower case of the
nodes comes to the same, up to what is trimmed, with and without that of the server before it. -/
def Plain (word : String) : Prop :=
  (∀ run ∈ word.toList.splitOnP isBreaking,
    (run.splitOnP isSpace).countP (fun part => part.any t.letterOrNumber) ≤ 1) ∧
  ∀ part ∈ word.toList.splitOnP isSpace,
    Tokens.trim t.letterOrNumber ((part.map t.toLower).flatMap t.downcase) =
      Tokens.trim t.letterOrNumber (part.flatMap t.downcase)

instance (word : String) : Decidable (Plain t word) := by unfold Plain; infer_instance

/-! ### Tokens of strings -/

section Strings

theorem ofList_eq_empty_iff {l : List Char} : String.ofList l = "" ↔ l = [] := by
  constructor
  · intro h
    simpa using congrArg String.toList h
  · rintro rfl
    rfl

/-- Empty parts may be dropped before the others are trimmed. -/
theorem filter_map_filter {f : List Char → List Char} (hf : f [] = []) (parts : List (List Char)) :
    ((((parts.map String.ofList).filter (· ≠ "")).map fun s => String.ofList (f s.toList)).filter
      (· ≠ "")) = ((parts.map f).filter (· ≠ [])).map String.ofList := by
  induction parts with
  | nil => rfl
  | cons part parts ih =>
      by_cases hpart : part = []
      · subst hpart
        simpa [hf] using ih
      · by_cases hfpart : f part = []
        · simpa [ofList_eq_empty_iff, hpart, hfpart] using ih
        · simpa [ofList_eq_empty_iff, hpart, hfpart] using ih

/-- The tokens of a node, and those of the server. -/
def elixirTokens (l : List Char) : List (List Char) :=
  tokens isBreaking t.letterOrNumber (l.flatMap t.downcase)

def goTokens (l : List Char) : List (List Char) := tokens isSpace t.letterOrNumber (l.map t.toLower)

theorem normalize_eq (value : String) : normalize t.alphabet value =
    " ".intercalate ((elixirTokens t value.toList).map String.ofList) := by
  have hparts := filter_map_filter (f := Tokens.trim t.letterOrNumber) rfl
    ((value.toList.flatMap t.downcase).splitOnP isBreaking)
  unfold normalize splitWords Tables.alphabet
  rw [String.toList_ofList]
  exact congrArg (String.intercalate " ") hparts

theorem normalizeBannedWord_eq (word : String) : normalizeBannedWord t word =
    " ".intercalate ((goTokens t word.toList).map String.ofList) := by
  have hparts := filter_map_filter (f := Tokens.trim t.letterOrNumber) rfl
    ((word.toList.map t.toLower).splitOnP isSpace)
  unfold normalizeBannedWord fields
  rw [String.toList_ofList]
  exact congrArg (String.intercalate " ") hparts

/-- Tokens that are put together with spaces are found again. -/
theorem splitTokens_intercalate {parts : List (List Char)}
    (h : ∀ part ∈ parts, part ≠ [] ∧ ' ' ∉ part) :
    splitTokens (" ".intercalate (parts.map String.ofList)) = parts.map String.ofList := by
  have hlist : (" ".intercalate (parts.map String.ofList)).toList = [' '].intercalate parts := by
    rw [String.toList_intercalate, List.map_map]
    have hid : String.toList ∘ String.ofList = id := funext fun l => String.toList_ofList
    rw [hid, List.map_id]
    rfl
  unfold splitTokens
  rw [hlist]
  by_cases hparts : parts = []
  · rw [hparts]
    rfl
  · rw [List.splitOn_intercalate ' ' (fun l hl => (h l hl).2) hparts, List.filter_eq_self]
    intro s hs
    obtain ⟨part, hpart, rfl⟩ := List.mem_map.1 hs
    simpa [ofList_eq_empty_iff] using (h part hpart).1

end Strings

/-! ### What the tables leave alone -/

section Tables

variable {t}

theorem not_letter_of_isBreaking (c : Char) (h : isBreaking c = true) :
    t.letterOrNumber c = false := t.not_letter_of_isSpace c (isSpace_of_isBreaking h)

theorem isBreaking_eq_false_of_isSpace {c : Char} (h : isSpace c = false) : isBreaking c = false := by
  rw [isBreaking, h, Bool.false_and]

/-- The nodes' lower case of a text without white space of theirs, or without letters and numbers. -/
theorem idle_downcase {l : List Char} (h : Punctuation t l) : Punctuation t (l.flatMap t.downcase) := by
  intro d hd
  obtain ⟨c, hc, hd⟩ := List.mem_flatMap.1 hd
  exact ⟨t.not_isBreaking_downcase c (h c hc).1 d hd, t.not_letter_downcase c (h c hc).2 d hd⟩

/-- **White space divides the tokens of a node.** -/
theorem elixirTokens_append_cons (l : List Char) {c : Char} (r : List Char)
    (hc : isBreaking c = true) :
    elixirTokens t (l ++ c :: r) = elixirTokens t l ++ elixirTokens t r := by
  unfold elixirTokens
  rw [List.flatMap_append, List.flatMap_cons, t.downcase_of_isBreaking c hc, List.singleton_append,
    Tokens.tokens_append_cons _ _ hc]

/-- **Punctuation around a text leaves its tokens as they are.** -/
theorem elixirTokens_pad {l r : List Char} (hl : Punctuation t l) (hr : Punctuation t r)
    (m : List Char) : elixirTokens t (l ++ m ++ r) = elixirTokens t m := by
  unfold elixirTokens
  rw [List.flatMap_append, List.flatMap_append]
  exact Tokens.tokens_pad (idle_downcase hl) (idle_downcase hr) _

theorem letter_flatMap_downcase {l : List Char} :
    (∀ d ∈ l.flatMap t.downcase, t.letterOrNumber d = false) ↔
      ∀ c ∈ l, t.letterOrNumber c = false := by
  constructor
  · intro h c hc
    by_contra hletter
    rw [Bool.not_eq_false] at hletter
    obtain ⟨d, hd, hletter⟩ := t.letter_downcase c hletter
    rw [h d (List.mem_flatMap.2 ⟨c, hc, hd⟩)] at hletter
    cases hletter
  · intro h d hd
    obtain ⟨c, hc, hd⟩ := List.mem_flatMap.1 hd
    exact t.not_letter_downcase c (h c hc) d hd

/-- A text has no token for a node exactly when it has no letter and no number. -/
theorem elixirTokens_eq_nil_iff {l : List Char} :
    elixirTokens t l = [] ↔ ∀ c ∈ l, t.letterOrNumber c = false := by
  unfold elixirTokens
  rw [Tokens.tokens_eq_nil_iff not_letter_of_isBreaking, letter_flatMap_downcase]

theorem elixirTokens_nil : elixirTokens t [] = [] := elixirTokens_eq_nil_iff.2 nofun

/-- The tokens of a node are those of what lies between its white space. -/
theorem elixirTokens_eq_flatMap (l : List Char) :
    elixirTokens t l = (l.splitOnP isBreaking).flatMap (elixirTokens t) := by
  have hparts : (l.flatMap t.downcase).splitOnP isBreaking =
      (l.splitOnP isBreaking).map fun part => part.flatMap t.downcase :=
    Tokens.splitOnP_flatMap_map (fun c hc => ⟨c, t.downcase_of_isBreaking c hc, hc⟩)
      t.not_isBreaking_downcase l
  unfold elixirTokens
  rw [Tokens.tokens_eq_flatMap, hparts, List.flatMap_map]
  refine List.flatMap_congr fun part hpart => ?_
  refine (Tokens.tokens_part fun d hd => ?_).symm
  obtain ⟨c, hc, hd⟩ := List.mem_flatMap.1 hd
  exact t.not_isBreaking_downcase c (Tokens.not_sep_of_mem_splitOnP hpart c hc) d hd

/-- A part without white space of the nodes has at most one token. -/
theorem elixirTokens_part {l : List Char} (h : ∀ c ∈ l, isBreaking c = false) :
    elixirTokens t l = token t.letterOrNumber (l.flatMap t.downcase) := by
  refine Tokens.tokens_part fun d hd => ?_
  obtain ⟨c, hc, hd⟩ := List.mem_flatMap.1 hd
  exact t.not_isBreaking_downcase c (h c hc) d hd

theorem elixirTokens_intercalate (parts : List (List Char)) :
    elixirTokens t ([' '].intercalate parts) = parts.flatMap (elixirTokens t) := by
  induction parts with
  | nil => exact elixirTokens_nil
  | cons part parts ih =>
      by_cases hparts : parts = []
      · rw [hparts, List.intercalate_singleton, List.flatMap_singleton]
      · rw [List.intercalate_cons_of_ne_nil hparts, List.append_assoc, List.singleton_append,
          elixirTokens_append_cons _ _ (by decide), ih, List.flatMap_cons]

/-- What is trimmed off once is trimmed off a second time. -/
theorem flatMap_token {l : List Char} (h : ∀ c ∈ l, isBreaking c = false) :
    (token t.letterOrNumber l).flatMap (elixirTokens t) = elixirTokens t l := by
  unfold token
  split_ifs with hany
  · rw [List.flatMap_singleton]
    obtain ⟨x, y, hl, hx, hy⟩ := Tokens.exists_pad t.letterOrNumber l
    have hpx : Punctuation t x := fun c hc =>
      ⟨h c (by rw [hl]; simp [hc]), hx c hc⟩
    have hpy : Punctuation t y := fun c hc =>
      ⟨h c (by rw [hl]; simp [hc]), hy c hc⟩
    have hpad := elixirTokens_pad hpx hpy (Tokens.trim t.letterOrNumber l)
    rw [← hl] at hpad
    exact hpad.symm
  · rw [List.flatMap_nil, eq_comm, elixirTokens_eq_nil_iff]
    exact Tokens.any_eq_false_iff.1 (Bool.eq_false_iff.2 hany)

/-- **What a node makes of a word as it was stored**: the tokens of the server's parts, in the lower
case of the server. -/
theorem elixirTokens_normalizeBannedWord (word : String) :
    elixirTokens t (normalizeBannedWord t word).toList =
      (word.toList.splitOnP isSpace).flatMap fun part => elixirTokens t (part.map t.toLower) := by
  have hlist : (normalizeBannedWord t word).toList = [' '].intercalate (goTokens t word.toList) := by
    rw [normalizeBannedWord_eq, String.toList_intercalate, List.map_map]
    have hid : String.toList ∘ String.ofList = id := funext fun l => String.toList_ofList
    rw [hid, List.map_id]
    rfl
  have hparts : (word.toList.map t.toLower).splitOnP isSpace =
      (word.toList.splitOnP isSpace).map fun part => part.map t.toLower := by
    simp only [List.map_eq_flatMap (f := t.toLower)]
    exact Tokens.splitOnP_flatMap_map (fun c hc => ⟨_, rfl, (t.isSpace_toLower c).trans hc⟩)
      (fun c hc d hd => by rw [List.mem_singleton.1 hd, t.isSpace_toLower, hc]) word.toList
  rw [hlist, elixirTokens_intercalate]
  unfold goTokens
  rw [Tokens.tokens_eq_flatMap, hparts, List.flatMap_map, List.flatMap_assoc]
  refine List.flatMap_congr fun part hpart => flatMap_token fun c hc => ?_
  obtain ⟨b, hb, rfl⟩ := List.mem_map.1 hc
  refine isBreaking_eq_false_of_isSpace ?_
  rw [t.isSpace_toLower]
  exact Tokens.not_sep_of_mem_splitOnP hpart b hb

end Tables

/-! ### Plain words -/

section Plain

variable {t}

/-- A part has the same tokens with and without the server's lower case exactly when what is trimmed
agrees. -/
theorem elixirTokens_toLower_iff {part : List Char} (h : ∀ c ∈ part, isSpace c = false) :
    elixirTokens t (part.map t.toLower) = elixirTokens t part ↔
      Tokens.trim t.letterOrNumber ((part.map t.toLower).flatMap t.downcase) =
        Tokens.trim t.letterOrNumber (part.flatMap t.downcase) := by
  have hlower : ∀ c ∈ part.map t.toLower, isBreaking c = false := by
    intro c hc
    obtain ⟨b, hb, rfl⟩ := List.mem_map.1 hc
    exact isBreaking_eq_false_of_isSpace ((t.isSpace_toLower b).trans (h b hb))
  rw [elixirTokens_part hlower, elixirTokens_part fun c hc => isBreaking_eq_false_of_isSpace (h c hc)]
  exact Tokens.token_eq_token_iff

theorem any_flatMap_downcase (l : List Char) :
    (l.flatMap t.downcase).any t.letterOrNumber = l.any t.letterOrNumber := by
  rw [Bool.eq_iff_iff, ← not_iff_not, Bool.not_eq_true, Bool.not_eq_true, Tokens.any_eq_false_iff,
    Tokens.any_eq_false_iff]
  exact letter_flatMap_downcase

theorem any_map_toLower (l : List Char) :
    (l.map t.toLower).any t.letterOrNumber = l.any t.letterOrNumber := by
  rw [List.any_map]
  exact congrArg l.any (funext t.letter_toLower)

/-- A part without the server's white space gives one token if it has a letter or a number. -/
theorem length_elixirTokens_toLower {part : List Char} (h : ∀ c ∈ part, isSpace c = false) :
    (elixirTokens t (part.map t.toLower)).length = if part.any t.letterOrNumber then 1 else 0 := by
  have hlower : ∀ c ∈ part.map t.toLower, isBreaking c = false := by
    intro c hc
    obtain ⟨b, hb, rfl⟩ := List.mem_map.1 hc
    exact isBreaking_eq_false_of_isSpace ((t.isSpace_toLower b).trans (h b hb))
  rw [elixirTokens_part hlower, Tokens.length_token, any_flatMap_downcase, any_map_toLower]

/-- The tokens that a node finds in a run of the word, when the server has divided and lowered it. -/
def runTokens (t : Tables) (run : List Char) : List (List Char) :=
  (run.splitOnP isSpace).flatMap fun part => elixirTokens t (part.map t.toLower)

section Run

variable {run : List Char} (hrun : ∀ c ∈ run, isBreaking c = false)

theorem length_runTokens (run : List Char) : (runTokens t run).length =
    (run.splitOnP isSpace).countP fun part => part.any t.letterOrNumber :=
  Tokens.length_flatMap_eq_countP fun _ hpart =>
    length_elixirTokens_toLower (Tokens.not_sep_of_mem_splitOnP hpart)

include hrun

/-- The tokens of a run of one part, among others without letters and numbers. -/
theorem elixirTokens_run {part : List Char} (hmem : part ∈ run.splitOnP isSpace)
    (hany : part.any t.letterOrNumber = true)
    (hcount : (run.splitOnP isSpace).countP (fun part => part.any t.letterOrNumber) ≤ 1) :
    elixirTokens t run = elixirTokens t part ∧
      runTokens t run = elixirTokens t (part.map t.toLower) := by
  constructor
  · obtain ⟨x, y, hl, hx, hy⟩ :=
      Tokens.exists_of_countP_le_one t.not_letter_of_isSpace hmem hany hcount
    have hpx : Punctuation t x := fun c hc => ⟨hrun c (by rw [hl]; simp [hc]), hx c hc⟩
    have hpy : Punctuation t y := fun c hc => ⟨hrun c (by rw [hl]; simp [hc]), hy c hc⟩
    rw [hl]
    exact elixirTokens_pad hpx hpy part
  · refine Tokens.flatMap_eq_of_countP_le_one (fun b hb hnone => ?_) hmem hany hcount
    rw [elixirTokens_eq_nil_iff, ← Tokens.any_eq_false_iff, any_map_toLower, hnone]

/-- The server finds at least as many tokens in a run as a node. -/
theorem length_elixirTokens_le : (elixirTokens t run).length ≤ (runTokens t run).length := by
  rw [length_runTokens, elixirTokens_part hrun, Tokens.length_token, any_flatMap_downcase]
  split_ifs with hany
  · rw [Nat.one_le_iff_ne_zero, Ne, List.countP_eq_zero]
    intro hnone
    have hfalse := (Tokens.forall_parts_iff t.not_letter_of_isSpace).1 fun part hpart =>
      Bool.eq_false_iff.2 (hnone part hpart)
    rw [Tokens.any_eq_false_iff.2 hfalse] at hany
    cases hany
  · exact Nat.zero_le _

/-- **A run gives the same tokens both ways exactly when it has one part that counts, and the lower
case of its parts agrees.** -/
theorem runTokens_eq_iff : elixirTokens t run = runTokens t run ↔
    (run.splitOnP isSpace).countP (fun part => part.any t.letterOrNumber) ≤ 1 ∧
      ∀ part ∈ run.splitOnP isSpace,
        elixirTokens t (part.map t.toLower) = elixirTokens t part := by
  constructor
  · intro h
    have hcount : (run.splitOnP isSpace).countP (fun part => part.any t.letterOrNumber) ≤ 1 := by
      rw [← length_runTokens, ← h, elixirTokens_part hrun, Tokens.length_token]
      split_ifs <;> omega
    refine ⟨hcount, fun part hpart => ?_⟩
    cases hany : part.any t.letterOrNumber with
    | true =>
        obtain ⟨hnode, hserver⟩ := elixirTokens_run hrun hpart hany hcount
        rw [← hserver, ← hnode, h]
    | false =>
        have hnone := Tokens.any_eq_false_iff.1 hany
        rw [elixirTokens_eq_nil_iff.2 hnone, elixirTokens_eq_nil_iff, ← Tokens.any_eq_false_iff,
          any_map_toLower, hany]
  · rintro ⟨hcount, hagree⟩
    by_cases hnone : ∀ part ∈ run.splitOnP isSpace, part.any t.letterOrNumber = false
    · have hempty : runTokens t run = [] := List.flatMap_eq_nil_iff.2 fun part hpart => by
        rw [elixirTokens_eq_nil_iff, ← Tokens.any_eq_false_iff, any_map_toLower, hnone part hpart]
      rw [hempty, elixirTokens_eq_nil_iff]
      exact (Tokens.forall_parts_iff t.not_letter_of_isSpace).1 hnone
    · push Not at hnone
      obtain ⟨part, hpart, hany⟩ := hnone
      rw [Ne, Bool.not_eq_false] at hany
      obtain ⟨hnode, hserver⟩ := elixirTokens_run hrun hpart hany hcount
      rw [hnode, hserver, hagree part hpart]

end Run

theorem elixirTokens_stored (word : String) :
    elixirTokens t (normalizeBannedWord t word).toList =
      (word.toList.splitOnP isBreaking).flatMap (runTokens t) := by
  rw [elixirTokens_normalizeBannedWord,
    Tokens.splitOnP_refine (fun c hc => isSpace_of_isBreaking hc) word.toList, List.flatMap_assoc]
  rfl

/-- The stored word has at least as many tokens for a node as the displayed one. -/
theorem length_tokens_le (word : String) : (elixirTokens t word.toList).length ≤
    (elixirTokens t (normalizeBannedWord t word).toList).length := by
  rw [elixirTokens_eq_flatMap, elixirTokens_stored]
  exact Tokens.length_flatMap_le fun run hrun =>
    length_elixirTokens_le (Tokens.not_sep_of_mem_splitOnP hrun)

/-- **A word is plain exactly when a node finds the same tokens in it as in what is stored.** -/
theorem plain_iff (word : String) : Plain t word ↔
    elixirTokens t (normalizeBannedWord t word).toList = elixirTokens t word.toList := by
  have hspace {part : List Char} (hpart : part ∈ word.toList.splitOnP isSpace) :=
    elixirTokens_toLower_iff (t := t) (Tokens.not_sep_of_mem_splitOnP hpart)
  rw [elixirTokens_eq_flatMap word.toList, elixirTokens_stored, eq_comm,
    Tokens.flatMap_eq_iff fun run hrun =>
      length_elixirTokens_le (Tokens.not_sep_of_mem_splitOnP hrun)]
  unfold Plain
  have hruns : (∀ run ∈ word.toList.splitOnP isBreaking, elixirTokens t run = runTokens t run) ↔
      ∀ run ∈ word.toList.splitOnP isBreaking,
        (run.splitOnP isSpace).countP (fun part => part.any t.letterOrNumber) ≤ 1 ∧
          ∀ part ∈ run.splitOnP isSpace,
            elixirTokens t (part.map t.toLower) = elixirTokens t part :=
    forall₂_congr fun run hrun => runTokens_eq_iff (Tokens.not_sep_of_mem_splitOnP hrun)
  have hparts : (∀ part ∈ word.toList.splitOnP isSpace,
      elixirTokens t (part.map t.toLower) = elixirTokens t part) ↔
        ∀ run ∈ word.toList.splitOnP isBreaking, ∀ part ∈ run.splitOnP isSpace,
          elixirTokens t (part.map t.toLower) = elixirTokens t part := by
    rw [Tokens.splitOnP_refine (fun c hc => isSpace_of_isBreaking hc) word.toList]
    simp only [List.mem_flatMap]
    exact ⟨fun h run hrun part hpart => h part ⟨run, hrun, hpart⟩,
      fun h part ⟨run, hrun, hpart⟩ => h run hrun part hpart⟩
  rw [hruns, forall₂_congr fun part hpart => (hspace hpart).symm, hparts, ← forall₂_and]

end Plain

/-! ### Blocked messages -/

section Blocked

variable {t}

/-- The tokens of a node are not empty, and have no space. -/
theorem ne_nil_and_not_mem_of_mem {l part : List Char} (h : part ∈ elixirTokens t l) :
    part ≠ [] ∧ ' ' ∉ part := by
  obtain ⟨hpart, hne⟩ := List.mem_filter.1 h
  obtain ⟨run, hrun, rfl⟩ := List.mem_map.1 hpart
  refine ⟨of_decide_eq_true hne, fun hmem => ?_⟩
  have hbreaking := Tokens.not_sep_of_mem_splitOnP hrun ' ' (Tokens.mem_of_mem_trim hmem)
  exact absurd hbreaking (by decide)

/-- What a message, or a phrase, is compared by. -/
theorem splitTokens_normalize (value : String) : splitTokens (normalize t.alphabet value) =
    (elixirTokens t value.toList).map String.ofList := by
  rw [normalize_eq]
  exact splitTokens_intercalate fun part hpart => ne_nil_and_not_mem_of_mem hpart

theorem normalize_eq_empty_iff {value : String} :
    normalize t.alphabet value = "" ↔ elixirTokens t value.toList = [] := by
  constructor
  · intro h
    have hsplit := splitTokens_normalize (t := t) value
    rw [h] at hsplit
    exact List.map_eq_nil_iff.1 hsplit.symm
  · intro h
    rw [normalize_eq, h]
    rfl

theorem map_ofList_infix_iff {l r : List (List Char)} :
    l.map String.ofList <:+: r.map String.ofList ↔ l <:+: r := by
  refine ⟨fun h => ?_, fun h => h.map _⟩
  have hback := h.map String.toList
  have hid : String.toList ∘ String.ofList = id := funext fun l => String.toList_ofList
  simpa only [List.map_map, hid, List.map_id] using hback

/-- **A phrase matches when its tokens stand next to each other among those of the message.** -/
theorem phraseMatches_iff {content word : String} :
    phraseMatches (splitTokens (normalize t.alphabet content)) (normalize t.alphabet word) = true ↔
      elixirTokens t word.toList ≠ [] ∧
        elixirTokens t word.toList <:+: elixirTokens t content.toList := by
  unfold phraseMatches
  rw [splitTokens_normalize, splitTokens_normalize]
  simp only [Bool.and_eq_true, decide_eq_true_eq, ne_eq, normalize_eq_empty_iff, List.any_eq_true,
    exists_eq_right, List.length_pos_iff, List.map_eq_nil_iff, Tokens.mem_chunkEvery_iff,
    map_ofList_infix_iff]
  tauto

/-- **A message is blocked by the tokens of a loaded phrase.** -/
theorem blockedWord_isSome_iff {words : List String} {cache : Cache} {message : String}
    (hcache : Loaded t.alphabet words cache) :
    (blockedWord t.alphabet cache message).isSome = true ↔
      ∃ word ∈ words, elixirTokens t word.toList ≠ [] ∧
        elixirTokens t word.toList <:+: elixirTokens t message.toList := by
  obtain ⟨henabled, hwords⟩ := hcache
  unfold blockedWord
  rw [if_neg (not_not.2 henabled)]
  split_ifs with hempty
  · refine iff_of_false (by simp) ?_
    rintro ⟨word, -, hne, hinfix⟩
    rw [normalize_eq_empty_iff.1 hempty] at hinfix
    exact hne (List.infix_nil.1 hinfix)
  · rw [List.find?_isSome, hwords]
    unfold normalizedWords
    constructor
    · rintro ⟨phrase, hphrase, hmatches⟩
      rw [FirstDistinct.mem_sorted, List.mem_filter] at hphrase
      obtain ⟨word, hword, rfl⟩ := List.mem_map.1 hphrase.1
      exact ⟨word, hword, phraseMatches_iff.1 hmatches⟩
    · rintro ⟨word, hword, hne, hinfix⟩
      refine ⟨normalize t.alphabet word, ?_, phraseMatches_iff.2 ⟨hne, hinfix⟩⟩
      rw [FirstDistinct.mem_sorted, List.mem_filter]
      exact ⟨List.mem_map.2 ⟨word, hword, rfl⟩,
        by simpa using mt normalize_eq_empty_iff.1 hne⟩

/-- **The tokens of a word stand next to each other in every message that mentions it.** -/
theorem infix_of_mentions {word message : String} (h : Mentions t word message) :
    elixirTokens t word.toList <:+: elixirTokens t message.toList := by
  obtain ⟨before, left, right, after, hmessage, hleft, hright, hbefore, hafter⟩ := h
  have hword : elixirTokens t (left ++ word.toList ++ right) = elixirTokens t word.toList :=
    elixirTokens_pad hleft hright _
  have hrest : elixirTokens t word.toList <:+:
      elixirTokens t (left ++ word.toList ++ right ++ after) := by
    rcases hafter with rfl | ⟨c, rest, rfl, hc⟩
    · rw [List.append_nil, hword]
    · rw [elixirTokens_append_cons _ _ hc, hword]
      exact (List.prefix_append _ _).isInfix
  rw [hmessage, List.append_assoc before]
  rcases hbefore with rfl | ⟨rest, c, rfl, hc⟩
  · exact hrest
  · rw [List.append_assoc, List.singleton_append, elixirTokens_append_cons _ _ hc]
    exact hrest.trans (List.suffix_append _ _).isInfix

theorem mentions_self (t : Tables) (word : String) : Mentions t word word :=
  ⟨[], [], [], [], by simp, nofun, nofun, .inl rfl, .inl rfl⟩

/-- A word that is stored has tokens. -/
theorem tokens_ne_nil_of_stored {word : String} (h : normalizeBannedWord t word ≠ "") :
    elixirTokens t (normalizeBannedWord t word).toList ≠ [] := by
  intro hnil
  rw [elixirTokens_normalizeBannedWord, List.flatMap_eq_nil_iff] at hnil
  have hgo : goTokens t word.toList = [] := by
    unfold goTokens
    rw [Tokens.tokens_eq_nil_iff t.not_letter_of_isSpace, ← Tokens.any_eq_false_iff, any_map_toLower,
      Tokens.any_eq_false_iff, ← Tokens.forall_parts_iff t.not_letter_of_isSpace]
    intro part hpart
    rw [← any_map_toLower, Tokens.any_eq_false_iff, ← elixirTokens_eq_nil_iff]
    exact hnil part hpart
  rw [normalizeBannedWord_eq, hgo] at h
  exact h rfl

theorem loaded_normalizedWords (alphabet : Alphabet) (words : List String) :
    Loaded alphabet words ⟨true, normalizedWords alphabet words, 0⟩ := ⟨rfl, rfl⟩

variable (t) in
/-- **A banned word is blocked in every message that mentions it exactly when it is plain.** -/
theorem blocks_iff_plain (raw : String) (haccepts : accepts t raw = true) :
    Blocks t raw ↔ Plain t (displayWord raw) := by
  have hstored : normalizeBannedWord t (displayWord raw) ≠ "" := (of_decide_eq_true haccepts).2.2
  rw [plain_iff]
  constructor
  · intro h
    -- the word alone, with nothing else stored
    have hloaded := loaded_normalizedWords t.alphabet [normalizeBannedWord t (displayWord raw)]
    have hblocked := h _ _ (displayWord raw) List.mem_cons_self hloaded (mentions_self t _)
    obtain ⟨word, hword, -, hinfix⟩ := (blockedWord_isSome_iff hloaded).1 hblocked
    rw [List.mem_singleton.1 hword] at hinfix
    exact (Tokens.infix_iff_eq (length_tokens_le _)).1 hinfix
  · intro hplain words cache message hmem hcache hmentions
    refine (blockedWord_isSome_iff hcache).2 ⟨_, hmem, tokens_ne_nil_of_stored hstored, ?_⟩
    rw [hplain]
    exact infix_of_mentions hmentions

/-- A node that has read the flag and then the words has loaded its cache. -/
theorem loaded_readWords (alphabet : Alphabet) (m : Moderation) (keys : Keys) (entries : ℕ)
    (henabled : enabled alphabet keys.enabledValue = true) :
    Loaded alphabet keys.words ((m.readEnabled alphabet keys entries true).readWords alphabet keys
      entries true).cache := by
  simp [Loaded, Moderation.readEnabled, Moderation.readWords, henabled]

end Blocked

/-! ### A plain phrase, and one with a no-break space -/

section Example

def asciiLower (c : Char) : Char :=
  if 65 ≤ c.toNat ∧ c.toNat ≤ 90 then Char.ofNat (c.toNat + 32) else c

def asciiAlphanum (c : Char) : Bool :=
  (48 ≤ c.toNat ∧ c.toNat ≤ 57) ∨ (65 ≤ c.toNat ∧ c.toNat ≤ 90) ∨ (97 ≤ c.toNat ∧ c.toNat ≤ 122)

/-- Only capital letters are changed, and become small ones. -/
theorem asciiLower_cases (c : Char) : asciiLower c = c ∨
    (65 ≤ c.toNat ∧ c.toNat ≤ 90 ∧ (asciiLower c).toNat = c.toNat + 32) := by
  by_cases h : 65 ≤ c.toNat ∧ c.toNat ≤ 90
  · refine .inr ⟨h.1, h.2, ?_⟩
    have hvalid : (c.toNat + 32).isValidChar := .inl (by omega)
    rw [asciiLower, if_pos h, Char.ofNat, dif_pos hvalid]
    rfl
  · exact .inl (if_neg h)

theorem isSpace_asciiLower (c : Char) : isSpace (asciiLower c) = isSpace c := by
  rcases asciiLower_cases c with h | ⟨hle, hge, h⟩
  · rw [h]
  · rw [isSpace_of_visible (by omega) (by omega), isSpace_of_visible (by omega) (by omega)]

theorem asciiAlphanum_asciiLower (c : Char) : asciiAlphanum (asciiLower c) = asciiAlphanum c := by
  rcases asciiLower_cases c with h | ⟨hle, hge, h⟩
  · rw [h]
  · have hsmall : asciiAlphanum (asciiLower c) = true := decide_eq_true (by omega)
    have hcapital : asciiAlphanum c = true := decide_eq_true (by omega)
    rw [hsmall, hcapital]

theorem asciiLower_of_isSpace {c : Char} (h : isSpace c = true) : asciiLower c = c := by
  rcases asciiLower_cases c with hc | ⟨hle, hge, -⟩
  · exact hc
  · rw [isSpace_of_visible (by omega) (by omega)] at h
    cases h

/-- The tables, of ASCII letters and digits. -/
def asciiTables : Tables where
  toLower := asciiLower
  downcase c := [asciiLower c]
  letterOrNumber := asciiAlphanum
  not_letter_of_isSpace c h := by
    by_contra hletter
    rw [Bool.not_eq_false, asciiAlphanum, decide_eq_true_eq] at hletter
    rw [isSpace_of_visible (by omega) (by omega)] at h
    cases h
  isSpace_toLower := isSpace_asciiLower
  letter_toLower := asciiAlphanum_asciiLower
  downcase_of_isBreaking c h := by rw [asciiLower_of_isSpace (isSpace_of_isBreaking h)]
  not_isBreaking_downcase c h d hd := by
    obtain rfl := List.mem_singleton.1 hd
    rcases asciiLower_cases c with hc | ⟨hle, hge, hc⟩
    · rwa [hc]
    · exact isBreaking_eq_false_of_isSpace (isSpace_of_visible (by omega) (by omega))
  letter_downcase c h :=
    ⟨asciiLower c, List.mem_singleton_self _, (asciiAlphanum_asciiLower c).trans h⟩
  not_letter_downcase c h d hd := by
    rw [List.mem_singleton.1 hd, asciiAlphanum_asciiLower, h]

/-- **A phrase is blocked as it was written.** -/
theorem freeMoney_blocked : Blocks asciiTables " <b>Free</b>  Money! " :=
  (blocks_iff_plain asciiTables _ (by decide +kernel)).2 (by decide +kernel)

/-- **A phrase with a no-break space is not blocked.** -/
theorem noBreakPhrase_notBlocked :
    ¬ ∀ raw, accepts asciiTables raw = true → Blocks asciiTables raw := by
  intro h
  have hblocked := h "free\u00a0money" (by decide +kernel) ["free money"] _ "free\u00a0money"
    (by decide +kernel) (loaded_normalizedWords _ _) (mentions_self _ _)
  have hnot : (blockedWord asciiTables.alphabet
      ⟨true, normalizedWords asciiTables.alphabet ["free money"], 0⟩ "free\u00a0money").isSome =
        false := by decide +kernel
  rw [hnot] at hblocked
  cases hblocked

end Example

end BannedWords
