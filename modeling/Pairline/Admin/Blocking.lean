/-
**Messages that are blocked.**

A node looks for the phrases of its cache among the tokens of a message.  The phrases were put together
from tokens when the cache was loaded, and are divided again for every message; the message is
compared window by window.  All of this comes to one thing: the tokens of a phrase stand next to each
other among those of the message.

White space is what divides texts here: no-break spaces do not.

Main definitions:

* `BannedWords.normalizedTokens` — the tokens of a text, before they are put together;
* `BannedWords.Extends` — a message is part of a longer one, from white space to white space;
* `BannedWords.LowersOnce` — what is in lower case stays as it is;
* `BannedWords.DetectionLaw` — which messages are blocked, and that they stay so.

Main results:

* `BannedWords.splitTokens_normalize_eq` — tokens that are put together are found again;
* `BannedWords.normalize_normalize` — **what is normalised stays as it is**;
* `BannedWords.detectionLaw_of_lowersOnce` — **the nodes keep the law**.
-/

import Pairline.Admin.Phrases

set_option relaxedAutoImplicit false
set_option autoImplicit false

namespace BannedWords

open Whitespace

/-! ### The law -/

section Law

variable (alphabet : Alphabet)

/-- **The tokens of a text**, which `normalize` puts together. -/
def normalizedTokens (value : String) : List String :=
  ((splitWords (alphabet.downcase value)).map (normalizeToken alphabet)).filter (· ≠ "")

/-- A message is part of a longer one; what comes before it ends in white space, and what comes after
it begins with white space. -/
def Extends (message longer : String) : Prop :=
  ∃ before after : List Char, longer.toList = before ++ message.toList ++ after ∧
    (before = [] ∨ ∃ b c, before = b ++ [c] ∧ isBreaking c = true) ∧
    (after = [] ∨ ∃ c a, after = c :: a ∧ isBreaking c = true)

/-- **Which messages are blocked**, by a cache that has been loaded with enforcement enabled. -/
structure DetectionLaw : Prop where
  /-- A message is blocked by the tokens of a phrase in the cache. -/
  blocked_iff_cached : ∀ words cache message, Loaded alphabet words cache →
    ((blockedWord alphabet cache message).isSome = true ↔ ∃ phrase ∈ cache.words,
      splitTokens phrase <:+: splitTokens (normalize alphabet message))
  /-- These are the tokens of the stored phrases that have any, and of the message. -/
  blocked_iff_stored : ∀ words cache message, Loaded alphabet words cache →
    ((blockedWord alphabet cache message).isSome = true ↔ ∃ word ∈ words,
      normalizedTokens alphabet word ≠ [] ∧
        normalizedTokens alphabet word <:+: normalizedTokens alphabet message)
  /-- The word that is returned is such a phrase. -/
  returned : ∀ words cache message phrase, Loaded alphabet words cache →
    blockedWord alphabet cache message = some phrase → phrase ∈ cache.words ∧
      splitTokens phrase <:+: splitTokens (normalize alphabet message)
  idempotent : ∀ value, normalize alphabet (normalize alphabet value) = normalize alphabet value
  /-- A longer message is blocked as well. -/
  longer : ∀ words cache message message', Loaded alphabet words cache → Extends message message' →
    (blockedWord alphabet cache message).isSome = true →
      (blockedWord alphabet cache message').isSome = true
  /-- A message is also blocked when more phrases are loaded. -/
  more : ∀ words words' cache cache' message, Loaded alphabet words cache →
    Loaded alphabet words' cache' → words ⊆ words' →
      (blockedWord alphabet cache message).isSome = true →
        (blockedWord alphabet cache' message).isSome = true

/-- **What is in lower case stays as it is.** -/
def LowersOnce (t : Tables) : Prop := ∀ c, ∀ d ∈ t.downcase c, t.downcase d = [d]

end Law

/-! ### Tokens that are put together -/

section Normalised

variable {t : Tables}

theorem normalizedTokens_eq (value : String) :
    normalizedTokens t.alphabet value = (elixirTokens t value.toList).map String.ofList := by
  unfold normalizedTokens splitWords Tables.alphabet
  rw [String.toList_ofList]
  exact filter_map_filter (f := Tokens.trim t.letterOrNumber) rfl
    ((value.toList.flatMap t.downcase).splitOnP isBreaking)

/-- **Tokens that are put together are found again.** -/
theorem splitTokens_normalize_eq (value : String) :
    splitTokens (normalize t.alphabet value) = normalizedTokens t.alphabet value := by
  rw [splitTokens_normalize, normalizedTokens_eq]

theorem toList_normalize (value : String) :
    (normalize t.alphabet value).toList = [' '].intercalate (elixirTokens t value.toList) := by
  have hid : String.toList ∘ String.ofList = id := funext fun l => String.toList_ofList
  rw [normalize_eq, String.toList_intercalate, List.map_map, hid, List.map_id]
  rfl

/-- A token is its own token: it is in lower case, has no white space, and nothing is to be trimmed. -/
theorem elixirTokens_of_mem (hlower : LowersOnce t) {l part : List Char}
    (hpart : part ∈ elixirTokens t l) : elixirTokens t part = [part] := by
  obtain ⟨hmem, hne⟩ := List.mem_filter.1 hpart
  have hne : part ≠ [] := of_decide_eq_true hne
  obtain ⟨run, hrun, rfl⟩ := List.mem_map.1 hmem
  have hchars : ∀ d ∈ Tokens.trim t.letterOrNumber run,
      isBreaking d = false ∧ d ∈ l.flatMap t.downcase := by
    intro d hd
    have hd := Tokens.mem_of_mem_trim hd
    exact ⟨Tokens.not_sep_of_mem_splitOnP hrun d hd, Tokens.mem_of_mem_splitOnP hrun hd⟩
  have hsame : (Tokens.trim t.letterOrNumber run).flatMap t.downcase =
      Tokens.trim t.letterOrNumber run := by
    have hone : ∀ d ∈ Tokens.trim t.letterOrNumber run, t.downcase d = [d] := by
      intro d hd
      obtain ⟨c, -, hc⟩ := List.mem_flatMap.1 (hchars d hd).2
      exact hlower c d hc
    rw [List.flatMap_congr hone]
    exact List.flatMap_singleton' _
  rw [elixirTokens_part fun d hd => (hchars d hd).1, hsame, Tokens.token_trim hne]

/-- **What is normalised stays as it is.** -/
theorem normalize_normalize (hlower : LowersOnce t) (value : String) :
    normalize t.alphabet (normalize t.alphabet value) = normalize t.alphabet value := by
  have htokens : elixirTokens t (normalize t.alphabet value).toList =
      elixirTokens t value.toList := by
    rw [toList_normalize, elixirTokens_intercalate,
      List.flatMap_congr fun part hpart => elixirTokens_of_mem hlower hpart]
    exact List.flatMap_singleton' _
  rw [normalize_eq, htokens, ← normalize_eq]

end Normalised

/-! ### Blocked messages -/

section Detection

variable {t : Tables} {words : List String} {cache : Cache}

/-- A phrase of the cache is a stored one that has tokens. -/
theorem mem_cache_iff (hcache : Loaded t.alphabet words cache) {phrase : String} :
    phrase ∈ cache.words ↔
      (∃ word ∈ words, normalize t.alphabet word = phrase) ∧ splitTokens phrase ≠ [] := by
  rw [hcache.2, normalizedWords, FirstDistinct.mem_sorted, List.mem_filter, List.mem_map]
  refine and_congr_right ?_
  rintro ⟨word, -, rfl⟩
  rw [splitTokens_normalize, decide_eq_true_iff, Ne, Ne, normalize_eq_empty_iff, List.map_eq_nil_iff]

theorem blocked_iff_stored (hcache : Loaded t.alphabet words cache) (message : String) :
    (blockedWord t.alphabet cache message).isSome = true ↔ ∃ word ∈ words,
      normalizedTokens t.alphabet word ≠ [] ∧
        normalizedTokens t.alphabet word <:+: normalizedTokens t.alphabet message := by
  rw [blockedWord_isSome_iff hcache]
  refine exists_congr fun word => and_congr_right fun _ => ?_
  rw [normalizedTokens_eq, normalizedTokens_eq, map_ofList_infix_iff, Ne, Ne, List.map_eq_nil_iff]

/-- **A message is blocked by the tokens of a phrase in the cache.** -/
theorem blocked_iff_cached (hcache : Loaded t.alphabet words cache) (message : String) :
    (blockedWord t.alphabet cache message).isSome = true ↔ ∃ phrase ∈ cache.words,
      splitTokens phrase <:+: splitTokens (normalize t.alphabet message) := by
  rw [blocked_iff_stored hcache, splitTokens_normalize_eq]
  constructor
  · rintro ⟨word, hword, hne, hinfix⟩
    refine ⟨normalize t.alphabet word, (mem_cache_iff hcache).2 ⟨⟨word, hword, rfl⟩, ?_⟩, ?_⟩
    · rwa [splitTokens_normalize_eq]
    · rwa [splitTokens_normalize_eq]
  · rintro ⟨phrase, hphrase, hinfix⟩
    obtain ⟨⟨word, hword, rfl⟩, hne⟩ := (mem_cache_iff hcache).1 hphrase
    rw [splitTokens_normalize_eq] at hne hinfix
    exact ⟨word, hword, hne, hinfix⟩

/-- The word that is returned is a phrase in the cache whose tokens are found. -/
theorem infix_of_blockedWord {message phrase : String}
    (h : blockedWord t.alphabet cache message = some phrase) : phrase ∈ cache.words ∧
      splitTokens phrase <:+: splitTokens (normalize t.alphabet message) := by
  unfold blockedWord at h
  split_ifs at h with henabled hempty
  have hmatch := List.find?_some h
  simp only [phraseMatches, Bool.and_eq_true, List.any_eq_true, decide_eq_true_eq,
    exists_eq_right, Tokens.mem_chunkEvery_iff] at hmatch
  exact ⟨List.mem_of_find?_eq_some h, hmatch.2⟩

/-- **A longer message has the tokens of the message next to each other.** -/
theorem infix_of_extends {message longer : String} (h : Extends message longer) :
    normalizedTokens t.alphabet message <:+: normalizedTokens t.alphabet longer := by
  obtain ⟨before, after, hlonger, hbefore, hafter⟩ := h
  have hmentions : Mentions t message longer :=
    ⟨before, [], [], after, by simpa using hlonger, nofun, nofun, hbefore, hafter⟩
  rw [normalizedTokens_eq, normalizedTokens_eq]
  exact (infix_of_mentions hmentions).map _

/-- **The nodes keep the law.** -/
theorem detectionLaw_of_lowersOnce (t : Tables) (hlower : LowersOnce t) :
    DetectionLaw t.alphabet where
  blocked_iff_cached _ _ message hcache := blocked_iff_cached hcache message
  blocked_iff_stored _ _ message hcache := blocked_iff_stored hcache message
  returned _ _ _ _ _ h := infix_of_blockedWord h
  idempotent := normalize_normalize hlower
  longer _ _ message message' hcache hextends hblocked := by
    obtain ⟨word, hword, hne, hinfix⟩ := (blocked_iff_stored hcache message).1 hblocked
    exact (blocked_iff_stored hcache message').2
      ⟨word, hword, hne, hinfix.trans (infix_of_extends hextends)⟩
  more _ _ _ _ message hcache hcache' hsub hblocked := by
    obtain ⟨word, hword, hfound⟩ := (blocked_iff_stored hcache message).1 hblocked
    exact (blocked_iff_stored hcache' message).2 ⟨word, hsub hword, hfound⟩

end Detection

/-! ### ASCII letters -/

theorem lowersOnce_ascii : LowersOnce asciiTables := by
  intro c d hd
  obtain rfl := List.mem_singleton.1 hd
  refine congrArg (fun c => [c]) ?_
  rcases asciiLower_cases c with hc | ⟨hle, hge, hc⟩
  · rw [hc, hc]
  · exact if_neg (by omega)

theorem detectionLaw_ascii : DetectionLaw asciiTables.alphabet :=
  detectionLaw_of_lowersOnce asciiTables lowersOnce_ascii

/-- A phrase is found in a longer message, whatever surrounds its words. -/
example : blockedWord asciiTables.alphabet
    ⟨true, normalizedWords asciiTables.alphabet ["Bad  phrase!", "..."], 0⟩
    "this contains (bad) PHRASE, too" = some "bad phrase" := by decide +kernel

end BannedWords
