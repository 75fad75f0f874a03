/-
**The categories that a reply names.**

An adapter whose prompt asks for violated categories prints a list of them, each with a code and a
label, and reads a list of codes and labels out of the reply.  What it reads is made canonical with a
table of codes, labels and aliases, which all adapters share.  Most adapters print the categories of
that table; Llama Guard was trained on others, which have codes and labels of their own.

A text is a list of characters here.

Main definitions:

* `Automod.Lowering` — the table of lower case;
* `Automod.categories`, `Automod.canonicalize`, `Automod.canonicalizeMany` — the table, and what it
  makes of texts;
* `Automod.normalizeCategories` — the texts between commas;
* `Automod.Printed`, `Automod.Entry` — a category as it is printed, and as it is given in a list;
* `Automod.listed` — **the list**.

Main results:

* `Automod.canonicalizeMany_eq` — what is left of a list of texts is what they stand for, each once;
* `Automod.normalizeCategories_listed` — **a list gives the names of its entries in lower case**;
* `Automod.canonicalizeMany_normalizeCategories` — a list of printed categories gives their canonical
  names.
-/

import Pairline.Automod.Evidence
import Pairline.FirstDistinct
import Pairline.Tokens

set_option relaxedAutoImplicit false
set_option autoImplicit false

namespace Automod

open FirstDistinct (distinct)
open Whitespace (isSpace trimList)

/-! ### The table -/

abbrev Text := List Char

/-- A text that is written in ASCII. -/
def ascii (s : String) : Text := s.toUTF8.data.toList.map fun a => Char.ofNat a.toNat

/-- **The table of lower case**, of which ASCII and white space are known. -/
structure Lowering where
  toLower : Char → Char
  toLower_ascii : ∀ c, c.toNat < 128 → toLower c = c.toLower
  toLower_space : ∀ c, isSpace c = true → toLower c = c

structure Category where
  code : String
  label : String
  canonical : String
  aliases : List String := []

def categories : List Category :=
  [{ code := "S1", label := "Violence", canonical := "violence" },
    { code := "S2", label := "Sexual", canonical := "sexual" },
    { code := "S3", label := "Criminal Planning/Confessions"
      canonical := "criminal planning/confessions" },
    { code := "S4", label := "Guns and Illegal Weapons", canonical := "guns and illegal weapons" },
    { code := "S5", label := "Controlled/Regulated Substances"
      canonical := "controlled/regulated substances" },
    { code := "S6", label := "Suicide and Self Harm", canonical := "suicide and self harm"
      aliases := ["suicide & self-harm", "suicide/self-harm"] },
    { code := "S7", label := "Sexual (minor)", canonical := "sexual (minor)"
      aliases := ["child sexual exploitation"] },
    { code := "S8", label := "Hate/Identity Hate", canonical := "hate/identity hate"
      aliases := ["hate"] },
    { code := "S9", label := "PII/Privacy", canonical := "pii/privacy"
      aliases := ["privacy", "pii"] },
    { code := "S10", label := "Harassment", canonical := "harassment"
      aliases := ["sexual harassment"] },
    { code := "S11", label := "Threat", canonical := "threat"
      aliases := ["threats", "intimidation"] },
    { code := "S12", label := "Profanity", canonical := "profanity" },
    { code := "S13", label := "Needs Caution", canonical := "needs caution" },
    { code := "S14", label := "Other", canonical := "other", aliases := ["defamation"] },
    { code := "S15", label := "Manipulation", canonical := "manipulation" },
    { code := "S16", label := "Fraud/Deception", canonical := "fraud/deception"
      aliases := ["fraud", "scams", "deception"] },
    { code := "S17", label := "Malware", canonical := "malware"
      aliases := ["code interpreter abuse", "cyber crimes", "hacking"] },
    { code := "S18", label := "High Risk Gov Decision Making"
      canonical := "high risk gov decision making" },
    { code := "S19", label := "Political/Misinformation/Conspiracy"
      canonical := "political/misinformation/conspiracy", aliases := ["elections"] },
    { code := "S20", label := "Copyright/Trademark/Plagiarism"
      canonical := "copyright/trademark/plagiarism", aliases := ["intellectual property"] },
    { code := "S21", label := "Unauthorized Advice", canonical := "unauthorized advice"
      aliases := ["specialized advice"] },
    { code := "S22", label := "Illegal Activity", canonical := "illegal activity"
      aliases := ["violent crimes", "non-violent crimes", "sex-related crimes"] },
    { code := "S23", label := "Immoral/Unethical", canonical := "immoral/unethical" }]

/-- `taxonomy.Render`. -/
def render : String :=
  ", ".intercalate (categories.map fun category => category.code ++ ":" ++ category.label) ++ "\n"

/-- `strings.TrimSpace`. -/
def trimText (text : Text) : Text := trimList isSpace text

section Canonical

variable (lower : Lowering)

/-- `strings.ToLower`. -/
def toLower (text : Text) : Text := text.map lower.toLower

/-- The replacer of `normalizeKey`. -/
def replaceSign (c : Char) : Text :=
  if c = '&' then ['a', 'n', 'd'] else if c = '_' ∨ c = '-' then [' '] else [c]

def normalizeKey (raw : Text) : Text :=
  let trimmed := (toLower lower (trimText raw)).flatMap replaceSign
  [' '].intercalate ((trimmed.splitOnP isSpace).filter (· ≠ []))

/-- The keys of a category. -/
def Category.keys (category : Category) : List String :=
  [category.code, category.label, category.canonical] ++ category.aliases

/-- What is written into the map, in this order. -/
def buildLookup : List (Text × Text) :=
  categories.flatMap fun category =>
    category.keys.map fun key => (normalizeKey lower (ascii key), ascii category.canonical)

/-- The value that was written last for a key. -/
def lookup (key : Text) : Option Text :=
  ((buildLookup lower).reverse.find? fun entry => entry.1 = key).map (·.2)

def canonicalize (raw : Text) : Text :=
  let key := normalizeKey lower raw
  if key = [] then [] else (lookup lower key).getD (toLower lower (trimText raw))

local instance : LawfulBEq Text := inferInstance

/-- One turn of the loop of `CanonicalizeMany`. -/
def addCanonical (result : List Text) (value : Text) : List Text :=
  let canonical := canonicalize lower value
  if canonical = [] ∨ canonical ∈ result then result else result ++ [canonical]

def canonicalizeMany (values : List Text) : List Text := values.foldl (addCanonical lower) []

/-- `NormalizeCategories`. -/
def normalizeCategories (raw : Text) : List Text :=
  if trimText raw = [] then []
  else ((raw.splitOn ',').map fun part => trimText (toLower lower part)).filter (· ≠ [])

end Canonical

/-! ### Lists of categories -/

/-- A category as a prompt prints it, and the name that it has for the moderation. -/
structure Printed where
  code : String
  label : String
  canonical : String
  deriving DecidableEq

/-- The categories of the table, as they are printed. -/
def printedCategories : List Printed :=
  categories.map fun category => ⟨category.code, category.label, category.canonical⟩

/-- What a category is given by. -/
def Printed.name (category : Printed) (byCode : Bool) : Text :=
  ascii (if byCode then category.code else category.label)

/-- ASCII text in lower case. -/
def small (text : Text) : Text := text.map Char.toLower

/-- White space within a line. -/
def Blanks (text : Text) : Prop := ∀ c ∈ text, isSpace c = true ∧ c ≠ '\n'

/-- **A printed category as it is given in a list**, by its code or by its label, in any letter case,
with blanks around it. -/
structure Entry (printed : List Printed) where
  category : Printed
  mem : category ∈ printed
  byCode : Bool
  left : Text
  text : Text
  right : Text
  small_text : small text = small (category.name byCode)
  blanks_left : Blanks left
  blanks_right : Blanks right

def Entry.written {printed : List Printed} (e : Entry printed) : Text := e.left ++ e.text ++ e.right

/-- The name of the category in lower case. -/
def Entry.key {printed : List Printed} (e : Entry printed) : Text := small (e.category.name e.byCode)

/-- **The list**: its entries, joined by commas. -/
def listed {printed : List Printed} (entries : List (Entry printed)) : Text :=
  [','].intercalate (entries.map Entry.written)

/-- The canonical names of the listed categories, each once, in the order in which they occur first. -/
def distinctNames {printed : List Printed} (entries : List (Entry printed)) : List Text :=
  distinct (entries.map fun e => ascii e.category.canonical)

/-- The codes and labels are ASCII text of one line without commas, and do not begin or end with
white space. -/
def Plain (printed : List Printed) : Bool :=
  printed.all fun category => [true, false].all fun byCode =>
    let key := small (category.name byCode)
    key.all (fun c => c.toNat < 128 && c ≠ ',' && c ≠ '\n') &&
      key.head?.any (fun c => !isSpace c) && key.getLast?.any fun c => !isSpace c

/-! ### Lower case -/

section Lower

theorem toLower_of_not_upper {c : Char} (h : ¬(65 ≤ c.toNat ∧ c.toNat ≤ 90)) : c.toLower = c := by
  exact dif_neg h

theorem toLower_of_isSpace {c : Char} (h : isSpace c = true) : c.toLower = c := by
  refine toLower_of_not_upper fun hupper => ?_
  rw [Whitespace.isSpace_of_visible (by omega) (by omega)] at h
  cases h

/-- The small letter of a capital one. -/
theorem toNat_toLower_of_upper {c : Char} (h : 65 ≤ c.toNat ∧ c.toNat ≤ 90) :
    c.toLower.toNat = c.toNat + 32 := by
  have hvalid : (c.toNat + 32).isValidChar := .inl (by omega)
  have hval : c.val ≥ 'A'.val ∧ c.val ≤ 'Z'.val := h
  have hlower : c.toLower.toNat = (c.val + ('a'.val - 'A'.val)).toNat :=
    congrArg Char.toNat (dif_pos hval)
  rw [hlower]
  have hsum : (c.val + ('a'.val - 'A'.val)).toNat = c.val.toNat + 32 := by
    rw [UInt32.toNat_add]
    have hle : c.val.toNat ≤ 90 := h.2
    have hdiff : ('a'.val - 'A'.val).toNat = 32 := rfl
    omega
  exact hsum

theorem isSpace_toLower (c : Char) : isSpace c.toLower = isSpace c := by
  by_cases h : 65 ≤ c.toNat ∧ c.toNat ≤ 90
  · have hlower := toNat_toLower_of_upper h
    rw [Whitespace.isSpace_of_visible (by omega) (by omega),
      Whitespace.isSpace_of_visible (by omega) (by omega)]
  · rw [toLower_of_not_upper h]

theorem toNat_lt_of_toLower {c : Char} (h : c.toLower.toNat < 128) : c.toNat < 128 := by
  by_cases hupper : 65 ≤ c.toNat ∧ c.toNat ≤ 90
  · omega
  · rwa [toLower_of_not_upper hupper] at h

/-- The table of lower case, of ASCII characters only. -/
def asciiLowering : Lowering where
  toLower := Char.toLower
  toLower_ascii _ _ := rfl
  toLower_space _ := toLower_of_isSpace

variable (lower : Lowering) {text : Text}

theorem toLower_eq_small (h : ∀ c ∈ text, c.toNat < 128) : toLower lower text = small text :=
  List.map_congr_left fun c hc => lower.toLower_ascii c (h c hc)

theorem mem_of_mem_trimText {c : Char} (h : c ∈ trimText text) : c ∈ text :=
  (List.dropWhile_suffix _).subset ((List.rdropWhile_prefix _ _).subset h)

theorem trimText_eq_trim (text : Text) : trimText text = Tokens.trim (fun c => !isSpace c) text := by
  unfold trimText Tokens.trim
  simp only [Bool.not_not]

theorem trimText_eq_nil_iff : trimText text = [] ↔ ∀ c ∈ text, isSpace c = true := by
  rw [trimText_eq_trim, Tokens.trim_eq_nil_iff]
  simp

theorem trimText_pad {left right : Text} (hleft : ∀ c ∈ left, isSpace c = true)
    (hright : ∀ c ∈ right, isSpace c = true) : trimText (left ++ text ++ right) = trimText text := by
  rw [trimText_eq_trim, trimText_eq_trim]
  exact Tokens.trim_pad (fun c hc => by rw [hleft c hc]; rfl) (fun c hc => by rw [hright c hc]; rfl) text

/-- **What ASCII text stands for does not depend on the table of lower case.** -/
theorem canonicalize_ascii (h : ∀ c ∈ text, c.toNat < 128) :
    canonicalize lower text = canonicalize asciiLowering text := by
  have hlower {text : Text} (h : ∀ c ∈ text, c.toNat < 128) :
      toLower lower (trimText text) = toLower asciiLowering (trimText text) := by
    have htrim : ∀ c ∈ trimText text, c.toNat < 128 := fun c hc => h c (mem_of_mem_trimText hc)
    rw [toLower_eq_small _ htrim, toLower_eq_small _ htrim]
  have hkeys : ∀ category ∈ categories, ∀ key ∈ category.keys,
      ∀ c ∈ ascii key, c.toNat < 128 := by decide +kernel
  have htable : buildLookup lower = buildLookup asciiLowering := by
    refine List.flatMap_congr fun category hcategory => List.map_congr_left fun key hkey => ?_
    rw [normalizeKey, normalizeKey, hlower (hkeys category hcategory key hkey)]
  rw [canonicalize, canonicalize, normalizeKey, normalizeKey, lookup, lookup, htable, hlower h]

end Lower

/-! ### Canonical names -/

section Canonical

variable (lower : Lowering)

/-- A text that stands for nothing is passed over. -/
theorem foldl_addCanonical (result values : List Text) :
    values.foldl (addCanonical lower) result =
      ((values.map (canonicalize lower)).filter (· ≠ [])).foldl
        FirstDistinct.addNew result := by
  induction values generalizing result with
  | nil => rfl
  | cons value values ih =>
      rw [List.foldl_cons, ih, List.map_cons, addCanonical]
      by_cases hnil : canonicalize lower value = []
      · rw [List.filter_cons_of_neg (by simpa using hnil), if_pos (.inl hnil)]
      · rw [List.filter_cons_of_pos (by simpa using hnil), List.foldl_cons, FirstDistinct.addNew]
        by_cases hmem : canonicalize lower value ∈ result
        · rw [if_pos (.inr hmem), if_pos hmem]
        · rw [if_neg (by simp [hnil, hmem]), if_neg hmem]

/-- **What is left of a list of texts is what they stand for, each once.** -/
theorem canonicalizeMany_eq (values : List Text) : canonicalizeMany lower values =
    distinct ((values.map (canonicalize lower)).filter (· ≠ [])) := by
  rw [canonicalizeMany, foldl_addCanonical, FirstDistinct.foldl_addNew, List.nil_append]
  exact congrArg distinct (List.filter_eq_self.2 (by simp))

end Canonical

/-! ### Entries -/

section Entries

variable {printed : List Printed} (hplain : Plain printed = true) (e : Entry printed)

theorem mem_key {c : Char} (h : c ∈ e.text) : c.toLower ∈ e.key := by
  have hmem : c.toLower ∈ small e.text := List.mem_map_of_mem h
  rwa [e.small_text] at hmem

include hplain

theorem plain_key : (∀ c ∈ e.key, c.toNat < 128 ∧ c ≠ ',' ∧ c ≠ '\n') ∧
    (∃ c ∈ e.key.head?, isSpace c = false) ∧ ∃ c ∈ e.key.getLast?, isSpace c = false := by
  have h := List.all_eq_true.1 (List.all_eq_true.1 hplain e.category e.mem) e.byCode
    (by cases e.byCode <;> decide)
  simpa [Entry.key, Option.any_eq_true, and_assoc] using h

theorem key_ne_nil : e.key ≠ [] := by
  obtain ⟨-, ⟨c, hc, -⟩, -⟩ := plain_key hplain e
  intro hnil
  rw [hnil] at hc
  cases hc

theorem trimText_key : trimText e.key = e.key :=
  Whitespace.trimList_eq_self_of_ends _ (plain_key hplain e).2.1 (plain_key hplain e).2.2

/-- The ends of the text of an entry are not white space. -/
theorem text_ends : (∃ c ∈ e.text.head?, c.toLower ∈ e.key.head? ∧ isSpace c = false) ∧
    ∃ c ∈ e.text.getLast?, isSpace c = false := by
  obtain ⟨-, ⟨c, hc, hspace⟩, d, hd, hspace'⟩ := plain_key hplain e
  have hkey : e.key = e.text.map Char.toLower := e.small_text.symm
  rw [hkey, List.head?_map, Option.mem_map] at hc
  rw [hkey, List.getLast?_map, Option.mem_map] at hd
  obtain ⟨c, hc, rfl⟩ := hc
  obtain ⟨d, hd, rfl⟩ := hd
  rw [isSpace_toLower] at hspace hspace'
  refine ⟨⟨c, hc, ?_, hspace⟩, d, hd, hspace'⟩
  rw [hkey, List.head?_map]
  exact Option.mem_map_of_mem _ hc

variable (lower : Lowering)

theorem toLower_text : toLower lower e.text = e.key := by
  have hascii : ∀ c ∈ e.text, c.toNat < 128 := fun _ hc =>
    toNat_lt_of_toLower ((plain_key hplain e).1 _ (mem_key e hc)).1
  rw [toLower_eq_small lower hascii, e.small_text]
  rfl

/-- **An entry gives its name in lower case.** -/
theorem trimText_toLower_written : trimText (toLower lower e.written) = e.key := by
  have hblanks {text : Text} (h : Blanks text) : toLower lower text = text :=
    (List.map_congr_left fun c hc => lower.toLower_space c (h c hc).1).trans (List.map_id' text)
  have hwritten : toLower lower e.written = e.left ++ e.key ++ e.right := by
    unfold toLower Entry.written
    rw [List.map_append, List.map_append]
    exact congrArg₂ (· ++ ·) (congrArg₂ (· ++ ·) (hblanks e.blanks_left) (toLower_text hplain e lower))
      (hblanks e.blanks_right)
  rw [hwritten, trimText_pad (fun c hc => (e.blanks_left c hc).1) fun c hc => (e.blanks_right c hc).1,
    trimText_key hplain e]

theorem comma_not_mem_written : ',' ∉ e.written := by
  intro hmem
  have hblank {text : Text} (h : Blanks text) : ',' ∉ text := fun hc =>
    absurd (h _ hc).1 (by decide)
  rcases List.mem_append.1 hmem with hmem | hmem
  · rcases List.mem_append.1 hmem with hmem | hmem
    · exact hblank e.blanks_left hmem
    · exact ((plain_key hplain e).1 _ (mem_key e hmem)).2.1 rfl
  · exact hblank e.blanks_right hmem

/-- **A list gives the names of its entries in lower case.** -/
theorem normalizeCategories_listed {entries : List (Entry printed)} (hne : entries ≠ []) :
    normalizeCategories lower (listed entries) = entries.map Entry.key := by
  have hsplit : (listed entries).splitOn ',' = entries.map Entry.written := by
    refine List.splitOn_intercalate ',' (fun part hpart => ?_) (by simpa using hne)
    obtain ⟨e, -, rfl⟩ := List.mem_map.1 hpart
    exact comma_not_mem_written hplain e
  have hparts : ((entries.map Entry.written).map fun part => trimText (toLower lower part)) =
      entries.map Entry.key := by
    rw [List.map_map]
    exact List.map_congr_left fun e _ => trimText_toLower_written hplain e lower
  have hkeys : (entries.map Entry.key).filter (· ≠ []) = entries.map Entry.key := by
    refine List.filter_eq_self.2 fun key hkey => ?_
    obtain ⟨e, -, rfl⟩ := List.mem_map.1 hkey
    simpa using key_ne_nil hplain e
  rw [normalizeCategories, hsplit, hparts, hkeys]
  refine if_neg fun hnil => ?_
  -- the list is not blank
  obtain ⟨e, es, rfl⟩ := List.exists_cons_of_ne_nil hne
  obtain ⟨⟨c, hc, -, hspace⟩, -⟩ := text_ends hplain e
  have hmem : c ∈ listed (e :: es) := by
    have htext : c ∈ e.written := List.mem_append_left _
      (List.mem_append_right _ (List.mem_of_mem_head? hc))
    cases es with
    | nil => simpa [listed] using htext
    | cons e' es => exact List.mem_append_left _ htext
  rw [trimText_eq_nil_iff] at hnil
  rw [hnil c hmem] at hspace
  cases hspace

end Entries

theorem plain_printedCategories : Plain printedCategories = true := by decide +kernel

/-- **A code and a label stand for the category that they are printed for.** -/
theorem canonicalize_name : ∀ category ∈ printedCategories, ∀ byCode : Bool,
    canonicalize asciiLowering (small (category.name byCode)) = ascii category.canonical := by
  decide +kernel

/-- **A list of printed categories gives their canonical names**, each once, in the order in which they
occur first. -/
theorem canonicalizeMany_normalizeCategories (lower : Lowering)
    {entries : List (Entry printedCategories)} (hne : entries ≠ []) :
    canonicalizeMany lower (normalizeCategories lower (listed entries)) = distinctNames entries := by
  have hnames : (entries.map Entry.key).map (canonicalize lower) =
      entries.map fun e => ascii e.category.canonical := by
    rw [List.map_map]
    refine List.map_congr_left fun e _ => ?_
    have hascii : ∀ c ∈ e.key, c.toNat < 128 := fun c hc =>
      ((plain_key plain_printedCategories e).1 c hc).1
    rw [Function.comp_apply, canonicalize_ascii lower hascii, Entry.key]
    exact canonicalize_name e.category e.mem e.byCode
  have hcanonical : ∀ category ∈ printedCategories, ascii category.canonical ≠ [] := by
    decide +kernel
  rw [normalizeCategories_listed plain_printedCategories lower hne, canonicalizeMany_eq, hnames,
    distinctNames]
  refine congrArg distinct (List.filter_eq_self.2 fun name hname => ?_)
  obtain ⟨e, -, rfl⟩ := List.mem_map.1 hname
  exact decide_eq_true (hcanonical e.category e.mem)

end Automod
