/-
**What becomes of the categories in a reply.**

An adapter that asks for violated categories reads them from a field of a JSON object, or, for Llama
Guard, from the line behind the verdict.  A line in which a code is found is read for its codes only,
and what else it lists is passed over.  The codes of Llama Guard have a table of their own; its labels
are looked up in the common one, where two of them stand for something else than their codes, and two
are missing.

Main definitions:

* `Automod.Categories.parseJSONSafetyAssessment`, `Automod.Categories.parseDualJSONSafetyAssessment`,
  `Automod.Categories.parseAssessment` — how the replies are read;
* `Automod.Categories.Asked`, `Automod.Categories.InFormat` — who is asked for categories, and the
  replies with an unsafe verdict and a list;
* `Automod.Categories.Survives` — **the categories of the assessment are those that are listed**;
* `Automod.Categories.Kept` — nothing is passed over, or it makes no difference.

Main results:

* `Automod.Categories.findAll_listed` — the codes that are found in a list are those of its entries;
* `Automod.Categories.parseAssessment_listed` — what Llama Guard's adapter reads;
* `Automod.Categories.survives_iff_kept` — **a list survives exactly when it is kept**;
* `Automod.Categories.llamaGuard_disagrees` — no names for the categories fit both codes and labels.
-/

import Pairline.Automod.Framing
import Pairline.Automod.Reasoning
import Pairline.Automod.Taxonomy

set_option relaxedAutoImplicit false
set_option autoImplicit false

namespace Automod.Categories

open FirstDistinct (distinct)
open Reasoning (eqFold)
open Whitespace (isSpace)

/-! ### Assessments -/

structure Assessment extends Automod.Assessment where
  categories : List Text
  deriving DecidableEq

structure DualAssessment where
  reportedUser : Assessment
  reporter : Assessment

/-- The fields that `ParseJSONSafetyAssessment` reads off an answer. -/
structure RawAssessment where
  userSafety : String
  responseSafety : String
  categories : String

/-- The fields that `ParseDualJSONSafetyAssessment` reads off an answer. -/
structure RawDualAssessment where
  reportedSafety : String
  reportedCategories : String
  reporterSafety : String
  reporterCategories : String

/-- `json.Unmarshal`, into the fields of either kind. -/
structure Unmarshal where
  single : String → Option RawAssessment
  dual : String → Option RawDualAssessment

variable (lower : Lowering) (unmarshal : Unmarshal)

/-- The categories in a field. -/
def readCategories (field : String) : List Text :=
  canonicalizeMany lower (normalizeCategories lower field.toList)

def parseJSONSafetyAssessment (raw : String) : Except AssessmentError Assessment :=
  (extractJSONObject raw).bind fun jsonBody =>
    match unmarshal.single jsonBody with
    | none => .error .other
    | some parsed =>
        let userSafety := normalizeSafety parsed.userSafety
        let assessment : Assessment := { userSafety
                                         responseSafety := normalizeSafety parsed.responseSafety
                                         categories := readCategories lower parsed.categories }
        if isSafety userSafety then .ok assessment else .error .other

/-- The verdict is the one that is read without the categories. -/
theorem map_parseJSONSafetyAssessment (raw : String) :
    (parseJSONSafetyAssessment lower unmarshal raw).map Assessment.toAssessment =
      Automod.parseJSONSafetyAssessment (fun jsonBody =>
        (unmarshal.single jsonBody).map fun parsed => ⟨parsed.userSafety, parsed.responseSafety⟩)
        raw := by
  unfold parseJSONSafetyAssessment Automod.parseJSONSafetyAssessment parseNative
  cases extractJSONObject raw with
  | error e => rfl
  | ok jsonBody =>
      simp only [Except.bind]
      cases unmarshal.single jsonBody with
      | none => rfl
      | some parsed =>
          simp only [Option.map_some]
          cases isSafety (normalizeSafety parsed.userSafety) <;> rfl

def parseDualJSONSafetyAssessment (raw : String) : Except AssessmentError DualAssessment :=
  (extractJSONObject raw).bind fun jsonBody =>
    match unmarshal.dual jsonBody with
    | none => .error .other
    | some parsed =>
        let reportedUser := normalizeSafety parsed.reportedSafety
        let reporterUser := normalizeSafety parsed.reporterSafety
        if ¬isSafety reportedUser then .error .other
        else if ¬isSafety reporterUser then .error .other
        else .ok ⟨⟨⟨reportedUser, ""⟩, readCategories lower parsed.reportedCategories⟩,
          ⟨⟨reporterUser, ""⟩, readCategories lower parsed.reporterCategories⟩⟩

/-! ### Plain text -/

/-- `strings.TrimPrefix` and `strings.TrimSuffix` of a code fence. -/
def fence : Text := ['`', '`', '`']

def stripCodeFences (raw : Text) : Text :=
  let trimmed := trimText raw
  let trimmed := if fence <+: trimmed then trimmed.drop fence.length else trimmed
  let trimmed := if fence <:+ trimmed then trimmed.take (trimmed.length - fence.length) else trimmed
  trimText trimmed

/-- `strings.TrimPrefix` of one character. -/
def trimPrefix (c : Char) (line : Text) : Text :=
  if line.head? = some c then line.tail else line

/-- `\d`. -/
def isDigit (c : Char) : Bool := 48 ≤ c.toNat && c.toNat ≤ 57

/-- `\w`. -/
def isWord (c : Char) : Bool :=
  isDigit c || (65 ≤ c.toNat && c.toNat ≤ 90) || (97 ≤ c.toNat && c.toNat ≤ 122) || c.toNat == 95

/-- `\b`: a word begins or ends. -/
def atWordBoundary (before after : Text) : Bool := before.head?.any isWord != after.head?.any isWord

/-- `(?i)\b(s\d+)\b`. -/
def codePattern : Regex :=
  .sequence [.check atWordBoundary, .group (.sequence [.one (eqFold 's'), .one isDigit, .many isDigit]),
    .check atWordBoundary]

/-- `FindAllStringSubmatch`: the first group of each match. -/
def findCodes (line : Text) : List Text := (codePattern.findAll 0 [] line).flatMap (·.groups.take 1)

/-- What is read off a line. -/
def lineCategories (line : Text) : List Text :=
  let cleaned := trimText (trimPrefix '*' (trimPrefix '-' line))
  if cleaned = [] then []
  else if findCodes cleaned ≠ [] then (findCodes cleaned).map (toLower lower)
  else normalizeCategories lower (cleaned.map fun c => if c = '\n' then ',' else c)

def normalizePlaintextCategories (lines : List Text) : List Text :=
  lines.flatMap (lineCategories lower)

def parsePlaintextSafetyAssessment (raw : Text) : Except AssessmentError Assessment :=
  let trimmed := trimText (stripCodeFences raw)
  match ((trimmed.splitOn '\n').map trimText).filter (· ≠ []) with
  | [] => .error .other
  | first :: rest =>
      let firstLine := String.ofList (toLower lower first)
      if firstLine = "safe" then .ok ⟨⟨firstLine, ""⟩, []⟩
      else if firstLine = "unsafe" then
        .ok ⟨⟨firstLine, ""⟩, normalizePlaintextCategories lower rest⟩
      else .error .other

/-! ### Llama Guard -/

/-- The codes and labels of `mlgTaxonomy`. -/
def mlgCategories : List (String × String) :=
  [("S1", "Violent Crimes"), ("S2", "Non-Violent Crimes"), ("S3", "Sex-Related Crimes"),
    ("S4", "Child Sexual Exploitation"), ("S5", "Defamation"), ("S6", "Specialized Advice"),
    ("S7", "Privacy"), ("S8", "Intellectual Property"), ("S9", "Indiscriminate Weapons"),
    ("S10", "Hate"), ("S11", "Suicide & Self-Harm"), ("S12", "Sexual Content"), ("S13", "Elections"),
    ("S14", "Code Interpreter Abuse")]

/-- They are what the prompt prints. -/
theorem mlgTaxonomy_eq : LlamaGuard.mlgTaxonomy =
    mlgCategories.map fun category => [category.1 ++ ": " ++ category.2] := by decide

def llamaGuardCategoryMap : List (String × String) :=
  [("s1", "violence"), ("s2", "illegal activity"), ("s3", "sexual"), ("s4", "sexual (minor)"),
    ("s5", "other"), ("s6", "unauthorized advice"), ("s7", "pii/privacy"),
    ("s8", "copyright/trademark/plagiarism"), ("s9", "guns and illegal weapons"),
    ("s10", "hate/identity hate"), ("s11", "suicide and self harm"), ("s12", "sexual"),
    ("s13", "political/misinformation/conspiracy"), ("s14", "malware")]

/-- The value for a key. -/
def mapped (key : Text) : Option String :=
  (llamaGuardCategoryMap.find? fun entry => ascii entry.1 = key).map (·.2)

/-- The name of a code, and any other category as it is. -/
def localName (category : Text) : Text :=
  match mapped (toLower lower (trimText category)) with
  | some name => ascii name
  | none => category

def localizeLlamaGuardCategories (categories : List Text) : List Text :=
  if categories = [] then []
  else canonicalizeMany lower (categories.map (localName lower))

/-- `ParseAssessment` of Llama Guard's adapter. -/
def parseAssessment (raw : String) : Except AssessmentError Assessment :=
  (parsePlaintextSafetyAssessment lower raw.toList).bind fun assessment =>
    .ok { assessment with categories := localizeLlamaGuardCategories lower assessment.categories }

/-- What the prompt prints, with the names that the codes stand for. -/
def printedMlg : List Printed :=
  mlgCategories.map fun category =>
    ⟨category.1, category.2, (mapped (small (ascii category.1))).getD ""⟩

/-! ### The law -/

/-- **Whose prompt asks for violated categories**: that of the models that reply with a JSON object, for
the reported user; that of the generic model for both sides; and that of Llama Guard. -/
inductive Asked
  | nemotronSafetyGuard
  | nemotronSafetyGuardMultilingual
  | nemoguard
  | generic
  | genericReportedUser
  | genericReporter
  | llamaGuard

/-- The assessment that is made of a reply. -/
def Asked.assessment (asked : Asked) (raw : String) : Except AssessmentError Assessment :=
  match asked with
  | .nemotronSafetyGuard | .nemotronSafetyGuardMultilingual | .nemoguard | .generic =>
      parseJSONSafetyAssessment lower unmarshal raw
  | .genericReportedUser => (parseDualJSONSafetyAssessment lower unmarshal raw).map (·.reportedUser)
  | .genericReporter => (parseDualJSONSafetyAssessment lower unmarshal raw).map (·.reporter)
  | .llamaGuard => parseAssessment lower raw

/-- The taxonomy that the prompt prints. -/
def Asked.printed : Asked → List Printed
  | .llamaGuard => printedMlg
  | _ => printedCategories

/-- **A reply in the format that the prompt asks for**, with an unsafe verdict and this list: a JSON
object that holds the two, or the verdict on a line and the list on the next, with nothing but white
space around them. -/
def InFormat (asked : Asked) (list : Text) (raw : String) : Prop :=
  match asked with
  | .nemotronSafetyGuard | .nemotronSafetyGuardMultilingual | .nemoguard | .generic =>
      ∃ jsonBody parsed, extractJSONObject raw = .ok jsonBody ∧
        unmarshal.single jsonBody = some parsed ∧ normalizeSafety parsed.userSafety = "unsafe" ∧
        parsed.categories.toList = list
  | .genericReportedUser =>
      ∃ jsonBody parsed, extractJSONObject raw = .ok jsonBody ∧
        unmarshal.dual jsonBody = some parsed ∧ normalizeSafety parsed.reportedSafety = "unsafe" ∧
        isSafety (normalizeSafety parsed.reporterSafety) = true ∧
        parsed.reportedCategories.toList = list
  | .genericReporter =>
      ∃ jsonBody parsed, extractJSONObject raw = .ok jsonBody ∧
        unmarshal.dual jsonBody = some parsed ∧
        isSafety (normalizeSafety parsed.reportedSafety) = true ∧
        normalizeSafety parsed.reporterSafety = "unsafe" ∧ parsed.reporterCategories.toList = list
  | .llamaGuard =>
      ∃ before after : Text, (∀ c ∈ before, isSpace c = true) ∧ (∀ c ∈ after, isSpace c = true) ∧
        raw.toList = before ++ (ascii "unsafe" ++ '\n' :: list) ++ after

/-- **The categories of the assessment are those that are listed**, by their canonical names, each once,
in the order in which they occur first. -/
def Survives (asked : Asked) (entries : List (Entry asked.printed)) : Prop :=
  ∀ raw, InFormat unmarshal asked (listed entries) raw →
    ∃ assessment, asked.assessment lower unmarshal raw = .ok assessment ∧
      assessment.userSafety = "unsafe" ∧ assessment.categories = distinctNames entries

/-- The labels of Llama Guard that do not stand for what their codes stand for. -/
def strayLabels : List String :=
  ["Violent Crimes", "Sex-Related Crimes", "Indiscriminate Weapons", "Sexual Content"]

/-- **Nothing is passed over, or it makes no difference**: a list for Llama Guard without codes has none
of the stray labels, and one with codes names the same categories in the same order when its labels
are left out. -/
def Kept : (asked : Asked) → List (Entry asked.printed) → Prop
  | .llamaGuard, entries =>
      if entries.any (·.byCode) then distinctNames (entries.filter (·.byCode)) = distinctNames entries
      else ∀ e ∈ entries, e.category.label ∉ strayLabels
  | _, _ => True

/-! ### Lists that are trimmed -/

section Trimmed

variable {printed : List Printed}

/-- The category, and whether its code is given. -/
def kind (e : Entry printed) : Printed × Bool := (e.category, e.byCode)

def bareLeft (e : Entry printed) : Entry printed := { e with left := [], blanks_left := nofun }

def bareRight (e : Entry printed) : Entry printed := { e with right := [], blanks_right := nofun }

theorem listed_cons (e : Entry printed) (es : List (Entry printed)) :
    listed (e :: es) = e.written ++ es.flatMap fun e => ',' :: e.written := by
  induction es generalizing e with
  | nil => simp [listed]
  | cons e' es ih =>
      have hcons : listed (e :: e' :: es) = e.written ++ [','] ++ listed (e' :: es) :=
        List.intercalate_cons_of_ne_nil (by simp)
      rw [hcons, ih, List.flatMap_cons]
      simp

/-- A list is trimmed to one of the same entries, without blanks at its ends. -/
theorem exists_trimText_listed (hplain : Plain printed = true) {entries : List (Entry printed)}
    (hne : entries ≠ []) : ∃ entries' : List (Entry printed),
      trimText (listed entries) = listed entries' ∧ entries'.map kind = entries.map kind ∧
        ∃ e ∈ entries.head?, ∃ c ∈ e.text.head?, (listed entries').head? = some c := by
  -- blanks at the ends of a list whose first and last texts are known
  have htrim {first last : Entry printed} {left right body pre : Text}
      (hleft : Blanks left) (hright : Blanks right) {rest : Text}
      (hbody : body = first.text ++ rest) (hbody' : body = pre ++ last.text) :
      trimText (left ++ body ++ right) = body := by
    rw [trimText_pad (fun c hc => (hleft c hc).1) fun c hc => (hright c hc).1]
    obtain ⟨⟨c, hc, -, hspace⟩, -⟩ := text_ends hplain first
    obtain ⟨-, d, hd, hspace'⟩ := text_ends hplain last
    refine Whitespace.trimList_eq_self_of_ends _ ⟨c, ?_, hspace⟩ ⟨d, ?_, hspace'⟩
    · rw [hbody, List.head?_append, Option.mem_def.1 hc]
      exact Option.some_or
    · rw [hbody', List.getLast?_append, Option.mem_def.1 hd]
      exact Option.some_or
  have hhead {first : Entry printed} {rest : Text} :
      ∃ c ∈ first.text.head?, (first.text ++ rest).head? = some c := by
    obtain ⟨⟨c, hc, -⟩, -⟩ := text_ends hplain first
    refine ⟨c, hc, ?_⟩
    rw [List.head?_append, Option.mem_def.1 hc]
    exact Option.some_or
  obtain ⟨e, es, rfl⟩ := List.exists_cons_of_ne_nil hne
  rcases List.eq_nil_or_concat es with rfl | ⟨es, last, rfl⟩
  · have hbare : listed [bareRight (bareLeft e)] = e.text := by
      simp [listed, Entry.written, bareRight, bareLeft]
    refine ⟨[bareRight (bareLeft e)], ?_, rfl, e, rfl, ?_⟩
    · have hlisted : listed [e] = e.left ++ e.text ++ e.right := by simp [listed, Entry.written]
      rw [hlisted, hbare]
      exact htrim e.blanks_left e.blanks_right (List.append_nil _).symm (List.nil_append _).symm
    · have htext : e.text = e.text ++ [] := (List.append_nil _).symm
      rw [hbare, htext]
      obtain ⟨c, hc, h⟩ := @hhead e []
      exact ⟨c, by simpa using hc, h⟩
  · let middle : Text := e.right ++ (es.flatMap fun e => ',' :: e.written) ++ ',' :: last.left
    have hbare : listed (bareLeft e :: (es ++ [bareRight last])) = e.text ++ middle ++ last.text := by
      rw [listed_cons, List.flatMap_append]
      simp [Entry.written, bareRight, bareLeft, middle]
    refine ⟨bareLeft e :: (es ++ [bareRight last]), ?_, ?_, e, rfl, ?_⟩
    · have hlisted : listed (e :: (es ++ [last])) =
          e.left ++ (e.text ++ middle ++ last.text) ++ last.right := by
        rw [listed_cons, List.flatMap_append]
        simp [Entry.written, middle]
      rw [List.concat_eq_append, hlisted, hbare]
      exact htrim e.blanks_left last.blanks_right (List.append_assoc _ _ _) rfl
    · rw [List.concat_eq_append]
      simp [kind, bareLeft, bareRight]
    · rw [hbare, List.append_assoc]
      exact hhead

end Trimmed

/-! ### Codes in a text -/

section Pattern

variable {before text rest : Text} {groups : List Text}

theorem matches_codePattern_iff : codePattern.Matches before text rest groups ↔
    groups = [text] ∧ (∃ a d ds, text = a :: d :: ds ∧ eqFold 's' a = true ∧
      ∀ c ∈ d :: ds, isDigit c = true) ∧ atWordBoundary before (text ++ rest) = true ∧
        atWordBoundary (text.reverse ++ before) rest = true := by
  have hcode {before text rest : Text} {groups : List Text} :
      (Regex.sequence [.one (eqFold 's'), .one isDigit, .many isDigit]).Matches before text rest
        groups ↔ groups = [] ∧ ∃ a d ds, text = a :: d :: ds ∧ eqFold 's' a = true ∧
          ∀ c ∈ d :: ds, isDigit c = true := by
    simp only [Regex.sequence, Regex.matches_both_iff, Regex.matches_one_iff, Regex.matches_many_iff,
      Regex.matches_check_iff]
    constructor
    · rintro ⟨_, _, _, _, rfl, rfl, ⟨rfl, a, rfl, ha⟩, _, _, _, _, rfl, rfl, ⟨rfl, d, rfl, hd⟩, ds, _,
        _, _, rfl, rfl, ⟨rfl, hds⟩, rfl, rfl, -⟩
      exact ⟨rfl, a, d, ds, by simp, ha, List.forall_mem_cons.2 ⟨hd, hds⟩⟩
    · rintro ⟨rfl, a, d, ds, rfl, ha, hds⟩
      obtain ⟨hd, hds⟩ := List.forall_mem_cons.1 hds
      exact ⟨[a], d :: ds, [], [], rfl, rfl, ⟨rfl, a, rfl, ha⟩, [d], ds, [], [], rfl, rfl,
        ⟨rfl, d, rfl, hd⟩, ds, [], [], [], by simp, rfl, ⟨rfl, hds⟩, rfl, rfl, trivial⟩
  rw [codePattern, Regex.sequence, Regex.matches_check_both_iff, Regex.sequence,
    Regex.matches_both_iff]
  constructor
  · rintro ⟨hstart, _, _, _, _, rfl, rfl, hgroup, hend⟩
    obtain ⟨_, rfl, hmatch⟩ := Regex.matches_group_iff.1 hgroup
    obtain ⟨rfl, htext⟩ := hcode.1 hmatch
    obtain ⟨hboundary, hnone⟩ := Regex.matches_check_both_iff.1 hend
    obtain ⟨rfl, rfl, -⟩ := Regex.matches_check_iff.1 hnone
    simp only [List.append_nil, List.nil_append] at hstart hboundary ⊢
    exact ⟨trivial, htext, hstart, hboundary⟩
  · rintro ⟨rfl, htext, hstart, hend⟩
    refine ⟨hstart, text, [], [text], [], (List.append_nil _).symm, rfl,
      Regex.matches_group_iff.2 ⟨[], rfl, hcode.2 ⟨rfl, htext⟩⟩, ?_⟩
    exact Regex.matches_check_both_iff.2 ⟨hend, Regex.matches_check_iff.2 ⟨rfl, rfl, rfl⟩⟩

/-- **Nothing is found in a text without digits**, in front of something that is no digit. -/
theorem findAll_of_no_digit (htext : ∀ c ∈ text, isDigit c = false)
    (hrest : ∀ c ∈ rest.head?, isDigit c = false) : codePattern.findAll 0 before (text ++ rest) =
      codePattern.findAll 0 (text.reverse ++ before) rest := by
  refine Regex.findAll_append fun skipped c after hskip => ?_
  rintro ⟨found, behind, groups, hsplit, hmatch⟩
  obtain ⟨-, ⟨a, d, ds, rfl, -, hdigits⟩, -, -⟩ := matches_codePattern_iff.1 hmatch
  have hd := hdigits d List.mem_cons_self
  -- the second character of a match would be a digit
  simp only [List.cons_append, List.cons.injEq] at hsplit
  cases after with
  | nil =>
      have hhead : d ∈ rest.head? := by
        rw [List.nil_append] at hsplit
        rw [hsplit.2]
        rfl
      rw [hrest d hhead] at hd
      cases hd
  | cons b after =>
      simp only [List.cons_append, List.cons.injEq] at hsplit
      have hmem : d ∈ text := by
        rw [hskip, ← hsplit.2.1]
        simp
      rw [htext d hmem] at hd
      cases hd

/-- A character that is no letter of the pattern begins no code. -/
theorem findAll_cons {c : Char} (hc : eqFold 's' c = false) :
    codePattern.findAll 0 before (c :: rest) = codePattern.findAll 0 (c :: before) rest := by
  have hnone : ∀ (skipped : Text) (c' : Char) (after : Text), [c] = skipped ++ c' :: after →
      ¬codePattern.MatchesAfter before skipped (c' :: after ++ rest) := ?_
  · exact Regex.findAll_append hnone
  intro skipped c' after hskip
  rintro ⟨found, behind, groups, hsplit, hmatch⟩
  obtain ⟨-, ⟨a, d, ds, rfl, ha, -⟩, -, -⟩ := matches_codePattern_iff.1 hmatch
  obtain ⟨rfl, h⟩ : skipped = [] ∧ [c] = c' :: after := by
    cases skipped with
    | nil => exact ⟨rfl, hskip⟩
    | cons b skipped =>
        have hlength := congrArg List.length hskip
        simp at hlength
  cases h
  cases hsplit
  rw [ha] at hc
  cases hc

theorem isWord_of_isDigit {c : Char} (h : isDigit c = true) : isWord c = true := by
  simp [isWord, h]

/-- **A code is found where it stands by itself**: it is neither longer nor shorter. -/
theorem findAll_of_code {a d : Char} {ds : Text} (ha : eqFold 's' a = true) (hword : isWord a = true)
    (hdigits : ∀ c ∈ d :: ds, isDigit c = true) (hbefore : ∀ c ∈ before.head?, isWord c = false)
    (hrest : ∀ c ∈ rest.head?, isWord c = false) :
    codePattern.findAll 0 before (a :: d :: ds ++ rest) =
      ⟨a :: d :: ds, rest, [a :: d :: ds]⟩ ::
        codePattern.findAll 0 ((a :: d :: ds).reverse ++ before) rest := by
  have hnone {l : Text} (h : ∀ c ∈ l.head?, isWord c = false) : l.head?.any isWord = false := by
    cases hl : l.head? with
    | none => rfl
    | some c => exact h c hl
  -- the last character of a code is a digit
  have hlast {d : Char} {ds : Text} (hdigits : ∀ c ∈ d :: ds, isDigit c = true) (a : Char)
      (before : Text) : (((a :: d :: ds).reverse ++ before).head?.any isWord) = true := by
    rw [List.head?_append, List.head?_reverse, List.getLast?_cons_cons]
    obtain ⟨e, he⟩ := List.getLast?_isSome.2 (List.cons_ne_nil d ds) |> Option.isSome_iff_exists.1
    rw [he, Option.some_or, Option.any_some]
    exact isWord_of_isDigit (hdigits e (List.mem_of_getLast? he))
  refine Regex.findAll_append_of_unique (matches_codePattern_iff.2 ⟨rfl, ⟨a, d, ds, rfl, ha, hdigits⟩,
    ?_, ?_⟩) (List.cons_ne_nil _ _) fun m hm => ?_
  · rw [atWordBoundary, hnone hbefore]
    simp [hword]
  · rw [atWordBoundary, hnone hrest, hlast hdigits]
    rfl
  · obtain ⟨hsplit, hmatch⟩ := Regex.mem_results_iff.1 hm
    obtain ⟨hgroups, ⟨a', d', ds', htext, -, hdigits'⟩, -, hend⟩ := matches_codePattern_iff.1 hmatch
    obtain ⟨text, rest', groups⟩ := m
    dsimp only at hsplit hgroups htext hend
    subst htext hgroups
    rw [atWordBoundary, hlast hdigits', bne_iff_ne, Ne, eq_comm, Bool.not_eq_true] at hend
    rcases List.append_eq_append_iff.1 hsplit with ⟨more, hmore, hrest'⟩ | ⟨more, hmore, hrest'⟩
    · -- a longer match would take a digit of what comes behind
      cases more with
      | nil =>
          rw [List.append_nil] at hmore
          rw [hmore, hrest', List.nil_append]
      | cons c more =>
          have hc : c ∈ d' :: ds' := by
            have htail := congrArg List.tail hmore
            rw [List.tail_cons, List.cons_append, List.tail_cons] at htail
            rw [htail]
            simp
          have hword := isWord_of_isDigit (hdigits' c hc)
          rw [hrest c (by rw [hrest']; rfl)] at hword
          cases hword
    · -- behind a shorter one there would be a digit
      cases more with
      | nil =>
          rw [List.append_nil] at hmore
          rw [hrest', hmore, List.nil_append]
      | cons c more =>
          have hc : c ∈ d :: ds := by
            have htail := congrArg List.tail hmore
            rw [List.tail_cons, List.cons_append, List.tail_cons] at htail
            rw [htail]
            simp
          rw [hrest', List.cons_append, List.head?_cons, Option.any_some,
            isWord_of_isDigit (hdigits c hc)] at hend
          cases hend

end Pattern

/-! ### Codes in a list -/

section Codes

/-- A code is an `s` and digits, and a label has no digits; a line does not begin with what is taken
off it, nor hold a code fence. -/
def Coded (code label : Text) : Bool :=
  code.head? = some 's' && code.tail ≠ [] && code.tail.all isDigit &&
    label.all (fun c => !isDigit c && c ≠ '`') && label.head? ≠ some '-' && label.head? ≠ some '*'

theorem coded_printedMlg : ∀ category ∈ printedMlg,
    Coded (small (category.name true)) (small (category.name false)) = true := by decide

theorem plain_printedMlg : Plain printedMlg = true := by decide

theorem isDigit_toLower (c : Char) : isDigit c.toLower = isDigit c := by
  by_cases h : 65 ≤ c.toNat ∧ c.toNat ≤ 90
  · have hlower := toNat_toLower_of_upper h
    rw [Bool.eq_iff_iff, isDigit, isDigit, hlower]
    simp only [Bool.and_eq_true, decide_eq_true_eq]
    omega
  · rw [toLower_of_not_upper h]

/-- The two letters of a code. -/
theorem letter_of_toLower {a : Char} (h : a.toLower = 's') :
    eqFold 's' a = true ∧ isWord a = true ∧ isDigit a = false := by
  have ha : a = 's' ∨ a = 'S' := by
    by_cases hupper : 65 ≤ a.toNat ∧ a.toNat ≤ 90
    · have hlower := toNat_toLower_of_upper hupper
      rw [h] at hlower
      refine .inr (Char.toNat_inj.1 ?_)
      have hs : 's'.toNat = 115 := rfl
      have hS : 'S'.toNat = 83 := rfl
      omega
    · rw [toLower_of_not_upper hupper] at h
      exact .inl h
  rcases ha with rfl | rfl <;> decide

theorem not_isWord_of_isSpace {c : Char} (h : isSpace c = true) :
    isWord c = false ∧ isDigit c = false := by
  by_contra hword
  have hvisible : 32 < c.toNat ∧ c.toNat < 127 := by
    simp only [isWord, isDigit, Bool.or_eq_false_iff, Bool.and_eq_false_iff, decide_eq_false_iff_not,
      beq_eq_false_iff_ne] at hword
    omega
  rw [Whitespace.isSpace_of_visible hvisible.1 hvisible.2] at h
  cases h

variable (e : Entry printedMlg)

/-- The text of a code. -/
theorem text_of_byCode (h : e.byCode = true) : ∃ a d ds, e.text = a :: d :: ds ∧ a.toLower = 's' ∧
    ∀ c ∈ d :: ds, isDigit c = true := by
  have hcoded := coded_printedMlg e.category e.mem
  have htext : small e.text = small (e.category.name true) := h ▸ e.small_text
  rw [← htext] at hcoded
  simp only [Coded, Bool.and_eq_true, decide_eq_true_eq, List.all_eq_true] at hcoded
  obtain ⟨⟨⟨⟨⟨hhead, htail⟩, hdigits⟩, -⟩, -⟩, -⟩ := hcoded
  match e.text, hhead, htail, hdigits with
  | a :: d :: ds, hhead, _, hdigits =>
      refine ⟨a, d, ds, rfl, Option.some.inj hhead, fun c hc => ?_⟩
      rw [← isDigit_toLower]
      exact hdigits c.toLower (List.mem_map_of_mem hc)
  | [_], _, htail, _ => exact absurd rfl htail

/-- The text of a label. -/
theorem text_of_byLabel (h : e.byCode = false) : ∀ c ∈ e.text, isDigit c = false := by
  have hcoded := coded_printedMlg e.category e.mem
  have htext : small e.text = small (e.category.name false) := h ▸ e.small_text
  rw [← htext] at hcoded
  simp only [Coded, Bool.and_eq_true, List.all_eq_true, Bool.not_eq_true'] at hcoded
  obtain ⟨⟨⟨-, hlabel⟩, -⟩, -⟩ := hcoded
  intro c hc
  rw [← isDigit_toLower]
  exact (hlabel c.toLower (List.mem_map_of_mem hc)).1

/-- **The codes that are found in a list are those of its entries.** -/
theorem findAll_listed (entries : List (Entry printedMlg)) {before : Text}
    (hbefore : ∀ c ∈ before.head?, isWord c = false) :
    (codePattern.findAll 0 before (listed entries)).flatMap (·.groups.take 1) =
      (entries.filter (·.byCode)).map (·.text) := by
  induction entries generalizing before with
  | nil => rfl
  | cons e es ih =>
      -- what comes behind an entry begins with a comma, if there is anything
      obtain ⟨rest, hlisted, hrest⟩ : ∃ rest, listed (e :: es) = e.written ++ rest ∧
          ((rest = [] ∧ es = []) ∨ rest = ',' :: listed es) := by
        refine ⟨es.flatMap fun e => ',' :: e.written, listed_cons e es, ?_⟩
        cases es with
        | nil => exact .inl ⟨rfl, rfl⟩
        | cons e' es => exact .inr (by rw [listed_cons, List.flatMap_cons, List.cons_append])
      have hcomma : ∀ c ∈ rest.head?, isWord c = false ∧ isDigit c = false := by
        intro c hc
        rcases hrest with ⟨rfl, -⟩ | rfl
        · cases hc
        · cases hc
          decide
      have hbehind (before : Text) :
          (codePattern.findAll 0 before rest).flatMap (·.groups.take 1) =
            (es.filter (·.byCode)).map (·.text) := by
        rcases hrest with ⟨rfl, rfl⟩ | rfl
        · rfl
        · rw [findAll_cons (by decide)]
          exact ih fun c hc => by
            cases hc
            decide
      have hblank {blank : Text} (h : Blanks blank) : ∀ c ∈ blank, isDigit c = false :=
        fun c hc => (not_isWord_of_isSpace (h c hc).1).2
      have hends {blank rest : Text} (h : Blanks blank)
          (hrest : ∀ c ∈ rest.head?, isWord c = false) :
          ∀ c ∈ (blank ++ rest).head?, isWord c = false := by
        intro c hc
        cases blank with
        | nil => exact hrest c hc
        | cons b blank =>
            cases hc
            exact (not_isWord_of_isSpace (h _ List.mem_cons_self).1).1
      rw [hlisted, Entry.written]
      cases hcode : e.byCode with
      | true =>
          obtain ⟨a, d, ds, htext, ha, hdigits⟩ := text_of_byCode e hcode
          obtain ⟨hfold, hword, hletter⟩ := letter_of_toLower ha
          have hleft : ∀ c ∈ (e.left.reverse ++ before).head?, isWord c = false :=
            hends (fun c hc => e.blanks_left c (List.mem_reverse.1 hc)) hbefore
          have hright : ∀ c ∈ (e.right ++ rest).head?, isWord c = false :=
            hends e.blanks_right fun c hc => (hcomma c hc).1
          have hsplit : e.left ++ e.text ++ e.right ++ rest =
              e.left ++ (a :: d :: ds ++ (e.right ++ rest)) := by simp [htext]
          rw [hsplit, findAll_of_no_digit (hblank e.blanks_left) (by simpa using hletter),
            findAll_of_code hfold hword hdigits hleft hright, List.flatMap_cons,
            findAll_of_no_digit (hblank e.blanks_right) fun c hc => (hcomma c hc).2, hbehind,
            List.filter_cons_of_pos (by simpa using hcode), List.map_cons, htext]
          rfl
      | false =>
          have hdigits : ∀ c ∈ e.left ++ e.text ++ e.right, isDigit c = false := by
            intro c hc
            rcases List.mem_append.1 hc with hc | hc
            · rcases List.mem_append.1 hc with hc | hc
              · exact hblank e.blanks_left c hc
              · exact text_of_byLabel e hcode c hc
            · exact hblank e.blanks_right c hc
          rw [findAll_of_no_digit hdigits fun c hc => (hcomma c hc).2, hbehind,
            List.filter_cons_of_neg (by simp [hcode])]

/-- What is taken off a line or a reply does not stand in a text. -/
theorem text_marks : (∀ c ∈ e.text, c ≠ '`') ∧ ∀ c ∈ e.text.head?, c ≠ '-' ∧ c ≠ '*' := by
  have hcoded := coded_printedMlg e.category e.mem
  have htext := e.small_text
  cases hcode : e.byCode with
  | true =>
      obtain ⟨a, d, ds, htext, ha, hdigits⟩ := text_of_byCode e hcode
      rw [htext]
      refine ⟨fun c hc => ?_, fun c hc => ?_⟩
      · rintro rfl
        rcases List.mem_cons.1 hc with rfl | hc
        · exact absurd ha (by decide)
        · exact absurd (hdigits _ hc) (by decide)
      · cases hc
        constructor
        all_goals
          rintro rfl
          exact absurd ha (by decide)
  | false =>
      rw [hcode] at htext
      rw [← htext] at hcoded
      simp only [Coded, Bool.and_eq_true, List.all_eq_true, decide_eq_true_eq] at hcoded
      obtain ⟨⟨⟨-, hlabel⟩, hhyphen⟩, hstar⟩ := hcoded
      refine ⟨fun c hc => ?_, fun c hc => ?_⟩
      · rintro rfl
        exact (hlabel _ (List.mem_map_of_mem hc)).2 (by decide)
      · have hhead : (small e.text).head? = some c.toLower := by
          rw [small, List.head?_map, Option.mem_def.1 hc, Option.map_some]
        constructor
        · rintro rfl
          exact hhyphen hhead
        · rintro rfl
          exact hstar hhead

/-- A list is one line without code fences. -/
theorem listed_marks (entries : List (Entry printedMlg)) :
    ∀ c ∈ listed entries, c ≠ '\n' ∧ c ≠ '`' := by
  have hblank {blank : Text} (h : Blanks blank) : ∀ c ∈ blank, c ≠ '\n' ∧ c ≠ '`' := by
    intro c hc
    refine ⟨(h c hc).2, ?_⟩
    rintro rfl
    exact absurd (h _ hc).1 (by decide)
  have hwritten (e : Entry printedMlg) : ∀ c ∈ e.written, c ≠ '\n' ∧ c ≠ '`' := by
    intro c hc
    rcases List.mem_append.1 hc with hc | hc
    · rcases List.mem_append.1 hc with hc | hc
      · exact hblank e.blanks_left c hc
      · refine ⟨?_, (text_marks e).1 c hc⟩
        rintro rfl
        exact ((plain_key plain_printedMlg e).1 _ (mem_key e hc)).2.2 rfl
    · exact hblank e.blanks_right c hc
  cases entries with
  | nil => exact nofun
  | cons e es =>
      intro c hc
      rw [listed_cons] at hc
      rcases List.mem_append.1 hc with hc | hc
      · exact hwritten e c hc
      · obtain ⟨e', -, hc⟩ := List.mem_flatMap.1 hc
        rcases List.mem_cons.1 hc with rfl | hc
        · decide
        · exact hwritten e' c hc

end Codes

/-! ### What is read of a list -/

section Reading

/-- The entries that are read: those with codes, if there are any. -/
def readEntries (entries : List (Entry printedMlg)) : List (Entry printedMlg) :=
  if entries.any (·.byCode) then entries.filter (·.byCode) else entries

theorem readEntries_ne_nil {entries : List (Entry printedMlg)} (hne : entries ≠ []) :
    readEntries entries ≠ [] := by
  unfold readEntries
  split_ifs with hany
  · obtain ⟨e, he, hcode⟩ := List.any_eq_true.1 hany
    exact List.ne_nil_of_mem (List.mem_filter.2 ⟨he, hcode⟩)
  · exact hne

/-- **What is read off the line of a list**: the codes, or else the labels. -/
theorem lineCategories_listed (lower : Lowering) {entries : List (Entry printedMlg)}
    (hne : entries ≠ []) : lineCategories lower (trimText (listed entries)) =
      (readEntries entries).map Entry.key := by
  obtain ⟨entries', htrim, hkind, e, he, c, hc, hhead⟩ :=
    exists_trimText_listed plain_printedMlg hne
  have hne' : entries' ≠ [] := by
    rintro rfl
    cases hhead
  -- the blanks at the ends make no difference to what the entries are
  have hkeys : (readEntries entries').map Entry.key = (readEntries entries).map Entry.key := by
    have hread (entries : List (Entry printedMlg)) : (readEntries entries).map Entry.key =
        (if (entries.map kind).any (·.2) then (entries.map kind).filter (·.2)
          else entries.map kind).map fun k => small (k.1.name k.2) := by
      have hany : (entries.map kind).any (·.2) = entries.any (·.byCode) := by
        rw [List.any_map]
        rfl
      unfold readEntries
      rw [hany, List.filter_map]
      split_ifs
      all_goals
        rw [List.map_map]
        rfl
    rw [hread, hread, hkind]
  have hmark := (text_marks e).2 c hc
  have hclean : trimText (trimPrefix '*' (trimPrefix '-' (listed entries'))) = listed entries' := by
    have hhyphen : trimPrefix '-' (listed entries') = listed entries' :=
      if_neg fun h => hmark.1 (Option.some.inj (hhead.symm.trans h))
    have hstar : trimPrefix '*' (listed entries') = listed entries' :=
      if_neg fun h => hmark.2 (Option.some.inj (hhead.symm.trans h))
    rw [hhyphen, hstar, ← htrim]
    exact Whitespace.trimList_trimList _ _
  have hlisted : listed entries' ≠ [] := by
    intro hnil
    rw [hnil] at hhead
    cases hhead
  have hcodes : findCodes (listed entries') = (entries'.filter (·.byCode)).map (·.text) :=
    findAll_listed entries' nofun
  simp only [lineCategories]
  rw [htrim, hclean, if_neg hlisted, hcodes, ← hkeys, readEntries]
  by_cases hany : entries'.any (·.byCode) = true
  · have hfilter : entries'.filter (·.byCode) ≠ [] := by
      obtain ⟨e, he, hcode⟩ := List.any_eq_true.1 hany
      exact List.ne_nil_of_mem (List.mem_filter.2 ⟨he, hcode⟩)
    rw [if_pos (by simpa using hfilter), if_pos hany, List.map_map]
    exact List.map_congr_left fun e _ => toLower_text plain_printedMlg e lower
  · have hfilter : entries'.filter (·.byCode) = [] := by
      refine List.filter_eq_nil_iff.2 fun e he hcode => hany ?_
      exact List.any_eq_true.2 ⟨e, he, hcode⟩
    have hline : ((listed entries').map fun c => if c = '\n' then ',' else c) = listed entries' :=
      (List.map_congr_left fun c hc => if_neg (listed_marks entries' c hc).1).trans
        (List.map_id' _)
    rw [hfilter, if_neg (by simp), if_neg hany, hline,
      normalizeCategories_listed plain_printedMlg lower hne']

/-- What a line that is not blank is trimmed to, between what is trimmed off. -/
theorem exists_trimText {line : Text} (hne : trimText line ≠ []) : ∃ x y : Text,
    line = x ++ trimText line ++ y ∧ (∀ c ∈ x, isSpace c = true) ∧ (∀ c ∈ y, isSpace c = true) ∧
      ∃ c ∈ (trimText line).getLast?, isSpace c = false := by
  obtain ⟨x, y, hsplit, hx, hy⟩ := Tokens.exists_pad (fun c => !isSpace c) line
  rw [← trimText_eq_trim] at hsplit
  refine ⟨x, y, hsplit, fun c hc => by simpa using hx c hc, fun c hc => by simpa using hy c hc, ?_⟩
  refine ⟨(trimText line).getLast hne, List.getLast?_eq_some_getLast hne, ?_⟩
  exact Bool.eq_false_iff.2 (List.rdropWhile_last_not isSpace (line.dropWhile isSpace) hne)

theorem head?_unsafe (rest : Text) : (ascii "unsafe" ++ rest).head? = some 'u' := by
  have hu : (ascii "unsafe").head? = some 'u' := by decide
  rw [List.head?_append, hu, Option.some_or]

/-- A verdict and a line are left as they are when code fences are taken off. -/
theorem stripCodeFences_lines {before after x body raw : Text}
    (hbefore : ∀ c ∈ before, isSpace c = true) (hafter : ∀ c ∈ after, isSpace c = true)
    (hraw : raw = before ++ (ascii "unsafe" ++ '\n' :: (x ++ body)) ++ after)
    (hlast : ∃ c ∈ body.getLast?, isSpace c = false) (hmarks : ∀ c ∈ x ++ body, c ≠ '`') :
    trimText (stripCodeFences raw) = ascii "unsafe" ++ '\n' :: (x ++ body) := by
  have htrim : trimText raw = ascii "unsafe" ++ '\n' :: (x ++ body) := by
    rw [hraw, trimText_pad hbefore hafter]
    refine Whitespace.trimList_eq_self_of_ends _ ⟨'u', head?_unsafe _, by decide⟩ ?_
    obtain ⟨c, hc, h⟩ := hlast
    refine ⟨c, ?_, h⟩
    have hsuffix : ascii "unsafe" ++ '\n' :: (x ++ body) = (ascii "unsafe" ++ '\n' :: x) ++ body := by
      simp
    rw [hsuffix, List.getLast?_append, Option.mem_def.1 hc]
    exact Option.some_or
  have hstart : ¬fence <+: ascii "unsafe" ++ '\n' :: (x ++ body) := by
    rintro ⟨rest, hrest⟩
    have hu := head?_unsafe ('\n' :: (x ++ body))
    rw [← hrest] at hu
    cases hu
  have hend : ¬fence <:+ ascii "unsafe" ++ '\n' :: (x ++ body) := by
    intro hsuffix
    have hmem : '`' ∈ ascii "unsafe" ++ '\n' :: (x ++ body) := hsuffix.subset List.mem_cons_self
    rcases List.mem_append.1 hmem with hmem | hmem
    · exact absurd hmem (by decide)
    · rcases List.mem_cons.1 hmem with hmem | hmem
      · cases hmem
      · exact hmarks _ hmem rfl
  have htwice : trimText (trimText raw) = trimText raw := Whitespace.trimList_trimList _ _
  rw [stripCodeFences, htrim, if_neg hstart, if_neg hend, ← htrim, htwice, htwice]

/-- **A reply in the format that Llama Guard is asked for is read line by line.** -/
theorem parsePlaintext_listed (lower : Lowering) {entries : List (Entry printedMlg)}
    (hne : entries ≠ []) {before after raw : Text} (hbefore : ∀ c ∈ before, isSpace c = true)
    (hafter : ∀ c ∈ after, isSpace c = true)
    (hraw : raw = before ++ (ascii "unsafe" ++ '\n' :: listed entries) ++ after) :
    parsePlaintextSafetyAssessment lower raw =
      .ok ⟨⟨"unsafe", ""⟩, (readEntries entries).map Entry.key⟩ := by
  have hmarks := listed_marks entries
  have hread := lineCategories_listed lower hne
  have hbodyTrim : trimText (trimText (listed entries)) = trimText (listed entries) :=
    Whitespace.trimList_trimList _ _
  have hbodyNe : trimText (listed entries) ≠ [] := by
    obtain ⟨entries', htrim, -, -, -, c, -, hhead⟩ :=
      exists_trimText_listed plain_printedMlg hne
    rw [htrim]
    intro hnil
    rw [hnil] at hhead
    cases hhead
  obtain ⟨x, y, hsplit, hx, hy, hlast⟩ := exists_trimText hbodyNe
  generalize trimText (listed entries) = body at hread hbodyTrim hbodyNe hsplit hlast
  have hline : ∀ c ∈ x ++ body, c ≠ '\n' ∧ c ≠ '`' := fun c hc =>
    hmarks c (by rw [hsplit]; exact List.mem_append_left _ hc)
  have hstrip : trimText (stripCodeFences raw) = ascii "unsafe" ++ '\n' :: (x ++ body) := by
    have hbehind : ∀ c ∈ y ++ after, isSpace c = true := by
      intro c hc
      rcases List.mem_append.1 hc with hc | hc
      · exact hy c hc
      · exact hafter c hc
    refine stripCodeFences_lines hbefore hbehind ?_ hlast fun c hc => (hline c hc).2
    rw [hraw, hsplit]
    simp
  have hlines : (ascii "unsafe" ++ '\n' :: (x ++ body)).splitOn '\n' =
      [ascii "unsafe", x ++ body] := by
    have hjoin : ascii "unsafe" ++ '\n' :: (x ++ body) =
        ['\n'].intercalate [ascii "unsafe", x ++ body] := by
      simp [List.intercalate, List.intersperse]
    rw [hjoin]
    refine List.splitOn_intercalate '\n' (fun line hmem => ?_) (by simp)
    rcases List.mem_cons.1 hmem with rfl | hmem
    · decide
    · rw [List.mem_singleton.1 hmem]
      exact fun hnewline => (hline '\n' hnewline).1 rfl
  have hcleaned : ([ascii "unsafe", x ++ body].map trimText).filter (· ≠ []) =
      [ascii "unsafe", body] := by
    have hfirst : trimText (ascii "unsafe") = ascii "unsafe" ∧ ascii "unsafe" ≠ [] := by
      decide
    have hsecond : trimText (x ++ body) = body := by
      have hpad : trimText (x ++ body ++ []) = trimText body := trimText_pad hx nofun
      rw [List.append_nil] at hpad
      rw [hpad, hbodyTrim]
    rw [List.map_cons, List.map_cons, hfirst.1, hsecond,
      List.filter_cons_of_pos (by simpa using hfirst.2),
      List.filter_cons_of_pos (by simpa using hbodyNe)]
    rfl
  have hverdict : String.ofList (toLower lower (ascii "unsafe")) = "unsafe" := by
    rw [toLower_eq_small lower (by decide)]
    decide
  simp only [parsePlaintextSafetyAssessment]
  rw [hstrip, hlines, hcleaned]
  simp only [hverdict]
  rw [if_neg (by decide), if_pos trivial, normalizePlaintextCategories, List.flatMap_cons,
    List.flatMap_nil, List.append_nil, hread]

end Reading

/-! ### Names -/

section Names

theorem small_key {printed : List Printed} (e : Entry printed) : small e.key = e.key := by
  have hsmall (c : Char) : c.toLower.toLower = c.toLower := by
    by_cases h : 65 ≤ c.toNat ∧ c.toNat ≤ 90
    · have hlower := toNat_toLower_of_upper h
      exact toLower_of_not_upper (by omega)
    · rw [toLower_of_not_upper h, toLower_of_not_upper h]
  simp only [Entry.key, small, List.map_map]
  exact List.map_congr_left fun c _ => hsmall c

/-- What an entry is read as: a code by its own table, and a label by the common one. -/
def readName (e : Entry printedMlg) : Text :=
  if e.byCode then ascii e.category.canonical else canonicalize asciiLowering e.key

/-- The two tables: codes have a name of the common one, and labels are not taken for codes. -/
theorem names_printedMlg : ∀ category ∈ printedMlg,
    (mapped (small (category.name true)) = some category.canonical ∧
      mapped (small (category.name false)) = none) ∧
    canonicalize asciiLowering (ascii category.canonical) = ascii category.canonical ∧
      ascii category.canonical ≠ [] ∧ (∀ c ∈ ascii category.canonical, c.toNat < 128) := by
  decide +kernel

/-- **What the labels stand for**: their categories, but for the stray ones, and these for none of
them. -/
theorem labels_printedMlg : ∀ category ∈ printedMlg,
    canonicalize asciiLowering (small (category.name false)) ≠ [] ∧
      (category.label ∉ strayLabels →
        canonicalize asciiLowering (small (category.name false)) = ascii category.canonical) ∧
      (category.label ∈ strayLabels → ∀ category' ∈ printedMlg,
        canonicalize asciiLowering (small (category'.name false)) ≠ ascii category.canonical) := by
  decide +kernel

theorem readName_ne_nil (e : Entry printedMlg) : readName e ≠ [] := by
  unfold readName
  split_ifs with hcode
  · exact (names_printedMlg e.category e.mem).2.2.1
  · have hlabel := (labels_printedMlg e.category e.mem).1
    rw [Entry.key, Bool.eq_false_iff.2 hcode]
    exact hlabel

theorem localize_keys (lower : Lowering) (entries : List (Entry printedMlg)) :
    localizeLlamaGuardCategories lower (entries.map Entry.key) = distinct (entries.map readName) := by
  have hascii (e : Entry printedMlg) : ∀ c ∈ e.key, c.toNat < 128 := fun c hc =>
    ((plain_key plain_printedMlg e).1 c hc).1
  have hname (e : Entry printedMlg) : canonicalize lower (localName lower e.key) = readName e := by
    obtain ⟨⟨hcode, hlabel⟩, hcanonical, -, hcanonicalAscii⟩ := names_printedMlg e.category e.mem
    rw [localName, trimText_key plain_printedMlg e, toLower_eq_small lower (hascii e), small_key,
      readName]
    cases h : e.byCode with
    | true =>
        have hmapped : mapped e.key = some e.category.canonical := by
          rw [Entry.key, h]
          exact hcode
        simp only [hmapped]
        rw [canonicalize_ascii lower hcanonicalAscii, hcanonical, if_pos trivial]
    | false =>
        have hmapped : mapped e.key = none := by
          rw [Entry.key, h]
          exact hlabel
        simp only [hmapped]
        rw [canonicalize_ascii lower (hascii e), if_neg Bool.false_ne_true]
  unfold localizeLlamaGuardCategories
  split_ifs with hnil
  · rw [List.map_eq_nil_iff.1 hnil]
    rfl
  · rw [canonicalizeMany_eq, List.map_map, List.map_map]
    have hnames : entries.map ((canonicalize lower ∘ localName lower) ∘ Entry.key) =
        entries.map readName := by
      refine List.map_congr_left fun e _ => ?_
      rw [Function.comp_apply, Function.comp_apply, hname]
    rw [hnames]
    refine congrArg distinct (List.filter_eq_self.2 fun name hmem => ?_)
    obtain ⟨e, -, rfl⟩ := List.mem_map.1 hmem
    exact decide_eq_true (readName_ne_nil e)

/-- **What Llama Guard's adapter reads of a list**: the names of the codes, or else what the labels
stand for. -/
theorem parseAssessment_listed (lower : Lowering) {entries : List (Entry printedMlg)}
    (hne : entries ≠ []) {before after : Text} {raw : String}
    (hbefore : ∀ c ∈ before, isSpace c = true) (hafter : ∀ c ∈ after, isSpace c = true)
    (hraw : raw.toList = before ++ (ascii "unsafe" ++ '\n' :: listed entries) ++ after) :
    parseAssessment lower raw =
      .ok ⟨⟨"unsafe", ""⟩, distinct ((readEntries entries).map readName)⟩ := by
  rw [parseAssessment, parsePlaintext_listed lower hne hbefore hafter hraw, ← localize_keys lower]
  rfl

/-- **What is read is what is listed exactly when the list is kept.** -/
theorem readNames_eq_iff (entries : List (Entry printedMlg)) :
    distinct ((readEntries entries).map readName) = distinctNames entries ↔
      Kept .llamaGuard entries := by
  unfold readEntries
  show _ ↔ if entries.any (·.byCode) then
    distinctNames (entries.filter (·.byCode)) = distinctNames entries
    else ∀ e ∈ entries, e.category.label ∉ strayLabels
  by_cases hany : entries.any (·.byCode) = true
  · rw [if_pos hany, if_pos hany]
    have hcodes : (entries.filter (·.byCode)).map readName =
        (entries.filter (·.byCode)).map fun e => ascii e.category.canonical :=
      List.map_congr_left fun e he => if_pos (List.mem_filter.1 he).2
    rw [hcodes]
    rfl
  · rw [if_neg hany, if_neg hany]
    have hlabel : ∀ e ∈ entries, readName e =
        canonicalize asciiLowering (small (e.category.name false)) := by
      intro e he
      have hcode : e.byCode = false := by
        by_contra hcode
        exact hany (List.any_eq_true.2 ⟨e, he, by simpa using hcode⟩)
      rw [readName, Entry.key, hcode, if_neg Bool.false_ne_true]
    constructor
    · intro heq e he hstray
      -- no label is read as what the code of a stray one stands for
      have hmem : ascii e.category.canonical ∈ distinctNames entries :=
        FirstDistinct.mem_distinct.2 (List.mem_map.2 ⟨e, he, rfl⟩)
      rw [← heq, FirstDistinct.mem_distinct] at hmem
      obtain ⟨e', he', hread⟩ := List.mem_map.1 hmem
      rw [hlabel e' he'] at hread
      exact (labels_printedMlg e.category e.mem).2.2 hstray e'.category e'.mem hread
    · intro hkept
      refine congrArg distinct (List.map_congr_left fun e he => ?_)
      rw [hlabel e he]
      exact (labels_printedMlg e.category e.mem).2.1 (hkept e he)

end Names

/-! ### Which lists survive -/

section Survives

/-- A field with a list of categories of the common table. -/
theorem readCategories_listed {entries : List (Entry printedCategories)} (hne : entries ≠ [])
    {field : String} (hfield : field.toList = listed entries) :
    readCategories lower field = distinctNames entries := by
  rw [readCategories, hfield]
  exact canonicalizeMany_normalizeCategories lower hne

theorem parseJSON_listed {entries : List (Entry printedCategories)} (hne : entries ≠ []) {raw : String}
    (hraw : InFormat unmarshal .generic (listed entries) raw) :
    ∃ assessment, parseJSONSafetyAssessment lower unmarshal raw = .ok assessment ∧
      assessment.userSafety = "unsafe" ∧ assessment.categories = distinctNames entries := by
  obtain ⟨jsonBody, parsed, hbody, hparsed, hverdict, hlist⟩ := hraw
  unfold parseJSONSafetyAssessment
  rw [hbody]
  simp only [Except.bind, hparsed, hverdict]
  exact ⟨_, if_pos (by decide), rfl, readCategories_listed lower hne hlist⟩

/-- A reply for both sides whose two verdicts can be read. -/
theorem parseDualJSON_of_isSafety {raw jsonBody : String} {parsed : RawDualAssessment}
    (hbody : extractJSONObject raw = .ok jsonBody) (hparsed : unmarshal.dual jsonBody = some parsed)
    (hreported : isSafety (normalizeSafety parsed.reportedSafety) = true)
    (hreporter : isSafety (normalizeSafety parsed.reporterSafety) = true) :
    parseDualJSONSafetyAssessment lower unmarshal raw =
      .ok ⟨⟨⟨normalizeSafety parsed.reportedSafety, ""⟩,
          readCategories lower parsed.reportedCategories⟩,
        ⟨⟨normalizeSafety parsed.reporterSafety, ""⟩,
          readCategories lower parsed.reporterCategories⟩⟩ := by
  unfold parseDualJSONSafetyAssessment
  rw [hbody]
  simp only [Except.bind, hparsed]
  rw [if_neg (not_not.2 hreported), if_neg (not_not.2 hreporter)]

theorem isSafety_of_eq {verdict : String} (h : verdict = "unsafe") : isSafety verdict = true := by
  rw [h]
  decide

/-- **A list survives exactly when it is kept.** -/
theorem survives_iff_kept (asked : Asked) (entries : List (Entry asked.printed)) (hne : entries ≠ []) :
    Survives lower unmarshal asked entries ↔ Kept asked entries := by
  cases asked with
  | nemotronSafetyGuard => exact iff_of_true (fun _ => parseJSON_listed lower unmarshal hne) trivial
  | nemotronSafetyGuardMultilingual =>
      exact iff_of_true (fun _ => parseJSON_listed lower unmarshal hne) trivial
  | nemoguard => exact iff_of_true (fun _ => parseJSON_listed lower unmarshal hne) trivial
  | generic => exact iff_of_true (fun _ => parseJSON_listed lower unmarshal hne) trivial
  | genericReportedUser =>
      refine iff_of_true ?_ trivial
      rintro raw ⟨jsonBody, parsed, hbody, hparsed, hverdict, hother, hlist⟩
      have hread := parseDualJSON_of_isSafety lower unmarshal hbody hparsed (isSafety_of_eq hverdict)
        hother
      exact ⟨_, congrArg (Except.map DualAssessment.reportedUser) hread, hverdict,
        readCategories_listed lower hne hlist⟩
  | genericReporter =>
      refine iff_of_true ?_ trivial
      rintro raw ⟨jsonBody, parsed, hbody, hparsed, hother, hverdict, hlist⟩
      have hread := parseDualJSON_of_isSafety lower unmarshal hbody hparsed hother
        (isSafety_of_eq hverdict)
      exact ⟨_, congrArg (Except.map DualAssessment.reporter) hread, hverdict,
        readCategories_listed lower hne hlist⟩
  | llamaGuard =>
      refine Iff.trans ?_ (readNames_eq_iff entries)
      constructor
      · intro h
        have hraw : (String.ofList (ascii "unsafe" ++ '\n' :: listed entries)).toList =
            [] ++ (ascii "unsafe" ++ '\n' :: listed entries) ++ [] := by simp
        have hblank : ∀ c ∈ ([] : Text), isSpace c = true := nofun
        obtain ⟨assessment, hread, -, hcategories⟩ := h _ ⟨[], [], hblank, hblank, hraw⟩
        have hparsed := parseAssessment_listed lower hne hblank hblank hraw
        cases hread.symm.trans hparsed
        exact hcategories
      · rintro heq raw ⟨before, after, hbefore, hafter, hraw⟩
        exact ⟨_, parseAssessment_listed lower hne hbefore hafter hraw, rfl, heq⟩

end Survives

/-! ### Violent crimes -/

section Example

def violentCrimes : Printed := ⟨"S1", "Violent Crimes", "violence"⟩

theorem mem_printedMlg : violentCrimes ∈ printedMlg := by decide

/-- The category by its code, and by its label. -/
def violentCode : Entry printedMlg :=
  ⟨violentCrimes, mem_printedMlg, true, [], ascii "s1", [], by decide, nofun, nofun⟩

def violentLabel : Entry printedMlg :=
  ⟨violentCrimes, mem_printedMlg, false, [], ascii "violent crimes", [], by decide, nofun,
    nofun⟩

/-- **The codes of a list survive.** -/
theorem violentCode_survives : [violentCode, violentCode] ≠ [] ∧
    ∀ unmarshal, Survives asciiLowering unmarshal .llamaGuard [violentCode, violentCode] :=
  ⟨List.cons_ne_nil _ _, fun unmarshal =>
    (survives_iff_kept asciiLowering unmarshal .llamaGuard [violentCode, violentCode]
      (List.cons_ne_nil _ _)).2 (show distinctNames _ = distinctNames _ from rfl)⟩

/-- **No names for the categories fit both their codes and their labels.** -/
theorem llamaGuard_disagrees : ¬∃ name : Printed → Text, ∀ entries : List (Entry printedMlg),
    entries ≠ [] → ∀ raw : String,
      raw.toList = ascii "unsafe" ++ '\n' :: listed entries → ∃ assessment,
        parseAssessment asciiLowering raw = .ok assessment ∧
          assessment.categories = distinct (entries.map fun e => name e.category) := by
  rintro ⟨name, h⟩
  have hread (e : Entry printedMlg) (he : readEntries [e] = [e]) : readName e = name e.category := by
    obtain ⟨assessment, hparse, hcategories⟩ := h [e] (List.cons_ne_nil _ _)
      (String.ofList (ascii "unsafe" ++ '\n' :: listed [e])) String.toList_ofList
    have hblank : ∀ c ∈ ([] : Text), isSpace c = true := nofun
    have hraw : (String.ofList (ascii "unsafe" ++ '\n' :: listed [e])).toList =
        [] ++ (ascii "unsafe" ++ '\n' :: listed [e]) ++ [] := by simp
    have hparsed := parseAssessment_listed asciiLowering (List.cons_ne_nil e []) hblank hblank hraw
    cases hparse.symm.trans hparsed
    rw [he] at hcategories
    exact List.cons.inj hcategories |>.1
  have hagree : readName violentCode = readName violentLabel :=
    (hread violentCode rfl).trans (hread violentLabel rfl).symm
  exact absurd hagree (by decide)

/-- A label next to a code is passed over. -/
example : parseAssessment asciiLowering "unsafe\nS1, Hate" =
    .ok ⟨⟨"unsafe", ""⟩, [ascii "violence"]⟩ := by decide

end Example

end Automod.Categories
