/-
**The verdict of a reasoning model.**

The reasoning model is asked to think and then to close its reply with a line for each side, such as
`Prompt harm: unharmful`.  The adapter looks for such lines with two patterns and takes the first that
it finds; a reply that quotes the format, or a message that looks like it, before the answer holds more
than one.

A classification is what the patterns describe: at the beginning of a line, but for blanks, the label,
then a verdict, and nothing but blanks behind it up to the end of a line.

Main definitions:

* `Automod.Reasoning.harmPattern` — the two patterns;
* `Automod.Reasoning.parseAssessment`, `Automod.Reasoning.parseDualAssessment` — how a reply is read;
* `Automod.Reasoning.Classification` — a label and a verdict at some place of a reply;
* `Automod.Reasoning.FinalDecides` — the last classification of each side decides, and an error is
  returned when one that is asked for is missing.

Main results:

* `Automod.Reasoning.find_harmPattern` — the search finds the first classification;
* `Automod.Reasoning.finalDecides_iff` — **the final verdict decides exactly when the first verdict of
  each side is also its last**.
-/

import Mathlib.Data.Nat.Find
import Pairline.Automod.Evidence
import Pairline.Regex

set_option relaxedAutoImplicit false
set_option autoImplicit false

namespace Automod.Reasoning

/-! ### The patterns -/

/-- `\s`: the white space of a pattern. -/
def isSpace (c : Char) : Bool := c = '\t' || c = '\n' || c = '\u000c' || c = '\r' || c = ' '

/-- The letter that stands for all that differ from it in case only. -/
def simpleFold (c : Char) : Char :=
  if c = '\u017f' then 's' else if c = '\u212a' then 'k' else c.toLower

/-- Two characters agree, but for case. -/
def eqFold (c d : Char) : Bool := simpleFold c = simpleFold d

/-- `^`: the beginning of a line. -/
def atLineStart (before _ : List Char) : Bool := before = [] || before.head? = some '\n'

/-- `$`: the end of a line. -/
def atLineEnd (_ after : List Char) : Bool := after = [] || after.head? = some '\n'

/-- The verdict words. -/
def verdictWord (harmful : Bool) : List Char :=
  if harmful then "harmful".toList else "unharmful".toList

/-- `(?im)^\s*Label:\s*(harmful|unharmful)\s*$`. -/
def harmPattern (label : List Char) : Regex :=
  .sequence [.check atLineStart, .many isSpace, .word eqFold label, .many isSpace,
    .group (.either (.word eqFold (verdictWord true)) (.word eqFold (verdictWord false))),
    .many isSpace, .check atLineEnd]

def promptLabel : List Char := "Prompt harm:".toList

def responseLabel : List Char := "Response harm:".toList

/-- `FindStringSubmatch`: the texts of the groups at the leftmost match. -/
def findStringSubmatch (r : Regex) (raw : String) : Option (List (List Char)) :=
  (r.find [] raw.toList).map fun found => found.2.groups

/-- What a verdict is read as. -/
def safetyOf (harmful : Bool) : Assessment := ⟨if harmful then "unsafe" else "safe", ""⟩

/-- The classification of a side; `none` when it is missing or not one of the two words. -/
def harmOf (label : List Char) (raw : String) : Option Bool :=
  match findStringSubmatch (harmPattern label) raw with
  | some (verdict :: _) =>
      let verdict := normalizeSafety (String.ofList verdict)
      if verdict = "harmful" then some true
      else if verdict = "unharmful" then some false
      else none
  | _ => none

def parseAssessment (raw : String) : Except AssessmentError Assessment :=
  match harmOf promptLabel raw with
  | some harmful => .ok (safetyOf harmful)
  | none => .error .other

def parseDualAssessment (raw : String) : Except AssessmentError DualAssessment :=
  match harmOf promptLabel raw, harmOf responseLabel raw with
  | some prompt, some response => .ok ⟨safetyOf prompt, safetyOf response⟩
  | _, _ => .error .other

/-! ### Classifications -/

/-- **The label stands at the place `n` of the reply, at the beginning of a line but for blanks, and a
verdict behind it, up to the end of a line but for blanks.** -/
def Classification (label raw : List Char) (n : ℕ) (harmful : Bool) : Prop :=
  ∃ start blank name gap verdict trail rest : List Char,
    raw = start ++ (blank ++ (name ++ (gap ++ (verdict ++ (trail ++ rest))))) ∧
      n = start.length + blank.length ∧
      atLineStart start.reverse (blank ++ name) ∧ (∀ c ∈ blank, isSpace c = true) ∧
      List.Forall₂ (fun c d => eqFold c d = true) label name ∧ (∀ c ∈ gap, isSpace c = true) ∧
      List.Forall₂ (fun c d => eqFold c d = true) (verdictWord harmful) verdict ∧
      (∀ c ∈ trail, isSpace c = true) ∧ atLineEnd [] rest

/-- The first classification of a side. -/
def IsFirst (label raw : List Char) (n : ℕ) (harmful : Bool) : Prop :=
  Classification label raw n harmful ∧ ∀ n' h', Classification label raw n' h' → n ≤ n'

/-- The last classification of a side. -/
def IsLast (label raw : List Char) (n : ℕ) (harmful : Bool) : Prop :=
  Classification label raw n harmful ∧ ∀ n' h', Classification label raw n' h' → n' ≤ n

/-- The verdict of the last classification; `none` when there is no classification. -/
def FinalVerdict (label raw : List Char) : Option Bool → Prop
  | some harmful => ∃ n, IsLast label raw n harmful
  | none => ∀ n harmful, ¬Classification label raw n harmful

/-- **The last classification of each side decides, and an error is returned when one that is asked for
is missing.** -/
structure FinalDecides (raw : String) : Prop where
  single : ∀ verdict, FinalVerdict promptLabel raw.toList verdict →
    parseAssessment raw = match verdict with
      | some harmful => .ok (safetyOf harmful)
      | none => .error .other
  dual : ∀ prompt response, FinalVerdict promptLabel raw.toList prompt →
    FinalVerdict responseLabel raw.toList response →
      parseDualAssessment raw = match prompt, response with
        | some p, some r => .ok ⟨safetyOf p, safetyOf r⟩
        | _, _ => .error .other

/-- **The first verdict of a side is also its last.** -/
def Agrees (label : List Char) (raw : String) : Prop :=
  ∀ n h n' h', IsFirst label raw.toList n h → IsLast label raw.toList n' h' → h = h'

/-! ### What the patterns match -/

theorem matches_harmPattern_iff {label before text rest : List Char} {groups : List (List Char)} :
    (harmPattern label).Matches before text rest groups ↔
      ∃ (blank name gap verdict trail : List Char) (harmful : Bool),
        text = blank ++ (name ++ (gap ++ (verdict ++ trail))) ∧ groups = [verdict] ∧
          atLineStart before [] ∧ (∀ c ∈ blank, isSpace c = true) ∧
          List.Forall₂ (fun c d => eqFold c d = true) label name ∧ (∀ c ∈ gap, isSpace c = true) ∧
          List.Forall₂ (fun c d => eqFold c d = true) (verdictWord harmful) verdict ∧
          (∀ c ∈ trail, isSpace c = true) ∧ atLineEnd [] rest := by
  have hverdict : ∀ (before : List Char) (verdict rest : List Char) (groups : List (List Char)),
      (Regex.group (.either (.word eqFold (verdictWord true))
        (.word eqFold (verdictWord false)))).Matches before verdict rest groups ↔
      groups = [verdict] ∧ ∃ harmful,
        List.Forall₂ (fun c d => eqFold c d = true) (verdictWord harmful) verdict := by
    intro before verdict rest groups
    simp only [Regex.matches_group_iff, Regex.matches_either_iff, Regex.matches_word_iff,
      Bool.exists_bool]
    constructor
    · rintro ⟨groups', rfl, ⟨rfl, h⟩ | ⟨rfl, h⟩⟩
      · exact ⟨rfl, .inr h⟩
      · exact ⟨rfl, .inl h⟩
    · rintro ⟨rfl, h | h⟩
      · exact ⟨[], rfl, .inr ⟨rfl, h⟩⟩
      · exact ⟨[], rfl, .inl ⟨rfl, h⟩⟩
  simp only [harmPattern, Regex.sequence, Regex.matches_check_both_iff, Regex.matches_many_both_iff,
    Regex.matches_word_both_iff]
  constructor
  · rintro ⟨hstart, blank, _, rfl, hblank, name, _, rfl, hname, gap, _, rfl, hgap, h⟩
    obtain ⟨verdict, _, _, _, rfl, rfl, h, h'⟩ := Regex.matches_both_iff.1 h
    obtain ⟨rfl, harmful, hword⟩ := (hverdict _ _ _ _).1 h
    obtain ⟨trail, _, rfl, htrail, h''⟩ := Regex.matches_many_both_iff.1 h'
    obtain ⟨hend, hnone⟩ := Regex.matches_check_both_iff.1 h''
    obtain ⟨rfl, rfl, -⟩ := Regex.matches_check_iff.1 hnone
    exact ⟨blank, name, gap, verdict, trail, harmful, by simp, rfl, hstart, hblank, hname, hgap, hword,
      htrail, hend⟩
  · rintro ⟨blank, name, gap, verdict, trail, harmful, rfl, rfl, hstart, hblank, hname, hgap, hword,
      htrail, hend⟩
    refine ⟨hstart, blank, _, rfl, hblank, name, _, rfl, hname, gap, _, rfl, hgap,
      Regex.matches_both_iff.2 ⟨verdict, trail, [verdict], [], rfl, rfl,
        (hverdict _ _ _ _).2 ⟨rfl, harmful, hword⟩, ?_⟩⟩
    refine Regex.matches_many_both_iff.2 ⟨trail, [], by simp, htrail, ?_⟩
    exact Regex.matches_check_both_iff.2 ⟨hend, Regex.matches_check_iff.2 ⟨rfl, rfl, rfl⟩⟩

/-- A classification is a match, from some point before its label. -/
theorem classification_iff {label raw : List Char} {n : ℕ} {harmful : Bool} :
    Classification label raw n harmful ↔
      ∃ start blank name gap verdict trail rest : List Char,
        raw = start ++ (blank ++ (name ++ (gap ++ (verdict ++ trail))) ++ rest) ∧
          n = start.length + blank.length ∧ atLineStart start.reverse [] ∧
          (∀ c ∈ blank, isSpace c = true) ∧
          List.Forall₂ (fun c d => eqFold c d = true) label name ∧ (∀ c ∈ gap, isSpace c = true) ∧
          List.Forall₂ (fun c d => eqFold c d = true) (verdictWord harmful) verdict ∧
          (∀ c ∈ trail, isSpace c = true) ∧ atLineEnd [] rest := by
  simp only [Classification, List.append_assoc]
  rfl

theorem matchesAfter_of_classification {label raw : List Char} {n : ℕ} {harmful : Bool}
    (h : Classification label raw n harmful) : ∃ start blank rest : List Char,
      raw = start ++ (blank ++ rest) ∧ n = start.length + blank.length ∧
        (∀ c ∈ blank, isSpace c = true) ∧
        (harmPattern label).MatchesAfter [] start (blank ++ rest) := by
  obtain ⟨start, blank, name, gap, verdict, trail, rest, rfl, rfl, hstart, hblank, hname, hgap,
    hverdict, htrail, hend⟩ := classification_iff.1 h
  refine ⟨start, blank, name ++ (gap ++ (verdict ++ trail)) ++ rest, by simp, rfl, hblank, ?_⟩
  refine ⟨_, rest, [verdict], List.append_assoc _ _ _ |>.symm, matches_harmPattern_iff.2 ?_⟩
  exact ⟨blank, name, gap, verdict, trail, harmful, rfl, rfl, by simpa using hstart, hblank, hname,
    hgap, hverdict, htrail, hend⟩

theorem classification_of_matches {label start text rest : List Char} {groups : List (List Char)}
    (h : (harmPattern label).Matches start.reverse text rest groups) :
    ∃ (blank verdict : List Char) (harmful : Bool), groups = [verdict] ∧ blank <+: text ∧
      (∀ c ∈ blank, isSpace c = true) ∧
      List.Forall₂ (fun c d => eqFold c d = true) (verdictWord harmful) verdict ∧
      Classification label (start ++ (text ++ rest)) (start.length + blank.length) harmful := by
  obtain ⟨blank, name, gap, verdict, trail, harmful, rfl, rfl, hstart, hblank, hname, hgap, hverdict,
    htrail, hend⟩ := matches_harmPattern_iff.1 h
  refine ⟨blank, verdict, harmful, rfl, List.prefix_append _ _, hblank, hverdict, ?_⟩
  exact classification_iff.2 ⟨start, blank, name, gap, verdict, trail, rest, rfl, rfl, hstart, hblank,
    hname, hgap, hverdict, htrail, hend⟩

/-! ### Where classifications stand -/

/-- A label that begins with a visible letter. -/
def Visible (label : List Char) : Prop :=
  ∃ c rest, label = c :: rest ∧ ∀ d, eqFold c d = true → isSpace d = false

theorem not_isSpace_of_eqFold {c d : Char} (hc : ∀ s ∈ ['\t', '\n', '\u000c', '\r', ' '], eqFold c s = false)
    (h : eqFold c d = true) : isSpace d = false := by
  rw [Bool.eq_false_iff]
  intro hspace
  simp only [isSpace, Bool.or_eq_true, decide_eq_true_eq] at hspace
  obtain (((rfl | rfl) | rfl) | rfl) | rfl := hspace
  all_goals
    rw [hc _ (by decide)] at h
    cases h

theorem visible_promptLabel : Visible promptLabel :=
  ⟨'P', "rompt harm:".toList, by decide, fun _ => not_isSpace_of_eqFold (by decide)⟩

theorem visible_responseLabel : Visible responseLabel :=
  ⟨'R', "esponse harm:".toList, by decide, fun _ => not_isSpace_of_eqFold (by decide)⟩

section Places

variable {label raw : List Char} {n n' : ℕ} {harmful harmful' : Bool}

/-- The place of a classification is that of a visible letter. -/
theorem exists_getElem_of_classification (hlabel : Visible label)
    (h : Classification label raw n harmful) : ∃ d, raw[n]? = some d ∧ isSpace d = false := by
  obtain ⟨c, label', rfl, hvisible⟩ := hlabel
  obtain ⟨start, blank, name, gap, verdict, trail, rest, rfl, rfl, -, -, hname, -⟩ := h
  cases hname with
  | @cons _ d _ name' hd _ =>
      refine ⟨d, ?_, hvisible d hd⟩
      rw [List.getElem?_append_right (by omega), Nat.add_sub_cancel_left,
        List.getElem?_append_right (Nat.le_refl _), Nat.sub_self]
      rfl

/-- The first letter of a verdict tells which it is. -/
theorem verdict_eq_cons {verdict : List Char}
    (h : List.Forall₂ (fun c d => eqFold c d = true) (verdictWord harmful) verdict) :
    ∃ d rest, verdict = d :: rest ∧ simpleFold d = (if harmful then 'h' else 'u') ∧
      isSpace d = false := by
  cases harmful with
  | true =>
      cases h with
      | @cons _ d _ rest hd _ =>
          exact ⟨d, rest, rfl, (of_decide_eq_true hd).symm, not_isSpace_of_eqFold (by decide) hd⟩
  | false =>
      cases h with
      | @cons _ d _ rest hd _ =>
          exact ⟨d, rest, rfl, (of_decide_eq_true hd).symm, not_isSpace_of_eqFold (by decide) hd⟩

theorem dropWhile_append_of_space {gap : List Char} (hgap : ∀ c ∈ gap, isSpace c = true) {d : Char}
    (hd : isSpace d = false) (s : List Char) : (gap ++ d :: s).dropWhile isSpace = d :: s := by
  rw [List.dropWhile_append_of_pos hgap, List.dropWhile_cons_of_neg (by simp [hd])]

theorem drop_append₃ (a b c s : List Char) :
    (a ++ (b ++ (c ++ s))).drop (a.length + b.length + c.length) = s := by
  rw [← List.append_assoc, ← List.append_assoc]
  exact List.drop_left' (by simp only [List.length_append])

/-- **A place has one verdict.** -/
theorem Classification.unique (h : Classification label raw n harmful)
    (h' : Classification label raw n harmful') : harmful = harmful' := by
  obtain ⟨start, blank, name, gap, verdict, trail, rest, hraw, hn, -, -, hname, hgap, hverdict, -⟩ := h
  obtain ⟨start', blank', name', gap', verdict', trail', rest', hraw', hn', -, -, hname', hgap',
    hverdict', -⟩ := h'
  obtain ⟨d, s, rfl, hd, hspace⟩ := verdict_eq_cons hverdict
  obtain ⟨d', s', rfl, hd', hspace'⟩ := verdict_eq_cons hverdict'
  -- behind the label and the blanks the two begin with the same letter
  have hdrop : raw.drop (n + label.length) = gap ++ (d :: (s ++ (trail ++ rest))) := by
    rw [hraw, hn, hname.length_eq]
    exact drop_append₃ start blank name _
  have hdrop' : raw.drop (n + label.length) = gap' ++ (d' :: (s' ++ (trail' ++ rest'))) := by
    rw [hraw', hn', hname'.length_eq]
    exact drop_append₃ start' blank' name' _
  have hskip := congrArg (List.dropWhile isSpace) (hdrop.symm.trans hdrop')
  rw [dropWhile_append_of_space hgap hspace, dropWhile_append_of_space hgap' hspace',
    List.cons.injEq] at hskip
  rw [hskip.1, hd'] at hd
  cases harmful <;> cases harmful' <;> first | rfl | cases hd

theorem Classification.le_length (h : Classification label raw n harmful) : n ≤ raw.length := by
  obtain ⟨start, blank, name, gap, verdict, trail, rest, rfl, rfl, -⟩ := h
  simp only [List.length_append]
  omega

/-- Where there is a classification there is a last one. -/
theorem exists_isLast (h : Classification label raw n harmful) :
    ∃ n' harmful', IsLast label raw n' harmful' := by
  classical
  let p : ℕ → Prop := fun n => ∃ harmful, Classification label raw n harmful
  obtain ⟨harmful', hlast⟩ : p (Nat.findGreatest p raw.length) :=
    Nat.findGreatest_spec h.le_length ⟨harmful, h⟩
  exact ⟨_, harmful', hlast, fun m hm hclass => Nat.le_findGreatest hclass.le_length ⟨hm, hclass⟩⟩

end Places

/-! ### What the search finds -/

section Search

variable {label : List Char} {raw : String}

/-- A letter of a verdict is read as it is. -/
theorem lowerASCII_of_eqFold {c d : Char} (hc : c ∈ "harmfulun".toList) (h : eqFold c d = true) :
    lowerASCII d = c ∧ Whitespace.isSpace d = false := by
  have hfacts : ∀ c ∈ "harmfulun".toList, simpleFold c = c ∧ c ≠ 's' ∧ c ≠ 'k' ∧ c ≠ '\u0130' ∧
      32 < c.toNat ∧ c.toNat < 127 := by decide
  obtain ⟨hfold, hs, hk, hdot, hlow, hhigh⟩ := hfacts c hc
  have hd : simpleFold d = c := (of_decide_eq_true h).symm.trans hfold
  -- neither the long s nor the Kelvin sign is among the letters
  unfold simpleFold at hd
  split_ifs at hd with h₁ h₂
  · exact absurd hd.symm hs
  · exact absurd hd.symm hk
  · have hne : d ≠ '\u0130' := by
      rintro rfl
      exact hdot (hd.symm.trans (by decide))
    refine ⟨by rw [lowerASCII, if_neg hne, if_neg h₂, hd], ?_⟩
    by_cases hupper : d.val ≥ 'A'.val ∧ d.val ≤ 'Z'.val
    · have hA : 65 ≤ d.toNat := hupper.1
      have hZ : d.toNat ≤ 90 := hupper.2
      exact Whitespace.isSpace_of_visible (by omega) (by omega)
    · have hlower : d.toLower = d := dif_neg hupper
      rw [← hlower, hd]
      exact Whitespace.isSpace_of_visible hlow hhigh

theorem normalizeSafety_of_forall₂ {w verdict : List Char} (hw : ∀ c ∈ w, c ∈ "harmfulun".toList)
    (h : List.Forall₂ (fun c d => eqFold c d = true) w verdict) :
    normalizeSafety (String.ofList verdict) = String.ofList w := by
  have hread : verdict.map lowerASCII = w ∧ ∀ d ∈ verdict, Whitespace.isSpace d = false := by
    induction h with
    | nil => exact ⟨rfl, by simp⟩
    | @cons c d w verdict hd _ ih =>
        obtain ⟨hlower, hspace⟩ := lowerASCII_of_eqFold (hw c List.mem_cons_self) hd
        obtain ⟨hmap, hall⟩ := ih fun c hc => hw c (List.mem_cons_of_mem _ hc)
        refine ⟨by rw [List.map_cons, hlower, hmap], fun e he => ?_⟩
        obtain rfl | he := List.mem_cons.1 he
        · exact hspace
        · exact hall e he
  rw [normalizeSafety, Whitespace.trim_eq_self (by rw [String.toList_ofList]; exact hread.2)]
  apply String.toList_inj.1
  rw [String.toList_map, String.toList_ofList, String.toList_ofList, hread.1]

/-- The verdict that is found is the one that is read. -/
theorem harmOf_eq_of_find {skipped verdict : List Char} {m : Regex.Found} {harmful : Bool}
    (hfind : (harmPattern label).find [] raw.toList = some (skipped, m))
    (hgroups : m.groups = [verdict])
    (hverdict : List.Forall₂ (fun c d => eqFold c d = true) (verdictWord harmful) verdict) :
    harmOf label raw = some harmful := by
  have hread := normalizeSafety_of_forall₂ (by cases harmful <;> decide) hverdict
  simp only [harmOf, findStringSubmatch, hfind, Option.map_some, hgroups, hread]
  cases harmful <;> decide

/-- **The search finds the first classification.** -/
theorem find_harmPattern (hlabel : Visible label) {n : ℕ} {harmful : Bool}
    (h : Classification label raw.toList n harmful) :
    ∃ n' harmful', IsFirst label raw.toList n' harmful' ∧ harmOf label raw = some harmful' := by
  cases hfind : (harmPattern label).find [] raw.toList with
  | none =>
      obtain ⟨start, blank, rest, hraw, -, -, hmatch⟩ := matchesAfter_of_classification h
      exact absurd hmatch (Regex.find_eq_none_iff.1 hfind start _ hraw)
  | some found =>
      obtain ⟨skipped, m⟩ := found
      obtain ⟨hraw, hmatch, hleft⟩ := Regex.leftmost_of_find hfind
      rw [List.append_nil] at hmatch
      obtain ⟨blank, verdict, harmful', hgroups, hpre, hblank, hverdict, hclass⟩ :=
        classification_of_matches hmatch
      rw [← hraw] at hclass
      refine ⟨_, harmful', ⟨hclass, fun n' h' hclass' => ?_⟩,
        harmOf_eq_of_find hfind hgroups hverdict⟩
      -- another label before this one would stand among the blanks in front of it
      obtain ⟨start', blank', rest', hraw', rfl, -, hmatch'⟩ := matchesAfter_of_classification hclass'
      have hskip : skipped.length ≤ start'.length := hleft start' _ hraw' hmatch'
      by_contra hlt
      obtain ⟨d, hd, hspace⟩ := exists_getElem_of_classification hlabel hclass'
      obtain ⟨behind, hbehind⟩ := hpre
      rw [hraw, List.getElem?_append_right (by omega), ← hbehind, List.append_assoc,
        List.getElem?_append_left (by omega)] at hd
      rw [hblank d (List.mem_of_getElem? hd)] at hspace
      cases hspace

theorem harmOf_eq_none (h : ∀ n harmful, ¬Classification label raw.toList n harmful) :
    harmOf label raw = none := by
  have hfind : (harmPattern label).find [] raw.toList = none := by
    rw [Regex.find_eq_none_iff]
    rintro skipped after hraw ⟨text, rest, groups, rfl, hmatch⟩
    rw [List.append_nil] at hmatch
    obtain ⟨blank, -, harmful, -, -, -, -, hclass⟩ := classification_of_matches hmatch
    rw [← hraw] at hclass
    exact h _ _ hclass
  simp only [harmOf, findStringSubmatch, hfind, Option.map_none]

/-- **What is read of a side is the first of its classifications.** -/
theorem harmOf_eq_of_isFirst (hlabel : Visible label) {n : ℕ} {harmful : Bool}
    (h : IsFirst label raw.toList n harmful) : harmOf label raw = some harmful := by
  obtain ⟨n', harmful', hfirst, hread⟩ := find_harmPattern hlabel h.1
  have hn : n = n' := Nat.le_antisymm (h.2 _ _ hfirst.1) (hfirst.2 _ _ h.1)
  have hclass : Classification label raw.toList n' harmful := hn ▸ h.1
  rw [hread, hclass.unique hfirst.1]

end Search

/-! ### The law -/

theorem exists_finalVerdict (label raw : List Char) : ∃ verdict, FinalVerdict label raw verdict := by
  by_cases h : ∃ n harmful, Classification label raw n harmful
  · obtain ⟨n, harmful, hclass⟩ := h
    obtain ⟨n', harmful', hlast⟩ := exists_isLast hclass
    exact ⟨some harmful', n', hlast⟩
  · exact ⟨none, fun n harmful hclass => h ⟨n, harmful, hclass⟩⟩

theorem safetyOf_injective {h h' : Bool} (heq : safetyOf h = safetyOf h') : h = h' := by
  revert heq
  cases h <;> cases h' <;> decide

/-- A side whose first verdict is its last is read as its final verdict. -/
theorem harmOf_eq_finalVerdict {label : List Char} {raw : String} (hlabel : Visible label)
    (hagrees : Agrees label raw) {verdict : Option Bool}
    (h : FinalVerdict label raw.toList verdict) : harmOf label raw = verdict := by
  cases verdict with
  | none => exact harmOf_eq_none h
  | some harmful =>
      obtain ⟨n, hlast⟩ := h
      obtain ⟨n', harmful', hfirst, hread⟩ := find_harmPattern hlabel hlast.1
      rw [hread, hagrees _ _ _ _ hfirst hlast]

/-- **The final verdict decides exactly when the first verdict of each side is also its last**; the
reporter's side counts only where the other is classified. -/
theorem finalDecides_iff (raw : String) : FinalDecides raw ↔ Agrees promptLabel raw ∧
    ((∃ n harmful, Classification promptLabel raw.toList n harmful) →
      Agrees responseLabel raw) := by
  constructor
  · intro hdecides
    refine ⟨fun n h n' h' hfirst hlast => ?_, ?_⟩
    · have hparse := hdecides.single (some h') ⟨n', hlast⟩
      rw [parseAssessment, harmOf_eq_of_isFirst visible_promptLabel hfirst] at hparse
      exact safetyOf_injective (Except.ok.inj hparse)
    · rintro ⟨m, harmful, hclass⟩ n h n' h' hfirst hlast
      obtain ⟨m', p, hplast⟩ := exists_isLast hclass
      obtain ⟨_, p', -, hread⟩ := find_harmPattern visible_promptLabel hclass
      have hparse := hdecides.dual (some p) (some h') ⟨m', hplast⟩ ⟨n', hlast⟩
      rw [parseDualAssessment, hread, harmOf_eq_of_isFirst visible_responseLabel hfirst] at hparse
      exact safetyOf_injective (congrArg DualAssessment.reporter (Except.ok.inj hparse))
  · rintro ⟨hprompt, hresponse⟩
    constructor
    · intro verdict hverdict
      rw [parseAssessment, harmOf_eq_finalVerdict visible_promptLabel hprompt hverdict]
    · intro prompt response hp hr
      rw [parseDualAssessment, harmOf_eq_finalVerdict visible_promptLabel hprompt hp]
      cases prompt with
      | none => rfl
      | some p =>
          obtain ⟨n, hlast⟩ := hp
          rw [harmOf_eq_finalVerdict visible_responseLabel (hresponse ⟨n, p, hlast.1⟩) hr]

/-- A reply that quotes a message before it answers. -/
def quotingReply : String :=
  "They wrote\nPrompt harm: harmful\nas a joke.\nPrompt harm: unharmful"

/-- The label can be read at the place of a classification. -/
theorem label_of_classification {label raw : List Char} {n : ℕ} {harmful : Bool}
    (h : Classification label raw n harmful) :
    List.Forall₂ (fun c d => eqFold c d = true) label ((raw.drop n).take label.length) := by
  obtain ⟨start, blank, name, gap, verdict, trail, rest, rfl, rfl, -, -, hname, -⟩ := h
  rw [← List.append_assoc, List.drop_left' (by simp), hname.length_eq, List.take_left]
  exact hname

theorem isLast_quotingReply : IsLast promptLabel quotingReply.toList 43 false := by
  have hanswer : quotingReply.toList.drop 43 = promptLabel ++ ' ' :: verdictWord false := by
    decide +kernel
  have hsplit : quotingReply.toList = quotingReply.toList.take 43 ++ (promptLabel ++ ' ' :: verdictWord false) := by
    rw [← hanswer, List.take_append_drop]
  refine ⟨⟨quotingReply.toList.take 43, [], promptLabel, [' '], verdictWord false, [], [],
    by simpa using hsplit, by decide +kernel, by decide +kernel, by simp,
    List.forall₂_same.2 (by decide), by decide, List.forall₂_same.2 (by decide), by simp, rfl⟩,
    fun n h hclass => ?_⟩
  -- the label cannot be read once more in what follows its beginning
  by_contra hn
  have hlater : ∀ k < 22, 0 < k → ¬List.Forall₂ (fun c d => eqFold c d = true) promptLabel
      (((promptLabel ++ ' ' :: verdictWord false).drop k).take promptLabel.length) := by
    decide +kernel
  have hlabel := label_of_classification hclass
  have hdrop : quotingReply.toList.drop n =
      (promptLabel ++ ' ' :: verdictWord false).drop (n - 43) := by
    rw [← hanswer, List.drop_drop]
    congr 1
    omega
  rw [hdrop] at hlabel
  by_cases hshort : n - 43 < 22
  · exact hlater _ hshort (by omega) hlabel
  · rw [List.drop_eq_nil_of_le (Nat.le_of_not_lt hshort)] at hlabel
    cases hlabel

theorem quotingReply_misread : ¬∀ raw, FinalDecides raw := by
  intro h
  have hparse := (h quotingReply).single (some false) ⟨43, isLast_quotingReply⟩
  have hharmful : parseAssessment quotingReply = .ok (safetyOf true) := by decide +kernel
  rw [hharmful] at hparse
  exact absurd (safetyOf_injective (Except.ok.inj hparse)) (by decide)

end Automod.Reasoning
