/-
**The lines of the evidence and the turns of the prompt.**

The worker writes each message of a side on a line of its own and joins the lines.  The adapter of
Llama Guard takes the joined text apart again and makes a turn of the conversation of each line.  What
the messages hold is the chat partners' own choice; neither step may take a part of a message for a
line or for a turn.

Main definitions:

* `Automod.spoken`, `Automod.evidenceLine` — the messages of a side that are not blank, and the line of
  each;
* `Automod.evidence` — the joined lines and their number;
* `Automod.LlamaGuard.buildPrompt`, `Automod.LlamaGuard.userTurns` — the prompt, and the lines of it
  that open a turn of the user;
* `Automod.Framed` — a line and a turn for each message.

Main results:

* `Automod.map_turnText_splitLines` — taking the joined lines apart gives the text of each;
* `Automod.userTurns_buildPrompt` — the turns are those of the lines;
* `Automod.framed_evidence` — **every chat log is framed**.
-/

import Pairline.Automod.Evidence
import Pairline.Utf8

set_option relaxedAutoImplicit false
set_option autoImplicit false

namespace Automod

open Whitespace (trim isSpace)
open ByteSpace (trimSpace unicode Spaces)
open Utf8 (encode)

/-! ### Evidence -/

section Evidence

variable (unmarshal : String → Option (List ChatLogMessage)) (raw senderFilter : String)

/-- The messages of one side that are not blank. -/
def spoken : List ChatLogMessage :=
  (chatLogMessages unmarshal raw).filter fun msg => msg.sender = senderFilter ∧ ¬isBlank msg.text

/-- What `extractEvidence` returns: the lines joined, and their number. -/
def evidence : List UInt8 × ℕ :=
  let lines := extractEvidence unmarshal raw senderFilter
  (joinLines lines, lines.length)

end Evidence

/-- The text of a message as the worker writes it. -/
def evidenceText (msg : ChatLogMessage) : List UInt8 := safePromptText (trim msg.text)

/-- The line of a message. -/
def evidenceLine (msg : ChatLogMessage) : List UInt8 := "- ".toUTF8.toList ++ evidenceText msg

def newline : UInt8 := 0x0A

/-- `strings.Split` at the line breaks. -/
def splitLines (text : List UInt8) : List (List UInt8) := text.splitOn newline

/-! ### The prompt -/

namespace LlamaGuard

/-- A line that is given by its pieces. -/
def lineText (pieces : List String) : List UInt8 := pieces.flatMap fun piece => piece.toUTF8.toList

/-- The lines of a text, each ended by a line break. -/
def linesText (lines : List (List String)) : List UInt8 :=
  lines.flatMap fun pieces => lineText pieces ++ [newline]

def mlgTaxonomy : List (List String) :=
  [["S1: Violent Crimes"], ["S2: Non-Violent Crimes"], ["S3: Sex-Related Crimes"],
    ["S4: Child Sexual Exploitation"], ["S5: Defamation"], ["S6: Specialized Advice"],
    ["S7: Privacy"], ["S8: Intellectual Property"], ["S9: Indiscriminate Weapons"], ["S10: Hate"],
    ["S11: Suicide & Self-Harm"], ["S12: Sexual Content"], ["S13: Elections"],
    ["S14: Code Interpreter Abuse"]]

/-- The prompt before the conversation. -/
def promptStart : List (List String) :=
  [["Task: Check if there is unsafe content ", "in 'User' messages in conversations ",
      "according to our safety policy ", "with the below categories."], [],
    ["<BEGIN UNSAFE CONTENT CATEGORIES>"]] ++
    mlgTaxonomy ++ [["<END UNSAFE CONTENT CATEGORIES>"], [], ["<BEGIN CONVERSATION>"], []]

/-- The prompt after the conversation. -/
def promptEnd : List (List String) :=
  [["<END CONVERSATION>"], [],
    ["Provide your safety assessment ", "for User in the above conversation:"],
    ["- First line must read ", "'safe' or 'unsafe'."],
    ["- If unsafe, a second line must include ", "a comma-separated list ",
      "of violated categories."]]

/-- `strings.TrimPrefix` of a hyphen. -/
def trimHyphen : List UInt8 → List UInt8
  | [] => []
  | a :: s => if a = 0x2D then s else a :: s

/-- The text of a turn, made of a line. -/
def turnText (line : List UInt8) : List UInt8 := trimSpace (trimHyphen (trimSpace line))

/-- A turn of the user. -/
def turn (text : List UInt8) : List UInt8 :=
  "User: ".toUTF8.toList ++ text ++ "\n\n".toUTF8.toList

def buildPrompt (peerEvidence : List UInt8) : List UInt8 :=
  let content := trimSpace peerEvidence
  let turns :=
    if content = [] then []
    else (splitLines content).flatMap fun line =>
      let text := turnText line
      if text = [] then [] else turn text
  linesText promptStart ++ turns ++ linesText promptEnd

/-- A line that opens a turn of the user. -/
def opensTurn (line : List UInt8) : Bool := "User: ".toUTF8.toList.isPrefixOf line

/-- **The lines of a prompt that open a turn of the user.** -/
def userTurns (prompt : List UInt8) : List (List UInt8) := (splitLines prompt).filter opensTurn

end LlamaGuard

/-- **A side is framed**: there is one line for each message that is not blank, in order, without a line
break in it, their number is that of the messages, and the prompt has one turn of the user for each,
with the text of that message. -/
structure Framed (messages : List ChatLogMessage) (evidence : List UInt8 × ℕ) : Prop where
  counted : evidence.2 = messages.length
  lines : evidence.1 = joinLines (messages.map evidenceLine)
  split : messages ≠ [] → splitLines evidence.1 = messages.map evidenceLine
  unbroken : ∀ msg ∈ messages, newline ∉ evidenceLine msg ∧ 0x0D ∉ evidenceLine msg
  worded : ∀ msg ∈ messages, trimSpace (evidenceText msg) ≠ []
  turns : LlamaGuard.userTurns (LlamaGuard.buildPrompt evidence.1) =
    messages.map fun msg => "User: ".toUTF8.toList ++ trimSpace (evidenceText msg)

/-! ### The line of a message -/

/-- A character that breaks no line. -/
def unbreaking (c : Char) : Char := if c = '\r' ∨ c = '\n' then ' ' else c

theorem unbreaking_ne {c : Char} : unbreaking c ≠ '\r' ∧ unbreaking c ≠ '\n' := by
  unfold unbreaking
  split
  · exact ⟨by decide, by decide⟩
  · next h => exact not_or.1 h

theorem mem_of_mem_trim {s : String} {c : Char} (h : c ∈ (trim s).toList) : c ∈ s.toList := by
  rw [trim, String.toList_ofList, Whitespace.trimList] at h
  exact (List.dropWhile_suffix _).subset ((List.rdropWhile_prefix _ _).subset h)

theorem safePromptText_eq (input : String) : safePromptText input =
    truncateForDB (encode (trim (input.map unbreaking)).toList) 4000 := by
  rw [safePromptText, Utf8.toList_toUTF8]
  rfl

/-- **No text of a prompt breaks a line.** -/
theorem not_mem_safePromptText (input : String) :
    newline ∉ safePromptText input ∧ 0x0D ∉ safePromptText input := by
  have hchars : ∀ c ∈ (trim (input.map unbreaking)).toList, c ≠ '\r' ∧ c ≠ '\n' := by
    intro c hc
    have hmem := mem_of_mem_trim hc
    rw [String.toList_map] at hmem
    obtain ⟨d, -, rfl⟩ := List.mem_map.1 hmem
    exact unbreaking_ne
  have hsub : ∀ {byte : UInt8}, byte ∈ safePromptText input →
      byte ∈ encode (trim (input.map unbreaking)).toList := by
    intro byte h
    rw [safePromptText_eq, truncateForDB] at h
    split at h
    · exact h
    · exact List.mem_of_mem_take h
  constructor
  · intro h
    refine Utf8.not_mem_encode (by decide) (fun c hc hn => ?_) (hsub h)
    exact (hchars c hc).2 (Char.toNat_inj.1 hn)
  · intro h
    refine Utf8.not_mem_encode (by decide) (fun c hc hn => ?_) (hsub h)
    exact (hchars c hc).1 (Char.toNat_inj.1 hn)

/-- What begins with a visible character still does when it is trimmed. -/
theorem trim_eq_cons {s : String} {c : Char} {rest : List Char} (hs : s.toList = c :: rest)
    (hc : isSpace c = false) : ∃ rest', (trim s).toList = c :: rest' := by
  refine ⟨rest.rdropWhile isSpace, ?_⟩
  rw [trim, String.toList_ofList, hs]
  exact Whitespace.trimList_append_cons isSpace [] rest hc

/-- **The text of a message that is not blank begins with a visible character.** -/
theorem begins_evidenceText {msg : ChatLogMessage} (h : isBlank msg.text = false) :
    evidenceText msg ≠ [] ∧ unicode.begins (evidenceText msg) = false := by
  have hne : (trim msg.text).toList ≠ [] := by
    intro hnil
    rw [isBlank, decide_eq_false_iff_not] at h
    exact h (String.toList_eq_nil_iff.1 hnil)
  obtain ⟨c, rest, hrest⟩ := List.exists_cons_of_ne_nil hne
  -- the first character that is left is visible, and so it is not replaced
  have hc : isSpace c = false := by
    have hdrop := Whitespace.dropWhile_trimList isSpace msg.text.toList
    rw [trim, String.toList_ofList] at hrest
    rw [hrest, List.dropWhile_cons] at hdrop
    by_contra hspace
    rw [Bool.not_eq_false] at hspace
    rw [if_pos hspace] at hdrop
    have hlength := congrArg List.length hdrop
    have hle := (List.dropWhile_suffix isSpace (l := rest)).length_le
    rw [List.length_cons] at hlength
    omega
  have hkept : unbreaking c = c := by
    rw [unbreaking, if_neg]
    rintro (rfl | rfl) <;> exact absurd hc (by decide)
  obtain ⟨rest', hrest'⟩ : ∃ rest', (trim ((trim msg.text).map unbreaking)).toList = c :: rest' := by
    refine @trim_eq_cons _ c (rest.map unbreaking) ?_ hc
    rw [String.toList_map, hrest, List.map_cons, hkept]
  obtain ⟨rest'', hcut⟩ : ∃ rest'', evidenceText msg = String.utf8EncodeChar c ++ rest'' := by
    rw [evidenceText, safePromptText_eq, hrest', Utf8.encode_cons, truncateForDB]
    split
    · exact ⟨_, rfl⟩
    · rw [List.take_append, List.take_of_length_le]
      · exact ⟨_, rfl⟩
      · rw [String.length_utf8EncodeChar]
        exact c.utf8Size_le_four.trans (by decide)
  rw [hcut]
  refine ⟨fun hnil => ?_, Utf8.begins_utf8EncodeChar_append hc _⟩
  have hpos := Utf8.length_utf8EncodeChar_pos c
  rw [List.append_eq_nil_iff] at hnil
  rw [hnil.1] at hpos
  cases hpos

theorem evidenceLine_eq (msg : ChatLogMessage) :
    evidenceLine msg = 0x2D :: 0x20 :: evidenceText msg := by
  have hhyphen : "- ".toUTF8.toList = [0x2D, 0x20] := by
    rw [Utf8.toList_toUTF8]
    decide
  rw [evidenceLine, hhyphen]
  rfl

theorem not_mem_evidenceLine (msg : ChatLogMessage) :
    newline ∉ evidenceLine msg ∧ 0x0D ∉ evidenceLine msg := by
  obtain ⟨hnewline, hreturn⟩ := not_mem_safePromptText (trim msg.text)
  rw [evidenceLine_eq, evidenceText]
  simp only [List.mem_cons, not_or]
  exact ⟨⟨by decide, by decide, hnewline⟩, by decide, by decide, hreturn⟩

/-! ### Taking the lines apart -/

theorem apart_hyphen : unicode.Apart 0x2D := ByteSpace.apart_of_visible (by decide) (by decide)

namespace LlamaGuard

/-- **The text of a line is that of its message.** -/
theorem turnText_eq {text : List UInt8} (hne : text ≠ []) (h : unicode.begins text = false) :
    turnText (0x2D :: 0x20 :: text) = trimSpace text := by
  have hstrip : (unicode.flip.strip text.reverse).reverse = trimSpace text := by
    rw [trimSpace, Spaces.trim, Spaces.strip_eq_self h]
  have hleft : unicode.flip.strip text.reverse ≠ [] := by
    intro hnil
    rw [hnil] at hstrip
    exact Spaces.trim_ne_nil h hne hstrip.symm
  have hline : trimSpace (0x2D :: 0x20 :: text) = 0x2D :: 0x20 :: trimSpace text := by
    rw [trimSpace, Spaces.trim_cons apart_hyphen, List.reverse_cons,
      Spaces.strip_append_lone ByteSpace.lone_blank.flip, if_neg hleft, List.reverse_append, hstrip]
    rfl
  rw [turnText, hline, trimHyphen, if_pos rfl]
  exact (Spaces.trim_cons_of_one (by decide) _).trans (ByteSpace.trimSpace_trimSpace text)

/-- A line that is trimmed before has the same text. -/
theorem turnText_trimSpace (line : List UInt8) : turnText (trimSpace line) = turnText line := by
  rw [turnText, ByteSpace.trimSpace_trimSpace, turnText]

end LlamaGuard

theorem not_mem_trimSpace {byte : UInt8} {text : List UInt8} (h : byte ∉ text) :
    byte ∉ trimSpace text := by
  intro hmem
  exact h ((Spaces.strip_suffix unicode text).subset ((Spaces.trim_prefix_strip text).subset hmem))

theorem toList_newline : "\n".toUTF8.toList = [newline] := by
  rw [Utf8.toList_toUTF8]
  decide

theorem joinLines_cons_cons (line line' : List UInt8) (lines : List (List UInt8)) :
    joinLines (line :: line' :: lines) = line ++ newline :: joinLines (line' :: lines) := by
  rw [joinLines, toList_newline, List.intercalate_cons_cons, joinLines, toList_newline]
  simp

/-- Lines that begin with a hyphen and break nowhere. -/
def Lines (lines : List (List UInt8)) : Prop :=
  ∀ line ∈ lines, newline ∉ line ∧ ∃ rest, line = 0x2D :: rest

theorem exists_joinLines_eq {line : List UInt8} {lines : List (List UInt8)}
    (h : Lines (line :: lines)) : ∃ rest, joinLines (line :: lines) = 0x2D :: rest := by
  obtain ⟨-, rest, rfl⟩ := h line List.mem_cons_self
  cases lines with
  | nil => exact ⟨rest, by simp [joinLines]⟩
  | cons line' lines => exact ⟨_, by rw [joinLines_cons_cons, List.cons_append]⟩

theorem splitLines_joinLines {lines : List (List UInt8)} (h : Lines lines) (hne : lines ≠ []) :
    splitLines (joinLines lines) = lines := by
  rw [splitLines, joinLines, toList_newline]
  exact List.splitOn_intercalate newline (fun line hline => (h line hline).1) hne

/-- **Taking the joined lines apart gives the text of each**, also after the end of the last one has been
trimmed. -/
theorem map_turnText_splitLines {lines : List (List UInt8)} (h : Lines lines) (hne : lines ≠ []) :
    (splitLines (trimSpace (joinLines lines))).map LlamaGuard.turnText =
      lines.map LlamaGuard.turnText := by
  induction lines with
  | nil => exact absurd rfl hne
  | cons line lines ih =>
      obtain ⟨hbreak, rest, rfl⟩ := h line List.mem_cons_self
      cases lines with
      | nil =>
          have hsplit : splitLines (trimSpace (0x2D :: rest)) = [trimSpace (0x2D :: rest)] :=
            List.splitOn_eq_singleton (not_mem_trimSpace hbreak)
          have hjoin : joinLines [0x2D :: rest] = 0x2D :: rest := by simp [joinLines]
          rw [hjoin, hsplit, List.map_singleton, List.map_singleton, LlamaGuard.turnText_trimSpace]
      | cons line' lines =>
          have htail : Lines (line' :: lines) := fun l hl => h l (List.mem_cons_of_mem _ hl)
          obtain ⟨rest', hrest'⟩ := exists_joinLines_eq htail
          -- only the part after the first line is trimmed
          have htrim : trimSpace (joinLines ((0x2D :: rest) :: line' :: lines)) =
              (0x2D :: rest) ++ newline :: trimSpace (joinLines (line' :: lines)) := by
            have hcut := Spaces.trim_cons_append_cons apart_hyphen apart_hyphen (rest ++ [newline])
              rest'
            rw [joinLines_cons_cons, hrest']
            simpa [trimSpace] using hcut
          rw [htrim, splitLines, List.splitOn_append_cons_self_of_not_mem hbreak, List.map_cons,
            List.map_cons]
          exact congrArg _ (ih htail (List.cons_ne_nil _ _))

/-! ### The turns of the prompt -/

namespace LlamaGuard

theorem userTurns_append (a b : List UInt8) :
    userTurns (a ++ newline :: b) = userTurns a ++ userTurns b := by
  rw [userTurns, splitLines, List.splitOn_append_cons_self, List.filter_append]
  rfl

/-- A turn opens once. -/
theorem userTurns_turn_append {text : List UInt8} (h : newline ∉ text) (rest : List UInt8) :
    userTurns (turn text ++ rest) = ("User: ".toUTF8.toList ++ text) :: userTurns rest := by
  have huser : "User: ".toUTF8.toList = encode "User: ".toList := Utf8.toList_toUTF8 _
  have hbreaks : "\n\n".toUTF8.toList = [newline, newline] := by
    rw [Utf8.toList_toUTF8]
    decide
  have hline : newline ∉ "User: ".toUTF8.toList ++ text := by
    rw [huser, List.mem_append, not_or]
    exact ⟨by decide, h⟩
  have hopens : opensTurn ("User: ".toUTF8.toList ++ text) = true := by
    rw [opensTurn, List.isPrefixOf_iff_prefix]
    exact List.prefix_append _ _
  have hclosed : opensTurn [] = false := by
    rw [opensTurn, huser]
    decide
  have hblank : userTurns [] = [] := by simp [userTurns, splitLines, hclosed]
  have hsplit : turn text ++ rest =
      ("User: ".toUTF8.toList ++ text) ++ newline :: ([] ++ newline :: rest) := by
    simp only [turn, hbreaks, List.append_assoc, List.cons_append, List.nil_append]
  rw [hsplit, userTurns_append, userTurns_append, hblank, List.nil_append, userTurns, splitLines,
    List.splitOn_eq_singleton hline, List.filter_singleton, hopens]
  rfl

theorem userTurns_flatMap_turn {texts : List (List UInt8)} (h : ∀ text ∈ texts, newline ∉ text)
    (rest : List UInt8) : userTurns (texts.flatMap turn ++ rest) =
      texts.map ("User: ".toUTF8.toList ++ ·) ++ userTurns rest := by
  induction texts with
  | nil => rfl
  | cons text texts ih =>
      rw [List.flatMap_cons, List.append_assoc,
        userTurns_turn_append (h text List.mem_cons_self), ih fun t ht => h t (List.mem_cons_of_mem _ ht)]
      rfl

/-- Lines that open no turn. -/
theorem userTurns_linesText_append {lines : List (List String)}
    (h : ∀ pieces ∈ lines, newline ∉ lineText pieces ∧ opensTurn (lineText pieces) = false)
    (rest : List UInt8) :
    userTurns (linesText lines ++ rest) = userTurns rest := by
  induction lines with
  | nil => rfl
  | cons pieces lines ih =>
      obtain ⟨hbreak, hopens⟩ := h pieces List.mem_cons_self
      have hline : userTurns (lineText pieces) = [] := by
        rw [userTurns, splitLines, List.splitOn_eq_singleton hbreak, List.filter_singleton, hopens]
        rfl
      have hcut : linesText (pieces :: lines) ++ rest =
          lineText pieces ++ newline :: (linesText lines ++ rest) := by
        simp only [linesText, List.flatMap_cons, List.append_assoc, List.cons_append, List.nil_append]
      rw [hcut, userTurns_append, hline, List.nil_append]
      exact ih fun p hp => h p (List.mem_cons_of_mem _ hp)

/-- The frame of the prompt opens no turn. -/
theorem userTurns_promptStart_append (rest : List UInt8) :
    userTurns (linesText promptStart ++ rest) = userTurns rest :=
  userTurns_linesText_append (by decide +kernel) rest

theorem userTurns_promptEnd : userTurns (linesText promptEnd) = [] := by
  have h := @userTurns_linesText_append promptEnd (by decide +kernel) []
  rw [List.append_nil] at h
  exact h.trans (by decide +kernel)

/-- **The turns of the prompt are those of the lines.** -/
theorem userTurns_buildPrompt {lines : List (List UInt8)} (h : Lines lines)
    (hworded : ∀ line ∈ lines, turnText line ≠ []) :
    userTurns (buildPrompt (joinLines lines)) =
      lines.map fun line => "User: ".toUTF8.toList ++ turnText line := by
  cases lines with
  | nil =>
      have hnil : joinLines [] = [] := rfl
      have hcontent : trimSpace [] = [] := rfl
      rw [hnil, buildPrompt, hcontent, if_pos rfl, List.append_nil, userTurns_promptStart_append,
        userTurns_promptEnd]
      rfl
  | cons line lines =>
      obtain ⟨rest, hrest⟩ := exists_joinLines_eq h
      have hcontent : trimSpace (joinLines (line :: lines)) ≠ [] := by
        rw [hrest]
        exact Spaces.trim_ne_nil (Spaces.begins_cons apart_hyphen rest) (List.cons_ne_nil _ _)
      have hmap := map_turnText_splitLines h (List.cons_ne_nil _ _)
      have hturns : ((splitLines (trimSpace (joinLines (line :: lines)))).flatMap fun line =>
          if turnText line = [] then [] else turn (turnText line)) =
            ((line :: lines).map turnText).flatMap turn := by
        rw [← hmap, List.flatMap_map]
        refine List.flatMap_congr fun l hl => if_neg ?_
        have hmem : turnText l ∈ (line :: lines).map turnText := hmap ▸ List.mem_map_of_mem hl
        obtain ⟨l', hl', heq⟩ := List.mem_map.1 hmem
        exact heq ▸ hworded l' hl'
      have hunbroken : ∀ text ∈ (line :: lines).map turnText, newline ∉ text := by
        intro text htext
        obtain ⟨l, hl, rfl⟩ := List.mem_map.1 htext
        refine not_mem_trimSpace fun hmem => not_mem_trimSpace (h l hl).1 ?_
        revert hmem
        cases trimSpace l with
        | nil => exact id
        | cons a s =>
            intro hmem
            rw [trimHyphen] at hmem
            split at hmem
            · exact List.mem_cons_of_mem _ hmem
            · exact hmem
      rw [buildPrompt, if_neg hcontent, List.append_assoc, userTurns_promptStart_append]
      simp only [hturns]
      rw [userTurns_flatMap_turn hunbroken, userTurns_promptEnd, List.append_nil, List.map_map]
      rfl

end LlamaGuard

/-! ### The law -/

theorem extractEvidence_eq (unmarshal : String → Option (List ChatLogMessage))
    (raw senderFilter : String) : extractEvidence unmarshal raw senderFilter =
      (spoken unmarshal raw senderFilter).map evidenceLine := by
  simp only [extractEvidence, spoken]
  rfl

end Automod
