/-
**The reasons of automatic bans.**

The worker bans a reported user, and the reporter whose own messages are unsafe, for a reason that it
puts together from fixed words, the reason of the report and the names of the categories.  The reason
is cut at 200 bytes, and the ban is stored with it, trimmed.  The cut looks at bytes, not at characters.

Main definitions:

* `Automod.autoBanReason`, `Automod.counterBanReason` — the two reasons, cut;
* `Automod.storedReason` — the reason a ban is stored with;
* `Automod.KeepsText` — what is stored is valid UTF-8, at most 200 bytes long and a prefix of the
  whole reason;
* `Automod.CutInside` — the cut is made before a byte that continues a character.

Main results:

* `Automod.exists_text_of_fullReason` — as far as the cut can see, a whole reason is a text;
* `Automod.keepsText_iff` — **a stored reason keeps the text exactly when the cut is not made inside
  a character**.
-/

import Pairline.Automod.Evidence
import Pairline.Utf8

set_option relaxedAutoImplicit false
set_option autoImplicit false

namespace Automod

open Utf8 (encode Valid continues)

/-! ### The reasons -/

/-- Whom a ban is for. -/
inductive Banned
  | reportedUser
  | reporter

/-- The names of the categories, in brackets. -/
def categoriesSuffix (categories : List String) : List UInt8 :=
  if categories = [] then []
  else " [".toUTF8.toList ++ (String.intercalate ", " categories).toUTF8.toList ++ "]".toUTF8.toList

/-- The reason of `autoBanReason` before it is cut. -/
def fullAutoBanReason (report : Report) (categories : List String) : List UInt8 :=
  let reason := "Auto-moderation temporary ban".toUTF8.toList
  let reason :=
    if isBlank report.reason then reason
    else reason ++ ": ".toUTF8.toList ++ safePromptText report.reason
  reason ++ categoriesSuffix categories

def autoBanReason (report : Report) (categories : List String) : List UInt8 :=
  truncateForDB (fullAutoBanReason report categories) 200

/-- The reason of `silentBanReporter` before it is cut. -/
def fullCounterBanReason (categories : List String) : List UInt8 :=
  "Auto-moderation counter-ban: reporter's own messages violated policy".toUTF8.toList ++
    categoriesSuffix categories

def counterBanReason (categories : List String) : List UInt8 :=
  truncateForDB (fullCounterBanReason categories) 200

def fullReason (report : Report) (categories : List String) : Banned → List UInt8
  | .reportedUser => fullAutoBanReason report categories
  | .reporter => fullCounterBanReason categories

/-- The reason that the worker hands to `CreateOrRefreshBan`. -/
def banReason (report : Report) (categories : List String) : Banned → List UInt8
  | .reportedUser => autoBanReason report categories
  | .reporter => counterBanReason categories

/-- The reason that `CreateOrRefreshBan` stores. -/
def storedReason (reason : List UInt8) : List UInt8 := ByteSpace.trimSpace reason

theorem banReason_eq (report : Report) (categories : List String) (banned : Banned) :
    banReason report categories banned =
      truncateForDB (fullReason report categories banned) 200 := by
  cases banned <;> rfl

/-- **What is stored is valid UTF-8, at most 200 bytes long and a prefix of the whole reason.** -/
structure KeepsText (full stored : List UInt8) : Prop where
  valid : Valid stored
  short : stored.length ≤ 200
  isPrefix : stored <+: full

/-- **The whole reason is longer than 200 bytes, and the first byte that is cut off continues a
character.** -/
def CutInside (full : List UInt8) : Prop := ∃ h : 200 < full.length, continues full[200] = true

instance (full : List UInt8) : Decidable (CutInside full) := by unfold CutInside; infer_instance

/-! ### A whole reason is a text, as far as the cut can see -/

/-- The bytes agree with those of a text, and in more than 200 of them where they end apart. -/
def IsText (full : List UInt8) : Prop :=
  Valid full ∨ ∃ seen rest s, full = seen ++ rest ∧ 200 < seen.length ∧ seen <+: encode s

theorem valid_categoriesSuffix (categories : List String) : Valid (categoriesSuffix categories) := by
  unfold categoriesSuffix
  split
  · exact Utf8.valid_nil
  · simp only [Utf8.toList_toUTF8]
    exact ((Utf8.valid_encode _).append (Utf8.valid_encode _)).append (Utf8.valid_encode _)

/-- A text that is cut far behind is one as far as the cut of a reason can see. -/
theorem isText_append {start rest : List UInt8} (hstart : Valid start) (hrest : Valid rest)
    (s : List Char) : IsText (start ++ truncateForDB (encode s) 4000 ++ rest) := by
  unfold truncateForDB
  split
  · exact .inl ((hstart.append (Utf8.valid_encode s)).append hrest)
  · next hlong =>
      obtain ⟨s₀, rfl⟩ := hstart
      refine .inr ⟨_, rest, s₀ ++ s, rfl, ?_, ?_⟩
      · rw [not_or, Nat.not_le] at hlong
        rw [List.length_append, List.length_take, Nat.min_eq_left hlong.2.le]
        omega
      · rw [Utf8.encode_append]
        exact (List.prefix_append_right_inj _).2 (List.take_prefix _ _)

theorem exists_text_of_fullReason (report : Report) (categories : List String) (banned : Banned) :
    IsText (fullReason report categories banned) := by
  have hsuffix := valid_categoriesSuffix categories
  cases banned with
  | reportedUser =>
      simp only [fullReason, fullAutoBanReason]
      split
      · rw [Utf8.toList_toUTF8]
        exact .inl ((Utf8.valid_encode _).append hsuffix)
      · simp only [safePromptText, Utf8.toList_toUTF8]
        exact isText_append ((Utf8.valid_encode _).append (Utf8.valid_encode _)) hsuffix _
  | reporter =>
      rw [fullReason, fullCounterBanReason, Utf8.toList_toUTF8]
      exact .inl ((Utf8.valid_encode _).append hsuffix)

/-- **A text is cut validly exactly when the cut is not made inside a character.** -/
theorem valid_truncate_iff {full : List UInt8} (h : IsText full) :
    Valid (truncateForDB full 200) ↔ ¬CutInside full := by
  by_cases hlong : 200 < full.length
  · rw [truncateForDB, if_neg (by omega)]
    have hcut : CutInside full ↔ continues full[200] = true := ⟨fun ⟨_, hc⟩ => hc, fun hc => ⟨hlong, hc⟩⟩
    rw [hcut, Bool.not_eq_true]
    obtain ⟨s, rfl⟩ | ⟨seen, rest, s, rfl, hseen, htext⟩ := h
    · exact Utf8.valid_take_iff hlong
    · -- what is cut off was seen as a part of the text
      have htake : (seen ++ rest).take 200 = (encode s).take 200 := by
        obtain ⟨rest', hrest'⟩ := htext
        rw [← hrest', List.take_append_of_le_length hseen.le, List.take_append_of_le_length hseen.le]
      have hlength : 200 < (encode s).length := lt_of_lt_of_le hseen htext.length_le
      have hget : (seen ++ rest)[200] = (encode s)[200] := by
        rw [List.getElem_append_left hseen]
        exact htext.getElem hseen
      rw [htake, hget]
      exact Utf8.valid_take_iff _
  · rw [truncateForDB, if_pos (by omega)]
    have hcut : ¬CutInside full := fun ⟨hlength, _⟩ => hlong hlength
    refine iff_of_true ?_ hcut
    obtain ⟨s, rfl⟩ | ⟨seen, rest, s, rfl, hseen, -⟩ := h
    · exact Utf8.valid_encode s
    · rw [List.length_append] at hlong
      omega

/-! ### What is stored -/

/-- A reason begins with a visible character. -/
theorem exists_fullReason_eq_cons (report : Report) (categories : List String) (banned : Banned) :
    ∃ rest, fullReason report categories banned = 0x41 :: rest := by
  have hban : "Auto-moderation temporary ban".toUTF8.toList =
      0x41 :: "uto-moderation temporary ban".toUTF8.toList := by decide +kernel
  have hcounter : "Auto-moderation counter-ban: reporter's own messages violated policy".toUTF8.toList =
      0x41 :: "uto-moderation counter-ban: reporter's own messages violated policy".toUTF8.toList := by
    decide +kernel
  cases banned with
  | reportedUser =>
      simp only [fullReason, fullAutoBanReason]
      split
      · exact ⟨_, by rw [hban, List.cons_append]⟩
      · exact ⟨_, by rw [hban, List.cons_append, List.cons_append, List.cons_append]⟩
  | reporter => exact ⟨_, by rw [fullReason, fullCounterBanReason, hcounter, List.cons_append]⟩

theorem truncateForDB_initial (input : List UInt8) (maxLen : ℕ) :
    truncateForDB input maxLen <+: input := by
  unfold truncateForDB
  split
  · exact List.prefix_refl _
  · exact List.take_prefix _ _

theorem length_truncateForDB_le (input : List UInt8) {maxLen : ℕ} (h : 0 < maxLen) :
    (truncateForDB input maxLen).length ≤ maxLen := by
  unfold truncateForDB
  split
  · omega
  · exact List.length_take_le _ _

/-- Trimming takes nothing off the beginning of a reason. -/
theorem storedReason_prefix (report : Report) (categories : List String) (banned : Banned) :
    storedReason (banReason report categories banned) <+: banReason report categories banned := by
  obtain ⟨rest, hrest⟩ := exists_fullReason_eq_cons report categories banned
  have hcut : ∃ rest', banReason report categories banned = 0x41 :: rest' := by
    rw [banReason_eq, hrest, truncateForDB]
    split
    · exact ⟨rest, rfl⟩
    · exact ⟨rest.take 199, rfl⟩
  obtain ⟨rest', hrest'⟩ := hcut
  have hapart : ByteSpace.unicode.Apart 0x41 := ByteSpace.apart_of_visible (by decide) (by decide)
  have hpre := @ByteSpace.Spaces.trim_prefix_strip _ ByteSpace.unicode
    (banReason report categories banned)
  rwa [ByteSpace.Spaces.strip_eq_self (by rw [hrest']; exact ByteSpace.Spaces.begins_cons hapart _)]
    at hpre

/-- **A stored reason keeps the text exactly when the cut is not made inside a character.** -/
theorem keepsText_iff (report : Report) (categories : List String) (banned : Banned) :
    KeepsText (fullReason report categories banned)
        (storedReason (banReason report categories banned)) ↔
      ¬CutInside (fullReason report categories banned) := by
  have hvalid : Valid (storedReason (banReason report categories banned)) ↔
      ¬CutInside (fullReason report categories banned) := by
    rw [storedReason, Utf8.valid_trimSpace_iff, banReason_eq]
    exact valid_truncate_iff (exists_text_of_fullReason report categories banned)
  have hstored := storedReason_prefix report categories banned
  refine ⟨fun h => hvalid.1 h.valid, fun h => ⟨hvalid.2 h, ?_, ?_⟩⟩
  · refine hstored.length_le.trans ?_
    rw [banReason_eq]
    exact length_truncateForDB_le _ (by decide)
  · rw [banReason_eq] at hstored ⊢
    exact hstored.trans (truncateForDB_initial _ _)

/-- A text without white space is only cut. -/
theorem safePromptText_of_visible {s : String}
    (h : ∀ c ∈ s.toList, Whitespace.isSpace c = false) :
    safePromptText s = truncateForDB (encode s.toList) 4000 := by
  have hsame : (s.map fun c => if c = '\r' ∨ c = '\n' then ' ' else c) = s := by
    apply String.toList_inj.1
    rw [String.toList_map]
    refine (List.map_congr_left fun c hc => ?_).trans (List.map_id _)
    have hc' := h c hc
    rw [if_neg, id]
    rintro (rfl | rfl) <;> exact absurd hc' (by decide)
  simp only [safePromptText, hsame, Whitespace.trim_eq_self h, Utf8.toList_toUTF8]

/-- A hundred letters of two bytes each. -/
def cyrillic : List Char := List.replicate 100 'я'

/-- A report whose reason is cut inside one of them. -/
def cyrillicReport : Report where
  reason := String.ofList cyrillic
  chatLog := "[]"
  reportedSessionID := "a"
  reportedIP := ""
  reporterSessionID := "b"
  reporterIP := ""

theorem fullReason_cyrillicReport : fullReason cyrillicReport [] .reportedUser =
    encode ("Auto-moderation temporary ban".toList ++ ": ".toList ++ cyrillic) := by
  have hlist : cyrillicReport.reason.toList = cyrillic := String.toList_ofList
  have hspace : ∀ c ∈ cyrillicReport.reason.toList, Whitespace.isSpace c = false := by
    rw [hlist]
    decide +kernel
  have hblank : isBlank cyrillicReport.reason = false := by
    rw [isBlank, Whitespace.trim_eq_self hspace]
    decide +kernel
  have hshort : truncateForDB (encode cyrillic) 4000 = encode cyrillic := by decide +kernel
  simp only [fullReason, fullAutoBanReason, hblank, safePromptText_of_visible hspace, hlist, hshort,
    Bool.false_eq_true, if_false, categoriesSuffix, if_true, List.append_nil, Utf8.toList_toUTF8,
    Utf8.encode_append]

theorem cyrillicReport_cut :
    ¬∀ (report : Report) (categories : List String) (banned : Banned),
      KeepsText (fullReason report categories banned)
        (storedReason (banReason report categories banned)) := by
  intro h
  have hvalid := (h cyrillicReport [] .reportedUser).valid
  rw [storedReason, Utf8.valid_trimSpace_iff, banReason_eq,
    valid_truncate_iff (exists_text_of_fullReason _ _ _), fullReason_cyrillicReport] at hvalid
  exact hvalid (by decide +kernel)

end Automod
