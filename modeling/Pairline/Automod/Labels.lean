/-
**Canonical labels.**

A label that a model gives is looked up in the table of categories, in lower case and without signs and
needless spaces; one that is not in the table stands for itself, in lower case.  The names of the table
stand for themselves.

Main definitions:

* `Automod.Lowering.Settled` — what is known of the lower case of all characters;
* `Automod.LabelLaw` — **what is left of a list of labels**.

Main results:

* `Automod.canonicalize_canonicalize` — **a canonical label stands for itself**;
* `Automod.labelLaw` — **the law holds**.
-/

import Pairline.Automod.Taxonomy

set_option relaxedAutoImplicit false
set_option autoImplicit false

namespace Automod

open FirstDistinct (distinct place)
open Whitespace (isSpace)

/-- **What is known of the lower case of all characters**: it is in lower case, and white space is what
it is of. -/
structure Lowering.Settled (lower : Lowering) : Prop where
  once : ∀ c, lower.toLower (lower.toLower c) = lower.toLower c
  space : ∀ c, isSpace (lower.toLower c) = isSpace c

/-- **What is left of a list of labels**: the canonical labels of its elements, but for empty ones, each
once, in the order in which they occur first; and of these, the same labels are left. -/
structure LabelLaw (lower : Lowering) : Prop where
  nodup : ∀ values, (canonicalizeMany lower values).Nodup
  mem_iff : ∀ values label, label ∈ canonicalizeMany lower values ↔
    label ≠ [] ∧ ∃ value ∈ values, canonicalize lower value = label
  inOrder : ∀ values, (canonicalizeMany lower values).Pairwise fun a b =>
    place (values.map (canonicalize lower)) a < place (values.map (canonicalize lower)) b
  idempotent : ∀ values, canonicalizeMany lower (canonicalizeMany lower values) =
    canonicalizeMany lower values

section Labels

variable {lower : Lowering}

/-- What is found in the table is the name of a category. -/
theorem exists_category_of_lookup {key label : Text} (h : lookup lower key = some label) :
    ∃ category ∈ categories, label = ascii category.canonical := by
  obtain ⟨entry, hentry, rfl⟩ := Option.map_eq_some_iff.1 h
  have hmem := List.mem_reverse.1 (List.mem_of_find?_eq_some hentry)
  obtain ⟨category, hcategory, hkeys⟩ := List.mem_flatMap.1 hmem
  obtain ⟨key, -, rfl⟩ := List.mem_map.1 hkeys
  exact ⟨category, hcategory, rfl⟩

/-- **The name of a category stands for itself.** -/
theorem canonicalize_canonical (lower : Lowering) : ∀ category ∈ categories,
    canonicalize lower (ascii category.canonical) = ascii category.canonical := by
  have hascii : ∀ category ∈ categories, ∀ c ∈ ascii category.canonical, c.toNat < 128 := by
    decide +kernel
  have hname : ∀ category ∈ categories,
      canonicalize asciiLowering (ascii category.canonical) = ascii category.canonical := by
    decide +kernel
  intro category hcategory
  rw [canonicalize_ascii lower (hascii category hcategory)]
  exact hname category hcategory

/-- A trimmed text in lower case is trimmed, and in lower case. -/
theorem toLower_trimText_toLower (hlower : lower.Settled) (text : Text) :
    toLower lower (trimText (toLower lower (trimText text))) = toLower lower (trimText text) := by
  have htrim : trimText (toLower lower (trimText text)) = toLower lower (trimText text) := by
    rw [trimText, toLower, Whitespace.trimList_map isSpace hlower.space, trimText,
      Whitespace.trimList_trimList]
  rw [htrim, toLower, toLower, List.map_map]
  exact List.map_congr_left fun c _ => hlower.once c

/-- **A canonical label stands for itself.** -/
theorem canonicalize_canonicalize (hlower : lower.Settled) {value : Text}
    (h : canonicalize lower value ≠ []) :
    canonicalize lower (canonicalize lower value) = canonicalize lower value := by
  by_cases hkey : normalizeKey lower value = []
  · exact absurd (if_pos hkey) h
  · have hvalue : canonicalize lower value =
        (lookup lower (normalizeKey lower value)).getD (toLower lower (trimText value)) := if_neg hkey
    cases hlookup : lookup lower (normalizeKey lower value) with
    | some label =>
        obtain ⟨category, hcategory, rfl⟩ := exists_category_of_lookup hlookup
        rw [hvalue, hlookup, Option.getD_some]
        exact canonicalize_canonical lower category hcategory
    | none =>
        -- the text in lower case has the same key
        have hsame := toLower_trimText_toLower hlower value
        have hkey' : normalizeKey lower (toLower lower (trimText value)) = normalizeKey lower value := by
          rw [normalizeKey, normalizeKey, hsame]
        rw [hvalue, hlookup, Option.getD_none, canonicalize, hkey', if_neg hkey, hlookup,
          Option.getD_none, hsame]

theorem mem_canonicalizeMany {values : List Text} {label : Text} :
    label ∈ canonicalizeMany lower values ↔
      label ≠ [] ∧ ∃ value ∈ values, canonicalize lower value = label := by
  rw [canonicalizeMany_eq, FirstDistinct.mem_distinct, List.mem_filter, List.mem_map, and_comm]
  simp

/-- **The law holds.** -/
theorem labelLaw (hlower : lower.Settled) : LabelLaw lower where
  nodup values := by
    rw [canonicalizeMany_eq]
    exact FirstDistinct.nodup_distinct _
  mem_iff values label := mem_canonicalizeMany
  inOrder values := by
    rw [canonicalizeMany_eq]
    refine (FirstDistinct.pairwise_place_distinct _).imp_of_mem fun {a b} ha hb hlt => ?_
    have hne {label : Text}
        (h : label ∈ distinct ((values.map (canonicalize lower)).filter (· ≠ []))) :
        decide (label ≠ []) = true := (List.mem_filter.1 (FirstDistinct.mem_distinct.1 h)).2
    exact FirstDistinct.place_lt_of_filter (p := fun label => decide (label ≠ [])) (hne ha) (hne hb) hlt
  idempotent values := by
    have hfixed : (canonicalizeMany lower values).map (canonicalize lower) =
        (canonicalizeMany lower values).map id := by
      refine List.map_congr_left fun label hlabel => ?_
      obtain ⟨hne, value, -, rfl⟩ := mem_canonicalizeMany.1 hlabel
      rw [id_eq, canonicalize_canonicalize hlower hne]
    have hkept : (canonicalizeMany lower values).filter (· ≠ []) = canonicalizeMany lower values :=
      List.filter_eq_self.2 fun label hlabel => decide_eq_true (mem_canonicalizeMany.1 hlabel).1
    have hnodup : (canonicalizeMany lower values).Nodup := by
      rw [canonicalizeMany_eq]
      exact FirstDistinct.nodup_distinct _
    rw [canonicalizeMany_eq lower (canonicalizeMany lower values), hfixed, List.map_id, hkept,
      FirstDistinct.distinct_of_nodup hnodup]

theorem settled_asciiLowering : asciiLowering.Settled where
  once c := by
    change c.toLower.toLower = c.toLower
    by_cases h : 65 ≤ c.toNat ∧ c.toNat ≤ 90
    · have hlower := toNat_toLower_of_upper h
      exact toLower_of_not_upper (by omega)
    · rw [toLower_of_not_upper h, toLower_of_not_upper h]
  space := isSpace_toLower

/-- In ASCII. -/
theorem labelLaw_ascii : LabelLaw asciiLowering := labelLaw settled_asciiLowering

end Labels

end Automod
