/-
**Regular expressions with a preference.**

A pattern may match the text after a point in more than one way.  The ways are listed in the order in
which a backtracking search comes upon them, longer runs before shorter ones and the first alternative
before the second; a search takes the first way at the leftmost point where there is one.

A repetition repeats a class of characters, which is all that is repeated here.

Main definitions:

* `Regex`, `Regex.results` — a pattern, and the ways in which it matches after a point;
* `Regex.Matches` — that it matches in some way;
* `Regex.sequence`, `Regex.word` — patterns one after the other, and the characters of a word;
* `Regex.find` — the first way at the leftmost point, with the text that is skipped;
* `Regex.findAll` — the matches that do not overlap, from left to right.

Main results:

* `Regex.mem_results_iff` — what is listed is what matches;
* `Regex.find_eq_none_iff`, `Regex.leftmost_of_find` — **nothing is found exactly when nothing matches,
  and what is found matches further left than anything else**;
* `Regex.findAll_append`, `Regex.findAll_append_of_unique` — what a text without matches, and one that
  matches in one way only, add to the matches behind them.
-/

import Mathlib.Data.List.Forall2
import Mathlib.Tactic.Tauto

set_option relaxedAutoImplicit false
set_option autoImplicit false

/-- A pattern; a check looks at the text before a point, its last character first, and after it. -/
inductive Regex
  | check (p : List Char → List Char → Bool)
  | one (p : Char → Bool)
  | many (p : Char → Bool)
  | both (first second : Regex)
  | either (first second : Regex)
  | group (r : Regex)

namespace Regex

/-- A way to match: the text that is matched, the text behind it, and the texts of the groups. -/
structure Found where
  text : List Char
  rest : List Char
  groups : List (List Char)

/-- One way after another. -/
def Found.andThen (m m' : Found) : Found := ⟨m.text ++ m'.text, m'.rest, m.groups ++ m'.groups⟩

/-- The runs of a class at the beginning of a text, the longest first. -/
def runs (p : Char → Bool) : List Char → List Found
  | [] => [⟨[], [], []⟩]
  | c :: s =>
      if p c then (runs p s).map (fun m => ⟨c :: m.text, m.rest, m.groups⟩) ++ [⟨[], c :: s, []⟩]
      else [⟨[], c :: s, []⟩]

/-- **The ways in which a pattern matches after a point**, in the order of preference. -/
def results : Regex → List Char → List Char → List Found
  | .check p, before, after => if p before after then [⟨[], after, []⟩] else []
  | .one _, _, [] => []
  | .one p, _, c :: s => if p c then [⟨[c], s, []⟩] else []
  | .many p, _, after => runs p after
  | .both first second, before, after =>
      (first.results before after).flatMap fun m =>
        (second.results (m.text.reverse ++ before) m.rest).map m.andThen
  | .either first second, before, after => first.results before after ++ second.results before after
  | .group r, before, after =>
      (r.results before after).map fun m => ⟨m.text, m.rest, m.text :: m.groups⟩

/-- **The first way at the leftmost point**, with the text before that point. -/
def find (r : Regex) (before : List Char) : List Char → Option (List Char × Found)
  | [] => (r.results before []).head?.map fun m => ([], m)
  | c :: s =>
      match (r.results before (c :: s)).head? with
      | some m => some ([], m)
      | none => (r.find (c :: before) s).map fun found => (c :: found.1, found.2)

/-- **The matches in a text that do not overlap**, from left to right, of a pattern that does not match
the empty text; the first `n` characters still belong to the match before. -/
def findAll (r : Regex) : ℕ → List Char → List Char → List Found
  | _, _, [] => []
  | n + 1, before, c :: s => r.findAll n (c :: before) s
  | 0, before, c :: s =>
      match (r.results before (c :: s)).head? with
      | some m => m :: r.findAll (m.text.length - 1) (c :: before) s
      | none => r.findAll 0 (c :: before) s

/-- **A pattern matches the text between two others.** -/
inductive Matches : Regex → List Char → List Char → List Char → List (List Char) → Prop
  | check {p : List Char → List Char → Bool} {before rest : List Char} :
      p before rest = true → Matches (.check p) before [] rest []
  | one {p : Char → Bool} {before rest : List Char} {c : Char} :
      p c = true → Matches (.one p) before [c] rest []
  | many {p : Char → Bool} {before text rest : List Char} :
      (∀ c ∈ text, p c = true) → Matches (.many p) before text rest []
  | both {first second : Regex} {before text text' rest : List Char}
      {groups groups' : List (List Char)} :
      Matches first before text (text' ++ rest) groups →
        Matches second (text.reverse ++ before) text' rest groups' →
          Matches (.both first second) before (text ++ text') rest (groups ++ groups')
  | left {first second : Regex} {before text rest : List Char} {groups : List (List Char)} :
      Matches first before text rest groups →
        Matches (.either first second) before text rest groups
  | right {first second : Regex} {before text rest : List Char} {groups : List (List Char)} :
      Matches second before text rest groups →
        Matches (.either first second) before text rest groups
  | group {r : Regex} {before text rest : List Char} {groups : List (List Char)} :
      Matches r before text rest groups → Matches (.group r) before text rest (text :: groups)

theorem mem_runs_iff {p : Char → Bool} {s : List Char} {m : Found} :
    m ∈ runs p s ↔ m.groups = [] ∧ s = m.text ++ m.rest ∧ ∀ c ∈ m.text, p c = true := by
  induction s generalizing m with
  | nil =>
      obtain ⟨text, rest, groups⟩ := m
      simp only [runs, List.mem_singleton, Found.mk.injEq]
      constructor
      · rintro ⟨rfl, rfl, rfl⟩
        simp
      · rintro ⟨rfl, hnil, -⟩
        obtain ⟨rfl, rfl⟩ := List.append_eq_nil_iff.1 hnil.symm
        exact ⟨rfl, rfl, rfl⟩
  | cons a s ih =>
      obtain ⟨text, rest, groups⟩ := m
      have hempty : (⟨text, rest, groups⟩ : Found) = ⟨[], a :: s, []⟩ ↔
          text = [] ∧ groups = [] ∧ a :: s = text ++ rest := by
        rw [Found.mk.injEq]
        constructor
        · rintro ⟨rfl, rfl, rfl⟩
          exact ⟨rfl, rfl, rfl⟩
        · rintro ⟨rfl, rfl, h⟩
          exact ⟨rfl, h.symm, rfl⟩
      rw [runs]
      split
      · next ha =>
          rw [List.mem_append, List.mem_singleton, hempty, List.mem_map]
          constructor
          · rintro (⟨m', hm', heq⟩ | ⟨rfl, rfl, h⟩)
            · obtain ⟨hgroups, hs, hall⟩ := ih.1 hm'
              cases heq
              refine ⟨hgroups, by rw [hs, List.cons_append], fun c hc => ?_⟩
              obtain rfl | hc := List.mem_cons.1 hc
              · exact ha
              · exact hall c hc
            · exact ⟨rfl, h, by simp⟩
          · rintro ⟨rfl, hs, hall⟩
            cases text with
            | nil => exact .inr ⟨rfl, rfl, hs⟩
            | cons b text =>
                rw [List.cons_append, List.cons.injEq] at hs
                obtain ⟨rfl, hs⟩ := hs
                exact .inl ⟨⟨text, rest, []⟩,
                  ih.2 ⟨rfl, hs, fun c hc => hall c (List.mem_cons_of_mem _ hc)⟩, rfl⟩
      · next ha =>
          rw [List.mem_singleton, hempty]
          constructor
          · rintro ⟨rfl, rfl, h⟩
            exact ⟨rfl, h, by simp⟩
          · rintro ⟨rfl, hs, hall⟩
            cases text with
            | nil => exact ⟨rfl, rfl, hs⟩
            | cons b text =>
                rw [List.cons_append, List.cons.injEq] at hs
                obtain ⟨rfl, -⟩ := hs
                exact absurd (hall a List.mem_cons_self) ha

/-- **What is listed is what matches.** -/
theorem mem_results_iff {r : Regex} {before after : List Char} {m : Found} :
    m ∈ r.results before after ↔
      after = m.text ++ m.rest ∧ r.Matches before m.text m.rest m.groups := by
  induction r generalizing before after m with
  | check p =>
      rw [results]
      constructor
      · intro h
        split at h
        · next hp =>
            obtain rfl := List.mem_singleton.1 h
            exact ⟨rfl, .check hp⟩
        · cases h
      · rintro ⟨rfl, hm⟩
        obtain ⟨text, rest, groups⟩ := m
        cases hm with
        | check hp => simp [hp]
  | one p =>
      constructor
      · intro h
        cases after with
        | nil => cases h
        | cons c s =>
            rw [results] at h
            split at h
            · next hp =>
                obtain rfl := List.mem_singleton.1 h
                exact ⟨rfl, .one hp⟩
            · cases h
      · rintro ⟨rfl, hm⟩
        obtain ⟨text, rest, groups⟩ := m
        cases hm with
        | one hp => simp [results, hp]
  | many p =>
      rw [results, mem_runs_iff]
      obtain ⟨text, rest, groups⟩ := m
      constructor
      · rintro ⟨rfl, hs, hall⟩
        exact ⟨hs, .many hall⟩
      · rintro ⟨hs, hm⟩
        cases hm with
        | many hall => exact ⟨rfl, hs, hall⟩
  | both first second ih ih' =>
      simp only [results, List.mem_flatMap, List.mem_map]
      constructor
      · rintro ⟨m₁, hm₁, m₂, hm₂, rfl⟩
        obtain ⟨rfl, h₁⟩ := ih.1 hm₁
        obtain ⟨hrest, h₂⟩ := ih'.1 hm₂
        rw [hrest] at h₁ ⊢
        exact ⟨by simp only [Found.andThen, List.append_assoc], .both h₁ h₂⟩
      · rintro ⟨rfl, hm⟩
        obtain ⟨text, rest, groups⟩ := m
        cases hm with
        | @both _ _ _ text text' _ groups groups' h₁ h₂ =>
            exact ⟨⟨text, text' ++ rest, groups⟩, ih.2 ⟨by simp, h₁⟩, ⟨text', rest, groups'⟩,
              ih'.2 ⟨rfl, h₂⟩, rfl⟩
  | either first second ih ih' =>
      rw [results, List.mem_append, ih, ih']
      constructor
      · rintro (⟨rfl, h⟩ | ⟨rfl, h⟩)
        · exact ⟨rfl, .left h⟩
        · exact ⟨rfl, .right h⟩
      · rintro ⟨rfl, hm⟩
        cases hm with
        | left h => exact .inl ⟨rfl, h⟩
        | right h => exact .inr ⟨rfl, h⟩
  | group r ih =>
      rw [results, List.mem_map]
      constructor
      · rintro ⟨m', hm', rfl⟩
        obtain ⟨rfl, h⟩ := ih.1 hm'
        exact ⟨rfl, .group h⟩
      · rintro ⟨rfl, hm⟩
        obtain ⟨text, rest, groups⟩ := m
        have hgroup : Matches (.group r) before text rest groups := hm
        cases hgroup with
        | @group _ _ _ _ groups h => exact ⟨⟨text, rest, groups⟩, ih.2 ⟨rfl, h⟩, rfl⟩

/-! ### Patterns put together -/

/-- Patterns one after the other. -/
def sequence : List Regex → Regex
  | [] => .check fun _ _ => true
  | r :: rs => .both r (sequence rs)

/-- The characters of a word, each up to a relation. -/
def word (eq : Char → Char → Bool) (w : List Char) : Regex := sequence (w.map fun c => .one (eq c))

section Inversion

variable {before text rest : List Char} {groups : List (List Char)}

@[simp] theorem matches_check_iff {p : List Char → List Char → Bool} :
    (check p).Matches before text rest groups ↔ text = [] ∧ groups = [] ∧ p before rest = true := by
  constructor
  · rintro ⟨⟩
    exact ⟨rfl, rfl, by assumption⟩
  · rintro ⟨rfl, rfl, hp⟩
    exact .check hp

@[simp] theorem matches_one_iff {p : Char → Bool} :
    (one p).Matches before text rest groups ↔ groups = [] ∧ ∃ c, text = [c] ∧ p c = true := by
  constructor
  · rintro ⟨⟩
    exact ⟨rfl, _, rfl, by assumption⟩
  · rintro ⟨rfl, c, rfl, hp⟩
    exact .one hp

@[simp] theorem matches_many_iff {p : Char → Bool} :
    (many p).Matches before text rest groups ↔ groups = [] ∧ ∀ c ∈ text, p c = true := by
  constructor
  · rintro ⟨⟩
    exact ⟨rfl, by assumption⟩
  · rintro ⟨rfl, hall⟩
    exact .many hall

@[simp] theorem matches_either_iff {first second : Regex} :
    (either first second).Matches before text rest groups ↔
      first.Matches before text rest groups ∨ second.Matches before text rest groups := by
  constructor
  · intro h
    cases h with
    | left h => exact .inl h
    | right h => exact .inr h
  · rintro (h | h)
    · exact .left h
    · exact .right h

theorem matches_group_iff {r : Regex} : (group r).Matches before text rest groups ↔
    ∃ groups', groups = text :: groups' ∧ r.Matches before text rest groups' := by
  constructor
  · rintro ⟨⟩
    exact ⟨_, rfl, by assumption⟩
  · rintro ⟨groups', rfl, h⟩
    exact .group h

theorem matches_both_iff {first second : Regex} :
    (both first second).Matches before text rest groups ↔
      ∃ t t' g g', text = t ++ t' ∧ groups = g ++ g' ∧ first.Matches before t (t' ++ rest) g ∧
        second.Matches (t.reverse ++ before) t' rest g' := by
  constructor
  · intro h
    cases h with
    | both h h' => exact ⟨_, _, _, _, rfl, rfl, h, h'⟩
  · rintro ⟨t, t', g, g', rfl, rfl, h, h'⟩
    exact .both h h'

/-- **A word matches the texts that agree with it in each character.** -/
theorem matches_word_iff {eq : Char → Char → Bool} {w : List Char} :
    (word eq w).Matches before text rest groups ↔
      groups = [] ∧ List.Forall₂ (fun c d => eq c d = true) w text := by
  induction w generalizing before text groups with
  | nil =>
      rw [word, List.map_nil, sequence, matches_check_iff, List.forall₂_nil_left_iff]
      tauto
  | cons c w ih =>
      rw [word, List.map_cons, sequence, matches_both_iff]
      constructor
      · rintro ⟨t, t', g, g', rfl, rfl, hone, hrest⟩
        obtain ⟨rfl, d, rfl, hd⟩ := matches_one_iff.1 hone
        obtain ⟨rfl, hall⟩ := ih.1 hrest
        exact ⟨rfl, .cons hd hall⟩
      · rintro ⟨rfl, hall⟩
        cases hall with
        | @cons _ d _ t' hd hall =>
            exact ⟨[d], t', [], [], rfl, rfl, matches_one_iff.2 ⟨rfl, d, rfl, hd⟩, ih.2 ⟨rfl, hall⟩⟩

theorem matches_check_both_iff {p : List Char → List Char → Bool} {r : Regex} :
    (both (check p) r).Matches before text rest groups ↔
      p before (text ++ rest) = true ∧ r.Matches before text rest groups := by
  rw [matches_both_iff]
  constructor
  · rintro ⟨t, t', g, g', rfl, rfl, h, h'⟩
    obtain ⟨rfl, rfl, hp⟩ := matches_check_iff.1 h
    exact ⟨hp, h'⟩
  · rintro ⟨hp, h⟩
    exact ⟨[], text, [], groups, rfl, rfl, matches_check_iff.2 ⟨rfl, rfl, hp⟩, h⟩

theorem matches_many_both_iff {p : Char → Bool} {r : Regex} :
    (both (many p) r).Matches before text rest groups ↔
      ∃ run t, text = run ++ t ∧ (∀ c ∈ run, p c = true) ∧
        r.Matches (run.reverse ++ before) t rest groups := by
  rw [matches_both_iff]
  constructor
  · rintro ⟨t, t', g, g', rfl, rfl, h, h'⟩
    obtain ⟨rfl, hall⟩ := matches_many_iff.1 h
    exact ⟨t, t', rfl, hall, h'⟩
  · rintro ⟨run, t, rfl, hall, h⟩
    exact ⟨run, t, [], groups, rfl, rfl, matches_many_iff.2 ⟨rfl, hall⟩, h⟩

theorem matches_word_both_iff {eq : Char → Char → Bool} {w : List Char} {r : Regex} :
    (both (word eq w) r).Matches before text rest groups ↔
      ∃ name t, text = name ++ t ∧ List.Forall₂ (fun c d => eq c d = true) w name ∧
        r.Matches (name.reverse ++ before) t rest groups := by
  rw [matches_both_iff]
  constructor
  · rintro ⟨t, t', g, g', rfl, rfl, h, h'⟩
    obtain ⟨rfl, hall⟩ := matches_word_iff.1 h
    exact ⟨t, t', rfl, hall, h'⟩
  · rintro ⟨name, t, rfl, hall, h⟩
    exact ⟨name, t, [], groups, rfl, rfl, matches_word_iff.2 ⟨rfl, hall⟩, h⟩

end Inversion

/-! ### Searching -/

/-- The pattern matches somewhere after the text that is skipped. -/
def MatchesAfter (r : Regex) (before skipped after : List Char) : Prop :=
  ∃ text rest groups, after = text ++ rest ∧ r.Matches (skipped.reverse ++ before) text rest groups

theorem results_eq_nil_iff {r : Regex} {before after : List Char} :
    r.results before after = [] ↔ ¬r.MatchesAfter before [] after := by
  rw [List.eq_nil_iff_forall_not_mem]
  constructor
  · rintro h ⟨text, rest, groups, hafter, hm⟩
    exact h ⟨text, rest, groups⟩ (mem_results_iff.2 ⟨hafter, hm⟩)
  · intro h m hm
    obtain ⟨hafter, hmatch⟩ := mem_results_iff.1 hm
    exact h ⟨m.text, m.rest, m.groups, hafter, hmatch⟩

/-- **Nothing is found exactly when nothing matches.** -/
theorem find_eq_none_iff {r : Regex} {before s : List Char} : r.find before s = none ↔
    ∀ skipped after, s = skipped ++ after → ¬r.MatchesAfter before skipped after := by
  induction s generalizing before with
  | nil =>
      rw [find, Option.map_eq_none_iff, List.head?_eq_none_iff, results_eq_nil_iff]
      constructor
      · intro h skipped after hs
        obtain ⟨rfl, rfl⟩ := List.append_eq_nil_iff.1 hs.symm
        exact h
      · intro h
        exact h [] [] rfl
  | cons c s ih =>
      rw [find]
      cases hhead : (r.results before (c :: s)).head? with
      | some m =>
          simp only [reduceCtorEq, false_iff, not_forall, not_not]
          have hne : r.results before (c :: s) ≠ [] := by
            intro hnil
            rw [hnil] at hhead
            cases hhead
          rw [ne_eq, results_eq_nil_iff, not_not] at hne
          exact ⟨[], c :: s, rfl, hne⟩
      | none =>
          rw [Option.map_eq_none_iff, ih]
          have hnil := results_eq_nil_iff.1 (List.head?_eq_none_iff.1 hhead)
          constructor
          · intro h skipped after hs
            cases skipped with
            | nil =>
                rw [List.nil_append] at hs
                rw [← hs]
                exact hnil
            | cons d skipped =>
                rw [List.cons_append, List.cons.injEq] at hs
                obtain ⟨rfl, hs⟩ := hs
                have hlater := h skipped after hs
                simpa [MatchesAfter] using hlater
          · intro h skipped after hs
            have hlater := h (c :: skipped) after (by rw [hs, List.cons_append])
            simpa [MatchesAfter] using hlater

/-- **What is found matches, and nothing matches further left.** -/
theorem leftmost_of_find {r : Regex} {before s skipped : List Char} {m : Found}
    (h : r.find before s = some (skipped, m)) :
    s = skipped ++ (m.text ++ m.rest) ∧
      r.Matches (skipped.reverse ++ before) m.text m.rest m.groups ∧
        ∀ skipped' after, s = skipped' ++ after → r.MatchesAfter before skipped' after →
          skipped.length ≤ skipped'.length := by
  induction s generalizing before skipped with
  | nil =>
      rw [find, Option.map_eq_some_iff] at h
      obtain ⟨m', hm', heq⟩ := h
      cases heq
      obtain ⟨hafter, hmatch⟩ := mem_results_iff.1 (List.mem_of_head? hm')
      exact ⟨hafter, hmatch, fun _ _ _ _ => Nat.zero_le _⟩
  | cons c s ih =>
      rw [find] at h
      cases hhead : (r.results before (c :: s)).head? with
      | some m' =>
          rw [hhead] at h
          cases h
          obtain ⟨hafter, hmatch⟩ := mem_results_iff.1 (List.mem_of_head? hhead)
          exact ⟨hafter, hmatch, fun _ _ _ _ => Nat.zero_le _⟩
      | none =>
          rw [hhead] at h
          obtain ⟨⟨skipped₁, m₁⟩, hfound, heq⟩ := Option.map_eq_some_iff.1 h
          cases heq
          obtain ⟨hs, hmatch, hleft⟩ := ih hfound
          refine ⟨by rw [hs, List.cons_append], by simpa using hmatch, ?_⟩
          intro skipped' after hs' hafter
          cases skipped' with
          | nil =>
              rw [List.nil_append] at hs'
              rw [← hs'] at hafter
              exact absurd hafter (results_eq_nil_iff.1 (List.head?_eq_none_iff.1 hhead))
          | cons d skipped' =>
              rw [List.cons_append, List.cons.injEq] at hs'
              obtain ⟨rfl, hs'⟩ := hs'
              have hlater := hleft skipped' after hs' (by simpa [MatchesAfter] using hafter)
              exact Nat.succ_le_succ hlater

/-! ### Searching for all matches -/

section FindAll

variable {r : Regex} {before : List Char}

/-- The characters of the match before are skipped. -/
theorem findAll_length (text rest : List Char) :
    r.findAll text.length before (text ++ rest) = r.findAll 0 (text.reverse ++ before) rest := by
  induction text generalizing before with
  | nil => rfl
  | cons c text ih =>
      rw [List.length_cons, List.cons_append, findAll, ih, List.reverse_cons, List.append_assoc,
        List.singleton_append]

/-- **A text in which no match begins adds nothing.** -/
theorem findAll_append {text rest : List Char}
    (h : ∀ skipped c after, text = skipped ++ c :: after →
      ¬r.MatchesAfter before skipped (c :: after ++ rest)) :
    r.findAll 0 before (text ++ rest) = r.findAll 0 (text.reverse ++ before) rest := by
  induction text generalizing before with
  | nil => rfl
  | cons c text ih =>
      have hnil : r.results before (c :: (text ++ rest)) = [] :=
        results_eq_nil_iff.2 (h [] c text rfl)
      rw [List.cons_append, findAll, hnil, List.head?_nil, List.reverse_cons, List.append_assoc,
        List.singleton_append]
      refine ih fun skipped d after htext => ?_
      have hlater := h (c :: skipped) d after (by rw [htext, List.cons_append])
      simpa [MatchesAfter] using hlater

/-- **A text that matches, and is all that matches there, adds itself.** -/
theorem findAll_append_of_unique {text rest : List Char} {groups : List (List Char)}
    (h : r.Matches before text rest groups) (hne : text ≠ [])
    (hunique : ∀ m ∈ r.results before (text ++ rest), m = ⟨text, rest, groups⟩) :
    r.findAll 0 before (text ++ rest) =
      ⟨text, rest, groups⟩ :: r.findAll 0 (text.reverse ++ before) rest := by
  have hmem : ⟨text, rest, groups⟩ ∈ r.results before (text ++ rest) := mem_results_iff.2 ⟨rfl, h⟩
  have hhead : (r.results before (text ++ rest)).head? = some ⟨text, rest, groups⟩ := by
    cases hresults : r.results before (text ++ rest) with
    | nil =>
        rw [hresults] at hmem
        cases hmem
    | cons m results =>
        rw [List.head?_cons, hunique m (by rw [hresults]; exact List.mem_cons_self)]
  obtain ⟨c, text, rfl⟩ := List.exists_cons_of_ne_nil hne
  rw [List.cons_append] at hhead ⊢
  rw [findAll, hhead]
  simp only [List.length_cons, Nat.add_sub_cancel]
  rw [findAll_length, List.reverse_cons, List.append_assoc, List.singleton_append]

end FindAll

end Regex
