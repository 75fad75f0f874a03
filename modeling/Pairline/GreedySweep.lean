/-
**Greedy pairing by one pass over a list.**

A sweep takes the first element of a pool, picks a partner for it among the later ones and goes on
with what the pick leaves of the pool.  A pick that leaves only what comes *after* the partner
drops the elements it passed on the way, and the sweep never looks at them again.

Main definitions:

* `GreedySweep.Picker` — a pick finds a partner in the list whenever there is a compatible one, and
  leaves what comes after it;
* `GreedySweep.Sweep` — the pairs a sweep makes, as a relation;
* `GreedySweep.Taken` — an element is one of a pair the sweep makes;
* `GreedySweep.Safe` — the elements passed at a pick are incompatible with each other and with
  every later element that is not taken.

Main results:

* `GreedySweep.maximal_iff_safe` — **a sweep leaves no two compatible elements exactly when it is
  safe.**
-/

import Mathlib.Data.List.Nodup
import Mathlib.Data.List.Pairwise

set_option relaxedAutoImplicit false
set_option autoImplicit false

namespace GreedySweep

variable {α : Type*}

/-! ### Sweeps -/

/-- A choice of a partner, with what is left of the list. -/
abbrev Pick (α : Type*) := α → List α → Option (α × List α)

/-- The choices that find a partner whenever there is one, and leave what comes after it. -/
structure Picker (compat : α → α → Bool) (pick : Pick α) : Prop where
  leaves : ∀ {c p : α} {l r : List α}, pick c l = some (p, r) → ∃ s, l = s ++ p :: r
  finds : ∀ {c : α} {l : List α}, pick c l = none → ∀ p ∈ l, compat c p = false

/-- **The pairs a sweep makes.** -/
inductive Sweep (pick : Pick α) : List α → List (α × α) → Prop
  | nil : Sweep pick [] []
  | alone {c : α} {l : List α} {pairs : List (α × α)} :
      pick c l = none → Sweep pick l pairs → Sweep pick (c :: l) pairs
  | pair {c p : α} {l r : List α} {pairs : List (α × α)} :
      pick c l = some (p, r) → Sweep pick r pairs → Sweep pick (c :: l) ((c, p) :: pairs)

/-- **The element is one of a pair the sweep makes.** -/
inductive Taken (pick : Pick α) : α → List α → Prop
  | alone {a c : α} {l : List α} : pick c l = none → Taken pick a l → Taken pick a (c :: l)
  | first {c p : α} {l r : List α} : pick c l = some (p, r) → Taken pick c (c :: l)
  | partner {c p : α} {l r : List α} : pick c l = some (p, r) → Taken pick p (c :: l)
  | later {a c p : α} {l r : List α} :
      pick c l = some (p, r) → Taken pick a r → Taken pick a (c :: l)

/-- **The elements passed at a pick are incompatible with each other and with every later element
that is not taken.** -/
inductive Safe (compat : α → α → Bool) (pick : Pick α) : List α → Prop
  | nil : Safe compat pick []
  | alone {c : α} {l : List α} : pick c l = none → Safe compat pick l → Safe compat pick (c :: l)
  | pair {c p : α} {l s r : List α} :
      pick c l = some (p, r) → l = s ++ p :: r →
      s.Pairwise (fun a b => compat a b = false) →
      (∀ a ∈ s, ∀ b ∈ r, compat a b = true → Taken pick b r) →
      Safe compat pick r → Safe compat pick (c :: l)

variable {compat : α → α → Bool} {pick : Pick α}

theorem taken_alone_iff {a c : α} {l : List α} (h : pick c l = none) :
    Taken pick a (c :: l) ↔ Taken pick a l := by
  constructor
  · intro ht
    cases ht with
    | alone _ ht => exact ht
    | first hp => simp [h] at hp
    | partner hp => simp [h] at hp
    | later hp _ => simp [h] at hp
  · exact Taken.alone h

theorem taken_pair_iff {a c p : α} {l r : List α} (h : pick c l = some (p, r)) :
    Taken pick a (c :: l) ↔ a = c ∨ a = p ∨ Taken pick a r := by
  constructor
  · intro ht
    cases ht with
    | alone hp _ => simp [h] at hp
    | first hp => exact .inl rfl
    | partner hp =>
        rw [h, Option.some_inj, Prod.mk.injEq] at hp
        exact .inr (.inl hp.1.symm)
    | later hp ht =>
        rw [h, Option.some_inj, Prod.mk.injEq] at hp
        exact .inr (.inr (hp.2 ▸ ht))
  · rintro (rfl | rfl | ht)
    · exact .first h
    · exact .partner h
    · exact .later h ht

/-- The taken elements are the elements of the pairs. -/
theorem taken_iff {pool : List α} {pairs : List (α × α)} (h : Sweep pick pool pairs) (a : α) :
    Taken pick a pool ↔ ∃ pair ∈ pairs, pair.1 = a ∨ pair.2 = a := by
  induction h with
  | nil =>
      constructor
      · intro ht
        cases ht
      · rintro ⟨_, hmem, _⟩
        cases hmem
  | alone hp _ ih => rw [taken_alone_iff hp, ih]
  | @pair c p l r pairs hp _ ih =>
      rw [taken_pair_iff hp, ih]
      constructor
      · rintro (rfl | rfl | ⟨pair, hmem, heq⟩)
        · exact ⟨(a, p), List.mem_cons_self, .inl rfl⟩
        · exact ⟨(c, a), List.mem_cons_self, .inr rfl⟩
        · exact ⟨pair, List.mem_cons_of_mem _ hmem, heq⟩
      · rintro ⟨pair, hmem, heq⟩
        rcases List.mem_cons.1 hmem with rfl | hmem
        · rcases heq with rfl | rfl
          · exact .inl rfl
          · exact .inr (.inl rfl)
        · exact .inr (.inr ⟨pair, hmem, heq⟩)

theorem mem_of_taken (hpicker : Picker compat pick) {a : α} {pool : List α}
    (h : Taken pick a pool) : a ∈ pool := by
  induction h with
  | alone _ _ ih => exact List.mem_cons_of_mem _ ih
  | first _ => exact List.mem_cons_self
  | partner hp =>
      obtain ⟨s, rfl⟩ := hpicker.leaves hp
      simp
  | later hp _ ih =>
      obtain ⟨s, rfl⟩ := hpicker.leaves hp
      simp [ih]

/-! ### Maximality -/

/-- No two elements that the sweep leaves are compatible. -/
def Maximal (compat : α → α → Bool) (pick : Pick α) (pool : List α) : Prop :=
  ∀ a ∈ pool, ∀ b ∈ pool, a ≠ b → ¬ Taken pick a pool → ¬ Taken pick b pool → compat a b = false

/-- An element without a partner is incompatible with all the later ones. -/
theorem maximal_alone_iff (hpicker : Picker compat pick) (hsymm : ∀ a b, compat a b = compat b a)
    {c : α} {l : List α} (hnodup : (c :: l).Nodup) (h : pick c l = none) :
    Maximal compat pick (c :: l) ↔ Maximal compat pick l := by
  have hc := hpicker.finds h
  constructor
  · intro hmax a ha b hb hab hna hnb
    exact hmax a (List.mem_cons_of_mem _ ha) b (List.mem_cons_of_mem _ hb) hab
      (fun ht => hna ((taken_alone_iff h).1 ht)) (fun ht => hnb ((taken_alone_iff h).1 ht))
  · intro hmax a ha b hb hab hna hnb
    rcases List.mem_cons.1 ha with rfl | hal
    · rcases List.mem_cons.1 hb with rfl | hbl
      · exact absurd rfl hab
      · exact hc b hbl
    · rcases List.mem_cons.1 hb with rfl | hbl
      · rw [hsymm]
        exact hc a hal
      · exact hmax a hal b hbl hab (fun ht => hna ((taken_alone_iff h).2 ht))
          (fun ht => hnb ((taken_alone_iff h).2 ht))

/-- After a pick, what is left is what was passed and what the rest of the sweep leaves. -/
theorem maximal_pair_iff (hpicker : Picker compat pick) (hsymm : ∀ a b, compat a b = compat b a)
    {c p : α} {s r : List α} (hnodup : (c :: (s ++ p :: r)).Nodup)
    (h : pick c (s ++ p :: r) = some (p, r)) :
    Maximal compat pick (c :: (s ++ p :: r)) ↔
      s.Pairwise (fun a b => compat a b = false) ∧
      (∀ a ∈ s, ∀ b ∈ r, compat a b = true → Taken pick b r) ∧ Maximal compat pick r := by
  obtain ⟨hcnot, hl⟩ := List.nodup_cons.1 hnodup
  obtain ⟨hs, hpr, hdisjoint⟩ := List.nodup_append.1 hl
  obtain ⟨hpnot, hr⟩ := List.nodup_cons.1 hpr
  have htaken : ∀ {a}, a ≠ c → a ≠ p → (Taken pick a (c :: (s ++ p :: r)) ↔ Taken pick a r) := by
    intro a hac hap
    rw [taken_pair_iff h]
    constructor
    · rintro (hk | hk | hk)
      · exact absurd hk hac
      · exact absurd hk hap
      · exact hk
    · exact fun hk => .inr (.inr hk)
  -- what was passed is not taken, and what comes later is taken by the rest of the sweep only
  have hpassed : ∀ a ∈ s, a ≠ c ∧ a ≠ p ∧ ¬ Taken pick a r := by
    intro a ha
    refine ⟨?_, hdisjoint a ha p List.mem_cons_self, fun ht => ?_⟩
    · rintro rfl
      exact hcnot (List.mem_append_left _ ha)
    · exact hdisjoint a ha a (List.mem_cons_of_mem _ (mem_of_taken hpicker ht)) rfl
  have hlater : ∀ b ∈ r, b ≠ c ∧ b ≠ p := by
    intro b hb
    refine ⟨?_, ?_⟩
    · rintro rfl
      exact hcnot (List.mem_append_right _ (List.mem_cons_of_mem _ hb))
    · rintro rfl
      exact hpnot hb
  constructor
  · intro hmax
    refine ⟨?_, ?_, ?_⟩
    · refine hs.imp_of_mem fun {a} {b} ha hb hab => ?_
      obtain ⟨hac, hap, hat⟩ := hpassed a ha
      obtain ⟨hbc, hbp, hbt⟩ := hpassed b hb
      exact hmax a (by simp [ha]) b (by simp [hb]) hab (fun ht => hat ((htaken hac hap).1 ht))
        (fun ht => hbt ((htaken hbc hbp).1 ht))
    · intro a ha b hb hab
      obtain ⟨hac, hap, hat⟩ := hpassed a ha
      obtain ⟨hbc, hbp⟩ := hlater b hb
      by_contra hbt
      have hne : a ≠ b := hdisjoint a ha b (List.mem_cons_of_mem _ hb)
      have hfalse := hmax a (by simp [ha]) b (by simp [hb]) hne
        (fun ht => hat ((htaken hac hap).1 ht)) (fun ht => hbt ((htaken hbc hbp).1 ht))
      simp [hab] at hfalse
    · intro a ha b hb hab hat hbt
      obtain ⟨hac, hap⟩ := hlater a ha
      obtain ⟨hbc, hbp⟩ := hlater b hb
      exact hmax a (by simp [ha]) b (by simp [hb]) hab (fun ht => hat ((htaken hac hap).1 ht))
        (fun ht => hbt ((htaken hbc hbp).1 ht))
  · rintro ⟨hpairwise, hcross, hmax⟩ a ha b hb hab hat hbt
    have hcases : ∀ {x}, x ∈ c :: (s ++ p :: r) → ¬ Taken pick x (c :: (s ++ p :: r)) →
        x ∈ s ∨ (x ∈ r ∧ ¬ Taken pick x r) := by
      intro x hx hxt
      rw [taken_pair_iff h, not_or, not_or] at hxt
      obtain ⟨hxc, hxp, hxr⟩ := hxt
      rcases List.mem_cons.1 hx with hk | hx
      · exact absurd hk hxc
      · rcases List.mem_append.1 hx with hx | hx
        · exact .inl hx
        · rcases List.mem_cons.1 hx with hk | hx
          · exact absurd hk hxp
          · exact .inr ⟨hx, hxr⟩
    have hmixed : ∀ {x y}, x ∈ s → y ∈ r → ¬ Taken pick y r → compat x y = false := by
      intro x y hx hy hyt
      by_contra hxy
      exact hyt (hcross x hx y hy (by simpa using hxy))
    rcases hcases ha hat with ha | ⟨ha, har⟩
    · rcases hcases hb hbt with hb | ⟨hb, hbr⟩
      · have : Std.Symm fun a b => compat a b = false := ⟨fun a b hab => by rw [hsymm]; exact hab⟩
        exact hpairwise.forall ha hb hab
      · exact hmixed ha hb hbr
    · rcases hcases hb hbt with hb | ⟨hb, hbr⟩
      · rw [hsymm]
        exact hmixed hb ha har
      · exact hmax a ha b hb hab har hbr

/-- **A sweep leaves no two compatible elements exactly when it is safe.** -/
theorem maximal_iff_safe (hpicker : Picker compat pick) (hsymm : ∀ a b, compat a b = compat b a)
    {pool : List α} {pairs : List (α × α)} (h : Sweep pick pool pairs) (hnodup : pool.Nodup) :
    Maximal compat pick pool ↔ Safe compat pick pool := by
  induction h with
  | nil => exact ⟨fun _ => .nil, fun _ _ ha => absurd ha List.not_mem_nil⟩
  | alone hp _ ih =>
      rw [maximal_alone_iff hpicker hsymm hnodup hp, ih (List.nodup_cons.1 hnodup).2]
      constructor
      · exact Safe.alone hp
      · intro hsafe
        cases hsafe with
        | alone _ hsafe => exact hsafe
        | pair hp' _ _ _ _ => simp [hp] at hp'
  | @pair c p l r pairs hp _ ih =>
      obtain ⟨s, rfl⟩ := hpicker.leaves hp
      have hr : r.Nodup :=
        (List.nodup_cons.1 (List.nodup_append.1 (List.nodup_cons.1 hnodup).2).2.1).2
      rw [maximal_pair_iff hpicker hsymm hnodup hp, ih hr]
      constructor
      · rintro ⟨hpairwise, hcross, hsafe⟩
        exact .pair hp rfl hpairwise hcross hsafe
      · intro hsafe
        cases hsafe with
        | alone hp' _ => simp [hp] at hp'
        | @pair _ _ _ s' _ hp' hl hpairwise hcross hsafe =>
            rw [hp, Option.some_inj, Prod.mk.injEq] at hp'
            obtain ⟨rfl, rfl⟩ := hp'
            obtain rfl : s = s' := List.append_cancel_right hl
            exact ⟨hpairwise, hcross, hsafe⟩

end GreedySweep
