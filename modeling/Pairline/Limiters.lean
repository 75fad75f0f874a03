/-
**Limiters of a rate.**

A limiter sees events one after another, at times that do not decrease, and accepts each of them or
rejects it.  Three kinds: a bucket of tokens that is refilled at a constant rate; a counter that is
reset when a window after its start has passed; and a log of the accepted events, of which those
within a window before the present count.

Main definitions:

* `Limiters.History` — **the events so far, each with its outcome**, and the state of the limiter;
* `Limiters.count` — how many events of a kind were accepted;
* `Limiters.Bucket`, `Limiters.Window`, `Limiters.recent` — the three kinds.

Main results:

* `Limiters.History.exists_of_simulates` — limiters that do the same;
* `Limiters.Bucket.inv_of_history`, `Limiters.Bucket.exceeds_of_inv` — **a bucket accepts at most its
  capacity and what is refilled, and rejects only what would exceed that**;
* `Limiters.Window.acceptedOf_cons_le`, `Limiters.Window.inv_of_history` — **a counter accepts at most
  its limit between two resets, and at most twice the limit within the length of a window**;
* `Limiters.recent_recent` — what is dropped from a log early does not count later.
-/

import Mathlib.Algebra.Order.Field.Basic
import Mathlib.Algebra.Order.Group.Int
import Mathlib.Data.List.Basic
import Mathlib.Tactic.GCongr
import Mathlib.Tactic.Linarith
import Mathlib.Tactic.Ring

set_option relaxedAutoImplicit false
set_option autoImplicit false

namespace Limiters

variable {σ ε τ : Type*}

/-! ### Histories -/

section History

variable [LE τ] (time : ε → τ) (allow : σ → ε → σ × Bool)

/-- **The events so far, each with its outcome**: the state of the limiter, and the last time. -/
inductive History (start : τ) (s₀ : σ) : List (ε × Bool) → σ → τ → Prop
  | nil : History start s₀ [] s₀ start
  | snoc {h : List (ε × Bool)} {s : σ} {last : τ} (e : ε) : History start s₀ h s last →
      last ≤ time e → History start s₀ (h ++ [(e, (allow s e).2)]) (allow s e).1 (time e)

/-- How many events of a kind were accepted. -/
def count (h : List (ε × Bool)) (p : ε → Bool) : ℕ := h.countP fun e => e.2 && p e.1

@[simp] theorem count_nil (p : ε → Bool) : count ([] : List (ε × Bool)) p = 0 := rfl

@[simp] theorem count_rejected (h : List (ε × Bool)) (e : ε) (p : ε → Bool) :
    count (h ++ [(e, false)]) p = count h p := by
  simp [count, List.countP_append]

theorem count_accepted (h : List (ε × Bool)) (e : ε) (p : ε → Bool) :
    count (h ++ [(e, true)]) p = count h p + if p e then 1 else 0 := by
  simp [count, List.countP_append, List.countP_singleton]

/-- A kind that contains another has more events, as far as they occur. -/
theorem count_le_count {h : List (ε × Bool)} {p q : ε → Bool}
    (hpq : ∀ e ∈ h, p e.1 = true → q e.1 = true) : count h p ≤ count h q := by
  refine List.countP_mono_left fun e he => ?_
  simp only [Bool.and_eq_true]
  exact fun hp => ⟨hp.1, hpq e he hp.2⟩

theorem count_congr {h : List (ε × Bool)} {p q : ε → Bool} (hpq : ∀ e ∈ h, p e.1 = q e.1) :
    count h p = count h q :=
  Nat.le_antisymm (count_le_count fun e he hp => hpq e he ▸ hp)
    (count_le_count fun e he hq => (hpq e he).symm ▸ hq)

theorem count_eq_zero {h : List (ε × Bool)} {p : ε → Bool} (hp : ∀ e ∈ h, p e.1 = false) :
    count h p = 0 := by
  rw [count, List.countP_eq_zero]
  intro e he
  simp [hp e he]

/-- What is accepted of two kinds together. -/
theorem count_le_add {h : List (ε × Bool)} {p q r : ε → Bool}
    (hpqr : ∀ e ∈ h, p e.1 = true → q e.1 = true ∨ r e.1 = true) :
    count h p ≤ count h q + count h r := by
  induction h with
  | nil => exact Nat.zero_le _
  | cons e h ih =>
      have hrest := ih fun e' he' => hpqr e' (List.mem_cons_of_mem _ he')
      have hhead := hpqr e List.mem_cons_self
      simp only [count, List.countP_cons] at hrest ⊢
      cases he : e.2 <;> cases hp : p e.1 <;> cases hq : q e.1 <;> cases hr : r e.1 <;>
        simp_all <;> omega

end History

variable {time : ε → τ} {allow : σ → ε → σ × Bool} {start last : τ} {s s₀ : σ}
  {h : List (ε × Bool)}

/-- No event comes after the last time. -/
theorem History.le_last [Preorder τ] (hist : History time allow start s₀ h s last) :
    start ≤ last ∧ ∀ e ∈ h, time e.1 ≤ last := by
  induction hist with
  | nil => exact ⟨le_rfl, nofun⟩
  | snoc e _ hle ih =>
      refine ⟨ih.1.trans hle, fun e' he' => ?_⟩
      rcases List.mem_append.1 he' with he' | he'
      · exact (ih.2 e' he').trans hle
      · rw [List.mem_singleton.1 he']

/-- The last time is that of the last event. -/
theorem History.last_eq [LE τ] {e : ε} {outcome : Bool}
    (hist : History time allow start s₀ (h ++ [(e, outcome)]) s last) : last = time e := by
  generalize hh : h ++ [(e, outcome)] = h' at hist
  cases hist with
  | nil => exact absurd hh (by simp)
  | snoc e' _ _ =>
      obtain ⟨-, hlast⟩ := List.append_inj' hh rfl
      rw [List.cons_eq_cons, Prod.mk.injEq] at hlast
      rw [hlast.1.1]

/-- **A limiter that does what another does has its histories.** -/
theorem History.exists_of_simulates {σ' : Type*} [LE τ] {allow' : σ' → ε → σ' × Bool} {f : σ' → σ}
    (hsim : ∀ s e, allow (f s) e = (f (allow' s e).1, (allow' s e).2)) (s₀' : σ')
    (hist : History time allow start (f s₀') h s last) :
    ∃ s', s = f s' ∧ History time allow' start s₀' h s' last := by
  induction hist with
  | nil => exact ⟨s₀', rfl, .nil⟩
  | snoc e _ hle ih =>
      obtain ⟨s', rfl, hist'⟩ := ih
      rw [hsim]
      exact ⟨_, rfl, hist'.snoc e hle⟩

/-! ### Buckets of tokens -/

section Bucket

variable {K : Type*} [Field K] [LinearOrder K] [IsStrictOrderedRing K]

/-- A bucket, and when it was refilled last. -/
structure Bucket (K : Type*) where
  tokens : K
  lastRefill : K

namespace Bucket

variable (capacity rate : K)

/-- What is in a bucket after it has been refilled. -/
def refilled (b : Bucket K) (now : K) : K := min (b.tokens + (now - b.lastRefill) * rate) capacity

/-- **A token is taken, if there is one.** -/
def take (b : Bucket K) (now : K) : Bucket K × Bool :=
  let tokens := refilled capacity rate b now
  if tokens < 1 then (⟨tokens, now⟩, false) else (⟨tokens - 1, now⟩, true)

/-- The events between two times. -/
def between (s t : K) (now : K) : Bool := s ≤ now ∧ now ≤ t

/-- What a bucket knows of its history. -/
structure Inv (h : List (K × Bool)) (b : Bucket K) (last : K) : Prop where
  lastRefill : b.lastRefill = last
  tokens_le : b.tokens ≤ capacity
  /-- Whatever was accepted since a time has been refilled, or was there. -/
  spent : ∀ s ≤ last, (count h (between s last) : K) + b.tokens ≤ capacity + rate * (last - s)
  /-- The bucket has been full at some time, and was not full since. -/
  full : ∃ s ≤ last, capacity + rate * (last - s) ≤ count h (between s last) + b.tokens
  count_le : ∀ s t, s ≤ t → (count h (between s t) : K) ≤ capacity + rate * (t - s)

variable {capacity rate} {h : List (K × Bool)} {b b₀ : Bucket K} {start last : K}

omit [Field K] [IsStrictOrderedRing K] in
/-- Between a time and the present are the events since that time. -/
theorem count_between_of_le (hlast : ∀ e ∈ h, e.1 ≤ last) {s t : K} (ht : last ≤ t) :
    count h (between s t) = count h (between s last) := by
  refine count_congr fun e he => ?_
  have hle := hlast e he
  simp [between, hle, hle.trans ht]

omit [Field K] [IsStrictOrderedRing K] in
theorem between_self {s now : K} (h : s ≤ now) : between s now now = true := by
  simp [between, h]

section Step

variable (hlast : ∀ e ∈ h, e.1 ≤ last) (hinv : Inv capacity rate h b last) {now : K}
  (hnow : last ≤ now)

include hlast hinv hnow

/-- What the refilled bucket has, and what was accepted since a time. -/
theorem spent_refilled (hrate : 0 ≤ rate) {s : K} (hs : s ≤ now) :
    (count h (between s now) : K) + refilled capacity rate b now ≤ capacity + rate * (now - s) := by
  by_cases hsl : s ≤ last
  · have hspent := hinv.spent s hsl
    have hmin : refilled capacity rate b now ≤ b.tokens + (now - last) * rate := by
      rw [refilled, hinv.lastRefill]
      exact min_le_left _ _
    rw [count_between_of_le hlast hnow]
    linarith
  · -- nothing was accepted since
    have hzero : count h (between s now) = 0 := by
      refine count_eq_zero fun e he => ?_
      have hlt := (hlast e he).trans_lt (not_le.1 hsl)
      simp [between, hlt]
    have hmin : refilled capacity rate b now ≤ capacity := min_le_right _ _
    have hmul : 0 ≤ rate * (now - s) := mul_nonneg hrate (by linarith)
    rw [hzero, Nat.cast_zero]
    linarith

/-- The refilled bucket has been full at some time. -/
theorem full_refilled : ∃ s ≤ now,
    capacity + rate * (now - s) ≤ count h (between s now) + refilled capacity rate b now := by
  rcases le_total (b.tokens + (now - b.lastRefill) * rate) capacity with hle | hle
  · obtain ⟨s, hs, hfull⟩ := hinv.full
    refine ⟨s, hs.trans hnow, ?_⟩
    rw [refilled, min_eq_left hle, hinv.lastRefill, count_between_of_le hlast hnow]
    linarith
  · refine ⟨now, le_rfl, ?_⟩
    have hcount : (0 : K) ≤ count h (between now now) := Nat.cast_nonneg _
    rw [refilled, min_eq_right hle, sub_self]
    linarith

/-- **What is rejected would exceed the bound.** -/
theorem exceeds_of_inv (hrejected : (take capacity rate b now).2 = false) :
    ∃ s ≤ now, capacity + rate * (now - s) < count h (between s now) + 1 := by
  have hempty : refilled capacity rate b now < 1 := by
    by_contra hfull
    rw [take, if_neg hfull] at hrejected
    cases hrejected
  obtain ⟨s, hs, hfull⟩ := full_refilled hlast hinv hnow
  exact ⟨s, hs, by linarith⟩

theorem inv_take (hrate : 0 ≤ rate) : Inv capacity rate (h ++ [(now, (take capacity rate b now).2)])
    (take capacity rate b now).1 now := by
  have hspent {s : K} (hs : s ≤ now) := spent_refilled hlast hinv hnow hrate hs
  obtain ⟨s₀, hs₀, hfull⟩ := full_refilled hlast hinv hnow
  have hmin : refilled capacity rate b now ≤ capacity := min_le_right _ _
  by_cases hempty : refilled capacity rate b now < 1
  · have htake : take capacity rate b now = (⟨refilled capacity rate b now, now⟩, false) :=
      if_pos hempty
    rw [htake]
    exact ⟨rfl, hmin, fun s hs => by rw [count_rejected]; exact hspent hs,
      ⟨s₀, hs₀, by rw [count_rejected]; exact hfull⟩,
      fun s t hst => by rw [count_rejected]; exact hinv.count_le s t hst⟩
  · have htake : take capacity rate b now = (⟨refilled capacity rate b now - 1, now⟩, true) :=
      if_neg hempty
    have hcount {s : K} (hs : s ≤ now) :
        (count (h ++ [(now, true)]) (between s now) : K) = count h (between s now) + 1 := by
      rw [count_accepted, if_pos (between_self hs), Nat.cast_add, Nat.cast_one]
    rw [htake]
    refine ⟨rfl, by linarith, fun s hs => ?_, ⟨s₀, hs₀, ?_⟩, fun s t hst => ?_⟩
    · rw [hcount hs]
      linarith [hspent hs]
    · rw [hcount hs₀]
      linarith
    · by_cases hin : s ≤ now ∧ now ≤ t
      · -- the events up to the present, and this one
        obtain ⟨hs, ht⟩ := hin
        have hall : ∀ e ∈ h ++ [(now, true)], e.1 ≤ now := by
          intro e he
          rcases List.mem_append.1 he with he | he
          · exact (hlast e he).trans hnow
          · rw [List.mem_singleton.1 he]
        have hmul : rate * (now - s) ≤ rate * (t - s) :=
          mul_le_mul_of_nonneg_left (by linarith) hrate
        rw [count_between_of_le hall ht, hcount hs]
        linarith [hspent hs]
      · have hout : between s t now = false := decide_eq_false hin
        rw [count_accepted, hout]
        simpa using hinv.count_le s t hst

end Step

/-- **What a bucket knows, it knows at all times.** -/
theorem inv_of_history (hrate : 0 ≤ rate) (hcapacity : 0 ≤ capacity)
    (hist : History id (take capacity rate) start ⟨capacity, start⟩ h b last) :
    Inv capacity rate h b last := by
  induction hist with
  | nil =>
      refine ⟨rfl, le_rfl, fun s hs => ?_, ⟨start, le_rfl, ?_⟩, fun s t hst => ?_⟩
      · have hmul : 0 ≤ rate * (start - s) := mul_nonneg hrate (by linarith)
        simpa using hmul
      · simp
      · have hmul : 0 ≤ rate * (t - s) := mul_nonneg hrate (by linarith)
        rw [count_nil, Nat.cast_zero]
        linarith
  | snoc now hist hnow ih => exact inv_take hist.le_last.2 ih hnow hrate

end Bucket

end Bucket

/-! ### Counters with a window -/

section Window

variable [AddCommGroup τ] [LinearOrder τ] [IsOrderedAddMonoid τ]

/-- A counter, and when its window began. -/
structure Window (τ : Type*) where
  count : ℕ
  start : τ

namespace Window

variable (limit : ℕ) (length : τ)

/-- The window of a counter has passed. -/
def Passed (w : Window τ) (now : τ) : Prop := now - w.start > length

instance (w : Window τ) (now : τ) : Decidable (Passed length w now) := by
  unfold Passed
  infer_instance

/-- **An event is counted**, in a new window when the old one has passed. -/
def take (w : Window τ) (now : τ) : Window τ × Bool :=
  if Passed length w now then (⟨1, now⟩, true)
  else if w.count + 1 > limit then (w, false)
  else (⟨w.count + 1, w.start⟩, true)

/-- How many of some events are accepted. -/
def acceptedOf (w : Window τ) : List τ → ℕ
  | [] => 0
  | now :: nows => (if (take limit length w now).2 then 1 else 0) +
      acceptedOf (take limit length w now).1 nows

/-- None of some events starts a new window. -/
def Quiet (w : Window τ) : List τ → Prop
  | [] => True
  | now :: nows => ¬Passed length w now ∧ Quiet (take limit length w now).1 nows

/-- The events since a time. -/
def since (s now : τ) : Bool := s ≤ now

/-- The events of an interval of the length of a window. -/
def within (s now : τ) : Bool := s ≤ now ∧ now ≤ s + length

/-- What a counter knows of its history. -/
structure Inv (h : List (τ × Bool)) (w : Window τ) (last : τ) : Prop where
  start_le : w.start ≤ last
  count_le : w.count ≤ limit
  counted : Limiters.count h (since w.start) = w.count
  inWindow : ∀ e ∈ h, e.1 < w.start ∨ e.1 ≤ w.start + length
  /-- The window before began more than its length earlier. -/
  before : ∀ s, w.start - length ≤ s →
    Limiters.count h (fun now => s ≤ now ∧ now < w.start) ≤ limit
  within_le : ∀ s, Limiters.count h (within length s) ≤ 2 * limit

variable {limit length} {w : Window τ} {h : List (τ × Bool)} {last : τ}

omit [IsOrderedAddMonoid τ] in
theorem admit_of_passed {now : τ} (h : Passed length w now) :
    take limit length w now = (⟨1, now⟩, true) := if_pos h

omit [IsOrderedAddMonoid τ] in
theorem admit_of_full {now : τ} (h : ¬Passed length w now) (hfull : w.count + 1 > limit) :
    take limit length w now = (w, false) := by rw [take, if_neg h, if_pos hfull]

omit [IsOrderedAddMonoid τ] in
theorem admit_of_free {now : τ} (h : ¬Passed length w now) (hfree : ¬w.count + 1 > limit) :
    take limit length w now = (⟨w.count + 1, w.start⟩, true) := by
  rw [take, if_neg h, if_neg hfree]

omit [IsOrderedAddMonoid τ] in
/-- **Without a new window, a counter accepts up to its limit.** -/
theorem acceptedOf_le {nows : List τ} (hquiet : Quiet limit length w nows) (hw : w.count ≤ limit) :
    w.count + acceptedOf limit length w nows ≤ limit := by
  induction nows generalizing w with
  | nil => exact hw
  | cons now nows ih =>
      obtain ⟨hpassed, hrest⟩ := hquiet
      by_cases hfull : w.count + 1 > limit
      · rw [admit_of_full hpassed hfull] at hrest
        have hle := ih hrest hw
        rw [acceptedOf, admit_of_full hpassed hfull]
        simpa using hle
      · rw [admit_of_free hpassed hfull] at hrest
        have hle := ih hrest (by simpa using hfull)
        rw [acceptedOf, admit_of_free hpassed hfull]
        simp only [if_true] at hle ⊢
        omega

omit [IsOrderedAddMonoid τ] in
/-- Between two new windows, the event that starts the first is counted, too. -/
theorem acceptedOf_cons_le (hlimit : 1 ≤ limit) {now : τ} {nows : List τ}
    (hpassed : Passed length w now) (hquiet : Quiet limit length (take limit length w now).1 nows) :
    acceptedOf limit length w (now :: nows) ≤ limit := by
  rw [admit_of_passed hpassed] at hquiet
  have hle := acceptedOf_le hquiet hlimit
  rw [acceptedOf, admit_of_passed hpassed]
  simpa using hle

section Step

variable (hinv : Inv limit length h w last) {now : τ} (hnow : last ≤ now)

include hinv hnow

/-- All events are before a window that begins now. -/
theorem lt_of_passed (hpassed : Passed length w now) :
    ∀ e ∈ h, e.1 < now := by
  intro e he
  have hlt : w.start + length < now := lt_sub_iff_add_lt'.1 hpassed
  rcases hinv.inWindow e he with hbefore | hin
  · exact hbefore.trans_le (hinv.start_le.trans hnow)
  · exact hin.trans_lt hlt

/-- The window has passed, and a new one begins. -/
theorem inv_passed (hlength : 0 ≤ length) (hlimit : 1 ≤ limit) (hpassed : Passed length w now) :
    Inv limit length (h ++ [(now, true)]) ⟨1, now⟩ now := by
  have hlt : w.start + length < now := lt_sub_iff_add_lt'.1 hpassed
  have hbefore := lt_of_passed hinv hnow hpassed
  -- what was accepted less than a window ago is in the window that has passed
  have hcount {p : τ → Bool} {s : τ} (hs : now - length ≤ s) (hp : ∀ t, p t = true → s ≤ t) :
      Limiters.count h p ≤ limit := by
    refine (count_le_count fun e _ hpe => ?_).trans (hinv.counted.trans_le hinv.count_le)
    have hle : w.start ≤ e.1 := (lt_sub_iff_add_lt.2 hlt).le.trans (hs.trans (hp _ hpe))
    simp [since, hle]
  refine ⟨le_rfl, hlimit, ?_, ?_, fun s hs => ?_, fun s => ?_⟩
  · have hzero : Limiters.count h (since now) = 0 :=
      count_eq_zero fun e he => by simp [since, hbefore e he]
    rw [count_accepted, hzero]
    simp [since]
  · intro e he
    rcases List.mem_append.1 he with he | he
    · exact .inl (hbefore e he)
    · right
      rw [List.mem_singleton.1 he]
      exact le_add_of_nonneg_right hlength
  · have hle := hcount hs (p := fun t => s ≤ t ∧ t < now) fun t ht => by simp at ht; exact ht.1
    rw [count_accepted]
    simpa using hle
  · rw [count_accepted]
    by_cases hin : within length s now = true
    · have hs : now - length ≤ s := by
        simp only [within, Bool.decide_and, Bool.and_eq_true, decide_eq_true_eq] at hin
        exact sub_le_iff_le_add.2 hin.2
      have hle := hcount hs (p := within length s) fun t ht => by simp [within] at ht; exact ht.1
      rw [if_pos hin]
      omega
    · rw [if_neg hin]
      exact hinv.within_le s

/-- An event is counted in the present window. -/
theorem inv_counted (hpassed : ¬Passed length w now) (hfree : ¬w.count + 1 > limit) :
    Inv limit length (h ++ [(now, true)]) ⟨w.count + 1, w.start⟩ now := by
  have hle : now ≤ w.start + length := by
    rw [Passed, gt_iff_lt, not_lt, sub_le_iff_le_add'] at hpassed
    exact hpassed
  have hstart : w.start ≤ now := hinv.start_le.trans hnow
  refine ⟨hstart, by simpa using hfree, ?_, ?_, fun s hs => ?_, fun s => ?_⟩
  · rw [count_accepted, hinv.counted]
    simp [since, hstart]
  · intro e he
    rcases List.mem_append.1 he with he | he
    · exact hinv.inWindow e he
    · right
      rw [List.mem_singleton.1 he]
      exact hle
  · rw [count_accepted]
    simpa [hstart.not_gt] using hinv.before s hs
  · rw [count_accepted]
    by_cases hin : within length s now = true
    · have hs : w.start - length ≤ s := by
        simp only [within, Bool.decide_and, Bool.and_eq_true, decide_eq_true_eq] at hin
        exact sub_le_iff_le_add.2 (hstart.trans hin.2)
      -- the events are in the window before, or in this one
      have hsplit : Limiters.count h (within length s) ≤
          Limiters.count h (fun now => s ≤ now ∧ now < w.start) +
            Limiters.count h (since w.start) := by
        refine count_le_add fun e _ hp => ?_
        rcases lt_or_ge e.1 w.start with hlt | hge
        · left
          simp only [within, Bool.decide_and, Bool.and_eq_true, decide_eq_true_eq] at hp
          simp [hp.1, hlt]
        · right
          simpa [since] using hge
      have hbefore := hinv.before s hs
      rw [hinv.counted] at hsplit
      rw [if_pos hin]
      omega
    · rw [if_neg hin]
      exact hinv.within_le s

theorem inv_take (hlength : 0 ≤ length) (hlimit : 1 ≤ limit) : Inv limit length (h ++ [(now, (take limit length w now).2)])
    (take limit length w now).1 now := by
  by_cases hpassed : Passed length w now
  · rw [admit_of_passed hpassed]
    exact inv_passed hinv hnow hlength hlimit hpassed
  · by_cases hfull : w.count + 1 > limit
    · rw [admit_of_full hpassed hfull]
      refine ⟨hinv.start_le.trans hnow, hinv.count_le, ?_, ?_, fun s hs => ?_, fun s => ?_⟩
      · rw [count_rejected]
        exact hinv.counted
      · intro e he
        rcases List.mem_append.1 he with he | he
        · exact hinv.inWindow e he
        · right
          rw [List.mem_singleton.1 he]
          rw [Passed, gt_iff_lt, not_lt, sub_le_iff_le_add'] at hpassed
          exact hpassed
      · rw [count_rejected]
        exact hinv.before s hs
      · rw [count_rejected]
        exact hinv.within_le s
    · rw [admit_of_free hpassed hfull]
      exact inv_counted hinv hnow hpassed hfull

end Step

/-- **What a counter knows, it knows at all times.** -/
theorem inv_of_history (hlength : 0 ≤ length) (hlimit : 1 ≤ limit) {start : τ}
    (hist : History id (take limit length) start ⟨0, start⟩ h w last) :
    Inv limit length h w last := by
  induction hist with
  | nil => exact ⟨le_rfl, Nat.zero_le _, rfl, nofun, fun _ _ => Nat.zero_le _, fun _ => Nat.zero_le _⟩
  | snoc now hist hnow ih => exact inv_take ih hnow hlength hlimit

/-- An event that comes more than a window after the last one starts a new window. -/
theorem passed_of_idle (hinv : Inv limit length h w last) {now : τ} (hidle : now - last > length) :
    Passed length w now :=
  lt_of_lt_of_le hidle (sub_le_sub_left hinv.start_le now)

end Window

end Window

/-! ### Logs -/

section Log

variable [AddCommGroup τ] [LinearOrder τ] [IsOrderedAddMonoid τ]

/-- **The times of a log that are within a window before the present.** -/
def recent (window now : τ) (log : List τ) : List τ := log.filter fun t => now - window < t

omit [IsOrderedAddMonoid τ]

@[simp] theorem recent_nil (window now : τ) : recent window now [] = [] := rfl

theorem recent_append (window now : τ) (log log' : List τ) :
    recent window now (log ++ log') = recent window now log ++ recent window now log' :=
  List.filter_append _ _

/-- **What is dropped from a log early does not count later.** -/
theorem recent_recent {window now cutoff before : τ} (h : before - cutoff ≤ now - window)
    (log : List τ) : recent window now (recent cutoff before log) = recent window now log := by
  rw [recent, recent, List.filter_filter]
  refine List.filter_congr fun t _ => ?_
  by_cases ht : now - window < t
  · simp [ht, h.trans_lt ht]
  · simp [ht]

end Log

end Limiters
