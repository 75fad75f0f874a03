/-
**The rate of login attempts.**

For each address, the times of the attempts that were let through are kept.  An attempt is refused when
as many as are allowed lie within a window before it.  A clean-up that runs from time to time drops
what is older than a quarter of an hour, and forgets the addresses of which nothing is left.

Main definitions:

* `Admin.LoginRateLimits`, `Admin.loginAttempt`, `Admin.loginCleanup` — the times, an attempt, and the
  clean-up;
* `Admin.LoginEvent`, `Admin.loginStep` — what may happen;
* `Admin.acceptedTimes` — the attempts of an address that were accepted;
* `Admin.LoginLaw` — **how many attempts are accepted, and which are refused**.

Main results:

* `Admin.tracks_of_history` — what is kept counts like all attempts that were accepted;
* `Admin.loginLaw` — **the law holds for every sequence of attempts and clean-ups**.
-/

import Mathlib.Logic.Function.Basic
import Pairline.Limiters

set_option relaxedAutoImplicit false
set_option autoImplicit false

namespace Admin

open Limiters (History recent recent_append recent_recent)

/-! ### Attempts and clean-ups -/

/-- The times that are kept for each address, in nanoseconds; an address without times has no entry. -/
abbrev LoginRateLimits := String → List ℤ

/-- Fifteen minutes. -/
def cleanupAge : ℤ := 15 * 60 * 1000000000

section Limit

variable (maxAttempts window : ℤ)

/-- **An attempt**: `LoginRateLimitMiddleware`. -/
def loginAttempt (limits : LoginRateLimits) (ip : String) (now : ℤ) : LoginRateLimits × Bool :=
  let cutoff := now - window
  let fresh := (limits ip).filter fun ts => cutoff < ts
  if (fresh.length : ℤ) ≥ maxAttempts then (limits, false)
  else (Function.update limits ip (fresh ++ [now]), true)

/-- One pass of the clean-up. -/
def loginCleanup (limits : LoginRateLimits) (now : ℤ) : LoginRateLimits := fun ip =>
  let cutoff := now - cleanupAge
  (limits ip).filter fun ts => cutoff < ts

inductive LoginEvent
  | attempt (ip : String) (now : ℤ)
  | cleanup (now : ℤ)

def LoginEvent.time : LoginEvent → ℤ
  | .attempt _ now => now
  | .cleanup now => now

/-- An event, and whether an attempt is let through. -/
def loginStep (limits : LoginRateLimits) : LoginEvent → LoginRateLimits × Bool
  | .attempt ip now => loginAttempt maxAttempts window limits ip now
  | .cleanup now => (loginCleanup limits now, false)

/-- What has happened, from the start of the server on. -/
abbrev LoginHistory (start : ℤ) (h : List (LoginEvent × Bool)) (limits : LoginRateLimits)
    (last : ℤ) : Prop :=
  History LoginEvent.time (loginStep maxAttempts window) start (fun _ => []) h limits last

/-- The time of an attempt of an address that was accepted. -/
def acceptedTime (ip : String) : LoginEvent × Bool → Option ℤ
  | (.attempt ip' now, true) => if ip' = ip then some now else none
  | _ => none

/-- **The attempts of an address that were accepted.** -/
def acceptedTimes (ip : String) (h : List (LoginEvent × Bool)) : List ℤ :=
  h.filterMap (acceptedTime ip)

def isAttempt : LoginEvent → Bool
  | .attempt _ _ => true
  | .cleanup _ => false

/-- **In any window, no more attempts of an address are accepted than are allowed; an attempt is
refused only if that many were accepted in the window that ends with it; and without the clean-ups, all
attempts have the same outcomes.** -/
structure LoginLaw : Prop where
  bounded : ∀ start h limits last, LoginHistory maxAttempts window start h limits last → ∀ ip t,
    (acceptedTimes ip h).countP (fun ts => t - window < ts ∧ ts ≤ t) ≤ maxAttempts.toNat
  refused : ∀ start h limits last, LoginHistory maxAttempts window start h limits last → ∀ ip now,
    last ≤ now → (loginAttempt maxAttempts window limits ip now).2 = false →
      maxAttempts ≤ (acceptedTimes ip h).countP fun ts => now - window < ts ∧ ts ≤ now
  withoutCleanups : ∀ start h limits last, LoginHistory maxAttempts window start h limits last →
    ∃ limits' last', LoginHistory maxAttempts window start (h.filter fun e => isAttempt e.1)
      limits' last' ∧ ∀ ip now, last ≤ now →
        (loginAttempt maxAttempts window limits ip now).2 =
          (loginAttempt maxAttempts window limits' ip now).2

end Limit

/-! ### What is kept -/

section Tracks

variable {maxAttempts window : ℤ}

theorem acceptedTimes_append (ip : String) (h h' : List (LoginEvent × Bool)) :
    acceptedTimes ip (h ++ h') = acceptedTimes ip h ++ acceptedTimes ip h' :=
  List.filterMap_append

/-- An event that is no accepted attempt of an address adds nothing to it. -/
theorem acceptedTimes_concat_of_none {ip : String} {e : LoginEvent × Bool}
    (he : acceptedTime ip e = none) (h : List (LoginEvent × Bool)) :
    acceptedTimes ip (h ++ [e]) = acceptedTimes ip h := by
  have hsingle : acceptedTimes ip [e] = [] := List.filterMap_cons_none he
  rw [acceptedTimes_append, hsingle, List.append_nil]

theorem acceptedTimes_concat_self (ip : String) (now : ℤ) (h : List (LoginEvent × Bool)) :
    acceptedTimes ip (h ++ [(.attempt ip now, true)]) = acceptedTimes ip h ++ [now] := by
  have htime : acceptedTime ip (.attempt ip now, true) = some now := if_pos rfl
  have hsingle : acceptedTimes ip [(.attempt ip now, true)] = [now] :=
    List.filterMap_cons_some htime
  rw [acceptedTimes_append, hsingle]

theorem acceptedTimes_filter_isAttempt (ip : String) (h : List (LoginEvent × Bool)) :
    acceptedTimes ip (h.filter fun e => isAttempt e.1) = acceptedTimes ip h := by
  induction h with
  | nil => rfl
  | cons e h ih =>
      obtain ⟨event, outcome⟩ := e
      cases event with
      | attempt ip' now =>
          rw [List.filter_cons_of_pos (by rfl), acceptedTimes, acceptedTimes, List.filterMap_cons,
            List.filterMap_cons, ← acceptedTimes, ← acceptedTimes, ih]
      | cleanup now =>
          rw [List.filter_cons_of_neg (by simp [isAttempt]), ih]
          rfl

/-- **What is kept counts like all attempts that were accepted.** -/
def Tracks (window : ℤ) (h : List (LoginEvent × Bool)) (limits : LoginRateLimits) (last : ℤ) : Prop :=
  ∀ ip now, last ≤ now → recent window now (limits ip) = recent window now (acceptedTimes ip h)

theorem loginAttempt_of_full {limits : LoginRateLimits} {ip : String} {now : ℤ}
    (h : ((recent window now (limits ip)).length : ℤ) ≥ maxAttempts) :
    loginAttempt maxAttempts window limits ip now = (limits, false) := if_pos h

theorem loginAttempt_of_free {limits : LoginRateLimits} {ip : String} {now : ℤ}
    (h : ¬((recent window now (limits ip)).length : ℤ) ≥ maxAttempts) :
    loginAttempt maxAttempts window limits ip now =
      (Function.update limits ip (recent window now (limits ip) ++ [now]), true) := if_neg h

/-- The outcome of an attempt. -/
theorem loginAttempt_snd (limits : LoginRateLimits) (ip : String) (now : ℤ) :
    (loginAttempt maxAttempts window limits ip now).2 =
      !decide ((recent window now (limits ip)).length ≥ maxAttempts) := by
  by_cases hfull : ((recent window now (limits ip)).length : ℤ) ≥ maxAttempts
  · rw [loginAttempt_of_full hfull, decide_eq_true hfull]
    rfl
  · rw [loginAttempt_of_free hfull, decide_eq_false hfull]
    rfl

theorem tracks_step (hwindow : window ≤ cleanupAge) {h : List (LoginEvent × Bool)}
    {limits : LoginRateLimits} {last : ℤ} (htracks : Tracks window h limits last) (e : LoginEvent)
    (hle : last ≤ e.time) :
    Tracks window (h ++ [(e, (loginStep maxAttempts window limits e).2)])
      (loginStep maxAttempts window limits e).1 e.time := by
  intro ip now hnow
  cases e with
  | cleanup before =>
      -- what the clean-up drops does not count any more
      have hcutoff : before - cleanupAge ≤ now - window := by
        have hbefore : before ≤ now := hnow
        omega
      have hsame := recent_recent hcutoff (limits ip)
      rw [acceptedTimes_concat_of_none rfl]
      exact hsame.trans (htracks ip now (hle.trans hnow))
  | attempt ip' before =>
      have hold := htracks ip now (hle.trans hnow)
      by_cases hfull : ((recent window before (limits ip')).length : ℤ) ≥ maxAttempts
      · rw [loginStep, loginAttempt_of_full hfull, acceptedTimes_concat_of_none rfl]
        exact hold
      · rw [loginStep, loginAttempt_of_free hfull]
        by_cases hip : ip = ip'
        · subst hip
          have hcutoff : before - window ≤ now - window := by
            have hbefore : before ≤ now := hnow
            omega
          dsimp only
          rw [Function.update_self, acceptedTimes_concat_self, recent_append, recent_append,
            recent_recent hcutoff, hold]
        · have hnone : acceptedTime ip (.attempt ip' before, true) = none := if_neg (Ne.symm hip)
          dsimp only
          rw [Function.update_of_ne hip, acceptedTimes_concat_of_none hnone]
          exact hold

theorem tracks_of_history (hwindow : window ≤ cleanupAge) {start last : ℤ}
    {h : List (LoginEvent × Bool)} {limits : LoginRateLimits}
    (hist : LoginHistory maxAttempts window start h limits last) : Tracks window h limits last := by
  induction hist with
  | nil => exact fun _ _ _ => rfl
  | snoc e _ hle ih => exact tracks_step hwindow ih e hle

/-- An accepted attempt is not later than the last event. -/
theorem le_last_of_mem_acceptedTimes {start last : ℤ} {h : List (LoginEvent × Bool)}
    {limits : LoginRateLimits} (hist : LoginHistory maxAttempts window start h limits last)
    {ip : String} {ts : ℤ} (hts : ts ∈ acceptedTimes ip h) : ts ≤ last := by
  obtain ⟨⟨event, outcome⟩, he, htime⟩ := List.mem_filterMap.1 hts
  have hle := hist.le_last.2 _ he
  cases event with
  | cleanup now => cases htime
  | attempt ip' now =>
      cases outcome with
      | false => cases htime
      | true =>
          rw [acceptedTime, Option.ite_none_right_eq_some, Option.some.injEq] at htime
          exact htime.2 ▸ hle

end Tracks

/-! ### The law -/

section Law

variable {maxAttempts window : ℤ} {start last : ℤ} {h : List (LoginEvent × Bool)}
  {limits : LoginRateLimits}

/-- The attempts of the window that ends now. -/
theorem countP_window (hist : LoginHistory maxAttempts window start h limits last) (ip : String)
    {now : ℤ} (hnow : last ≤ now) :
    (acceptedTimes ip h).countP (fun ts => now - window < ts ∧ ts ≤ now) =
      (recent window now (acceptedTimes ip h)).length := by
  rw [recent, ← List.countP_eq_length_filter]
  refine List.countP_congr fun ts hts => ?_
  have hle := (le_last_of_mem_acceptedTimes hist hts).trans hnow
  simp [hle]

theorem bounded_of_history (hwindow : window ≤ cleanupAge)
    (hist : LoginHistory maxAttempts window start h limits last) (ip : String) (t : ℤ) :
    (acceptedTimes ip h).countP (fun ts => t - window < ts ∧ ts ≤ t) ≤ maxAttempts.toNat := by
  induction hist with
  | nil => exact Nat.zero_le _
  | @snoc h limits last e hist hle ih =>
      cases e with
      | cleanup now =>
          rw [acceptedTimes_concat_of_none rfl]
          exact ih
      | attempt ip' now =>
          by_cases hfull : ((recent window now (limits ip')).length : ℤ) ≥ maxAttempts
          · rw [loginStep, loginAttempt_of_full hfull, acceptedTimes_concat_of_none rfl]
            exact ih
          · rw [loginStep, loginAttempt_of_free hfull]
            by_cases hip : ip' = ip
            · subst hip
              rw [acceptedTimes_concat_self, List.countP_append, List.countP_singleton]
              by_cases hin : t - window < now ∧ now ≤ t
              · -- the window contains this attempt, and the earlier ones in it are in the one that
                -- ends with this attempt
                have hlt : (recent window now (acceptedTimes ip' h)).length < maxAttempts := by
                  rw [← tracks_of_history hwindow hist ip' now hle]
                  omega
                have hearlier : (acceptedTimes ip' h).countP
                    (fun ts => t - window < ts ∧ ts ≤ t) ≤
                      (recent window now (acceptedTimes ip' h)).length := by
                  rw [recent, ← List.countP_eq_length_filter]
                  refine List.countP_mono_left fun ts _ hts => ?_
                  simp only [decide_eq_true_eq] at hts ⊢
                  omega
                rw [if_pos (decide_eq_true hin)]
                omega
              · rw [if_neg (by simpa using hin)]
                exact ih
            · have hnone : acceptedTime ip (.attempt ip' now, true) = none := if_neg hip
              rw [acceptedTimes_concat_of_none hnone]
              exact ih

/-- The same attempts without the clean-ups. -/
theorem withoutCleanups_of_history (hwindow : window ≤ cleanupAge)
    (hist : LoginHistory maxAttempts window start h limits last) :
    ∃ limits' last', last' ≤ last ∧
      LoginHistory maxAttempts window start (h.filter fun e => isAttempt e.1) limits' last' := by
  induction hist with
  | nil => exact ⟨_, _, le_rfl, .nil⟩
  | @snoc h limits last e hist hle ih =>
      obtain ⟨limits', last', hlast, hist'⟩ := ih
      cases e with
      | cleanup now =>
          refine ⟨limits', last', hlast.trans hle, ?_⟩
          rw [List.filter_append, List.filter_singleton]
          simpa [isAttempt] using hist'
      | attempt ip now =>
          have hle' : last' ≤ now := hlast.trans hle
          have hsame : recent window now (limits ip) = recent window now (limits' ip) := by
            rw [tracks_of_history hwindow hist ip now hle,
              tracks_of_history hwindow hist' ip now hle', acceptedTimes_filter_isAttempt]
          have houtcome : (loginStep maxAttempts window limits (.attempt ip now)).2 =
              (loginStep maxAttempts window limits' (.attempt ip now)).2 := by
            rw [loginStep, loginStep, loginAttempt_snd, loginAttempt_snd, hsame]
          refine ⟨(loginStep maxAttempts window limits' (.attempt ip now)).1, now, le_refl now, ?_⟩
          rw [houtcome, List.filter_append]
          exact History.snoc (LoginEvent.attempt ip now) hist' hle'

/-- **The law holds for every sequence of attempts and clean-ups.** -/
theorem loginLaw (hwindow : window ≤ cleanupAge) : LoginLaw maxAttempts window where
  bounded start h limits last hist ip t := bounded_of_history hwindow hist ip t
  refused start h limits last hist ip now hnow hrefused := by
    rw [loginAttempt_snd, Bool.not_eq_false', decide_eq_true_eq] at hrefused
    rw [countP_window hist ip hnow, ← tracks_of_history hwindow hist ip now hnow]
    exact hrefused
  withoutCleanups start h limits last hist := by
    obtain ⟨limits', last', hlast, hist'⟩ := withoutCleanups_of_history hwindow hist
    refine ⟨limits', last', hist', fun ip now hnow => ?_⟩
    rw [loginAttempt_snd, loginAttempt_snd, tracks_of_history hwindow hist ip now hnow,
      tracks_of_history hwindow hist' ip now (hlast.trans hnow), acceptedTimes_filter_isAttempt]

/-- The limit of the login route. -/
theorem loginLaw_route : LoginLaw 10 cleanupAge := loginLaw le_rfl

end Law

end Admin
