/-
**The rate of a client's events.**

A channel counts the events of its client, and starts to count anew when more than five seconds have
passed since it started last.  The start of the count is set when the client joins.

Main definitions:

* `Sockets.RateAssigns`, `Sockets.checkRateLimit` — the count, and an event that is counted;
* `Sockets.RateLaw` — **how many events are accepted**.

Main results:

* `Sockets.checkRateLimit_ofWindow` — the count is that of the library;
* `Sockets.rateLaw` — **the law holds for every sequence of events**.
-/

import Pairline.Limiters

set_option relaxedAutoImplicit false
set_option autoImplicit false

namespace Sockets

open Limiters (History Window count)
open Limiters.Window (Quiet acceptedOf within)

def maxMessagesPerWindow : ℕ := 30

def rateWindowMs : ℤ := 5000

/-- What the socket has assigned. -/
structure RateAssigns where
  msgCount : Option ℕ
  windowStart : Option ℤ

/-- The assignments of `join`. -/
def joined (now : ℤ) : RateAssigns := ⟨some 0, some now⟩

/-- **`check_rate_limit`.** -/
def checkRateLimit (socket : RateAssigns) (now : ℤ) : RateAssigns × Bool :=
  let windowStart := socket.windowStart.getD now
  let msgCount := socket.msgCount.getD 0
  if now - windowStart > rateWindowMs then (⟨some 1, some now⟩, true)
  else
    let newCount := msgCount + 1
    if newCount > maxMessagesPerWindow then (socket, false)
    else ({ socket with msgCount := some newCount }, true)

/-- A counter of the library. -/
def ofWindow (w : Window ℤ) : RateAssigns := ⟨some w.count, some w.start⟩

/-- The count is that of the library. -/
theorem checkRateLimit_ofWindow (w : Window ℤ) (now : ℤ) : checkRateLimit (ofWindow w) now =
    (ofWindow (w.take maxMessagesPerWindow rateWindowMs now).1,
      (w.take maxMessagesPerWindow rateWindowMs now).2) := by
  by_cases hpassed : w.Passed rateWindowMs now
  · rw [Window.admit_of_passed hpassed]
    exact if_pos hpassed
  · by_cases hfull : w.count + 1 > maxMessagesPerWindow
    · rw [Window.admit_of_full hpassed hfull]
      exact (if_neg hpassed).trans (if_pos hfull)
    · rw [Window.admit_of_free hpassed hfull]
      exact (if_neg hpassed).trans (if_neg hfull)

/-- A count that starts anew. -/
def Reset (socket : RateAssigns) (now : ℤ) : Prop := now - socket.windowStart.getD now > rateWindowMs

/-- How many of some events are accepted. -/
def accepted (socket : RateAssigns) : List ℤ → ℕ
  | [] => 0
  | now :: nows => (if (checkRateLimit socket now).2 then 1 else 0) +
      accepted (checkRateLimit socket now).1 nows

/-- None of some events makes the count start anew. -/
def NoReset (socket : RateAssigns) : List ℤ → Prop
  | [] => True
  | now :: nows => ¬Reset socket now ∧ NoReset (checkRateLimit socket now).1 nows

/-- **Until the count starts anew for the first time, and from one such event up to the next one, at
most 30 events are accepted; in any interval of five seconds, at most 60; and an event that comes more
than five seconds after the one before is accepted.** -/
structure RateLaw (join : ℤ) : Prop where
  beforeReset : ∀ nows, NoReset (joined join) nows → accepted (joined join) nows ≤ 30
  betweenResets : ∀ h socket last, History id checkRateLimit join (joined join) h socket last →
    ∀ now nows, Reset socket now → NoReset (checkRateLimit socket now).1 nows →
      accepted socket (now :: nows) ≤ 30
  anyInterval : ∀ h socket last, History id checkRateLimit join (joined join) h socket last →
    ∀ s, count h (within rateWindowMs s) ≤ 60
  afterIdle : ∀ h e outcome socket last,
    History id checkRateLimit join (joined join) (h ++ [(e, outcome)]) socket last →
      ∀ now, now - e > rateWindowMs → (checkRateLimit socket now).2 = true

theorem accepted_ofWindow (w : Window ℤ) (nows : List ℤ) :
    accepted (ofWindow w) nows = acceptedOf maxMessagesPerWindow rateWindowMs w nows := by
  induction nows generalizing w with
  | nil => rfl
  | cons now nows ih => rw [accepted, acceptedOf, checkRateLimit_ofWindow, ih]

theorem noReset_ofWindow (w : Window ℤ) (nows : List ℤ) :
    NoReset (ofWindow w) nows ↔ Quiet maxMessagesPerWindow rateWindowMs w nows := by
  induction nows generalizing w with
  | nil => exact Iff.rfl
  | cons now nows ih =>
      rw [NoReset, Quiet, checkRateLimit_ofWindow, ih]
      exact Iff.rfl

/-- **The law holds for every sequence of events.** -/
theorem rateLaw (join : ℤ) : RateLaw join := by
  have hlength : 0 ≤ rateWindowMs := by decide
  have hlimit : 1 ≤ maxMessagesPerWindow := by decide
  have hjoined : joined join = ofWindow ⟨0, join⟩ := rfl
  constructor
  · intro nows hquiet
    rw [hjoined, noReset_ofWindow] at hquiet
    have hle := Window.acceptedOf_le hquiet (Nat.zero_le _)
    rw [hjoined, accepted_ofWindow]
    simpa [maxMessagesPerWindow] using hle
  · intro h socket last hist now nows hreset hquiet
    obtain ⟨w, rfl, -⟩ := hist.exists_of_simulates checkRateLimit_ofWindow ⟨0, join⟩
    rw [checkRateLimit_ofWindow, noReset_ofWindow] at hquiet
    rw [accepted_ofWindow]
    exact Window.acceptedOf_cons_le hlimit hreset hquiet
  · intro h socket last hist s
    obtain ⟨w, -, hwindow⟩ := hist.exists_of_simulates checkRateLimit_ofWindow ⟨0, join⟩
    exact (Window.inv_of_history hlength hlimit hwindow).within_le s
  · intro h e outcome socket last hist now hidle
    obtain ⟨w, rfl, hwindow⟩ := hist.exists_of_simulates checkRateLimit_ofWindow ⟨0, join⟩
    have hinv := Window.inv_of_history hlength hlimit hwindow
    have hlast : last = e := hwindow.last_eq
    rw [hlast] at hinv
    rw [checkRateLimit_ofWindow, Window.admit_of_passed (Window.passed_of_idle hinv hidle)]

end Sockets
