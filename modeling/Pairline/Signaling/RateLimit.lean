/-
**The rate of signals.**

Each connection of a signaling client has a bucket of tokens: a signal takes one, and is dropped when
there is none.

Main definitions:

* `Signaling.SignalRateLimiter`, `Signaling.allow` — the bucket, and a signal that takes a token;
* `Signaling.SignalLaw` — **the signals that are accepted and those that are not**.

Main results:

* `Signaling.allow_toLimiter` — the bucket is that of the library;
* `Signaling.signalLaw` — **the law holds for every sequence of signals**.
-/

import Pairline.Limiters

set_option relaxedAutoImplicit false
set_option autoImplicit false

namespace Signaling

open Limiters (History Bucket count)
open Limiters.Bucket (between)

def signalRateLimit : ℚ := 20

def signalBurstLimit : ℚ := 40

/-- Tokens, and the time of the last refill in seconds. -/
structure SignalRateLimiter where
  tokens : ℚ
  lastRefill : ℚ

def newSignalRateLimiter (now : ℚ) : SignalRateLimiter := ⟨signalBurstLimit, now⟩

/-- **A signal arrives.** -/
def allow (l : SignalRateLimiter) (now : ℚ) : SignalRateLimiter × Bool :=
  let elapsedSeconds := now - l.lastRefill
  let tokens := l.tokens + elapsedSeconds * signalRateLimit
  let tokens := if tokens > signalBurstLimit then signalBurstLimit else tokens
  if tokens < 1 then (⟨tokens, now⟩, false) else (⟨tokens - 1, now⟩, true)

/-- A bucket of the library. -/
def toLimiter (b : Bucket ℚ) : SignalRateLimiter := ⟨b.tokens, b.lastRefill⟩

/-- The bucket is that of the library. -/
theorem allow_toLimiter (b : Bucket ℚ) (now : ℚ) : allow (toLimiter b) now =
    (toLimiter (b.take signalBurstLimit signalRateLimit now).1,
      (b.take signalBurstLimit signalRateLimit now).2) := by
  have hmin : b.refilled signalBurstLimit signalRateLimit now =
      if b.tokens + (now - b.lastRefill) * signalRateLimit > signalBurstLimit then signalBurstLimit
      else b.tokens + (now - b.lastRefill) * signalRateLimit := by
    rw [Bucket.refilled, min_comm, min_def]
    split_ifs with h h' <;> first | rfl | linarith
  unfold allow Bucket.take toLimiter
  dsimp only
  rw [← hmin]
  split_ifs <;> rfl

/-- **Within any time, no more signals are accepted than the burst and what is refilled; and a signal
is rejected only if it would exceed that since some time.** -/
structure SignalLaw (start : ℚ) : Prop where
  bounded : ∀ h l last, History id allow start (newSignalRateLimiter start) h l last →
    ∀ s t, s ≤ t → (count h (between s t) : ℚ) ≤ 40 + 20 * (t - s)
  exact : ∀ h l last, History id allow start (newSignalRateLimiter start) h l last →
    ∀ now, last ≤ now → (allow l now).2 = false →
      ∃ s ≤ now, 40 + 20 * (now - s) < (count h (between s now) : ℚ) + 1

/-- **The law holds for every sequence of signals.** -/
theorem signalLaw (start : ℚ) : SignalLaw start := by
  have hrate : 0 ≤ signalRateLimit := by norm_num [signalRateLimit]
  have hcapacity : 0 ≤ signalBurstLimit := by norm_num [signalBurstLimit]
  constructor
  · intro h l last hist s t hst
    obtain ⟨b, -, hbucket⟩ := hist.exists_of_simulates allow_toLimiter ⟨signalBurstLimit, start⟩
    exact (Bucket.inv_of_history hrate hcapacity hbucket).count_le s t hst
  · intro h l last hist now hnow hrejected
    obtain ⟨b, rfl, hbucket⟩ := hist.exists_of_simulates allow_toLimiter ⟨signalBurstLimit, start⟩
    rw [allow_toLimiter] at hrejected
    exact Bucket.exceeds_of_inv hbucket.le_last.2 (Bucket.inv_of_history hrate hcapacity hbucket) hnow
      hrejected

end Signaling
