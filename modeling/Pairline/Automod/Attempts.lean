/-
**The attempts at a report.**

Each claim of a report counts an attempt, and a report that has failed is claimed again only while
there are attempts left.  A claim that has gone stale is taken over without regard to their number.

Main definitions:

* `Automod.TakesOverInTime` — a stale claim is taken over only while there are attempts left.

Main results:

* `Automod.Counted.step` — the attempts count the claims;
* `Automod.claims_le_maxAttempts` — **a report is claimed no more often than it should be, if stale
  claims are taken over in time**;
* `Automod.crashes_exceedAttempts` — workers that crash claim it again and again.
-/

import Pairline.Automod.Worker

set_option relaxedAutoImplicit false
set_option autoImplicit false

namespace Automod

open Transition

variable (cfg : Config)

/-- **A stale claim is taken over only while there are attempts left.** -/
def TakesOverInTime (s : State) : Event → Prop
  | .claim _ _ => s.row.autoState = .processing → s.row.attempts < cfg.maxAttempts
  | _ => True

instance (s : State) (ev : Event) : Decidable (TakesOverInTime cfg s ev) := by
  cases ev <;> unfold TakesOverInTime <;> infer_instance

/-- The attempts of the row count the claims, and a report that is still to be claimed first has
none. -/
structure Counted (s : State) : Prop where
  claims_le : s.claims ≤ s.row.attempts
  attempts_le : s.row.attempts ≤ cfg.maxAttempts
  untried : s.row.autoState = .pending → s.row.attempts = 0

variable {cfg} {s s' : State}

theorem counted_start (hasTarget : Bool) : Counted cfg (.start hasTarget) where
  claims_le := Nat.zero_le _
  attempts_le := Nat.zero_le _
  untried _ := rfl

namespace Counted

/-- No command but the mark of a failure touches the attempts, and that one spends them at most. -/
theorem exec (h : Counted cfg s) (number : ℕ) (c : Cmd) :
    Counted cfg (s.exec cfg number c).2 := by
  obtain ⟨hclaims, hattempts, huntried⟩ := h
  cases c with
  | createBan =>
      simp only [State.exec]
      split <;> exact ⟨hclaims, hattempts, huntried⟩
  | review decision banId =>
      simp only [State.exec]
      split
      · exact ⟨hclaims, hattempts, fun h => by cases h⟩
      · exact ⟨hclaims, hattempts, huntried⟩
  | overwrite decision banId => exact ⟨hclaims, hattempts, fun h => by cases h⟩
  | markFailed retryable =>
      cases retryable with
      | true => exact ⟨hclaims, hattempts, fun h => by cases h⟩
      | false => exact ⟨hclaims.trans hattempts, le_rfl, fun h => by cases h⟩
  | deleteBan id =>
      simp only [State.exec]
      split <;> exact ⟨hclaims, hattempts, huntried⟩
  | updateStatus status =>
      simp only [State.exec]
      split <;> exact ⟨hclaims, hattempts, huntried⟩
  | propagateBan | propagateUnban | read | clearBanId => exact ⟨hclaims, hattempts, huntried⟩

/-- Only the row and the claims matter. -/
theorem of_eq (h : Counted cfg s) (hrow : s'.row = s.row) (hclaims : s'.claims = s.claims) :
    Counted cfg s' := by
  obtain ⟨h₁, h₂, h₃⟩ := h
  exact ⟨hrow ▸ hclaims ▸ h₁, hrow ▸ h₂, hrow ▸ h₃⟩

theorem claim (h : Counted cfg s) {now : ℕ} {verdict : Verdict}
    (hok : TakesOverInTime cfg s (.claim now verdict)) (hclaimable : s.row.claimable cfg now = true)
    (jobs : List Job) : Counted cfg
      { s with row := s.row.claimed now, jobs := jobs, claims := s.claims + 1 } where
  claims_le := Nat.succ_le_succ h.claims_le
  attempts_le := by
    obtain ⟨-, hpending | ⟨hprocessing, -⟩ | ⟨-, hleft⟩⟩ := of_decide_eq_true hclaimable
    · have hnone := h.untried hpending
      have hpos := cfg.maxAttempts_pos
      simp only [Row.claimed]
      omega
    · exact hok hprocessing
    · exact hleft
  untried hp := by cases hp

/-- **The attempts count the claims**, step by step. -/
theorem step (h : Counted cfg s) {ev : Event} (hok : TakesOverInTime cfg s ev)
    (hs : s.step cfg ev = some s') : Counted cfg s' := by
  cases ev with
  | claim now verdict =>
      simp only [State.step] at hs
      split at hs
      · rename_i hclaimable
        cases hs
        exact h.claim hok hclaimable _
      · cases hs
  | work k fate =>
      obtain ⟨job, -, rfl⟩ := Option.map_eq_some_iff.1 hs
      rcases s.work_cases cfg k job fate with hend | ⟨c, next, -, ⟨-, hfail⟩ | ⟨-, jobs, heff⟩⟩
      · exact h.of_eq (hend ▸ rfl) (hend ▸ rfl)
      · exact h.of_eq (hfail ▸ rfl) (hfail ▸ rfl)
      · exact (h.exec job.number c).of_eq (heff ▸ rfl) (heff ▸ rfl)
  | crash k =>
      cases hs
      exact h.of_eq rfl rfl
  | review status =>
      simp only [State.step] at hs
      split at hs
      · cases hs
      · cases hs
        exact h.of_eq rfl rfl
  | call k fate =>
      obtain ⟨call, -, rfl⟩ := Option.map_eq_some_iff.1 hs
      rcases s.callNext_cases cfg k call fate with ⟨_, hend⟩ | ⟨c, next, -, ⟨-, _, hfail⟩ | ⟨-, _, heff⟩⟩
      · exact h.of_eq (hend ▸ rfl) (hend ▸ rfl)
      · exact h.of_eq (hfail ▸ rfl) (hfail ▸ rfl)
      · exact (h.exec call.number c).of_eq (heff ▸ rfl) (heff ▸ rfl)
  | ban =>
      cases hs
      exact h.of_eq rfl rfl
  | approveRelated =>
      simp only [State.step] at hs
      split at hs
      · cases hs
        exact ⟨h.claims_le, h.attempts_le, h.untried⟩
      · cases hs
  | unban id =>
      cases hs
      exact h.of_eq rfl rfl

end Counted

/-- **A report is claimed no more often than it should be, if stale claims are taken over in time.** -/
theorem claims_le_maxAttempts (cfg : Config) (hasTarget : Bool) {l : List Event} {s : State}
    (h : Run (State.step cfg) (TakesOverInTime cfg) (.start hasTarget) l s) :
    s.claims ≤ cfg.maxAttempts := by
  have hstep : ∀ (a : State) (ev : Event) (b : State), Counted cfg a → TakesOverInTime cfg a ev →
      a.step cfg ev = some b → Counted cfg b := fun _ _ _ hi hok hs => hi.step hok hs
  have hcounted : Counted cfg s := h.invariant hstep (counted_start hasTarget)
  exact hcounted.claims_le.trans hcounted.attempts_le

section Crashes

/-- Three attempts, and a claim that is stale after five minutes. -/
def defaults : Config := ⟨3, 300, by decide⟩

theorem threeFailures_isWithinBounds : ∃ s,
    Run (State.step defaults) (TakesOverInTime defaults) (.start true)
      [.claim 0 (.failed true), .crash 0, .claim 400 (.failed true), .work 0 .answered,
        .claim 500 (.decided .escalate)] s ∧ s.claims ≤ 3 := by
  have hrun : (execWhere (State.step defaults) (TakesOverInTime defaults) (.start true)
      [.claim 0 (.failed true), .crash 0, .claim 400 (.failed true), .work 0 .answered,
        .claim 500 (.decided .escalate)]).any (fun _ => true) = true := by decide +kernel
  obtain ⟨s, hs, -⟩ := exists_run_of_execWhere hrun
  exact ⟨s, hs, claims_le_maxAttempts defaults true hs⟩

/-- A report on which every worker crashes is claimed a fourth time. -/
theorem crashes_exceedAttempts : ¬ ∀ (cfg : Config) (hasTarget : Bool) (l : List Event) (s : State),
    Run (State.step cfg) Always (.start hasTarget) l s → s.claims ≤ cfg.maxAttempts := by
  intro h
  have hrun : (execWhere (State.step defaults) Always (.start true)
      [.claim 0 (.failed true), .crash 0, .claim 400 (.failed true), .crash 0,
        .claim 800 (.failed true), .crash 0, .claim 1200 (.failed true)]).any
      (fun s => decide (s.claims = 4)) = true := by decide +kernel
  obtain ⟨s, hs, hclaims⟩ := exists_run_of_execWhere hrun
  have hle : s.claims ≤ 3 := h defaults true _ s hs
  have hfour : s.claims = 4 := of_decide_eq_true hclaims
  omega

end Crashes

end Automod
