/-
**At most one ban for a session, and one for an address.**

A transaction that creates a ban has looked for active bans of its targets under their locks, and
keeps the locks until it commits; so no other transaction can create a ban for one of the targets in
between.  All transactions take their locks in the order of the keys, and therefore never wait for
each other in a circle.

Main definitions:

* `Bans.BanUniqueness` — **at most one active ban for each target, and no circle of calls that wait**;
* `Bans.Call.Secured`, `Bans.Call.Sees` — the locks that a call has, and what it has seen;
* `Bans.Board.Tidy` — the invariant.

Main results:

* `Bans.tidy_step` — every event keeps the invariant;
* `Bans.not_waits_self` — nobody waits for himself;
* `Bans.banUniqueness` — the law.
-/

import Pairline.Bans.Calls
import Pairline.OrderedLocks

set_option relaxedAutoImplicit false
set_option autoImplicit false

namespace Bans

open Transition

/-! ### The law -/

namespace Board

variable (b : Board)

/-- The call holds the lock of a key. -/
def Holds (i : ℕ) (key : String) : Prop := ∃ call, b.calls[i]? = some call ∧ key ∈ call.held

/-- The lock that a call is to take next. -/
def wants (i : ℕ) : Option String :=
  match (b.calls[i]?).map Call.phase with
  | some (.locking _ (key :: _)) => some key
  | _ => none

end Board

/-- The target has a name. -/
def Target.Named (target : Target) : Prop := target ≠ .session "" ∧ target ≠ .ip ""

/-- The active bans of a target. -/
def activeBans (b : Board) (target : Target) : List Ban :=
  b.rows.filter fun ban => ban.covers target && ban.activeAt b.now

/-- **At most one active ban for each target, and no circle of calls that wait**, at any time. -/
def BanUniqueness : Prop :=
  ∀ now l b, Run Board.step Always (emptyBoard now) l b →
    (∀ target : Target, target.Named → (activeBans b target).length ≤ 1) ∧
      ∀ i, ¬ Relation.TransGen (OrderedLocks.WaitsFor b.Holds b.wants) i i

/-! ### Locks and looks -/

variable {b b' : Board} {i j : ℕ} {call call' : Call} {id : String} {rows : List Ban}
  {request : Request} {ban : Ban} {target : Target} {key : String} {now now' : Time}

def Task.keys : Task → List String
  | .create request => lockBanTargets request.sessionId request.ipAddress
  | .delete ban => lockBanTargets ban.sessionId ban.ipAddress

/-- The call holds the locks of some targets. -/
def Call.Owns (call : Call) (targets : List Target) : Prop :=
  ∀ target ∈ targets, target.key ∈ call.held

/-- **The locks that a call has**: those of its targets, once it has taken all of them; of a ban that
it found, one at least. -/
def Call.Secured (call : Call) : Prop :=
  match call.phase with
  | .opening _ => call.held = []
  | .locking task keys =>
      keys.Pairwise (· ≤ ·) ∧ (∀ key ∈ call.held, ∀ key' ∈ keys, key ≤ key') ∧
        ∀ key ∈ task.keys, key ∈ call.held ∨ key ∈ keys
  | .absent request => call.Owns request.targets
  | .updated ban => call.Owns ban.targets
  | .lookedUp ban _ => call.Owns ban.targets
  | .ready (.created ban) => call.Owns ban.targets
  | .ready (.existing ban) => ∃ target ∈ ban.targets, target.key ∈ call.held
  | .ready (.deleted ban _ _) => call.Owns ban.targets
  | _ => True

/-- No row is an active ban of one of the targets. -/
def Unmatched (rows : List Ban) (targets : List Target) (now : Time) : Prop :=
  ∀ target ∈ targets, ∀ ban ∈ rows, ban.covers target = true → ban.activeAt now = false

/-- **What a call has seen**: no active ban for the targets of one that it creates. -/
def Call.Sees (call : Call) (rows : List Ban) : Prop :=
  match call.phase with
  | .absent request => Unmatched rows request.targets call.now
  | .ready (.created ban) => Unmatched rows ban.targets call.now
  | _ => True

/-- Two rows are not active bans of one target. -/
def Apart (rows : List Ban) (now : Time) : Prop :=
  rows.Pairwise fun ban ban' => ∀ target : Target, target.Named → ban.covers target = true →
    ban'.covers target = true → ¬ (ban.activeAt now = true ∧ ban'.activeAt now = true)

/-- **The invariant.** -/
structure Board.Tidy (b : Board) : Prop where
  began : ∀ call ∈ b.calls, call.now ≤ b.now
  exclusive : ∀ i j key, b.Holds i key → b.Holds j key → i = j
  secured : ∀ call ∈ b.calls, call.Secured
  sees : ∀ call ∈ b.calls, call.Sees b.rows
  apart : Apart b.rows b.now

theorem mem_lockBanTargets {sessionId ipAddress : String} :
    key ∈ lockBanTargets sessionId ipAddress ↔
      ∃ target ∈ targets sessionId ipAddress, target.key = key := by
  rw [lockBanTargets, List.mem_insertionSort, List.mem_map]

theorem named_of_mem_targets (h : target ∈ ban.targets) : target.Named :=
  (mem_targets_iff_covers.1 h).2

theorem mem_targets_of_covers (hcovers : ban.covers target = true) (h : target.Named) :
    target ∈ ban.targets := mem_targets_iff_covers.2 ⟨hcovers, h⟩

/-! ### Who holds what -/

theorem holds_of_mem (hget : b.calls[i]? = some call) (h : key ∈ call.held) : b.Holds i key :=
  ⟨call, hget, h⟩

theorem holds_setCall (h : (b.setCall i call').Holds j key) :
    (j = i ∧ key ∈ call'.held) ∨ (j ≠ i ∧ b.Holds j key) := by
  obtain ⟨call, hget, hmem⟩ := h
  rcases eq_or_ne j i with rfl | hne
  · have hlt := (List.getElem?_eq_some_iff.1 hget).1
    simp only [Board.setCall, List.length_set] at hlt
    simp only [Board.setCall, List.getElem?_set_self hlt, Option.some.injEq] at hget
    exact .inl ⟨rfl, hget ▸ hmem⟩
  · simp only [Board.setCall, List.getElem?_set_ne hne.symm] at hget
    exact .inr ⟨hne, call, hget, hmem⟩

theorem not_holds_of_not_takenByOther (h : b.takenByOther i key = false) (hne : j ≠ i) :
    ¬ b.Holds j key := by
  rintro ⟨call, hget, hmem⟩
  simp only [Board.takenByOther, List.any_eq_false, decide_eq_true_eq] at h
  exact h call (List.mem_eraseIdx_iff_getElem?.2 ⟨j, hne, hget⟩) hmem

/-- A statement takes one free lock at most. -/
theorem held_statement (h : b.statement i call id = some call') :
    call'.now = call.now ∧ ∀ key ∈ call'.held, key ∈ call.held ∨ b.takenByOther i key = false := by
  unfold Board.statement at h
  split at h
  case h_2 =>
      split at h
      · cases h
      next hfree =>
          obtain rfl := Option.some_inj.1 h
          refine ⟨rfl, fun key' hmem => ?_⟩
          rcases List.mem_cons.1 hmem with rfl | hmem
          · exact .inr (by simpa using hfree)
          · exact .inl hmem
  case h_8 => cases h
  all_goals
    try split at h
    all_goals first
      | (obtain rfl := Option.some_inj.1 h; exact ⟨rfl, fun _ hmem => .inl hmem⟩)
      | cases h

theorem exclusive_setCall (h : ∀ i j key, b.Holds i key → b.Holds j key → i = j)
    (hget : b.calls[i]? = some call)
    (hheld : ∀ key ∈ call'.held, key ∈ call.held ∨ b.takenByOther i key = false) :
    ∀ j k key, (b.setCall i call').Holds j key → (b.setCall i call').Holds k key → j = k := by
  -- what the call holds now, no other call holds
  have hown : ∀ key ∈ call'.held, ∀ k, k ≠ i → ¬ b.Holds k key := by
    intro key hmem k hne hother
    rcases hheld key hmem with hold | hfree
    · exact hne (h k i key hother (holds_of_mem hget hold))
    · exact not_holds_of_not_takenByOther hfree hne hother
  intro j k key hj hk
  rcases holds_setCall hj with ⟨rfl, hmem⟩ | ⟨hji, hbefore⟩
  · rcases holds_setCall hk with ⟨rfl, -⟩ | ⟨hki, hbefore'⟩
    · rfl
    · exact absurd hbefore' (hown key hmem k hki)
  · rcases holds_setCall hk with ⟨rfl, hmem'⟩ | ⟨-, hbefore'⟩
    · exact absurd hbefore (hown key hmem' j hji)
    · exact h j k key hbefore hbefore'

/-! ### What a call has after a statement -/

theorem owns_of_locking {sessionId ipAddress : String}
    (h : ∀ key ∈ lockBanTargets sessionId ipAddress, key ∈ call.held ∨ key ∈ ([] : List String)) :
    call.Owns (targets sessionId ipAddress) :=
  fun target htarget => (h _ (mem_lockBanTargets.2 ⟨target, htarget, rfl⟩)).resolve_right nofun

/-- A call that has no lock yet, and is to take those of a task. -/
theorem secured_locking (task : Task) (hheld : call.held = []) (hphase : call.phase = .locking task task.keys)
    (hsorted : task.keys.Pairwise (· ≤ ·)) : call.Secured := by
  simp only [Call.Secured, hphase, hheld]
  exact ⟨hsorted, nofun, fun key hmem => .inr hmem⟩

theorem pairwise_keys (task : Task) : task.keys.Pairwise (· ≤ ·) := by
  cases task <;> exact List.pairwise_insertionSort _ _

/-- **A statement leaves a call with the locks that it needs.** -/
theorem secured_statement (hsecured : call.Secured) (hs : b.statement i call id = some call') :
    call'.Secured := by
  unfold Board.statement at hs
  unfold Call.Secured at hsecured
  split at hs
  case h_1 banIdentifier hphase =>
      simp only [hphase] at hsecured
      split at hs
      next ban _ =>
          -- the locks of the ban that was found are to be taken
          obtain rfl := Option.some_inj.1 hs
          exact secured_locking (.delete ban) hsecured rfl (pairwise_keys _)
      next =>
          obtain rfl := Option.some_inj.1 hs
          trivial
  case h_2 task key keys hphase =>
      split at hs
      · cases hs
      · obtain rfl := Option.some_inj.1 hs
        simp only [hphase] at hsecured
        obtain ⟨hsorted, hbelow, htask⟩ := hsecured
        obtain ⟨hfirst, hrest⟩ := List.pairwise_cons.1 hsorted
        refine ⟨hrest, fun held hheld key' hkey' => ?_, fun wanted hwanted => ?_⟩
        · rcases List.mem_cons.1 hheld with rfl | hheld
          · exact hfirst key' hkey'
          · exact hbelow held hheld key' (List.mem_cons_of_mem _ hkey')
        · rcases htask wanted hwanted with hheld | hmem
          · exact .inl (List.mem_cons_of_mem _ hheld)
          · rcases List.mem_cons.1 hmem with rfl | hmem
            · exact .inl List.mem_cons_self
            · exact .inr hmem
  case h_3 request hphase =>
      simp only [hphase] at hsecured
      have howns : call.Owns request.targets := owns_of_locking hsecured.2.2
      split at hs
      next ban hfound =>
          obtain rfl := Option.some_inj.1 hs
          obtain ⟨-, -, target, htarget, hcovers⟩ := mem_activeBanLookup.1 (mem_of_newest hfound)
          exact ⟨target, mem_targets_of_covers hcovers (ne_of_mem_targets htarget),
            howns target htarget⟩
      next =>
          obtain rfl := Option.some_inj.1 hs
          exact howns
  case h_4 request hphase =>
      simp only [hphase] at hsecured
      split at hs
      · obtain rfl := Option.some_inj.1 hs
        exact hsecured
      · cases hs
  case h_5 ban hphase =>
      obtain rfl := Option.some_inj.1 hs
      simp only [hphase] at hsecured
      exact owns_of_locking hsecured.2.2
  case h_6 ban hphase =>
      obtain rfl := Option.some_inj.1 hs
      simp only [hphase] at hsecured
      exact hsecured
  case h_7 ban _ hphase =>
      obtain rfl := Option.some_inj.1 hs
      simp only [hphase] at hsecured
      exact hsecured
  case h_8 => cases hs

/-- **A call that creates a ban has seen no active one.** -/
theorem sees_statement (hsees : call.Sees b.rows) (hs : b.statement i call id = some call') :
    call'.Sees b.rows := by
  unfold Board.statement at hs
  unfold Call.Sees at hsees
  split at hs
  case h_3 request hphase =>
      split at hs
      next => obtain rfl := Option.some_inj.1 hs; trivial
      next hnone =>
          obtain rfl := Option.some_inj.1 hs
          intro target htarget ban hban hcovers
          by_contra hactive
          have hmem : ban ∈ activeBanLookup b.rows request call.now :=
            mem_activeBanLookup.2 ⟨hban, by simpa using hactive, target, htarget, hcovers⟩
          rw [newest_eq_none.1 hnone] at hmem
          cases hmem
  case h_4 request hphase =>
      simp only [hphase] at hsees
      split at hs
      · obtain rfl := Option.some_inj.1 hs
        exact hsees
      · cases hs
  case h_8 => cases hs
  all_goals
    try split at hs
    all_goals first
      | (obtain rfl := Option.some_inj.1 hs; trivial)
      | cases hs

/-! ### The invariant is kept -/

theorem Board.Tidy.congr (h : b.Tidy) (hnow : b'.now = b.now) (hrows : b'.rows = b.rows)
    (hcalls : b'.calls = b.calls) : b'.Tidy := by
  have hholds : ∀ i key, b'.Holds i key ↔ b.Holds i key := by
    intro i key
    simp only [Board.Holds, hcalls]
  refine ⟨?_, fun i j key hi hj => ?_, ?_, ?_, ?_⟩
  · simpa only [hcalls, hnow] using h.began
  · exact h.exclusive i j key ((hholds i key).1 hi) ((hholds j key).1 hj)
  · simpa only [hcalls] using h.secured
  · simpa only [hcalls, hrows] using h.sees
  · simpa only [hrows, hnow] using h.apart

/-- One call goes on, and the rows stay as they are. -/
theorem Board.Tidy.setCall (h : b.Tidy) (hget : b.calls[i]? = some call) (hnow : call'.now = call.now)
    (hheld : ∀ key ∈ call'.held, key ∈ call.held ∨ b.takenByOther i key = false)
    (hsecured : call'.Secured) (hsees : call'.Sees b.rows) : (b.setCall i call').Tidy := by
  have hmem : ∀ {other : Call}, other ∈ (b.setCall i call').calls → other ∈ b.calls ∨ other = call' :=
    fun hother => List.mem_or_eq_of_mem_set hother
  refine ⟨fun other hother => ?_, exclusive_setCall h.exclusive hget hheld, fun other hother => ?_,
    fun other hother => ?_, h.apart⟩
  · rcases hmem hother with hother | rfl
    · exact h.began other hother
    · exact hnow ▸ h.began call (List.mem_of_getElem? hget)
  · rcases hmem hother with hother | rfl
    · exact h.secured other hother
    · exact hsecured
  · rcases hmem hother with hother | rfl
    · exact h.sees other hother
    · exact hsees

theorem tidy_start (h : b.Tidy) (work : Work) :
    ({ b with calls := b.calls ++ [⟨b.now, [], work.phase⟩] } : Board).Tidy := by
  have hholds : ∀ j key, ({ b with calls := b.calls ++ [⟨b.now, [], work.phase⟩] } : Board).Holds j key →
      b.Holds j key := by
    rintro j key ⟨call, hget, hmem⟩
    rw [List.getElem?_append] at hget
    split at hget
    · exact ⟨call, hget, hmem⟩
    · -- the new call holds nothing yet
      obtain rfl := List.mem_singleton.1 (List.mem_of_getElem? hget)
      cases hmem
  refine ⟨fun call hcall => ?_, fun i j key hi hj => ?_, fun call hcall => ?_, fun call hcall => ?_,
    h.apart⟩
  · rcases List.mem_append.1 hcall with hcall | hcall
    · exact h.began call hcall
    · obtain rfl := List.mem_singleton.1 hcall
      exact le_rfl
  · exact h.exclusive i j key (hholds i key hi) (hholds j key hj)
  · rcases List.mem_append.1 hcall with hcall | hcall
    · exact h.secured call hcall
    · obtain rfl := List.mem_singleton.1 hcall
      cases work with
      | create request => exact secured_locking (.create request) rfl rfl (pairwise_keys _)
      | delete banIdentifier => exact rfl
  · rcases List.mem_append.1 hcall with hcall | hcall
    · exact h.sees call hcall
    · obtain rfl := List.mem_singleton.1 hcall
      cases work <;> trivial

theorem Apart.later (h : Apart rows now) (hle : now ≤ now') : Apart rows now' :=
  h.imp fun hapart target hnamed hcovers hcovers' hactive =>
    hapart target hnamed hcovers hcovers' ⟨activeAt_antitone hle hactive.1,
      activeAt_antitone hle hactive.2⟩

theorem tidy_tick (h : b.Tidy) (d : ℕ) : ({ b with now := b.now + d } : Board).Tidy := by
  have hle : b.now ≤ b.now + d := Int.le_add_of_nonneg_right (Int.natCast_nonneg d)
  exact ⟨fun call hcall => (h.began call hcall).trans hle, h.exclusive, h.secured, h.sees,
    h.apart.later hle⟩

/-! ### Commits -/

/-- A row that is not active now, if it is so after a lifting. -/
theorem activeAt_deactivate {lifted : String} (h : ban ∈ deactivate rows lifted)
    (hactive : ban.isActive = true) : ban ∈ rows := by
  obtain ⟨row, hrow, rfl⟩ := List.mem_map.1 h
  split at hactive
  · cases hactive
  next hne => rwa [if_neg hne]

/-- The commit of a call brings no ban for targets of which another call holds a lock. -/
theorem unmatched_apply {outcome : Outcome} {targets : List Target}
    (h : Unmatched rows targets now)
    (hfree : ∀ ban, outcome = .created ban → ∀ target ∈ targets, ban.covers target = false) :
    Unmatched (outcome.apply rows) targets now := by
  intro target htarget ban hban hcovers
  cases outcome with
  | created new =>
      rcases List.mem_append.1 hban with hban | hban
      · exact h target htarget ban hban hcovers
      · obtain rfl := List.mem_singleton.1 hban
        rw [hfree ban rfl target htarget] at hcovers
        cases hcovers
  | existing _ => exact h target htarget ban hban hcovers
  | deleted lifted _ _ =>
      cases hactive : ban.isActive with
      | false => simp [Ban.activeAt, hactive]
      | true => exact h target htarget ban (activeAt_deactivate hban hactive) hcovers

theorem covers_deactivated (row : Ban) (lifted : String) (target : Target) :
    (if row.id = lifted ∧ row.isActive then { row with isActive := false } else row).covers target =
      row.covers target := by
  split <;> cases target <;> rfl

theorem activeAt_of_deactivated {row : Ban} {lifted : String}
    (h : (if row.id = lifted ∧ row.isActive then { row with isActive := false }
      else row).activeAt now = true) : row.activeAt now = true := by
  split at h
  · cases h
  · exact h

/-- Lifting a ban leaves the others apart. -/
theorem Apart.deactivate (h : Apart rows now) (lifted : String) :
    Apart (Bans.deactivate rows lifted) now := by
  refine List.pairwise_map.2 (h.imp fun {row row'} hapart target hnamed hcovers hcovers' hactive => ?_)
  rw [covers_deactivated] at hcovers hcovers'
  exact hapart target hnamed hcovers hcovers'
    ⟨activeAt_of_deactivated hactive.1, activeAt_of_deactivated hactive.2⟩

theorem apart_apply {outcome : Outcome} (h : Apart rows now)
    (hunmatched : ∀ ban, outcome = .created ban → Unmatched rows ban.targets now) :
    Apart (outcome.apply rows) now := by
  cases outcome with
  | created new =>
      refine List.pairwise_append.2 ⟨h, List.pairwise_singleton _ _, fun ban hban ban' hban' => ?_⟩
      obtain rfl := List.mem_singleton.1 hban'
      intro target hnamed hcovers hcovers' hactive
      have hnot := hunmatched ban' rfl target (mem_targets_of_covers hcovers' hnamed) ban hban hcovers
      rw [hnot] at hactive
      exact absurd hactive.1 nofun
  | existing _ => exact h
  | deleted lifted _ _ => exact h.deactivate lifted.id

/-- What another call has seen still holds after a commit of a ban for other targets. -/
theorem Call.Sees.apply {outcome : Outcome} (hsees : call.Sees rows) (hsecured : call.Secured)
    (hfree : ∀ ban, outcome = .created ban → ∀ target ∈ ban.targets, target.key ∉ call.held) :
    call.Sees (outcome.apply rows) := by
  have happly : ∀ {targets : List Target}, call.Owns targets → (∀ target ∈ targets, target.Named) →
      Unmatched rows targets call.now → Unmatched (outcome.apply rows) targets call.now := by
    intro targets howns hnamed hunmatched
    refine unmatched_apply hunmatched fun ban hcreated target htarget => ?_
    by_contra hcovers
    have hmem : target ∈ ban.targets := mem_targets_of_covers (by simpa using hcovers) (hnamed target htarget)
    exact hfree ban hcreated target hmem (howns target htarget)
  unfold Call.Sees at hsees ⊢
  unfold Call.Secured at hsecured
  split at hsees
  next request hphase =>
      simp only [hphase] at hsecured
      exact happly hsecured (fun target htarget => ne_of_mem_targets htarget) hsees
  next ban hphase =>
      simp only [hphase] at hsecured
      exact happly hsecured (fun target htarget => ne_of_mem_targets htarget) hsees
  next => trivial

theorem mem_set_cases {calls : List Call} {other : Call} (h : other ∈ calls.set i call) :
    other = call ∨ ∃ j, j ≠ i ∧ calls[j]? = some other := by
  obtain ⟨j, hj⟩ := List.mem_iff_getElem?.1 h
  rcases eq_or_ne j i with rfl | hne
  · have hlt := (List.getElem?_eq_some_iff.1 hj).1
    rw [List.length_set] at hlt
    rw [List.getElem?_set_self hlt] at hj
    exact .inl (Option.some_inj.1 hj).symm
  · rw [List.getElem?_set_ne hne.symm] at hj
    exact .inr ⟨j, hne, hj⟩

/-- **A commit keeps the invariant**: what it creates has not been there, and nobody else is about to
create it. -/
theorem tidy_commit (h : b.Tidy) (hget : b.calls[i]? = some call) {outcome : Outcome}
    (hphase : call.phase = .ready outcome) : (b.commit i call outcome).Tidy := by
  have hcall := List.mem_of_getElem? hget
  have hsecured := h.secured call hcall
  have hsees := h.sees call hcall
  simp only [Call.Secured, hphase] at hsecured
  simp only [Call.Sees, hphase] at hsees
  refine ⟨fun other hother => ?_, exclusive_setCall h.exclusive hget nofun, fun other hother => ?_,
    fun other hother => ?_, ?_⟩
  · rcases mem_set_cases hother with rfl | ⟨j, -, hj⟩
    · exact h.began call hcall
    · exact h.began other (List.mem_of_getElem? hj)
  · rcases mem_set_cases hother with rfl | ⟨j, -, hj⟩
    · trivial
    · exact h.secured other (List.mem_of_getElem? hj)
  · rcases mem_set_cases hother with rfl | ⟨j, hne, hj⟩
    · trivial
    · have hmem := List.mem_of_getElem? hj
      refine (h.sees other hmem).apply (h.secured other hmem) fun ban hcreated target htarget hheld => ?_
      subst hcreated
      exact hne (h.exclusive j i target.key (holds_of_mem hj hheld)
        (holds_of_mem hget (hsecured target htarget)))
  · refine apart_apply h.apart fun ban hcreated target htarget row hrow hcovers => ?_
    subst hcreated
    by_contra hactive
    have hactive : row.activeAt b.now = true := Bool.of_not_eq_false hactive
    have hbefore := activeAt_antitone (h.began call hcall) hactive
    rw [hsees target htarget row hrow hcovers] at hbefore
    cases hbefore

/-- **Every event keeps the invariant.** -/
theorem tidy_step {ev : CallEvent} (h : b.Tidy) (hs : b.step ev = some b') : b'.Tidy := by
  rcases step_cases hs with ⟨work, -, rfl⟩ | ⟨i, id, call, -, hget, hproceed⟩ |
    ⟨i, call, -, hget, rfl⟩ | ⟨d, -, rfl⟩
  · exact tidy_start h work
  · have hcall := List.mem_of_getElem? hget
    rcases proceed_cases hproceed with ⟨outcome, hphase, rfl⟩ |
      ⟨number, ttl, instr, instrs, hphase, rfl⟩ | ⟨call', hstatement, rfl⟩
    · exact tidy_commit h hget hphase
    · have hset : (b.setCall i { call with
          phase := .propagating number (b.redis.exec b.now ttl instr).2 instrs }).Tidy :=
        h.setCall hget rfl (fun _ hmem => .inl hmem) trivial trivial
      exact hset.congr rfl rfl rfl
    · obtain ⟨hnow, hheld⟩ := held_statement hstatement
      exact h.setCall hget hnow hheld (secured_statement (h.secured call hcall) hstatement)
        (sees_statement (h.sees call hcall) hstatement)
  · exact h.setCall hget rfl nofun trivial trivial
  · exact tidy_tick h d

theorem tidy_emptyBoard (now : Time) : (emptyBoard now).Tidy := by
  have hnone : ∀ call, call ∉ (emptyBoard now).calls := fun _ => List.not_mem_nil
  refine ⟨fun call h => absurd h (hnone call), ?_, fun call h => absurd h (hnone call),
    fun call h => absurd h (hnone call), List.Pairwise.nil⟩
  rintro i j key ⟨call, hget, -⟩
  exact absurd (List.mem_of_getElem? hget) (hnone call)

theorem tidy_of_run {l : List CallEvent} (h : Run Board.step Always (emptyBoard now) l b) : b.Tidy := by
  have hstep : ∀ (b : Board) (ev : CallEvent) (b' : Board), b.Tidy → Always b ev →
      b.step ev = some b' → b'.Tidy := fun b ev b' hinv _ hs => tidy_step hinv hs
  exact Run.invariant hstep h (tidy_emptyBoard now)

/-! ### The law holds -/

theorem length_activeBans_le (h : b.Tidy) (hnamed : target.Named) :
    (activeBans b target).length ≤ 1 := by
  have hapart : (activeBans b target).Pairwise fun _ _ => False := by
    refine (List.Pairwise.filter _ h.apart).imp_of_mem fun {ban ban'} hban hban' hnot => ?_
    simp only [activeBans, List.mem_filter, Bool.and_eq_true] at hban hban'
    exact hnot target hnamed hban.2.1 hban'.2.1 ⟨hban.2.2, hban'.2.2⟩
  match hbans : activeBans b target with
  | [] => exact Nat.zero_le 1
  | [_] => exact le_rfl
  | ban :: ban' :: bans =>
      rw [hbans] at hapart
      exact absurd ((List.pairwise_cons.1 hapart).1 ban' List.mem_cons_self) id

/-- **Nobody waits for himself**, through others or not. -/
theorem not_waits_self (h : b.Tidy) (i : ℕ) :
    ¬ Relation.TransGen (OrderedLocks.WaitsFor b.Holds b.wants) i i := by
  refine OrderedLocks.not_transGen_self ?_ h.exclusive i
  -- the locks that are left to take do not come before those that are held
  rintro j key key' ⟨call, hget, hheld⟩ hwants
  have hsecured := h.secured call (List.mem_of_getElem? hget)
  simp only [Board.wants, hget, Option.map_some] at hwants
  split at hwants
  next task first keys hphase =>
      obtain rfl := Option.some_inj.1 hwants
      rw [Option.some_inj] at hphase
      simp only [Call.Secured, hphase] at hsecured
      exact hsecured.2.1 key hheld _ List.mem_cons_self
  next => cases hwants

/-- **At any time there is at most one active ban for a session and one for an address, and no circle
of calls that wait for each other.** -/
theorem banUniqueness : BanUniqueness := fun _ _ _ hrun =>
  ⟨fun _ hnamed => length_activeBans_le (tidy_of_run hrun) hnamed,
    not_waits_self (tidy_of_run hrun)⟩

/-- Two requests for one session at a time, the second also for an address. -/
def twoRequests : List CallEvent :=
  [.start (.create ⟨"a", "", "spam", none, Request.named_a⟩),
    .start (.create ⟨"a", "203.0.113.7", "abuse", some 5, by decide⟩),
    .advance 0 "", .advance 0 "", .advance 0 "1", .advance 0 "",
    .advance 1 "", .advance 1 "", .advance 1 "", .advance 1 ""]

/-- **The second request finds the ban of the first.** -/
theorem twoRequests_one_ban : ∃ b, Run Board.step Always (emptyBoard 0) twoRequests b ∧
    b.commits = 2 ∧ (activeBans b (.session "a")).length ≤ 1 := by
  obtain ⟨b, hrun, hcommits⟩ : ∃ b, Run Board.step Always (emptyBoard 0) twoRequests b ∧
      decide (b.commits = 2) = true := exists_run_of_execWhere (by decide +kernel)
  rw [decide_eq_true_eq] at hcommits
  exact ⟨b, hrun, hcommits, (banUniqueness 0 twoRequests b hrun).1 (.session "a") (by simp [Target.Named])⟩

end Bans
