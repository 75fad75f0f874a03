/-
**The ban keys and the bans in the database.**

After its commit a call writes the keys of the targets that it changed, and no lock keeps the
commands of one call from coming after those of a call that committed later.  The key of a ban that
was lifted may be set again then, and the key of a new ban deleted.  And a key may be set for longer
than its ban has left, as time passes after its time to live was computed, and a ban that has
expired is kept for another second.

For each target there is a ban, or none, that its last commit was about.  When the command of that
commit is not followed by one of an earlier commit, the key is in the end what the last commit made
it.

Main definitions:

* `Bans.StoreAgreement` — **when no call is in progress the key of a target exists iff it has an
  active ban**;
* `Bans.InOrder` — a command does not undo what a later commit has written, and a key is set for the
  time that its ban has left;
* `Bans.Traced`, `Bans.Board.Recorded` — what the last commit of a target was about, and the
  invariant.

Main results:

* `Bans.recorded_step` — every event in order keeps the invariant;
* `Bans.lateSet_after_delete` — the key of a lifted ban is set again;
* `Bans.storeAgreement_of_inOrder` — otherwise the two agree.
-/

import Mathlib.Data.List.Pairwise
import Pairline.Bans.Uniqueness

set_option relaxedAutoImplicit false
set_option autoImplicit false

namespace Bans

open Transition
open Whitespace (trim)

/-! ### The law -/

/-- No call is in progress. -/
def Board.AtRest (b : Board) : Prop := ∀ call ∈ b.calls, call.inProgress = false

/-- **The key of a target exists iff it has an active ban.** -/
def Board.KeyAgrees (b : Board) (target : Target) : Prop :=
  (∃ value ∈ b.redis.key target, value.live b.now = true) ↔ activeBans b target ≠ []

/-- A call that fails; a ban that is not found is no failure. -/
def CallEvent.isAbort : CallEvent → Bool
  | .abort _ => true
  | _ => false

/-- **When no call is in progress the keys and the bans agree**, in every run without failures whose
steps are `ok`. -/
def StoreAgreement (ok : Board → CallEvent → Prop) : Prop :=
  ∀ now l b, Run Board.step (fun b ev => ev.isAbort = false ∧ ok b ev) (emptyBoard now) l b →
    b.AtRest → ∀ target : Target, target.Named → b.KeyAgrees target

/-- The command that a call comes to next, with the number of its commit and the time to live that
was computed last. -/
def Call.command (call : Call) : Option (ℕ × Option Time × Instr) :=
  match call.phase with
  | .propagating number ttl (instr :: _) => some (number, ttl, instr)
  | _ => none

/-- A key is set for the time that its ban has left. -/
def Instr.timely (instr : Instr) (now : Time) (ttl : Option Time) : Bool :=
  match instr with
  | .set _ ban => ttl.map (now + ·) = ban.expiresAt && ban.unexpired now
  | _ => true

/-- **A step in order**: a command of the last commit of a target sets its key for the time that is
left, and a command of an earlier commit does not come after that of the last one. -/
def InOrder (b : Board) : CallEvent → Prop
  | .advance i _ =>
      ∀ command ∈ (b.calls[i]?).bind Call.command, ∀ target ∈ command.2.2.writes,
        if command.1 = b.changed target then command.2.2.timely b.now command.2.1 = true
        else b.written target ≠ b.changed target
  | _ => True

/-! ### What a call has found -/

variable {b b' : Board} {i j : ℕ} {call call' : Call} {id : String} {rows : List Ban}
  {ban row : Ban} {target : Target} {now now' : Time}

/-- The row of a ban, which may have been lifted since it was found. -/
def HasRow (rows : List Ban) (ban : Ban) : Prop :=
  ∃ row ∈ rows, row.id = ban.id ∧ row.targets = ban.targets

/-- The ban of a target that remains when another is lifted, or that there is none. -/
def Remains (rows : List Ban) (ban : Ban) (target : Target) (now : Time) (remaining : Option Ban) :
    Prop :=
  target ∈ ban.targets → match remaining with
    | some row => row ∈ rows ∧ row.isActive = true ∧ row.id ≠ ban.id ∧ row.covers target = true
    | none => ∀ row ∈ rows, row.id ≠ ban.id → row.covers target = true → row.activeAt now = false

/-- **What a call has found still holds.** -/
def Call.Finds (call : Call) (rows : List Ban) : Prop :=
  match call.phase with
  | .locking (.delete ban) _ => HasRow rows ban
  | .updated ban => HasRow rows ban
  | .lookedUp ban remainingSessionBan =>
      HasRow rows ban ∧ Remains rows ban (.session ban.sessionId) call.now remainingSessionBan
  | .ready (.created ban) => ban.isActive = true
  | .ready (.existing ban) => ban ∈ rows ∧ ban.isActive = true
  | .ready (.deleted ban remainingSessionBan remainingIPBan) =>
      HasRow rows ban ∧ Remains rows ban (.session ban.sessionId) call.now remainingSessionBan ∧
        Remains rows ban (.ip ban.ipAddress) call.now remainingIPBan
  | _ => True

theorem remains_remainingBan :
    Remains rows ban target now (remainingBan rows ban target now) := by
  intro htarget
  rw [remainingBan, if_pos htarget]
  cases hfound : latestActiveBan (deactivate rows ban.id) target now with
  | some row =>
      obtain ⟨hmem, hcovers, hactive⟩ := latestActiveBan_eq_some hfound
      obtain ⟨hrow, hrowActive, hne⟩ :=
        (mem_deactivate ban.id).1 ⟨hmem, isActive_of_activeAt hactive⟩
      exact ⟨hrow, hrowActive, hne, hcovers⟩
  | none =>
      intro row hrow hne hcovers
      by_contra hactive
      have hactive : row.activeAt now = true := Bool.of_not_eq_false hactive
      have hmem := (mem_deactivate ban.id).2 ⟨hrow, isActive_of_activeAt hactive, hne⟩
      exact latestActiveBan_eq_none.1 hfound row hmem.1 hcovers hactive

theorem mem_of_findBan {banIdentifier : String} (h : findBan rows banIdentifier = some ban) :
    ban ∈ rows := by
  unfold findBan at h
  split at h
  next found hfound =>
      obtain rfl := Option.some_inj.1 h
      exact List.mem_of_find?_eq_some hfound
  next => exact (List.mem_filter.1 (mem_of_newest h)).1

/-- **What a statement finds holds.** -/
theorem finds_statement (hfinds : call.Finds b.rows) (hs : b.statement i call id = some call') :
    call'.Finds b.rows := by
  unfold Board.statement at hs
  unfold Call.Finds at hfinds
  split at hs
  case h_1 banIdentifier hphase =>
      split at hs
      next ban hfound =>
          obtain rfl := Option.some_inj.1 hs
          exact ⟨ban, mem_of_findBan hfound, rfl, rfl⟩
      next =>
          obtain rfl := Option.some_inj.1 hs
          trivial
  case h_2 task key keys hphase =>
      split at hs
      · cases hs
      · obtain rfl := Option.some_inj.1 hs
        simp only [hphase] at hfinds
        cases task with
        | create request => trivial
        | delete ban => exact hfinds
  case h_3 request hphase =>
      split at hs
      next ban hfound =>
          obtain rfl := Option.some_inj.1 hs
          obtain ⟨hmem, hactive, -⟩ := mem_activeBanLookup.1 (mem_of_newest hfound)
          exact ⟨hmem, isActive_of_activeAt hactive⟩
      next =>
          obtain rfl := Option.some_inj.1 hs
          trivial
  case h_4 request hphase =>
      split at hs
      · obtain rfl := Option.some_inj.1 hs
        exact (rfl : (newBan request id call.now).isActive = true)
      · cases hs
  case h_5 ban hphase =>
      obtain rfl := Option.some_inj.1 hs
      simp only [hphase] at hfinds
      exact hfinds
  case h_6 ban hphase =>
      obtain rfl := Option.some_inj.1 hs
      simp only [hphase] at hfinds
      exact ⟨hfinds, remains_remainingBan⟩
  case h_7 ban _ hphase =>
      obtain rfl := Option.some_inj.1 hs
      simp only [hphase] at hfinds
      exact ⟨hfinds.1, hfinds.2, remains_remainingBan⟩
  case h_8 => cases hs

/-! ### Ids -/

/-- **No two rows have one id**, and none has that of a row that is about to be committed. -/
structure Board.DistinctIds (b : Board) : Prop where
  rows : b.rows.Pairwise fun row row' => row.id ≠ row'.id
  inserted : ∀ (i : ℕ) (call : Call), b.calls[i]? = some call → ∀ ban ∈ call.inserted,
    (∀ row ∈ b.rows, row.id ≠ ban.id) ∧ ∀ (j : ℕ) (call' : Call), j ≠ i →
      b.calls[j]? = some call' → ∀ ban' ∈ call'.inserted, ban'.id ≠ ban.id

theorem eq_of_id (h : rows.Pairwise fun row row' => row.id ≠ row'.id) {row' : Ban} (hrow : row ∈ rows)
    (hrow' : row' ∈ rows) (hid : row.id = row'.id) : row = row' := by
  have : Std.Symm fun row row' : Ban => row.id ≠ row'.id := ⟨fun _ _ => Ne.symm⟩
  by_contra hne
  exact h.forall hrow hrow' hne hid

theorem getElem?_setCall {other : Call} (h : (b.setCall i call').calls[j]? = some other) :
    (j = i ∧ other = call') ∨ (j ≠ i ∧ b.calls[j]? = some other) := by
  rcases eq_or_ne j i with rfl | hne
  · have hlt := (List.getElem?_eq_some_iff.1 h).1
    simp only [Board.setCall, List.length_set] at hlt
    simp only [Board.setCall, List.getElem?_set_self hlt, Option.some.injEq] at h
    exact .inl ⟨rfl, h.symm⟩
  · simp only [Board.setCall, List.getElem?_set_ne hne.symm] at h
    exact .inr ⟨hne, h⟩

theorem unusedId_iff : b.unusedId id = true ↔
    (∀ row ∈ b.rows, row.id ≠ id) ∧ ∀ call ∈ b.calls, ∀ ban ∈ call.inserted, ban.id ≠ id := by
  simp [Board.unusedId, Option.all_eq_true]

/-- A statement inserts a row with a new id, if any. -/
theorem inserted_statement (hs : b.statement i call id = some call') :
    ∀ ban ∈ call'.inserted, b.unusedId ban.id = true := by
  unfold Board.statement at hs
  split at hs
  case h_4 request hphase =>
      split at hs
      next hunused =>
          obtain rfl := Option.some_inj.1 hs
          rintro ban hban
          obtain rfl := Option.some_inj.1 hban
          exact hunused
      next => cases hs
  case h_8 => cases hs
  all_goals
    try split at hs
    all_goals first
      | (obtain rfl := Option.some_inj.1 hs; exact fun _ h => absurd h nofun)
      | cases hs

theorem Board.DistinctIds.setCall (h : b.DistinctIds)
    (hinserted : ∀ ban ∈ call'.inserted, b.unusedId ban.id = true) :
    (b.setCall i call').DistinctIds := by
  refine ⟨h.rows, fun j other hget ban hban => ?_⟩
  rcases getElem?_setCall hget with ⟨rfl, rfl⟩ | ⟨-, hbefore⟩
  · obtain ⟨hrows, hcalls⟩ := unusedId_iff.1 (hinserted ban hban)
    refine ⟨hrows, fun k other' hne hget' ban' hban' => ?_⟩
    rcases getElem?_setCall hget' with ⟨heq, -⟩ | ⟨-, hbefore⟩
    · exact absurd heq hne
    · exact hcalls other' (List.mem_of_getElem? hbefore) ban' hban'
  · obtain ⟨hrows, hcalls⟩ := h.inserted j other hbefore ban hban
    refine ⟨hrows, fun k other' hne hget' ban' hban' => ?_⟩
    rcases getElem?_setCall hget' with ⟨-, rfl⟩ | ⟨-, hbefore'⟩
    · -- the new id is not that of the other row
      obtain ⟨-, hcalls'⟩ := unusedId_iff.1 (hinserted ban' hban')
      exact (hcalls' other (List.mem_of_getElem? hbefore) ban hban).symm
    · exact hcalls k other' hne hbefore' ban' hban'

theorem distinctIds_commit (h : b.DistinctIds) (hget : b.calls[i]? = some call) {outcome : Outcome}
    (hphase : call.phase = .ready outcome) : (b.commit i call outcome).DistinctIds := by
  have hset : (b.setCall i { call with
      held := [], phase := .propagating (b.commits + 1) none outcome.propagation }).DistinctIds :=
    h.setCall fun _ hban => absurd hban nofun
  cases outcome with
  | existing ban => exact ⟨hset.rows, hset.inserted⟩
  | deleted ban _ _ =>
      refine ⟨?_, fun j other hother new hnew => ?_⟩
      · refine List.pairwise_map.2 (h.rows.imp fun {row row'} hne => ?_)
        split <;> split <;> exact hne
      · obtain ⟨hrows, hcalls⟩ := hset.inserted j other hother new hnew
        refine ⟨fun row hrow => ?_, hcalls⟩
        obtain ⟨row', hrow', rfl⟩ := List.mem_map.1 hrow
        have hne := hrows row' hrow'
        split <;> exact hne
  | created ban =>
      have hban : ban ∈ call.inserted := by simp [Call.inserted, hphase]
      obtain ⟨hrows, hcalls⟩ := h.inserted i call hget ban hban
      refine ⟨?_, fun j other hother new hnew => ?_⟩
      · refine List.pairwise_append.2 ⟨h.rows, List.pairwise_singleton _ _, fun row hrow row' hrow' => ?_⟩
        obtain rfl := List.mem_singleton.1 hrow'
        exact hrows row hrow
      · rcases getElem?_setCall hother with ⟨rfl, rfl⟩ | ⟨hne, hother'⟩
        · cases hnew
        · obtain ⟨hrows', hcalls'⟩ := hset.inserted j other hother new hnew
          refine ⟨fun row hrow => ?_, hcalls'⟩
          rcases List.mem_append.1 hrow with hrow | hrow
          · exact hrows' row hrow
          · obtain rfl := List.mem_singleton.1 hrow
            exact (hcalls j other hne hother' new hnew).symm

theorem distinctIds_step {ev : CallEvent} (h : b.DistinctIds) (hs : b.step ev = some b') :
    b'.DistinctIds := by
  rcases step_cases hs with ⟨work, -, rfl⟩ | ⟨i, id, call, -, hget, hproceed⟩ |
    ⟨i, call, -, hget, rfl⟩ | ⟨d, -, rfl⟩
  · refine ⟨h.rows, fun j call hget ban hban => ?_⟩
    have hold : ∀ {k : ℕ} {other : Call} {ban : Ban},
        (b.calls ++ [⟨b.now, [], work.phase⟩])[k]? = some other → ban ∈ other.inserted →
        b.calls[k]? = some other := by
      intro k other ban hother hban
      rw [List.getElem?_append] at hother
      split at hother
      · exact hother
      · obtain rfl := List.mem_singleton.1 (List.mem_of_getElem? hother)
        cases work <;> cases hban
    obtain ⟨hrows, hcalls⟩ := h.inserted j call (hold hget hban) ban hban
    exact ⟨hrows, fun k other hne hother ban' hban' =>
      hcalls k other hne (hold hother hban') ban' hban'⟩
  · rcases proceed_cases hproceed with ⟨outcome, hphase, rfl⟩ |
      ⟨number, ttl, instr, instrs, hphase, rfl⟩ | ⟨call', hstatement, rfl⟩
    · exact distinctIds_commit h hget hphase
    · have hset : (b.setCall i { call with
          phase := .propagating number (b.redis.exec b.now ttl instr).2 instrs }).DistinctIds :=
        h.setCall fun _ hban => absurd hban nofun
      exact ⟨hset.rows, hset.inserted⟩
    · exact h.setCall (inserted_statement hstatement)
  · exact h.setCall fun _ hban => absurd hban nofun
  · exact ⟨h.rows, h.inserted⟩

/-! ### What a commit leaves as it was -/

/-- The targets whose rows a commit changes. -/
def Outcome.touched : Outcome → List Target
  | .created ban => ban.targets
  | .existing _ => []
  | .deleted ban _ _ => ban.targets

/-- The ban that is lifted has a row. -/
def Outcome.Founded (rows : List Ban) : Outcome → Prop
  | .deleted ban _ _ => HasRow rows ban
  | _ => True

variable {outcome : Outcome}

theorem touched_subset (h : target ∈ outcome.touched) : target ∈ outcome.ban.targets := by
  cases outcome with
  | created _ => exact h
  | existing _ => cases h
  | deleted _ _ _ => exact h

theorem mem_of_mem_apply (h : row ∈ outcome.apply rows) (hactive : row.isActive = true)
    (htarget : target ∈ row.targets) (hfree : target ∉ outcome.touched) : row ∈ rows := by
  cases outcome with
  | created ban =>
      rcases List.mem_append.1 h with hrow | hrow
      · exact hrow
      · obtain rfl := List.mem_singleton.1 hrow
        exact absurd htarget hfree
  | existing _ => exact h
  | deleted ban _ _ => exact ((mem_deactivate ban.id).1 ⟨h, hactive⟩).1

theorem mem_apply_of_mem (hids : rows.Pairwise fun row row' => row.id ≠ row'.id)
    (hfounded : outcome.Founded rows) (h : row ∈ rows) (hactive : row.isActive = true)
    (htarget : target ∈ row.targets) (hfree : target ∉ outcome.touched) :
    row ∈ outcome.apply rows := by
  cases outcome with
  | created _ => exact List.mem_append_left _ h
  | existing _ => exact h
  | deleted ban _ _ =>
      refine ((mem_deactivate ban.id).2 ⟨h, hactive, fun hid => hfree ?_⟩).1
      -- a row with the id of the lifted ban has its targets
      obtain ⟨row', hrow', hid', htargets⟩ := hfounded
      obtain rfl := eq_of_id hids h hrow' (hid.trans hid'.symm)
      have hmem : target ∈ ban.targets := by rwa [← htargets]
      exact hmem

theorem HasRow.apply (h : HasRow rows ban) : HasRow (outcome.apply rows) ban := by
  obtain ⟨row, hrow, hid, htargets⟩ := h
  cases outcome with
  | created _ => exact ⟨row, List.mem_append_left _ hrow, hid, htargets⟩
  | existing _ => exact ⟨row, hrow, hid, htargets⟩
  | deleted lifted _ _ =>
      refine ⟨_, List.mem_map_of_mem hrow, ?_, ?_⟩
      · split <;> exact hid
      · split <;> exact htargets

theorem Remains.apply (hids : rows.Pairwise fun row row' => row.id ≠ row'.id)
    (hfounded : outcome.Founded rows) {remaining : Option Ban}
    (h : Remains rows ban target now remaining)
    (hfree : target ∈ ban.targets → target ∉ outcome.touched) :
    Remains (outcome.apply rows) ban target now remaining := by
  intro htarget
  have hnamed : target.Named := named_of_mem_targets htarget
  have hremains := h htarget
  cases remaining with
  | some row =>
      obtain ⟨hrow, hactive, hne, hcovers⟩ := hremains
      exact ⟨mem_apply_of_mem hids hfounded hrow hactive (mem_targets_of_covers hcovers hnamed)
        (hfree htarget), hactive, hne, hcovers⟩
  | none =>
      intro row hrow hne hcovers
      by_contra hactive
      have hactive : row.activeAt now = true := Bool.of_not_eq_false hactive
      have hmem := mem_of_mem_apply hrow (isActive_of_activeAt hactive)
        (mem_targets_of_covers hcovers hnamed) (hfree htarget)
      rw [hremains row hmem hne hcovers] at hactive
      cases hactive

/-- **What another call has found still holds after a commit** for targets that it has no lock of. -/
theorem Call.Finds.apply (hids : rows.Pairwise fun row row' => row.id ≠ row'.id)
    (hfounded : outcome.Founded rows) (hfinds : call.Finds rows) (hsecured : call.Secured)
    (hfree : ∀ target ∈ outcome.touched, target.key ∉ call.held) :
    call.Finds (outcome.apply rows) := by
  have howned : ∀ {ban : Ban}, call.Owns ban.targets → ∀ target, target ∈ ban.targets →
      target ∉ outcome.touched :=
    fun howns target htarget htouched => hfree target htouched (howns target htarget)
  unfold Call.Finds at hfinds ⊢
  unfold Call.Secured at hsecured
  split at hfinds
  next ban _ hphase => exact hfinds.apply
  next ban hphase => exact hfinds.apply
  next ban _ hphase =>
      simp only [hphase] at hsecured
      exact ⟨hfinds.1.apply, hfinds.2.apply hids hfounded (howned hsecured _)⟩
  next ban hphase => exact hfinds
  next ban hphase =>
      simp only [hphase] at hsecured
      obtain ⟨target, htarget, hheld⟩ := hsecured
      exact ⟨mem_apply_of_mem hids hfounded hfinds.1 hfinds.2 htarget
        fun htouched => hfree target htouched hheld, hfinds.2⟩
  next ban _ _ hphase =>
      simp only [hphase] at hsecured
      exact ⟨hfinds.1.apply, hfinds.2.1.apply hids hfounded (howned hsecured _),
        hfinds.2.2.apply hids hfounded (howned hsecured _)⟩
  next => trivial

/-! ### What the last commit of a target was about -/

/-- The rows of a target are those of the ban that is intended, if one is. -/
def Meant (rows : List Ban) (target : Target) (now : Time) : Option Ban → Prop
  | some ban => ban ∈ rows ∧ ban.isActive = true ∧ ban.covers target = true
  | none => ∀ row ∈ rows, row.covers target = true → row.activeAt now = false

/-- The key of a target is that of the ban that is intended, if one is. -/
def Shown (b : Board) (target : Target) : Option Ban → Prop
  | some ban => (∃ value ∈ b.redis.key target, value.expiresAt = ban.expiresAt) ∧
      ∀ row ∈ b.rows, row.covers target = true → row.activeAt b.now = true → row = ban
  | none => ∀ value ∈ b.redis.key target, value.live b.now = false

/-- What a command does about a target is what is intended. -/
def Instr.Intends (instr : Instr) (intended : Option Ban) : Prop :=
  match instr with
  | .set _ ban => intended = some ban
  | .del _ => intended = none
  | _ => True

/-- A call that is propagating its commit, with the commands that are left. -/
def Call.Propagates (call : Call) (number : ℕ) (instrs : List Instr) : Prop :=
  ∃ ttl, call.phase = .propagating number ttl instrs

/-- **What the last commit of a target was about**: the rows are so, its commands make the key so,
and the key is so once one of them has written it. -/
structure Traced (b : Board) (target : Target) (intended : Option Ban) : Prop where
  meant : Meant b.rows target b.now intended
  commands : ∀ (i : ℕ) (call : Call) (instrs : List Instr), b.calls[i]? = some call →
    call.Propagates (b.changed target) instrs →
    ∀ instr ∈ instrs, instr.writes = some target → instr.Intends intended
  shown : b.written target = b.changed target → Shown b target intended
  pending : b.written target ≠ b.changed target → ∃ (i : ℕ) (call : Call) (instrs : List Instr),
    b.calls[i]? = some call ∧ call.Propagates (b.changed target) instrs ∧
      ∃ instr ∈ instrs, instr.writes = some target

/-- The numbers of commits are those that have been given. -/
structure Board.Numbered (b : Board) : Prop where
  calls : ∀ (i : ℕ) (call : Call) (number : ℕ) (instrs : List Instr), b.calls[i]? = some call →
    call.Propagates number instrs → number ≤ b.commits
  changed : ∀ target, b.changed target ≤ b.commits
  written : ∀ target, b.written target ≤ b.commits

/-- **The invariant.** -/
structure Board.Recorded (b : Board) : Prop where
  tidy : b.Tidy
  ids : b.DistinctIds
  finds : ∀ call ∈ b.calls, call.Finds b.rows
  numbered : b.Numbered
  traced : ∀ target : Target, target.Named → ∃ intended, Traced b target intended

variable {intended : Option Ban}

theorem Meant.later (h : Meant rows target now intended) (hle : now ≤ now') :
    Meant rows target now' intended := by
  cases intended with
  | some ban => exact h
  | none =>
      intro row hrow hcovers
      by_contra hactive
      have hbefore := activeAt_antitone hle (Bool.of_not_eq_false hactive)
      rw [h row hrow hcovers] at hbefore
      cases hbefore

theorem live_antitone {value : KeyValue} (hle : now ≤ now') (h : value.live now' = true) :
    value.live now = true := by
  unfold KeyValue.live at *
  cases hexpires : value.expiresAt with
  | none => rfl
  | some expiresAt =>
      simp only [hexpires, decide_eq_true_eq] at h ⊢
      exact lt_of_le_of_lt hle h

theorem Traced.tick (h : Traced b target intended) (d : ℕ) :
    Traced { b with now := b.now + d } target intended := by
  have hle : b.now ≤ b.now + d := Int.le_add_of_nonneg_right (Int.natCast_nonneg d)
  refine ⟨h.meant.later hle, h.commands, fun hwritten => ?_, h.pending⟩
  have hshown := h.shown hwritten
  cases intended with
  | some ban =>
      exact ⟨hshown.1, fun row hrow hcovers hactive =>
        hshown.2 row hrow hcovers (activeAt_antitone hle hactive)⟩
  | none =>
      intro value hvalue
      by_contra hlive
      have hbefore := live_antitone hle (Bool.of_not_eq_false hlive)
      rw [hshown value hvalue] at hbefore
      cases hbefore

/-- A call that is not propagating goes on, and is not propagating then. -/
theorem Traced.setCall (h : Traced b target intended) (hget : b.calls[i]? = some call)
    (hbefore : ∀ number instrs, ¬ call.Propagates number instrs)
    (hafter : ∀ number instrs, ¬ call'.Propagates number instrs) :
    Traced (b.setCall i call') target intended := by
  refine ⟨h.meant, fun j other instrs hother hpropagates => ?_, h.shown, fun hwritten => ?_⟩
  · rcases getElem?_setCall hother with ⟨-, rfl⟩ | ⟨-, hother⟩
    · exact absurd hpropagates (hafter _ _)
    · exact h.commands j other instrs hother hpropagates
  · obtain ⟨j, other, instrs, hother, hpropagates, hinstr⟩ := h.pending hwritten
    refine ⟨j, other, instrs, ?_, hpropagates, hinstr⟩
    have hne : j ≠ i := by
      rintro rfl
      obtain rfl := Option.some_inj.1 (hget.symm.trans hother)
      exact hbefore _ _ hpropagates
    simpa only [Board.setCall, List.getElem?_set_ne hne.symm] using hother

theorem Traced.start (h : Traced b target intended) (work : Work) :
    Traced { b with calls := b.calls ++ [⟨b.now, [], work.phase⟩] } target intended := by
  refine ⟨h.meant, fun j other instrs hother hpropagates => ?_, h.shown, fun hwritten => ?_⟩
  · rw [List.getElem?_append] at hother
    split at hother
    · exact h.commands j other instrs hother hpropagates
    · obtain rfl := List.mem_singleton.1 (List.mem_of_getElem? hother)
      obtain ⟨ttl, hphase⟩ := hpropagates
      cases work <;> cases hphase
  · obtain ⟨j, other, instrs, hother, hpropagates, hinstr⟩ := h.pending hwritten
    have hlt := (List.getElem?_eq_some_iff.1 hother).1
    exact ⟨j, other, instrs, (List.getElem?_append_left hlt).trans hother, hpropagates, hinstr⟩

theorem getElem?_set_of_ne {calls : List Call} {other : Call} (hget : calls[i]? = some call)
    (hother : calls[j]? = some other) (hne : other ≠ call) : (calls.set i call')[j]? = some other := by
  have hji : i ≠ j := by
    rintro rfl
    exact hne (Option.some_inj.1 (hother.symm.trans hget))
  rw [List.getElem?_set_ne hji, hother]

/-- A command that does not write a key leaves it as it is. -/
theorem key_exec {redis : Redis} {ttl : Option Time} {instr : Instr}
    (h : instr.writes ≠ some target) : (redis.exec now ttl instr).1.key target = redis.key target := by
  cases instr with
  | set other ban =>
      exact Function.update_of_ne (fun heq => h (congrArg some heq.symm)) _ _
  | del other => exact Function.update_of_ne (fun heq => h (congrArg some heq.symm)) _ _
  | redisBanTTL _ => rfl
  | sadd _ => rfl
  | srem _ => rfl
  | publish _ => rfl

/-- Of two active bans of one target, in one list of rows that are apart. -/
theorem Apart.eq (h : Apart rows now) (hnamed : target.Named) {row' : Ban} (hrow : row ∈ rows)
    (hrow' : row' ∈ rows) (hcovers : row.covers target = true) (hcovers' : row'.covers target = true)
    (hactive : row.activeAt now = true) (hactive' : row'.activeAt now = true) : row = row' := by
  have : Std.Symm fun ban ban' : Ban => ∀ target : Target, target.Named → ban.covers target = true →
      ban'.covers target = true → ¬ (ban.activeAt now = true ∧ ban'.activeAt now = true) :=
    ⟨fun _ _ hnot target hnamed hcovers hcovers' hactive =>
      hnot target hnamed hcovers' hcovers hactive.symm⟩
  by_contra hne
  exact List.Pairwise.forall h hrow hrow' hne target hnamed hcovers hcovers' ⟨hactive, hactive'⟩

/-- **A command of the last commit makes the key what is intended.** -/
theorem shown_send {ttl : Option Time} {instr : Instr} (happart : Apart b.rows b.now)
    (hnamed : target.Named) (hmeant : Meant b.rows target b.now intended)
    (hwrites : instr.writes = some target) (hintends : instr.Intends intended)
    (htimely : instr.timely b.now ttl = true) {number : ℕ} {instrs : List Instr} :
    Shown (b.send i call number ttl instr instrs) target intended := by
  cases instr with
  | set other ban =>
      obtain rfl : other = target := Option.some_inj.1 hwrites
      obtain rfl : intended = some ban := hintends
      obtain ⟨hmem, hactive, hcovers⟩ := hmeant
      simp only [Instr.timely, Bool.and_eq_true, decide_eq_true_eq] at htimely
      refine ⟨⟨_, Function.update_self _ _ _, htimely.1⟩, fun row hrow hrowCovers hrowActive => ?_⟩
      have hbanActive : ban.activeAt b.now = true := by simp [Ban.activeAt, hactive, htimely.2]
      exact happart.eq hnamed hrow hmem hrowCovers hcovers hrowActive hbanActive
  | del other =>
      obtain rfl : other = target := Option.some_inj.1 hwrites
      obtain rfl : intended = none := hintends
      intro value hvalue
      simp [Board.send, Redis.exec] at hvalue
  | redisBanTTL _ => cases hwrites
  | sadd _ => cases hwrites
  | srem _ => cases hwrites
  | publish _ => cases hwrites

theorem Traced.send (h : Traced b target intended) (happart : Apart b.rows b.now)
    (hnamed : target.Named) (hget : b.calls[i]? = some call) {number : ℕ} {ttl : Option Time}
    {instr : Instr} {instrs : List Instr}
    (hphase : call.phase = .propagating number ttl (instr :: instrs))
    (horder : instr.writes = some target → if number = b.changed target
      then instr.timely b.now ttl = true else b.written target ≠ b.changed target) :
    Traced (b.send i call number ttl instr instrs) target intended := by
  have hcall : call.Propagates number (instr :: instrs) := ⟨ttl, hphase⟩
  have hself : ∀ {n : ℕ} {rest : List Instr}, call.Propagates n rest →
      n = number ∧ rest = instr :: instrs := by
    rintro n rest ⟨ttl', hphase'⟩
    cases hphase.symm.trans hphase'
    exact ⟨rfl, rfl⟩
  refine ⟨h.meant, fun j other rest hother hpropagates next hnext hwrites => ?_, fun hwritten => ?_,
    fun hwritten => ?_⟩
  · rcases getElem?_setCall hother with ⟨-, rfl⟩ | ⟨-, hother⟩
    · obtain ⟨ttl', hphase'⟩ := hpropagates
      obtain ⟨hnumber, -, rfl⟩ := Phase.propagating.inj hphase'
      have hlast : number = b.changed target := hnumber
      exact h.commands i call _ hget (hlast ▸ hcall) next (List.mem_cons_of_mem _ hnext) hwrites
    · exact h.commands j other rest hother hpropagates next hnext hwrites
  · by_cases hwrites : instr.writes = some target
    · simp only [Board.send, hwrites, if_true] at hwritten
      have htimely := horder hwrites
      rw [if_pos hwritten] at htimely
      exact shown_send happart hnamed h.meant hwrites
        (h.commands i call _ hget (hwritten ▸ hcall) instr List.mem_cons_self hwrites) htimely
    · simp only [Board.send, if_neg hwrites] at hwritten
      have hshown := h.shown hwritten
      have hkey : (b.send i call number ttl instr instrs).redis.key target = b.redis.key target :=
        key_exec hwrites
      cases intended with
      | some ban => exact ⟨by simpa only [hkey] using hshown.1, hshown.2⟩
      | none =>
          intro value hvalue
          rw [hkey] at hvalue
          exact hshown value hvalue
  · by_cases hwrites : instr.writes = some target
    · -- the command was not of the last commit, whose own is still to come
      simp only [Board.send, hwrites, if_true] at hwritten
      have hbefore := horder hwrites
      rw [if_neg hwritten] at hbefore
      obtain ⟨j, other, rest, hother, hpropagates, hnext⟩ := h.pending hbefore
      refine ⟨j, other, rest, getElem?_set_of_ne hget hother ?_, hpropagates, hnext⟩
      rintro rfl
      exact hwritten (hself hpropagates).1.symm
    · simp only [Board.send, if_neg hwrites] at hwritten
      obtain ⟨j, other, rest, hother, hpropagates, next, hnext, hnextWrites⟩ := h.pending hwritten
      rcases eq_or_ne j i with rfl | hne
      · obtain rfl := Option.some_inj.1 (hget.symm.trans hother)
        obtain ⟨hnumber, rfl⟩ := hself hpropagates
        have hlt := (List.getElem?_eq_some_iff.1 hget).1
        refine ⟨j, _, instrs, List.getElem?_set_self hlt, ⟨(b.redis.exec b.now ttl instr).2, ?_⟩,
          next, ?_, hnextWrites⟩
        · exact congrArg (Phase.propagating · _ instrs) hnumber.symm
        · refine (List.mem_cons.1 hnext).resolve_left ?_
          rintro rfl
          exact hwrites hnextWrites
      · exact ⟨j, other, rest, (List.getElem?_set_ne hne.symm).trans hother, hpropagates, next, hnext,
          hnextWrites⟩

/-! ### What a commit is about -/

/-- What the commit intends for a target. -/
def Outcome.intends (outcome : Outcome) (target : Target) : Option Ban :=
  match outcome with
  | .created ban => some ban
  | .existing ban => some ban
  | .deleted _ remainingSessionBan remainingIPBan =>
      match target with
      | .session _ => remainingSessionBan
      | .ip _ => remainingIPBan

theorem eq_set_of_mem_propagateBan {instr : Instr} (h : instr ∈ propagateBan ban)
    (hwrites : instr.writes = some target) : instr = .set target ban := by
  unfold propagateBan setIndexedValue at h
  rcases List.mem_cons.1 h with rfl | h
  · cases hwrites
  · rcases List.mem_append.1 h with h | h
    · split at h
      · cases h
      · simp only [List.cons_append, List.nil_append, List.mem_cons, List.not_mem_nil, or_false] at h
        rcases h with rfl | rfl | rfl
        · rw [Option.some_inj.1 hwrites]
        · cases hwrites
        · cases hwrites
    · split at h
      · cases h
      · simp only [List.cons_append, List.nil_append, List.mem_cons, List.not_mem_nil, or_false] at h
        rcases h with rfl | rfl | rfl
        · rw [Option.some_inj.1 hwrites]
        · cases hwrites
        · cases hwrites

theorem set_mem_propagateBan (h : target ∈ ban.targets) : .set target ban ∈ propagateBan ban := by
  rcases mem_targets.1 h with ⟨hne, rfl⟩ | ⟨hne, rfl⟩
  · simp [propagateBan, setIndexedValue, hne]
  · simp [propagateBan, setIndexedValue, hne]

theorem intends_refreshOrDelete {instr : Instr} {action : AdminAction} {remaining : Option Ban}
    {target' : Target} (h : instr ∈ refreshOrDelete target action remaining)
    (hwrites : instr.writes = some target') : target = target' ∧ instr.Intends remaining := by
  cases remaining with
  | some row =>
      simp only [refreshOrDelete, setIndexedValue, List.mem_cons, List.not_mem_nil, or_false] at h
      rcases h with rfl | rfl | rfl
      · cases hwrites
      · exact ⟨Option.some_inj.1 hwrites, rfl⟩
      · cases hwrites
  | none =>
      simp only [refreshOrDelete, deleteIndexedKey, List.cons_append, List.nil_append, List.mem_cons,
        List.not_mem_nil, or_false] at h
      rcases h with rfl | rfl | rfl
      · exact ⟨Option.some_inj.1 hwrites, rfl⟩
      · cases hwrites
      · cases hwrites

theorem exists_writes_refreshOrDelete (target : Target) (action : AdminAction)
    (remaining : Option Ban) :
    ∃ instr ∈ refreshOrDelete target action remaining, instr.writes = some target := by
  cases remaining with
  | some row => exact ⟨.set target row, by simp [refreshOrDelete, setIndexedValue], rfl⟩
  | none => exact ⟨.del target, by simp [refreshOrDelete, deleteIndexedKey], rfl⟩

/-- **The commands after a commit intend what it is about.** -/
theorem intends_propagation {instr : Instr} (h : instr ∈ outcome.propagation)
    (hwrites : instr.writes = some target) : instr.Intends (outcome.intends target) := by
  cases outcome with
  | created ban =>
      obtain rfl := eq_set_of_mem_propagateBan h hwrites
      exact rfl
  | existing ban =>
      obtain rfl := eq_set_of_mem_propagateBan h hwrites
      exact rfl
  | deleted ban remainingSessionBan remainingIPBan =>
      simp only [Outcome.propagation, propagateUnban] at h
      rcases List.mem_append.1 h with h | h
      · split at h
        · cases h
        · obtain ⟨rfl, hintends⟩ := intends_refreshOrDelete h hwrites
          exact hintends
      · split at h
        · cases h
        · obtain ⟨rfl, hintends⟩ := intends_refreshOrDelete h hwrites
          exact hintends

/-- … and write the keys of all its targets. -/
theorem exists_writes_propagation (h : target ∈ outcome.ban.targets) :
    ∃ instr ∈ outcome.propagation, instr.writes = some target := by
  cases outcome with
  | created ban => exact ⟨_, set_mem_propagateBan h, rfl⟩
  | existing ban => exact ⟨_, set_mem_propagateBan h, rfl⟩
  | deleted ban remainingSessionBan remainingIPBan =>
      simp only [Outcome.propagation, propagateUnban]
      rcases mem_targets.1 h with ⟨hne, rfl⟩ | ⟨hne, rfl⟩
      · have hsession : ban.sessionId ≠ "" := hne
        obtain ⟨instr, hinstr, hwrites⟩ := exists_writes_refreshOrDelete (.session ban.sessionId)
          (.unban ban.sessionId ban.ipAddress) remainingSessionBan
        exact ⟨instr, List.mem_append_left _ (by rwa [if_neg hsession]), hwrites⟩
      · have hip : ban.ipAddress ≠ "" := hne
        obtain ⟨instr, hinstr, hwrites⟩ := exists_writes_refreshOrDelete (.ip ban.ipAddress)
          (.unbanIP ban.ipAddress) remainingIPBan
        exact ⟨instr, List.mem_append_right _ (by rwa [if_neg hip]), hwrites⟩

/-- What remains when a ban has been lifted. -/
theorem Remains.meant {remaining : Option Ban} (h : Remains rows ban target now remaining)
    (htarget : target ∈ ban.targets) (hle : now ≤ now') :
    Meant (deactivate rows ban.id) target now' remaining := by
  have hremains := h htarget
  cases remaining with
  | some row =>
      obtain ⟨hrow, hactive, hne, hcovers⟩ := hremains
      exact ⟨((mem_deactivate ban.id).2 ⟨hrow, hactive, hne⟩).1, hactive, hcovers⟩
  | none =>
      intro row hrow hcovers
      by_contra hactive
      have hactive : row.activeAt now' = true := Bool.of_not_eq_false hactive
      obtain ⟨hmem, -, hne⟩ := (mem_deactivate ban.id).1 ⟨hrow, isActive_of_activeAt hactive⟩
      have hbefore := activeAt_antitone hle hactive
      rw [hremains row hmem hne hcovers] at hbefore
      cases hbefore

/-- **The rows after a commit are as it intends.** -/
theorem meant_apply (htarget : target ∈ outcome.ban.targets)
    (hphase : call.phase = .ready outcome) (hfinds : call.Finds rows) (hle : call.now ≤ now) :
    Meant (outcome.apply rows) target now (outcome.intends target) := by
  have hcovers : outcome.ban.covers target = true := (mem_targets_iff_covers.1 htarget).1
  unfold Call.Finds at hfinds
  simp only [hphase] at hfinds
  cases outcome with
  | created ban => exact ⟨List.mem_append_right _ (List.mem_singleton_self _), hfinds, hcovers⟩
  | existing ban => exact ⟨hfinds.1, hfinds.2, hcovers⟩
  | deleted ban remainingSessionBan remainingIPBan =>
      rcases mem_targets.1 htarget with ⟨-, rfl⟩ | ⟨-, rfl⟩
      · exact hfinds.2.1.meant htarget hle
      · exact hfinds.2.2.meant htarget hle

/-- The last commit of a target is the one that has just been made. -/
theorem traced_commit_of_mem (hnumbered : b.Numbered) (hget : b.calls[i]? = some call)
    (hphase : call.phase = .ready outcome) (hfinds : call.Finds b.rows) (hle : call.now ≤ b.now)
    (htarget : target ∈ outcome.ban.targets) :
    Traced (b.commit i call outcome) target (outcome.intends target) := by
  have hchanged : (b.commit i call outcome).changed target = b.commits + 1 := if_pos htarget
  refine ⟨meant_apply htarget hphase hfinds hle, fun j other instrs hother hpropagates => ?_,
    fun hwritten => ?_, fun _ => ?_⟩
  · rw [hchanged] at hpropagates
    rcases getElem?_setCall hother with ⟨-, rfl⟩ | ⟨-, hother⟩
    · obtain ⟨ttl, hphase'⟩ := hpropagates
      obtain ⟨-, -, rfl⟩ := Phase.propagating.inj hphase'
      exact fun instr hinstr hwrites => intends_propagation hinstr hwrites
    · have hle := hnumbered.calls j other _ instrs hother hpropagates
      omega
  · rw [hchanged] at hwritten
    have hle := hnumbered.written target
    have heq : b.written target = b.commits + 1 := hwritten
    omega
  · obtain ⟨instr, hinstr, hwrites⟩ := exists_writes_propagation htarget
    have hlt := (List.getElem?_eq_some_iff.1 hget).1
    refine ⟨i, _, outcome.propagation, List.getElem?_set_self hlt, ⟨none, ?_⟩, instr, hinstr, hwrites⟩
    rw [hchanged]

/-- A commit leaves the other targets alone. -/
theorem Traced.commit (h : Traced b target intended) (hids : b.DistinctIds) (hnumbered : b.Numbered)
    (hnamed : target.Named) (hget : b.calls[i]? = some call) (hphase : call.phase = .ready outcome)
    (hfounded : outcome.Founded b.rows) (htarget : target ∉ outcome.ban.targets) :
    Traced (b.commit i call outcome) target intended := by
  have hchanged : (b.commit i call outcome).changed target = b.changed target := if_neg htarget
  have hfree : target ∉ outcome.touched := fun htouched => htarget (touched_subset htouched)
  -- an active row of the target was there before
  have hrows : ∀ row ∈ outcome.apply b.rows, row.covers target = true → row.activeAt b.now = true →
      row ∈ b.rows := fun row hrow hcovers hactive =>
    mem_of_mem_apply hrow (isActive_of_activeAt hactive) (mem_targets_of_covers hcovers hnamed) hfree
  refine ⟨?_, fun j other instrs hother hpropagates => ?_, fun hwritten => ?_, fun hwritten => ?_⟩
  · have hmeant := h.meant
    cases intended with
    | some ban =>
        obtain ⟨hmem, hactive, hcovers⟩ := hmeant
        exact ⟨mem_apply_of_mem hids.rows hfounded hmem hactive (mem_targets_of_covers hcovers hnamed)
          hfree, hactive, hcovers⟩
    | none =>
        intro row hrow hcovers
        by_contra hactive
        have hactive : row.activeAt b.now = true := Bool.of_not_eq_false hactive
        rw [hmeant row (hrows row hrow hcovers hactive) hcovers] at hactive
        cases hactive
  · rw [hchanged] at hpropagates
    rcases getElem?_setCall hother with ⟨-, rfl⟩ | ⟨-, hother⟩
    · obtain ⟨ttl, hphase'⟩ := hpropagates
      obtain ⟨hnumber, -, -⟩ := Phase.propagating.inj hphase'
      have hle := hnumbered.changed target
      omega
    · exact h.commands j other instrs hother hpropagates
  · rw [hchanged] at hwritten
    have hshown := h.shown hwritten
    cases intended with
    | some ban =>
        exact ⟨hshown.1, fun row hrow hcovers hactive =>
          hshown.2 row (hrows row hrow hcovers hactive) hcovers hactive⟩
    | none => exact hshown
  · rw [hchanged] at hwritten ⊢
    obtain ⟨j, other, instrs, hother, hpropagates, hinstr⟩ := h.pending hwritten
    refine ⟨j, other, instrs, getElem?_set_of_ne hget hother ?_, hpropagates, hinstr⟩
    rintro rfl
    obtain ⟨ttl, hphase'⟩ := hpropagates
    exact absurd (hphase.symm.trans hphase') nofun

/-! ### The invariant is kept -/

/-- A statement is none of the steps after the commit. -/
theorem not_propagates_of_statement (hs : b.statement i call id = some call') :
    (∀ number instrs, ¬ call.Propagates number instrs) ∧
      ∀ number instrs, ¬ call'.Propagates number instrs := by
  constructor
  · rintro number instrs ⟨ttl, hphase⟩
    simp [Board.statement, hphase] at hs
  · rintro number instrs ⟨ttl, hphase⟩
    unfold Board.statement at hs
    split at hs
    case h_8 => cases hs
    all_goals
      try split at hs
      all_goals first
        | (obtain rfl := Option.some_inj.1 hs; cases hphase)
        | cases hs

theorem Board.Numbered.setCall (h : b.Numbered)
    (hafter : ∀ number instrs, call'.Propagates number instrs → number ≤ b.commits) :
    (b.setCall i call').Numbered := by
  refine ⟨fun j other number instrs hother hpropagates => ?_, h.changed, h.written⟩
  rcases getElem?_setCall hother with ⟨-, rfl⟩ | ⟨-, hother⟩
  · exact hafter number instrs hpropagates
  · exact h.calls j other number instrs hother hpropagates

theorem numbered_commit (h : b.Numbered) : (b.commit i call outcome).Numbered := by
  refine ⟨fun j other number instrs hother hpropagates => ?_, fun target => ?_, fun target => ?_⟩
  · rcases getElem?_setCall hother with ⟨-, rfl⟩ | ⟨-, hother⟩
    · obtain ⟨ttl, hphase⟩ := hpropagates
      obtain ⟨rfl, -, -⟩ := Phase.propagating.inj hphase
      exact le_rfl
    · exact (h.calls j other number instrs hother hpropagates).trans (Nat.le_succ _)
  · simp only [Board.commit]
    split
    · exact le_rfl
    · exact (h.changed target).trans (Nat.le_succ _)
  · exact (h.written target).trans (Nat.le_succ _)

theorem recorded_commit (h : b.Recorded) (hget : b.calls[i]? = some call)
    (hphase : call.phase = .ready outcome) : (b.commit i call outcome).Recorded := by
  have hcall := List.mem_of_getElem? hget
  have hfinds := h.finds call hcall
  have hsecured := h.tidy.secured call hcall
  have hfounded : outcome.Founded b.rows := by
    unfold Call.Finds at hfinds
    simp only [hphase] at hfinds
    cases outcome with
    | created _ => trivial
    | existing _ => trivial
    | deleted _ _ _ => exact hfinds.1
  -- the locks of what is changed are held until now
  have howns : ∀ target ∈ outcome.touched, target.key ∈ call.held := by
    unfold Call.Secured at hsecured
    simp only [hphase] at hsecured
    cases outcome with
    | created _ => exact hsecured
    | existing _ => exact nofun
    | deleted _ _ _ => exact hsecured
  refine ⟨tidy_commit h.tidy hget hphase, distinctIds_commit h.ids hget hphase, fun other hother => ?_,
    numbered_commit h.numbered, fun target hnamed => ?_⟩
  · rcases mem_set_cases hother with rfl | ⟨j, hne, hj⟩
    · trivial
    · have hmem := List.mem_of_getElem? hj
      refine (h.finds other hmem).apply h.ids.rows hfounded (h.tidy.secured other hmem)
        fun target htouched hheld => hne ?_
      exact h.tidy.exclusive j i target.key (holds_of_mem hj hheld)
        (holds_of_mem hget (howns target htouched))
  · by_cases htarget : target ∈ outcome.ban.targets
    · exact ⟨_, traced_commit_of_mem h.numbered hget hphase hfinds (h.tidy.began call hcall) htarget⟩
    · obtain ⟨intended, htraced⟩ := h.traced target hnamed
      exact ⟨intended, htraced.commit h.ids h.numbered hnamed hget hphase hfounded htarget⟩

theorem not_propagates_start (now : Time) (work : Work) {number : ℕ} {instrs : List Instr} :
    ¬ (⟨now, [], work.phase⟩ : Call).Propagates number instrs := by
  rintro ⟨ttl, hphase⟩
  cases work <;> cases hphase

theorem numbered_start (h : b.Numbered) (work : Work) :
    Board.Numbered { b with calls := b.calls ++ [⟨b.now, [], work.phase⟩] } := by
  refine ⟨fun j other number instrs hother hpropagates => ?_, h.changed, h.written⟩
  rw [List.getElem?_append] at hother
  split at hother
  · exact h.calls j other number instrs hother hpropagates
  · obtain rfl := List.mem_singleton.1 (List.mem_of_getElem? hother)
    exact absurd hpropagates (not_propagates_start b.now work)

theorem numbered_send {number : ℕ} {ttl : Option Time} {instr : Instr} {instrs : List Instr}
    (h : b.Numbered) (hle : number ≤ b.commits) :
    (b.send i call number ttl instr instrs).Numbered := by
  refine ⟨fun j other n rest hother hpropagates => ?_, h.changed, fun target => ?_⟩
  · rcases getElem?_setCall hother with ⟨-, rfl⟩ | ⟨-, hother⟩
    · obtain ⟨ttl', hphase⟩ := hpropagates
      obtain ⟨rfl, -, -⟩ := Phase.propagating.inj hphase
      exact hle
    · exact h.calls j other n rest hother hpropagates
  · simp only [Board.send]
    split
    · exact hle
    · exact h.written target

theorem recorded_start (h : b.Recorded) (work : Work)
    (htidy : Board.Tidy { b with calls := b.calls ++ [⟨b.now, [], work.phase⟩] })
    (hids : Board.DistinctIds { b with calls := b.calls ++ [⟨b.now, [], work.phase⟩] }) :
    Board.Recorded { b with calls := b.calls ++ [⟨b.now, [], work.phase⟩] } := by
  refine ⟨htidy, hids, fun other hother => ?_, numbered_start h.numbered work, fun target hnamed => ?_⟩
  · rcases List.mem_append.1 hother with hother | hother
    · exact h.finds other hother
    · obtain rfl := List.mem_singleton.1 hother
      cases work <;> trivial
  · obtain ⟨intended, htraced⟩ := h.traced target hnamed
    exact ⟨intended, htraced.start work⟩

theorem recorded_send (h : b.Recorded) (hget : b.calls[i]? = some call) {number : ℕ}
    {ttl : Option Time} {instr : Instr} {instrs : List Instr}
    (hphase : call.phase = .propagating number ttl (instr :: instrs))
    (hok : InOrder b (.advance i id)) (htidy : (b.send i call number ttl instr instrs).Tidy)
    (hids : (b.send i call number ttl instr instrs).DistinctIds) :
    (b.send i call number ttl instr instrs).Recorded := by
  have hcommand : (b.calls[i]?).bind Call.command = some (number, ttl, instr) := by
    simp [hget, Call.command, hphase]
  have hle := h.numbered.calls i call number (instr :: instrs) hget ⟨ttl, hphase⟩
  refine ⟨htidy, hids, fun other hother => ?_, numbered_send h.numbered hle, fun target hnamed => ?_⟩
  · rcases mem_set_cases hother with rfl | ⟨j, -, hj⟩
    · trivial
    · exact h.finds other (List.mem_of_getElem? hj)
  · obtain ⟨intended, htraced⟩ := h.traced target hnamed
    exact ⟨intended, htraced.send h.tidy.apart hnamed hget hphase
      fun hwrites => hok _ hcommand target hwrites⟩

/-- **Every event in order keeps the invariant.** -/
theorem recorded_step {ev : CallEvent} (h : b.Recorded) (habort : ev.isAbort = false)
    (hok : InOrder b ev) (hs : b.step ev = some b') : b'.Recorded := by
  have htidy := tidy_step h.tidy hs
  have hids := distinctIds_step h.ids hs
  rcases step_cases hs with ⟨work, -, rfl⟩ | ⟨i, id, call, rfl, hget, hproceed⟩ |
    ⟨i, call, rfl, -, -⟩ | ⟨d, -, rfl⟩
  · exact recorded_start h work htidy hids
  · have hcall := List.mem_of_getElem? hget
    rcases proceed_cases hproceed with ⟨outcome, hphase, rfl⟩ |
      ⟨number, ttl, instr, instrs, hphase, rfl⟩ | ⟨call', hstatement, rfl⟩
    · exact recorded_commit h hget hphase
    · exact recorded_send h hget hphase hok htidy hids
    · obtain ⟨hbefore, hafter⟩ := not_propagates_of_statement hstatement
      refine ⟨htidy, hids, fun other hother => ?_, h.numbered.setCall fun number instrs hpropagates =>
        absurd hpropagates (hafter number instrs), fun target hnamed => ?_⟩
      · rcases mem_set_cases hother with rfl | ⟨j, -, hj⟩
        · have hfinds : other.Finds b.rows := finds_statement (h.finds call hcall) hstatement
          exact hfinds
        · exact h.finds other (List.mem_of_getElem? hj)
      · obtain ⟨intended, htraced⟩ := h.traced target hnamed
        exact ⟨intended, htraced.setCall hget hbefore hafter⟩
  · cases habort
  · refine ⟨htidy, hids, h.finds, ⟨h.numbered.calls, h.numbered.changed, h.numbered.written⟩,
      fun target hnamed => ?_⟩
    obtain ⟨intended, htraced⟩ := h.traced target hnamed
    exact ⟨intended, htraced.tick d⟩

/-! ### Runs -/

theorem recorded_emptyBoard (now : Time) : (emptyBoard now).Recorded := by
  have hcalls : ∀ {j : ℕ} {other : Call}, (emptyBoard now).calls[j]? ≠ some other := by
    intro j other hother
    exact List.not_mem_nil (List.mem_of_getElem? hother)
  refine ⟨tidy_emptyBoard now, ⟨.nil, fun _ _ hother => absurd hother hcalls⟩,
    fun _ hother => absurd hother List.not_mem_nil,
    ⟨fun _ _ _ _ hother => absurd hother hcalls, fun _ => le_rfl, fun _ => le_rfl⟩,
    fun target _ => ⟨none, ?_⟩⟩
  exact
    { meant := fun _ hrow => absurd hrow List.not_mem_nil
      commands := fun _ _ _ hother => absurd hother hcalls
      shown := fun _ value hvalue => by cases hvalue
      pending := fun hne => absurd rfl hne }

/-- **Every run in order keeps the invariant.** -/
theorem recorded_of_run {now : Time} {l : List CallEvent}
    (h : Run Board.step (fun b ev => ev.isAbort = false ∧ InOrder b ev) (emptyBoard now) l b) :
    b.Recorded := by
  have hstep : ∀ (b : Board) (ev : CallEvent) (b' : Board),
      b.Recorded → (ev.isAbort = false ∧ InOrder b ev) → b.step ev = some b' → b'.Recorded :=
    fun _ _ _ hrecorded hok hs => recorded_step hrecorded hok.1 hok.2 hs
  exact Run.invariant hstep h (recorded_emptyBoard now)

/-- When no call is in progress the last commit of every target has written its key. -/
theorem Traced.written_eq (h : Traced b target intended) (hrest : b.AtRest) :
    b.written target = b.changed target := by
  by_contra hne
  obtain ⟨i, call, instrs, hget, ⟨ttl, hphase⟩, instr, hinstr, -⟩ := h.pending hne
  have hended := hrest call (List.mem_of_getElem? hget)
  cases instrs with
  | nil => cases hinstr
  | cons _ _ => simp [Call.inProgress, hphase] at hended

theorem live_iff_unexpired {value : KeyValue} (h : value.expiresAt = ban.expiresAt) :
    value.live now = true ↔ ban.unexpired now = true := by
  simp [KeyValue.live, Ban.unexpired, h]

theorem mem_activeBans : row ∈ activeBans b target ↔
    row ∈ b.rows ∧ row.covers target = true ∧ row.activeAt b.now = true := by
  simp [activeBans]

theorem Traced.keyAgrees (h : Traced b target intended) (hrest : b.AtRest) : b.KeyAgrees target := by
  have hshown := h.shown (h.written_eq hrest)
  have hmeant := h.meant
  unfold Board.KeyAgrees
  cases intended with
  | none =>
      constructor
      · rintro ⟨value, hvalue, hlive⟩
        rw [hshown value hvalue] at hlive
        cases hlive
      · intro hbans
        obtain ⟨row, hrow⟩ := List.exists_mem_of_ne_nil _ hbans
        obtain ⟨hmem, hcovers, hactive⟩ := mem_activeBans.1 hrow
        rw [hmeant row hmem hcovers] at hactive
        cases hactive
  | some ban =>
      obtain ⟨⟨value, hvalue, hexpires⟩, honly⟩ := hshown
      obtain ⟨hmem, hactive, hcovers⟩ := hmeant
      constructor
      · rintro ⟨value', hvalue', hlive⟩
        obtain rfl := Option.mem_unique hvalue hvalue'
        have hunexpired := (live_iff_unexpired hexpires).1 hlive
        exact List.ne_nil_of_mem (mem_activeBans.2
          ⟨hmem, hcovers, by simp [Ban.activeAt, hactive, hunexpired]⟩)
      · intro hbans
        obtain ⟨row, hrow⟩ := List.exists_mem_of_ne_nil _ hbans
        obtain ⟨hrowMem, hrowCovers, hrowActive⟩ := mem_activeBans.1 hrow
        obtain rfl := honly row hrowMem hrowCovers hrowActive
        exact ⟨value, hvalue, (live_iff_unexpired hexpires).2 (Bool.and_eq_true _ _ ▸ hrowActive).2⟩

/-- **In order the keys and the bans agree** when no call is in progress. -/
theorem storeAgreement_of_inOrder (now : Time) (l : List CallEvent) (b : Board)
    (hrun : Run Board.step (fun b ev => ev.isAbort = false ∧ InOrder b ev) (emptyBoard now) l b)
    (hrest : b.AtRest) (target : Target) (hnamed : target.Named) : b.KeyAgrees target := by
  obtain ⟨_, htraced⟩ := (recorded_of_run hrun).traced target hnamed
  exact htraced.keyAgrees hrest

/-! ### Two runs -/

instance (b : Board) : Decidable b.AtRest :=
  inferInstanceAs (Decidable (∀ call ∈ b.calls, call.inProgress = false))

instance (b : Board) (ev : CallEvent) : Decidable (InOrder b ev) :=
  match ev with
  | .start _ => .isTrue trivial
  | .advance i _ => inferInstanceAs (Decidable (∀ command ∈ (b.calls[i]?).bind Call.command,
      ∀ target ∈ command.2.2.writes,
        if command.1 = b.changed target then command.2.2.timely b.now command.2.1 = true
        else b.written target ≠ b.changed target))
  | .abort _ => .isTrue trivial
  | .tick _ => .isTrue trivial

/-- A ban is created, and lifted by its session before its commands run; the commands of the two calls
are left. -/
def bannedAndLifted (rest : List CallEvent) : List CallEvent :=
  [.start (.create ⟨"a", "", "spam", none, Request.named_a⟩),
    .advance 0 "", .advance 0 "", .advance 0 "1", .advance 0 "",
    .start (.delete "a"), .advance 1 "", .advance 1 "", .advance 1 "", .advance 1 "", .advance 1 "",
    .advance 1 ""] ++ rest

/-- The commands of the ban first. -/
def banFirst : List CallEvent :=
  bannedAndLifted (List.replicate 4 (.advance 0 "") ++ List.replicate 3 (.advance 1 ""))

/-- The commands that lift the ban first. -/
def liftFirst : List CallEvent :=
  bannedAndLifted (List.replicate 3 (.advance 1 "") ++ List.replicate 4 (.advance 0 ""))

/-- **The key is gone when the ban is** if the commands run as they were committed. -/
theorem banFirst_agrees : ∃ b, Run Board.step (fun b ev => ev.isAbort = false ∧ InOrder b ev)
    (emptyBoard 0) banFirst b ∧ b.commits = 2 ∧ b.AtRest ∧ b.KeyAgrees (.session "a") := by
  obtain ⟨b, hrun, hend⟩ : ∃ b, Run Board.step (fun b ev => ev.isAbort = false ∧ InOrder b ev)
      (emptyBoard 0) banFirst b ∧ decide (b.commits = 2 ∧ b.AtRest) = true :=
    exists_run_of_execWhere (by decide +kernel)
  rw [decide_eq_true_eq] at hend
  exact ⟨b, hrun, hend.1, hend.2,
    storeAgreement_of_inOrder 0 banFirst b hrun hend.2 (.session "a") (by simp [Target.Named])⟩

/-- **The key of a lifted ban is set again** and stays. -/
theorem lateSet_after_delete : ¬ StoreAgreement Always := by
  obtain ⟨b, hrun, hend⟩ : ∃ b, Run Board.step (fun b ev => ev.isAbort = false ∧ Always b ev)
      (emptyBoard 0) liftFirst b ∧ decide (b.AtRest ∧
        (b.redis.key (.session "a")).any (fun value => value.live b.now) = true ∧
        (activeBans b (.session "a")).isEmpty = true) = true :=
    exists_run_of_execWhere (by decide +kernel)
  rw [decide_eq_true_eq] at hend
  obtain ⟨hrest, hlive, hbans⟩ := hend
  intro h
  have hagrees := h 0 liftFirst b hrun hrest (.session "a") (by simp [Target.Named])
  exact hagrees.1 ((Option.any_eq_true _ _).1 hlive) (List.isEmpty_iff.1 hbans)

end Bans
