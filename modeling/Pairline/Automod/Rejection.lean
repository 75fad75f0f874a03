/-
**Rejecting an automatic approval lifts its ban.**

Automation bans the reported user in one transaction and writes the id of the ban into the row of the
report in another; until then only the worker knows the ban.  A moderator who rejects the report lifts
the ban that the row named when it was read, before the update that rejects it.

Main definitions:

* `Automod.Acquitted` — once a rejection has been replied and every worker is done, no ban by
  automation is active;
* `Automod.State.Loose` — an active ban by automation that no worker is busy with;
* `Automod.Careful` — no step drops what only a worker, or the row, knows of a ban, and a rejection
  goes by the ban that the row still names.

Main results:

* `Automod.Watched.step` — a loose ban is named by the row, or the report has been rejected and its
  call is about to lift the ban;
* `Automod.acquitted_of_careful` — **after careful steps the rejection has lifted the ban**;
* `Automod.oldRead_keepsBan` — a moderator that has read the report before it was approved leaves
  the ban in place.
-/

import Pairline.Automod.Worker
import Pairline.Pool

set_option relaxedAutoImplicit false
set_option autoImplicit false

namespace Automod

open Transition Program

/-! ### The law -/

def Job.isDone (job : Job) : Bool := job.rest.next?.isNone

/-- **Once a rejection has been replied and every worker is done, no ban by automation is active.** -/
def Acquitted (s : State) : Prop :=
  s.rejectionReplied = true → (∀ job ∈ s.jobs, job.isDone = true) →
    ∀ ban ∈ s.bans, ¬ (ban.byAutomation = true ∧ ban.isActive = true)

instance (s : State) : Decidable (Acquitted s) := by unfold Acquitted; infer_instance

/-- An active ban by automation. -/
def State.AutoBan (s : State) (id : BanId) : Prop :=
  ∃ ban ∈ s.bans, ban.id = id ∧ ban.byAutomation = true ∧ ban.isActive = true

instance (s : State) (id : BanId) : Decidable (s.AutoBan id) := by
  unfold State.AutoBan; infer_instance

/-- The report is approved, and it is not rejected any more without lifting the ban: it was approved
by a moderator, or its row names the ban. -/
def Row.Keeps (row : Row) (id : BanId) : Prop :=
  row.status = .approved ∧ (row.byAutomation = true → row.banId = some id)

instance (row : Row) (id : BanId) : Decidable (row.Keeps id) := by unfold Row.Keeps; infer_instance

/-- A worker has a ban in its hand that would be lost without it. -/
def State.Holds (s : State) (job : Job) : Prop := ∃ id ∈ job.hand, s.AutoBan id ∧ ¬ s.row.Keeps id

instance (s : State) (job : Job) : Decidable (s.Holds job) := by unfold State.Holds; infer_instance

/-- What a worker's command must not do: to lose its ban, or to overwrite the id of an active one. -/
def State.CarefulWork (s : State) (job : Job) (fate : Fate) : Cmd → Prop
  | .createBan => fate = .lost → ∃ ban ∈ s.bans, ban.isActive = true
  | .propagateBan _ => fate ≠ .answered → ¬ s.Holds job
  | .deleteBan _ => fate = .failed → ¬ s.Holds job
  | .overwrite _ banId =>
      fate ≠ .failed → ∀ id ∈ s.row.liftedBan .rejected, s.AutoBan id → banId = some id
  | _ => True

/-- **No step drops what only a worker, or the row, knows of a ban, and a rejection goes by the ban
that the row still names.** -/
def Careful (s : State) : Event → Prop
  | .crash k => ∀ job ∈ s.jobs[k]?, ¬ s.Holds job
  | .work k fate => ∀ job ∈ s.jobs[k]?, ∀ c ∈ job.rest.next?, s.CarefulWork job fate c
  | .call k fate => ∀ call ∈ s.calls[k]?, call.rest.next? = some (.updateStatus .rejected) →
      fate ≠ .failed → ∀ id ∈ s.row.liftedBan .rejected, s.AutoBan id →
        ∃ existing ∈ call.existing, existing.liftedBan .rejected = some id
  | _ => True

instance (s : State) (job : Job) (fate : Fate) (c : Cmd) :
    Decidable (s.CarefulWork job fate c) := by
  cases c <;> unfold State.CarefulWork <;> infer_instance

instance (s : State) : (ev : Event) → Decidable (Careful s ev)
  | .crash k => inferInstanceAs (Decidable (∀ job ∈ s.jobs[k]?, ¬ s.Holds job))
  | .work k fate => inferInstanceAs (Decidable (∀ job ∈ s.jobs[k]?, ∀ c ∈ job.rest.next?,
      s.CarefulWork job fate c))
  | .call k fate => inferInstanceAs (Decidable (∀ call ∈ s.calls[k]?,
      call.rest.next? = some (.updateStatus .rejected) → fate ≠ .failed →
        ∀ id ∈ s.row.liftedBan .rejected, s.AutoBan id →
          ∃ existing ∈ call.existing, existing.liftedBan .rejected = some id))
  | .claim _ _ | .review _ | .ban | .approveRelated | .unban _ => .isTrue trivial

/-! ### Loose bans -/

/-- The ban that a worker's command hands on, or lifts. -/
def Cmd.ban : Cmd → Option BanId
  | .propagateBan id | .deleteBan id => some id
  | .review _ banId | .overwrite _ banId => banId
  | _ => none

/-- A worker is busy with the ban it has created. -/
def Job.Carries (job : Job) (id : BanId) : Prop :=
  job.hand = some id ∧ ∃ c ∈ job.rest.next?, c.ban = some id

/-- An active ban by automation that no worker is busy with. -/
def State.Loose (s : State) (id : BanId) : Prop :=
  s.AutoBan id ∧ ∀ job ∈ s.jobs, ¬ job.Carries id

def Row.Rejected (row : Row) : Prop := row.status = .rejected ∧ row.byAutomation = false

/-- **What a step makes of loose bans**: the row keeps one, or it was loose before, and the row keeps
it as it did, unless a moderator rejects the report. -/
structure Goes (s s' : State) : Prop where
  rejected : s.row.Rejected → s'.row.Rejected
  loose : ∀ id, s'.Loose id → s'.row.Keeps id ∨
    (s.Loose id ∧ (s.row.Keeps id → s'.row.Keeps id ∨ s'.row.Rejected))

variable {cfg : Config} {s s' : State} {id id' : BanId}

theorem Row.Rejected.not_keeps {row : Row} (h : row.Rejected) : ¬ row.Keeps id := by
  rintro ⟨happroved, -⟩
  rw [h.1] at happroved
  cases happroved

/-- After a rejection nothing gets loose. -/
theorem Goes.loose_of_rejected (h : Goes s s') (hrejected : s.row.Rejected) (hloose : s'.Loose id) :
    s.Loose id := by
  rcases h.loose id hloose with hkeeps | ⟨hold, -⟩
  · exact absurd hkeeps (h.rejected hrejected).not_keeps
  · exact hold

/-- A step that leaves the workers in place. -/
theorem Goes.of_jobs (hjobs : ∀ job ∈ s.jobs, job ∈ s'.jobs)
    (hbans : ∀ id, s'.AutoBan id → s.AutoBan id) (hrejected : s.row.Rejected → s'.row.Rejected)
    (hkeeps : ∀ id, s.AutoBan id → s.row.Keeps id → s'.row.Keeps id ∨ s'.row.Rejected) :
    Goes s s' where
  rejected := hrejected
  loose id hloose := by
    have hban := hbans id hloose.1
    have hfree : ∀ job ∈ s.jobs, ¬ job.Carries id := fun job hjob => hloose.2 job (hjobs job hjob)
    exact .inr ⟨⟨hban, hfree⟩, hkeeps id hban⟩

/-- A step of one worker. -/
theorem Goes.of_set {k : ℕ} {job job' : Job} (hjob : s.jobs[k]? = some job)
    (hjobs : s'.jobs = s.jobs.set k job')
    (hbans : ∀ id, s'.AutoBan id → s.AutoBan id ∨ job'.Carries id)
    (hrejected : s.row.Rejected → s'.row.Rejected)
    (hkeeps : ∀ id, s.AutoBan id → s.row.Keeps id → s'.row.Keeps id)
    (hcarries : ∀ id, job.Carries id → s'.AutoBan id → job'.Carries id ∨ s'.row.Keeps id) :
    Goes s s' where
  rejected := hrejected
  loose id hloose := by
    obtain ⟨hban', hfree⟩ := hloose
    obtain ⟨hlt, -⟩ := List.getElem?_eq_some_iff.1 hjob
    have hfree' : ¬ job'.Carries id := hfree job' (hjobs ▸ List.mem_set hlt job')
    have hban : s.AutoBan id := (hbans id hban').resolve_right hfree'
    by_cases hcarry : job.Carries id
    · exact .inl ((hcarries id hcarry hban').resolve_left hfree')
    · refine .inr ⟨⟨hban, fun other hother => ?_⟩, fun h => .inl (hkeeps id hban h)⟩
      obtain ⟨i, hi⟩ := List.mem_iff_getElem?.1 hother
      by_cases hik : i = k
      · subst hik
        obtain rfl : job = other := Option.some.inj (hjob.symm.trans hi)
        exact hcarry
      · refine hfree other (hjobs ▸ List.mem_iff_getElem?.2 ⟨i, ?_⟩)
        rw [List.getElem?_set_ne (Ne.symm hik)]
        exact hi

/-- A worker ends, or crashes. -/
theorem Goes.of_eraseIdx {k : ℕ} {job : Job} (hjob : s.jobs[k]? = some job)
    (h : ∀ id, job.Carries id → s.AutoBan id → s.row.Keeps id) :
    Goes s { s with jobs := s.jobs.eraseIdx k } where
  rejected hrejected := hrejected
  loose id hloose := by
    obtain ⟨hban, hfree⟩ := hloose
    by_cases hcarry : job.Carries id
    · exact .inl (h id hcarry hban)
    · refine .inr ⟨⟨hban, fun other hother => ?_⟩, .inl⟩
      obtain ⟨i, hi⟩ := List.mem_iff_getElem?.1 hother
      by_cases hik : i = k
      · subst hik
        obtain rfl : job = other := Option.some.inj (hjob.symm.trans hi)
        exact hcarry
      · exact hfree other (List.mem_eraseIdx_iff_getElem?.2 ⟨i, hik, hi⟩)

/-! ### The bans after a command -/

theorem State.autoBan_deactivate (h : (s.deactivate id').AutoBan id) :
    s.AutoBan id ∧ id ≠ id' := by
  obtain ⟨ban', hmem, hid, hauto, hactive⟩ := h
  obtain ⟨ban, hban, rfl⟩ := List.mem_map.1 hmem
  by_cases heq : ban.id = id'
  · rw [if_pos heq] at hactive
    cases hactive
  · rw [if_neg heq] at hid hauto hactive
    exact ⟨⟨ban, hban, hid, hauto, hactive⟩, fun h => heq (hid.trans h)⟩

variable (cfg) in
theorem State.autoBan_deleteBan {number : ℕ}
    (h : (s.exec cfg number (.deleteBan id')).2.AutoBan id) : s.AutoBan id ∧ id ≠ id' := by
  simp only [State.exec] at h
  split at h
  · exact State.autoBan_deactivate h
  · rename_i hnone
    refine ⟨h, fun heq => hnone ?_⟩
    obtain ⟨ban, hban, hid, -, hactive⟩ := h
    exact List.any_eq_true.2 ⟨ban, hban, decide_eq_true ⟨hid.trans heq, hactive⟩⟩

variable (cfg id) in
theorem State.row_deleteBan (number : ℕ) :
    (s.exec cfg number (.deleteBan id)).2.row = s.row := by
  simp only [State.exec]
  split <;> rfl

variable (cfg) in
/-- A new ban is in the hand of its worker; an active one is found. -/
theorem State.exec_createBan (s : State) (number : ℕ) :
    ((∃ ban ∈ s.bans, ban.isActive = true ∧ (s.exec cfg number .createBan) = (⟨ban.id, true⟩, s)) ∨
      (∀ ban ∈ s.bans, ban.isActive = false) ∧ s.exec cfg number .createBan =
        (⟨s.freshBan, false⟩, { s with bans := s.bans ++ [⟨s.freshBan, true, true⟩] })) := by
  simp only [State.exec]
  split
  · rename_i ban hfind
    have hmem : ban ∈ s.bans := List.mem_reverse.1 (List.mem_of_find?_eq_some hfind)
    exact .inl ⟨ban, hmem, List.find?_some hfind, rfl⟩
  · rename_i hfind
    refine .inr ⟨fun ban hban => ?_, rfl⟩
    exact Bool.eq_false_iff.2 (List.find?_eq_none.1 hfind ban (List.mem_reverse.2 hban))

theorem State.autoBan_append (h : State.AutoBan
    { s with bans := s.bans ++ [⟨s.freshBan, true, true⟩] } id) : s.AutoBan id ∨ id = s.freshBan := by
  obtain ⟨ban, hmem, hid, hrest⟩ := h
  rcases List.mem_append.1 hmem with hold | hnew
  · exact .inl ⟨ban, hold, hid, hrest⟩
  · rw [List.mem_singleton.1 hnew] at hid
    exact .inr hid.symm

/-! ### Workers -/

/-- What a worker does when it has no ban to think of any more. -/
def Cmd.IsSpent : Cmd → Prop
  | .markFailed _ | .propagateUnban _ | .overwrite .escalate none => True
  | _ => False

/-- **Where a worker may be**, with the ban in its hand. -/
inductive Stage : Prog Unit → Option BanId → Prop
  | createBan : Stage (.call .createBan afterCreateBan) none
  | created (result : CreateBanResult) :
      Stage (afterCreateBan (.ok result)) (if result.alreadyBanned then none else some result.id)
  | finalize {decision : Decision} {banId : Option BanId} (h : banId ≠ none → decision = .approved) :
      Stage (finalizeReview decision banId) banId
  | overwrite (decision : Decision) (banId : Option BanId) :
      Stage (afterReview decision banId (.ok false)) banId
  | rollback (banId : Option BanId) : Stage (rollback banId) banId
  | spent {rest : Prog Unit} {hand : Option BanId} (h : rest.All Cmd.IsSpent) : Stage rest hand

theorem all_markFailure (retryable : Bool) : (markFailure retryable).All Cmd.IsSpent :=
  ⟨trivial, fun _ => trivial⟩

theorem stage_processSingleReport (hasTarget : Bool) (verdict : Verdict) :
    Stage (processSingleReport hasTarget verdict) none := by
  cases verdict with
  | failed retryable => exact .spent (all_markFailure retryable)
  | decided decision =>
      cases decision with
      | approved =>
          cases hasTarget with
          | false => exact .finalize fun h => absurd rfl h
          | true => exact .createBan
      | rejected => exact .finalize fun h => absurd rfl h
      | escalate => exact .spent ⟨trivial, fun _ => trivial⟩

/-- A worker that is busy with a ban has it in its hand. -/
theorem Job.carries_iff {number : ℕ} {c : Cmd} {next : Except StoreError c.Reply → Prog Unit}
    {hand : Option BanId} :
    (Job.mk number (.call c next) hand).Carries id ↔ hand = some id ∧ c.ban = some id := by
  simp [Job.Carries]

theorem Job.not_carries_ret {number : ℕ} {a : Unit} {hand : Option BanId} :
    ¬ (Job.mk number (.ret a) hand).Carries id := by
  simp [Job.Carries]

/-- A command that leaves bans and row alone: the worker goes on with the ban in its hand, or the
ban is lost on nobody. -/
theorem Goes.of_quiet {k : ℕ} {job job' : Job} (hjob : s.jobs[k]? = some job)
    (h : ∀ id, job.Carries id → s.AutoBan id → job'.Carries id ∨ s.row.Keeps id) :
    Goes s { s with jobs := s.jobs.set k job' } :=
  .of_set hjob rfl (fun _ h => .inl h) id (fun _ _ h => h) h

/-- The worker lets its ban go although it is not lifted. -/
theorem State.keeps_of_not_holds {job : Job} (h : ¬ s.Holds job) (hcarry : job.Carries id)
    (hban : s.AutoBan id) : s.row.Keeps id := by
  by_contra hkeeps
  exact h ⟨id, hcarry.1, hban, hkeeps⟩

/-- **A worker goes on**: what its step makes of loose bans, and where the worker is then. -/
def Moves (s s' : State) (k : ℕ) : Prop :=
  Goes s s' ∧ ∃ job', s'.jobs = s.jobs.set k job' ∧ Stage job'.rest job'.hand

section Moves

variable {k number : ℕ} {hand : Option BanId} {fate : Fate}

theorem moves_createBan
    (hjob : s.jobs[k]? = some ⟨number, .call .createBan afterCreateBan, none⟩)
    (hok : fate = .lost → ∃ ban ∈ s.bans, ban.isActive = true) :
    Moves s (s.work cfg k ⟨number, .call .createBan afterCreateBan, none⟩ fate) k := by
  -- before the ban is created the worker is not busy with any
  have hidle : ∀ id, ¬ (Job.mk number (.call .createBan afterCreateBan) none).Carries id :=
    fun id h => by cases h.1
  cases fate with
  | answered =>
      refine ⟨?_, _, rfl, Stage.created _⟩
      rcases s.exec_createBan cfg number with ⟨ban, -, -, heq⟩ | ⟨-, heq⟩
      · simp only [State.work, afterCommand, heq]
        exact .of_quiet hjob fun id h => absurd h (hidle id)
      · simp only [State.work, afterCommand, heq]
        refine .of_set hjob rfl (fun id h => ?_) id (fun _ _ h => h) fun id h => absurd h (hidle id)
        rcases State.autoBan_append h with hold | rfl
        · exact .inl hold
        · exact .inr ⟨rfl, _, rfl, rfl⟩
  | failed =>
      refine ⟨?_, _, rfl, .spent (all_markFailure true)⟩
      exact .of_quiet hjob fun id h => absurd h (hidle id)
  | lost =>
      refine ⟨?_, _, rfl, .spent (all_markFailure true)⟩
      obtain ⟨other, hother, hactive⟩ := hok rfl
      rcases s.exec_createBan cfg number with ⟨ban, -, -, heq⟩ | ⟨hnone, -⟩
      · simp only [State.work, afterCommand, heq]
        exact .of_quiet hjob fun id h => absurd h (hidle id)
      · rw [hnone other hother] at hactive
        cases hactive

theorem moves_created {result : CreateBanResult} (hjob : s.jobs[k]? = some
      ⟨number, afterCreateBan (.ok result), if result.alreadyBanned then none else some result.id⟩)
    (hok : fate ≠ .answered → ¬ s.Holds
      ⟨number, afterCreateBan (.ok result), if result.alreadyBanned then none else some result.id⟩) :
    Moves s (s.work cfg k ⟨number, afterCreateBan (.ok result),
      if result.alreadyBanned then none else some result.id⟩ fate) k := by
  cases fate with
  | answered =>
      refine ⟨?_, _, rfl, .finalize fun _ => rfl⟩
      exact .of_quiet hjob fun id h _ => .inl ⟨h.1, _, rfl, h.1⟩
  | failed | lost =>
      refine ⟨?_, _, rfl, .spent (all_markFailure true)⟩
      exact .of_quiet hjob fun id h hban => .inr (State.keeps_of_not_holds (hok (by decide)) h hban)

/-- After a review that was not taken up, or that has failed, the worker is still busy with its
ban. -/
theorem carries_rollback {banId : Option BanId} (h : banId = some id) :
    (Job.mk number (rollback banId) banId).Carries id := by
  subst h
  exact ⟨rfl, _, rfl, rfl⟩

theorem Row.not_keeps_of_pending {row : Row} (h : row.status = .pending) : ¬ row.Keeps id := by
  rintro ⟨happroved, -⟩
  rw [h] at happroved
  cases happroved

theorem Row.Rejected.not_pending {row : Row} (h : row.Rejected) : row.status ≠ .pending := by
  intro hpending
  rw [h.1] at hpending
  cases hpending

theorem moves_finalize {decision : Decision} {banId : Option BanId}
    (hban : banId ≠ none → decision = .approved)
    (hjob : s.jobs[k]? = some ⟨number, finalizeReview decision banId, banId⟩) :
    Moves s (s.work cfg k ⟨number, finalizeReview decision banId, banId⟩ fate) k := by
  by_cases hpending : s.row.status = .pending
  · have hexec : s.exec cfg number (.review decision banId) = (true, { s with row :=
        { s.row.decide number decision banId with
          status := decision.status, reviewedBy := some (.automation number) } }) := if_pos hpending
    have hnot : s.row.Rejected → ∀ p : Prop, p := fun h => absurd hpending h.not_pending
    cases fate with
    | answered =>
        refine ⟨?_, _, rfl, ?_⟩
        · simp only [State.work, finalizeReview, afterCommand, hexec]
          refine .of_set hjob rfl (fun _ h => .inl h) (fun h => hnot h _)
            (fun _ _ h => absurd h (Row.not_keeps_of_pending hpending)) fun id hcarry _ => .inr ?_
          -- the row takes over the ban of the worker
          have hid : banId = some id := hcarry.1
          have happroved := hban (by rw [hid]; exact Option.some_ne_none id)
          exact ⟨congrArg Decision.status happroved, fun _ => hid⟩
        · rw [hexec]
          exact .spent trivial
    | failed =>
        refine ⟨?_, _, rfl, .rollback banId⟩
        exact .of_quiet hjob fun id h _ => .inl (carries_rollback h.1)
    | lost =>
        refine ⟨?_, _, rfl, .rollback banId⟩
        simp only [State.work, finalizeReview, afterCommand, hexec]
        exact .of_set hjob rfl (fun _ h => .inl h) (fun h => hnot h _)
          (fun _ _ h => absurd h (Row.not_keeps_of_pending hpending))
          fun id h _ => .inl (carries_rollback h.1)
  · have hexec : s.exec cfg number (.review decision banId) = (false, s) := if_neg hpending
    cases fate with
    | answered =>
        refine ⟨?_, _, rfl, ?_⟩
        · simp only [State.work, finalizeReview, afterCommand, hexec]
          exact .of_quiet hjob fun id h _ => .inl ⟨h.1, _, rfl, h.1⟩
        · rw [hexec]
          exact .overwrite decision banId
    | failed =>
        refine ⟨?_, _, rfl, .rollback banId⟩
        exact .of_quiet hjob fun id h _ => .inl (carries_rollback h.1)
    | lost =>
        refine ⟨?_, _, rfl, .rollback banId⟩
        simp only [State.work, finalizeReview, afterCommand, hexec]
        exact .of_quiet hjob fun id h _ => .inl (carries_rollback h.1)

/-- The id of an active ban in the row is not overwritten. -/
theorem Row.keeps_decide {row : Row} {decision : Decision} {banId : Option BanId}
    (hok : ∀ id ∈ row.liftedBan .rejected, s.AutoBan id → banId = some id) (hban : s.AutoBan id)
    (h : row.Keeps id) : (row.decide number decision banId).Keeps id := by
  refine ⟨h.1, fun hauto => hok id ?_ hban⟩
  have hlifted : row.liftedBan .rejected = row.banId := if_pos ⟨hauto, h.1, rfl⟩
  rw [hlifted]
  exact h.2 hauto

theorem moves_overwrite {decision : Decision} {banId : Option BanId}
    (hjob : s.jobs[k]? = some ⟨number, afterReview decision banId (.ok false), banId⟩)
    (hok : fate ≠ .failed → ∀ id ∈ s.row.liftedBan .rejected, s.AutoBan id → banId = some id) :
    Moves s (s.work cfg k ⟨number, afterReview decision banId (.ok false), banId⟩ fate) k := by
  cases fate with
  | answered | lost =>
      refine ⟨?_, _, rfl, .rollback banId⟩
      exact .of_set hjob rfl (fun _ h => .inl h) id
        (fun id hban h => Row.keeps_decide (hok (by decide)) hban h)
        fun id h _ => .inl (carries_rollback h.1)
  | failed =>
      refine ⟨?_, _, rfl, .rollback banId⟩
      exact .of_quiet hjob fun id h _ => .inl (carries_rollback h.1)

theorem moves_rollback (hjob : s.jobs[k]? = some ⟨number, rollbackAutomaticBan id, some id⟩)
    (hok : fate = .failed → ¬ s.Holds ⟨number, rollbackAutomaticBan id, some id⟩) :
    Moves s (s.work cfg k ⟨number, rollbackAutomaticBan id, some id⟩ fate) k := by
  -- the ban that the worker lets go has been lifted
  have hlifted : ∀ id', (Job.mk number (rollbackAutomaticBan id) (some id)).Carries id' →
      ¬ (s.exec cfg number (.deleteBan id)).2.AutoBan id' := by
    intro id' hcarry hban
    obtain rfl : id = id' := Option.some.inj hcarry.1
    exact (State.autoBan_deleteBan cfg hban).2 rfl
  have hrow := s.row_deleteBan cfg id number
  cases fate with
  | answered =>
      refine ⟨?_, _, rfl, .spent ?_⟩
      · refine .of_set hjob rfl (fun _ h => .inl (State.autoBan_deleteBan cfg h).1)
          (fun h => hrow ▸ h) (fun _ _ h => hrow ▸ h) fun id' hcarry hban => ?_
        exact absurd hban (hlifted id' hcarry)
      · cases (s.exec cfg number (.deleteBan id)).1 with
        | true => exact ⟨trivial, fun _ => trivial⟩
        | false => trivial
  | failed =>
      refine ⟨?_, _, rfl, .spent trivial⟩
      exact .of_quiet hjob fun id h hban => .inr (State.keeps_of_not_holds (hok rfl) h hban)
  | lost =>
      refine ⟨?_, _, rfl, .spent trivial⟩
      refine .of_set hjob rfl (fun _ h => .inl (State.autoBan_deleteBan cfg h).1)
        (fun h => hrow ▸ h) (fun _ _ h => hrow ▸ h) fun id' hcarry hban => ?_
      exact absurd hban (hlifted id' hcarry)

/-- A worker that has no ban to think of. -/
theorem moves_spent {c : Cmd} {next : Except StoreError c.Reply → Prog Unit}
    (hspent : (call c next).All Cmd.IsSpent) (hjob : s.jobs[k]? = some ⟨number, call c next, hand⟩)
    (hok : s.CarefulWork ⟨number, call c next, hand⟩ fate c) :
    Moves s (s.work cfg k ⟨number, call c next, hand⟩ fate) k := by
  obtain ⟨hc, hnext⟩ := hspent
  have hidle : ∀ id, ¬ (Job.mk number (call c next) hand).Carries id := by
    intro id h
    obtain ⟨-, hban⟩ := Job.carries_iff.1 h
    cases c with
    | overwrite decision banId =>
        cases decision with
        | escalate =>
            cases banId with
            | none => cases hban
            | some id => exact hc
        | approved | rejected => exact hc
    | markFailed | propagateUnban => cases hban
    | createBan | propagateBan | review | deleteBan | read | updateStatus | clearBanId => exact hc
  have heffect : fate ≠ .failed → ∀ job' : Job, Goes s
      { (s.exec cfg number c).2 with jobs := s.jobs.set k job' } := by
    intro hfate job'
    cases c with
    | overwrite decision banId =>
        exact .of_set hjob rfl (fun _ h => .inl h) id
          (fun id hban h => Row.keeps_decide (hok hfate) hban h) fun id h => absurd h (hidle id)
    | markFailed | propagateUnban =>
        exact .of_set hjob rfl (fun _ h => .inl h) id (fun _ _ h => h)
          fun id h => absurd h (hidle id)
    | createBan | propagateBan | review | deleteBan | read | updateStatus | clearBanId =>
        exact absurd hc id
  cases fate with
  | answered => exact ⟨heffect (by decide) _, _, rfl, .spent (hnext _)⟩
  | failed =>
      exact ⟨.of_quiet hjob fun id h => absurd h (hidle id), _, rfl, .spent (hnext _)⟩
  | lost => exact ⟨heffect (by decide) _, _, rfl, .spent (hnext _)⟩

variable (cfg) in
/-- **A step of a worker**: it ends, or goes on. -/
theorem Stage.work {job : Job} (h : Stage job.rest job.hand) (hjob : s.jobs[k]? = some job)
    (hok : Careful s (.work k fate)) : Moves s (s.work cfg k job fate) k ∨
      s.work cfg k job fate = { s with jobs := s.jobs.eraseIdx k } ∧
        ∀ id, ¬ job.Carries id := by
  obtain ⟨number, rest, hand⟩ := job
  have hcareful := hok _ hjob
  change Stage rest hand at h
  cases h with
  | createBan => exact .inl (moves_createBan hjob (hcareful _ rfl))
  | created result => exact .inl (moves_created hjob (hcareful _ rfl))
  | finalize hban => exact .inl (moves_finalize hban hjob)
  | overwrite decision banId => exact .inl (moves_overwrite hjob (hcareful _ rfl))
  | rollback banId =>
      cases hand with
      | none => exact .inr ⟨rfl, fun id => Job.not_carries_ret⟩
      | some id => exact .inl (moves_rollback hjob (hcareful _ rfl))
  | spent hspent =>
      cases rest with
      | ret a => exact .inr ⟨rfl, fun id => Job.not_carries_ret⟩
      | call c next => exact .inl (moves_spent hspent hjob (hcareful _ rfl))

end Moves

/-! ### Moderators -/

/-- What a call does after the ban was lifted, up to its reply. -/
inductive Lifted : Prog Response → Prop
  | propagate (id : BanId) : Lifted (afterDeleteBan id (.ok true))
  | clear : Lifted clearReference
  | updated : Lifted (.ret .updated)

/-- **Where a call may be**: once it has rejected the report, no ban is loose but the one that it is
about to lift. -/
inductive CallStage (s : State) (status : Status) (existing : Option Row) : Prog Response → Prop
  | read : CallStage s status existing (updateReport status)
  | update {row : Row} (h : existing = some row) :
      CallStage s status existing (.call (.updateStatus status) (afterUpdateStatus row status))
  | refused {response : Response} (h : response ≠ .updated) : CallStage s status existing (.ret response)
  | approved (h : status ≠ .rejected) : CallStage s status existing (.ret .updated)
  | lifting {id : BanId} (hrejected : s.row.Rejected) (hloose : ∀ id', s.Loose id' → id' = id) :
      CallStage s status existing (.call (.deleteBan id) (afterDeleteBan id))
  | lifted {rest : Prog Response} (hrejected : s.row.Rejected) (hloose : ∀ id, ¬ s.Loose id)
      (h : Lifted rest) : CallStage s status existing rest

theorem CallStage.mono {status : Status} {existing : Option Row} {rest : Prog Response}
    (hgoes : Goes s s') (h : CallStage s status existing rest) :
    CallStage s' status existing rest := by
  cases h with
  | read => exact .read
  | update h => exact .update h
  | refused h => exact .refused h
  | approved h => exact .approved h
  | lifting hrejected hloose =>
      refine .lifting (hgoes.rejected hrejected) fun id' h => ?_
      exact hloose id' (hgoes.loose_of_rejected hrejected h)
  | lifted hrejected hloose h =>
      refine .lifted (hgoes.rejected hrejected) (fun id h => ?_) h
      exact hloose id (hgoes.loose_of_rejected hrejected h)

/-! ### The invariant -/

/-- **A loose ban is kept by the row, or the report has been rejected**; and when that has been
replied, no ban is loose. -/
structure Watched (s : State) : Prop where
  jobs : ∀ job ∈ s.jobs, Stage job.rest job.hand
  calls : ∀ call ∈ s.calls,
    call.status ≠ .pending ∧ CallStage s call.status call.existing call.rest
  kept : ∀ id, s.Loose id → s.row.Keeps id ∨ s.row.Rejected
  replied : s.rejectionReplied = true → s.row.Rejected ∧ ∀ id, ¬ s.Loose id

theorem watched_start (hasTarget : Bool) : Watched (.start hasTarget) where
  jobs _ h := by cases h
  calls _ h := by cases h
  kept _ h := by
    obtain ⟨_, h, _⟩ := h.1
    cases h
  replied h := by cases h

namespace Watched

/-- The invariant goes along with a step that keeps workers and calls where they may be. -/
theorem of_goes (h : Watched s) (hgoes : Goes s s')
    (hjobs : ∀ job ∈ s'.jobs, Stage job.rest job.hand)
    (hcalls : ∀ call ∈ s'.calls,
      call.status ≠ .pending ∧ CallStage s' call.status call.existing call.rest)
    (hreplied : s'.rejectionReplied = true → s.rejectionReplied = true ∨
      (s.row.Rejected ∧ ∀ id, ¬ s.Loose id)) : Watched s' where
  jobs := hjobs
  calls := hcalls
  kept id hloose := by
    rcases hgoes.loose id hloose with hkeeps | ⟨hold, hkept⟩
    · exact .inl hkeeps
    · rcases h.kept id hold with hkeeps | hrejected
      · exact hkept hkeeps
      · exact .inr (hgoes.rejected hrejected)
  replied hr := by
    obtain ⟨hrejected, hloose⟩ : s.row.Rejected ∧ ∀ id, ¬ s.Loose id := by
      rcases hreplied hr with hold | hnew
      · exact h.replied hold
      · exact hnew
    exact ⟨hgoes.rejected hrejected, fun id h => hloose id (hgoes.loose_of_rejected hrejected h)⟩

/-- … and that has nothing to do with calls. -/
theorem of_goes_calls (h : Watched s) (hgoes : Goes s s')
    (hjobs : ∀ job ∈ s'.jobs, Stage job.rest job.hand) (hcalls : s'.calls = s.calls)
    (hreplied : s'.rejectionReplied = s.rejectionReplied) : Watched s' := by
  refine h.of_goes hgoes hjobs (fun call hcall => ?_) fun hr => .inl (hreplied ▸ hr)
  rw [hcalls] at hcall
  exact ⟨(h.calls call hcall).1, (h.calls call hcall).2.mono hgoes⟩

/-- A step of a worker. -/
theorem work (h : Watched s) {k : ℕ} {job : Job} {fate : Fate} (hjob : s.jobs[k]? = some job)
    (hok : Careful s (.work k fate)) : Watched (s.work cfg k job fate) := by
  have hcalls := s.calls_work cfg k job fate
  have hreplied : (s.work cfg k job fate).rejectionReplied = s.rejectionReplied := by
    rcases s.work_cases cfg k job fate with hend | ⟨c, next, -, ⟨-, hfail⟩ | ⟨-, jobs, heff⟩⟩
    · rw [hend]
    · rw [hfail]
    · rw [heff]
      exact State.exec_replied cfg job.number c
  have hstage := h.jobs job (List.mem_of_getElem? hjob)
  rcases hstage.work cfg hjob hok with ⟨hgoes, job', hjobs, hstage'⟩ | ⟨heq, hidle⟩
  · refine h.of_goes_calls hgoes (fun other hother => ?_) hcalls hreplied
    rw [hjobs] at hother
    rcases List.mem_or_eq_of_mem_set hother with hold | rfl
    · exact h.jobs other hold
    · exact hstage'
  · rw [heq]
    have hgoes := Goes.of_eraseIdx hjob fun id hcarry => absurd hcarry (hidle id)
    exact h.of_goes_calls hgoes (fun other hother => h.jobs other (List.mem_of_mem_eraseIdx hother))
      rfl rfl

/-- A worker crashes. -/
theorem crash (h : Watched s) {k : ℕ} (hok : Careful s (.crash k)) :
    Watched { s with jobs := s.jobs.eraseIdx k } := by
  have hjobs : ∀ job ∈ s.jobs.eraseIdx k, Stage job.rest job.hand :=
    fun job hjob => h.jobs job (List.mem_of_mem_eraseIdx hjob)
  cases hjob : s.jobs[k]? with
  | none =>
      have hgoes : Goes s { s with jobs := s.jobs.eraseIdx k } := by
        refine .of_jobs (fun job hjob' => ?_) (fun _ h => h) id fun _ _ h => .inl h
        rwa [List.eraseIdx_of_length_le (List.getElem?_eq_none_iff.1 hjob)]
      exact h.of_goes_calls hgoes hjobs rfl rfl
  | some job =>
      have hgoes := Goes.of_eraseIdx hjob fun id => State.keeps_of_not_holds (hok job hjob)
      exact h.of_goes_calls hgoes hjobs rfl rfl

/-- … and that one call takes. -/
theorem of_goes_call (h : Watched s) {k : ℕ} (call' : Call) (hgoes : Goes s s')
    (hjobs : s'.jobs = s.jobs) (hcalls : s'.calls = s.calls.set k call')
    (hpending : call'.status ≠ .pending)
    (hstage : CallStage s' call'.status call'.existing call'.rest)
    (hreplied : s'.rejectionReplied = s.rejectionReplied) : Watched s' := by
  refine h.of_goes hgoes (hjobs ▸ h.jobs) (fun call hcall => ?_) fun hr => .inl (hreplied ▸ hr)
  rw [hcalls] at hcall
  rcases List.mem_or_eq_of_mem_set hcall with hold | rfl
  · exact ⟨(h.calls call hold).1, (h.calls call hold).2.mono hgoes⟩
  · exact ⟨hpending, hstage⟩

section Calls

variable (h : Watched s) {k number : ℕ} {status : Status} {existing : Option Row} {fate : Fate}
include h

/-- A call goes on without having changed anything. -/
theorem of_quiet_call (call' : Call) (hpending : call'.status ≠ .pending)
    (hstage : CallStage s call'.status call'.existing call'.rest) :
    Watched { s with calls := s.calls.set k call' } := by
  have hgoes : Goes s { s with calls := s.calls.set k call' } :=
    .of_jobs (fun _ h => h) (fun _ h => h) id fun _ _ h => .inl h
  exact h.of_goes_call _ hgoes rfl rfl hpending (hstage.mono hgoes) rfl

theorem callNext_read (hpending : status ≠ .pending) :
    Watched (s.callNext cfg k ⟨number, status, updateReport status, existing⟩ fate) := by
  cases fate with
  | answered =>
      have hstage : CallStage s status (some s.row) (afterRead status (.ok s.row)) := by
        simp only [afterRead]
        split
        · exact .refused (by decide)
        · exact .update rfl
      exact h.of_quiet_call ⟨number, status, _, some s.row⟩ hpending hstage
  | failed | lost =>
      exact h.of_quiet_call ⟨number, status, .ret .failed, existing⟩ hpending
        (.refused (by decide))

omit h in
variable (number) in
/-- A moderator's update takes effect: an approval keeps every ban, a rejection lifts the one that
was loose. -/
theorem goes_updateStatus (hpending : status ≠ .pending)
    (hmatch : s.row.status = .pending ∨ s.row.byAutomation = true) (calls : List Call) :
    Goes s { s with
      row := { s.row with status := status, reviewedBy := some (.moderator number) }
      calls := calls } := by
  refine .of_jobs (fun _ h => h) (fun _ h => h) (fun hrejected => ?_) fun id _ _ => ?_
  · rcases hmatch with hm | hm
    · exact absurd hm hrejected.not_pending
    · rw [hrejected.2] at hm
      cases hm
  · cases status with
    | pending => exact absurd rfl hpending
    | approved => exact .inl ⟨rfl, fun hauto => by cases hauto⟩
    | rejected => exact .inr ⟨rfl, rfl⟩

/-- Before a moderator's update, the ban that is loose is the one that the row names. -/
theorem liftedBan_of_loose (hmatch : s.row.status = .pending ∨ s.row.byAutomation = true)
    (hloose : s.Loose id) : s.row.liftedBan .rejected = some id := by
  rcases h.kept id hloose with ⟨happroved, hnamed⟩ | hrejected
  · rcases hmatch with hm | hm
    · rw [happroved] at hm
      cases hm
    · exact (if_pos ⟨hm, happroved, rfl⟩).trans (hnamed hm)
  · rcases hmatch with hm | hm
    · exact absurd hm hrejected.not_pending
    · rw [hrejected.2] at hm
      cases hm

theorem callNext_update {row : Row} (hpending : status ≠ .pending)
    (hok : status = .rejected → fate ≠ .failed → ∀ id ∈ s.row.liftedBan .rejected,
      s.AutoBan id → row.liftedBan .rejected = some id) :
    Watched (s.callNext cfg k ⟨number, status,
      .call (.updateStatus status) (afterUpdateStatus row status), some row⟩ fate) := by
  by_cases hmatch : s.row.status = .pending ∨ s.row.byAutomation = true
  · have hexec : s.exec cfg number (.updateStatus status) = (true, { s with row :=
        { s.row with status := status, reviewedBy := some (.moderator number) } }) := if_pos hmatch
    have hgoes := goes_updateStatus number hpending hmatch
    cases fate with
    | answered =>
        simp only [State.callNext, afterCommand, hexec]
        refine h.of_goes_call _ (hgoes _) rfl rfl hpending ?_ rfl
        by_cases hrejected : status = .rejected
        · subst hrejected
          have hlifted : ∀ id, s.Loose id → row.liftedBan .rejected = some id := fun id hloose =>
            hok rfl (by decide) id (h.liftedBan_of_loose hmatch hloose) hloose.1
          simp only [afterUpdateStatus]
          cases hban : row.liftedBan .rejected with
          | none =>
              refine .lifted ⟨rfl, rfl⟩ (fun id hloose => ?_) .updated
              rw [hlifted id hloose] at hban
              cases hban
          | some id =>
              refine .lifting ⟨rfl, rfl⟩ fun id' hloose => ?_
              rw [hlifted id' hloose] at hban
              exact Option.some.inj hban
        · have hnone : row.liftedBan status = none := if_neg fun hr => hrejected hr.2.2
          simp only [afterUpdateStatus, hnone]
          exact .approved hrejected
    | failed =>
        exact h.of_quiet_call ⟨number, status, .ret .failed, some row⟩ hpending
          (.refused (by decide))
    | lost =>
        simp only [State.callNext, afterCommand, hexec]
        exact h.of_goes_call _ (hgoes _) rfl rfl hpending (.refused (by decide)) rfl
  · have hexec : s.exec cfg number (.updateStatus status) = (false, s) := if_neg hmatch
    have hquiet : ∀ response : Response, response ≠ .updated → Watched
        { s with calls := s.calls.set k (Call.mk number status (.ret response) (some row)) } :=
      fun response hresponse => h.of_quiet_call _ hpending (.refused hresponse)
    cases fate with
    | answered =>
        simp only [State.callNext, afterCommand, hexec]
        exact hquiet .conflict (by decide)
    | failed => exact hquiet .failed (by decide)
    | lost =>
        simp only [State.callNext, afterCommand, hexec]
        exact hquiet .failed (by decide)

omit h in
theorem goes_deleteBan (calls : List Call) :
    Goes s { (s.exec cfg number (.deleteBan id)).2 with calls := calls } := by
  have hrow := s.row_deleteBan cfg id number
  have hjobs := s.exec_jobs cfg number (.deleteBan id)
  exact .of_jobs (fun _ h => hjobs ▸ h) (fun _ h => (State.autoBan_deleteBan cfg h).1)
    (fun h => hrow ▸ h) fun _ _ h => .inl (hrow ▸ h)

theorem callNext_lifting (hpending : status ≠ .pending) (hrejected : s.row.Rejected)
    (hloose : ∀ id', s.Loose id' → id' = id) : Watched (s.callNext cfg k
      ⟨number, status, .call (.deleteBan id) (afterDeleteBan id), existing⟩ fate) := by
  have hjobs := s.exec_jobs cfg number (.deleteBan id)
  have hreplied := s.exec_replied cfg number (.deleteBan id)
  have hgoes : ∀ calls, Goes s { (s.exec cfg number (.deleteBan id)).2 with calls := calls } :=
    goes_deleteBan
  cases fate with
  | answered =>
      refine h.of_goes_call _ (hgoes _) hjobs rfl hpending ?_ hreplied
      refine .lifted ((hgoes _).rejected hrejected) (fun id' hl => ?_) ?_
      · have hid := hloose id' ((hgoes _).loose_of_rejected hrejected hl)
        exact (State.autoBan_deleteBan cfg hl.1).2 hid
      · cases (s.exec cfg number (.deleteBan id)).1 with
        | true => exact .propagate id
        | false => exact .clear
  | failed =>
      exact h.of_quiet_call ⟨number, status, .ret .failed, existing⟩ hpending
        (.refused (by decide))
  | lost => exact h.of_goes_call _ (hgoes _) hjobs rfl hpending (.refused (by decide)) hreplied

/-- What is left of a call after the ban was lifted. -/
theorem callNext_lifted {rest : Prog Response} (hpending : status ≠ .pending)
    (hrejected : s.row.Rejected) (hloose : ∀ id, ¬ s.Loose id) (hlifted : Lifted rest) :
    Watched (s.callNext cfg k ⟨number, status, rest, existing⟩ fate) := by
  have hstage : ∀ {rest : Prog Response}, Lifted rest → CallStage s status existing rest :=
    fun h => .lifted hrejected hloose h
  have hfailed : CallStage s status existing (.ret .failed) := .refused (by decide)
  cases hlifted with
  | propagate id =>
      cases fate with
      | answered =>
          exact h.of_quiet_call ⟨number, status, _, existing⟩ hpending (hstage .clear)
      | failed | lost =>
          exact h.of_quiet_call ⟨number, status, _, existing⟩ hpending hfailed
  | clear =>
      have hgoes : ∀ calls, Goes s { s with row := { s.row with banId := none }, calls := calls } :=
        fun calls => .of_jobs (fun _ h => h) (fun _ h => h) id
          fun _ _ hkeeps => absurd hkeeps hrejected.not_keeps
      cases fate with
      | answered =>
          exact h.of_goes_call ⟨number, status, _, existing⟩ (hgoes _) rfl rfl hpending
            ((hstage .updated).mono (hgoes _)) rfl
      | failed => exact h.of_quiet_call ⟨number, status, _, existing⟩ hpending hfailed
      | lost =>
          exact h.of_goes_call ⟨number, status, _, existing⟩ (hgoes _) rfl rfl hpending
            (hfailed.mono (hgoes _)) rfl
  | updated =>
      have hgoes : ∀ replied, Goes s
          { s with calls := s.calls.eraseIdx k, rejectionReplied := replied } :=
        fun replied => .of_jobs (fun _ h => h) (fun _ h => h) id fun _ _ h => .inl h
      refine h.of_goes (hgoes _) h.jobs (fun call hcall => ?_) fun _ => .inr ⟨hrejected, hloose⟩
      obtain ⟨hp, hc⟩ := h.calls call (List.mem_of_mem_eraseIdx hcall)
      exact ⟨hp, hc.mono (hgoes _)⟩

/-- A call replies, and not that it has rejected the report. -/
theorem callNext_ret {response : Response} (hresponse : response = .updated → status ≠ .rejected) :
    Watched (s.callNext cfg k ⟨number, status, .ret response, existing⟩ fate) := by
  have hreplied : (s.rejectionReplied || decide (response = .updated ∧ status = .rejected)) =
      s.rejectionReplied := by
    have hno : decide (response = .updated ∧ status = .rejected) = false :=
      decide_eq_false fun hr => hresponse hr.1 hr.2
    rw [hno, Bool.or_false]
  simp only [State.callNext, hreplied]
  have hgoes : Goes s { s with calls := s.calls.eraseIdx k } :=
    .of_jobs (fun _ h => h) (fun _ h => h) id fun _ _ h => .inl h
  refine h.of_goes hgoes h.jobs (fun call hcall => ?_) .inl
  obtain ⟨hp, hc⟩ := h.calls call (List.mem_of_mem_eraseIdx hcall)
  exact ⟨hp, hc.mono hgoes⟩

/-- **A step of a call.** -/
theorem callNext {call : Call} (hcall : s.calls[k]? = some call)
    (hok : Careful s (.call k fate)) : Watched (s.callNext cfg k call fate) := by
  obtain ⟨hpending, hstage⟩ := h.calls call (List.mem_of_getElem? hcall)
  have hcareful := hok call hcall
  obtain ⟨number, status, rest, existing⟩ := call
  change CallStage s status existing rest at hstage
  cases hstage with
  | read => exact h.callNext_read hpending
  | update hexisting =>
      subst hexisting
      refine h.callNext_update hpending fun hrejected hfate id hid hban => ?_
      subst hrejected
      obtain ⟨row, hrow, hlifted⟩ := hcareful rfl hfate id hid hban
      cases hrow
      exact hlifted
  | refused hresponse => exact h.callNext_ret fun heq => absurd heq hresponse
  | approved hstatus => exact h.callNext_ret fun _ => hstatus
  | lifting hrejected hloose => exact h.callNext_lifting hpending hrejected hloose
  | lifted hrejected hloose hlifted => exact h.callNext_lifted hpending hrejected hloose hlifted

end Calls

/-- **Careful steps keep the invariant.** -/
theorem step (h : Watched s) {ev : Event} (hok : Careful s ev) (hs : s.step cfg ev = some s') :
    Watched s' := by
  cases ev with
  | claim now verdict =>
      simp only [State.step] at hs
      split at hs
      · cases hs
        have hgoes : ∀ job : Job, Goes s
            { s with row := s.row.claimed now, jobs := s.jobs ++ [job], claims := s.claims + 1 } :=
          fun job => .of_jobs (fun _ h => List.mem_append_left _ h) (fun _ h => h) id
            fun _ _ h => .inl h
        refine h.of_goes_calls (hgoes _) (fun job hjob => ?_) rfl rfl
        rcases List.mem_append.1 hjob with hold | hnew
        · exact h.jobs job hold
        · rw [List.mem_singleton.1 hnew]
          exact stage_processSingleReport s.hasTarget verdict
      · cases hs
  | work k fate =>
      obtain ⟨job, hjob, rfl⟩ := Option.map_eq_some_iff.1 hs
      exact h.work hjob hok
  | crash k =>
      cases hs
      exact h.crash hok
  | review status =>
      simp only [State.step] at hs
      split at hs
      · cases hs
      · rename_i hpending
        cases hs
        have hgoes : ∀ calls n, Goes s { s with calls := calls, callCount := n } :=
          fun calls n => .of_jobs (fun _ h => h) (fun _ h => h) id fun _ _ h => .inl h
        refine h.of_goes (hgoes _ _) h.jobs (fun call hcall => ?_) .inl
        rcases List.mem_append.1 hcall with hold | hnew
        · obtain ⟨hp, hc⟩ := h.calls call hold
          exact ⟨hp, hc.mono (hgoes _ _)⟩
        · rw [List.mem_singleton.1 hnew]
          exact ⟨hpending, .read⟩
  | call k fate =>
      obtain ⟨call, hcall, rfl⟩ := Option.map_eq_some_iff.1 hs
      exact h.callNext hcall hok
  | ban =>
      cases hs
      refine h.of_goes_calls (.of_jobs (fun _ h => h) (fun id hban => ?_) id fun _ _ h => .inl h)
        h.jobs rfl rfl
      obtain ⟨ban, hmem, hid, hauto, hactive⟩ := hban
      rcases List.mem_append.1 hmem with hold | hnew
      · exact ⟨ban, hold, hid, hauto, hactive⟩
      · rw [List.mem_singleton.1 hnew] at hauto
        cases hauto
  | approveRelated =>
      simp only [State.step] at hs
      split at hs
      · rename_i hpending
        cases hs
        refine h.of_goes_calls (.of_jobs (fun _ h => h) (fun _ h => h) (fun hrejected => ?_)
          fun _ _ _ => .inl ⟨rfl, fun hauto => ?_⟩) h.jobs rfl rfl
        · exact absurd hpending hrejected.not_pending
        · cases hauto
      · cases hs
  | unban id' =>
      cases hs
      exact h.of_goes_calls (.of_jobs (fun _ h => h) (fun _ h => (State.autoBan_deactivate h).1) id
        fun _ _ h => .inl h) h.jobs rfl rfl

/-- When every worker is done, a ban that is not loose is not active. -/
theorem acquitted (h : Watched s) : Acquitted s := by
  rintro hreplied hdone ban hban ⟨hauto, hactive⟩
  refine (h.replied hreplied).2 ban.id ⟨⟨ban, hban, rfl, hauto, hactive⟩, fun job hjob hcarry => ?_⟩
  obtain ⟨-, c, hc, -⟩ := hcarry
  have hnone := Option.isNone_iff_eq_none.1 (hdone job hjob)
  rw [hnone] at hc
  cases hc

end Watched

/-- **After careful steps the rejection has lifted the ban.** -/
theorem acquitted_of_careful (cfg : Config) (hasTarget : Bool) {l : List Event} {s : State}
    (h : Run (State.step cfg) Careful (.start hasTarget) l s) : Acquitted s := by
  have hstep : ∀ (a : State) (ev : Event) (b : State), Watched a → Careful a ev →
      a.step cfg ev = some b → Watched b := fun _ _ _ hi hok hs => hi.step hok hs
  have hwatched : Watched s := h.invariant hstep (watched_start hasTarget)
  exact hwatched.acquitted

section OldRead

/-- An approval with a ban, and then a rejection. -/
def approvedThenRejected : List Event :=
  [.claim 0 (.decided .approved), .work 0 .answered, .work 0 .answered, .work 0 .answered,
    .work 0 .answered, .review .rejected, .call 0 .answered, .call 0 .answered, .call 0 .answered,
    .call 0 .answered, .call 0 .answered, .call 0 .answered]

theorem approvedThenRejected_acquitted : ∃ s, Run (State.step ⟨3, 300, by decide⟩) Careful
    (.start true) approvedThenRejected s ∧ s.rejectionReplied = true ∧ Acquitted s := by
  have hrun : (execWhere (State.step ⟨3, 300, by decide⟩) Careful (.start true)
      approvedThenRejected).any (fun s => s.rejectionReplied) = true := by decide +kernel
  obtain ⟨s, hs, hreplied⟩ := exists_run_of_execWhere hrun
  exact ⟨s, hs, hreplied, acquitted_of_careful _ true hs⟩

/-- A moderator reads the report; then a worker approves it, with a ban; then the moderator rejects
it. -/
def oldRead : List Event :=
  [.claim 0 (.decided .approved), .review .rejected, .call 0 .answered, .work 0 .answered,
    .work 0 .answered, .work 0 .answered, .work 0 .answered, .call 0 .answered, .call 0 .answered]

theorem oldRead_keepsBan : ¬ ∀ (cfg : Config) (hasTarget : Bool) (l : List Event) (s : State),
    Run (State.step cfg) Always (.start hasTarget) l s → Acquitted s := by
  intro h
  have hrun : (execWhere (State.step ⟨3, 300, by decide⟩) Always (.start true) oldRead).any
      (fun s => decide (¬ Acquitted s)) = true := by decide +kernel
  obtain ⟨s, hs, hnot⟩ := exists_run_of_execWhere hrun
  exact of_decide_eq_true hnot (h _ true _ s hs)

end OldRead

end Automod
