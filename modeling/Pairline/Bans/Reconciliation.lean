/-
**The pass that reconciles the ban keys with the database.**

From time to time the active bans are loaded, their keys are written, and the index of the keys is
scanned; a key in it that is not that of a loaded ban is deleted.  Bans are created and lifted all the
while.  A ban that is committed after the load, and is in the index when its page is scanned, is
taken for one that has been lifted.

Main definitions:

* `Bans.Pass`, `Bans.Sync` — passes, side by side with the calls;
* `Bans.Sync.step` — **a step of a pass or of a call**;
* `Bans.Safe` — a pass does not delete the key of an active ban;
* `Bans.NoneSince` — nor one of the bans that were committed since it loaded its own.

Main results:

* `Bans.sound_step` — what a pass knows stays true;
* `Bans.reconciliation_iff` — **a run is safe iff no pass deletes the key of a ban that is newer than
  what it has loaded**;
* `Bans.newBan_is_deleted` — the key of a new ban is deleted.
-/

import Pairline.Bans.Calls

set_option relaxedAutoImplicit false
set_option autoImplicit false

namespace Bans

open Transition

/-! ### Passes -/

/-- Where a pass stands: before the load, in the loop over the bans with the time to live of the one
it writes, before a page of the index, and in the loop over the keys of a page. -/
inductive PassPhase
  | loading
  | syncing (bans : List Ban)
  | setting (expiration : Option Time) (instrs : List Instr) (bans : List Ban)
  | scanning (activeKeys : List Target)
  | deleting (activeKeys : List Target) (instrs : List Instr) (last : Bool)
  | done

/-- A pass: the time that its query asks about, how many rows there were when it ran, the bans that it
found, and where the pass stands.  The number of rows is for the reader only. -/
structure Pass where
  now : Time
  known : ℕ
  bans : List Ban
  phase : PassPhase

/-- The commands that write the keys of one ban. -/
def syncBan (ban : Ban) : List Instr :=
  (if ban.sessionId = "" then [] else setIndexedValue (.session ban.sessionId) ban) ++
    (if ban.ipAddress = "" then [] else setIndexedValue (.ip ban.ipAddress) ban)

/-- The keys of the loaded bans that have not expired since. -/
def activeKeys (bans : List Ban) (now : Time) : List Target :=
  (bans.filter fun ban => ban.unexpired now).flatMap Ban.targets

/-- The keys of a page that are not among them. -/
def staleKeys (activeKeys page : List Target) : List Target :=
  page.filter fun target => target ∉ activeKeys

/-- `syncActiveBansToRedis` and `reconcileBanKeys`: the next step of a pass, and Redis after it.  A
page holds members of the index, and says whether it is the last. -/
def Pass.proceed (pass : Pass) (b : Board) (page : List Target) (last : Bool) : Option (Pass × Redis) :=
  match pass.phase with
  | .loading =>
      let bans := b.rows.filter fun ban => ban.activeAt pass.now
      some ({ pass with known := b.rows.length, bans := bans, phase := .syncing bans }, b.redis)
  | .syncing (ban :: bans) =>
      let expiration := ban.expiresAt.map fun expiresAt => expiresAt - b.now
      if expiration.any (· ≤ 0) then some ({ pass with phase := .syncing bans }, b.redis)
      else some ({ pass with phase := .setting expiration (syncBan ban) bans }, b.redis)
  | .setting expiration (instr :: instrs) bans =>
      some ({ pass with phase := .setting expiration instrs bans },
        (b.redis.exec b.now expiration instr).1)
  | .setting _ [] bans => some ({ pass with phase := .syncing bans }, b.redis)
  | .syncing [] => some ({ pass with phase := .scanning (activeKeys pass.bans b.now) }, b.redis)
  | .scanning keys =>
      if page.all b.redis.index then
        some ({ pass with
          phase := .deleting keys ((staleKeys keys page).flatMap deleteIndexedKey) last }, b.redis)
      else none
  | .deleting keys (instr :: instrs) last =>
      some ({ pass with phase := .deleting keys instrs last }, (b.redis.exec b.now none instr).1)
  | .deleting keys [] false => some ({ pass with phase := .scanning keys }, b.redis)
  | .deleting _ [] true => some ({ pass with phase := .done }, b.redis)
  | .done => none

/-- **The calls and the passes.** -/
structure Sync where
  board : Board
  passes : List Pass

inductive SyncEvent
  | call (ev : CallEvent)
  | begin
  | pass (i : ℕ) (page : List Target) (last : Bool)
  | giveUp (i : ℕ)

/-- **One event**: of a call, or a pass begins, goes on, or ends early. -/
def Sync.step (s : Sync) : SyncEvent → Option Sync
  | .call ev => (s.board.step ev).map fun board => { s with board := board }
  | .begin => some { s with passes := s.passes ++ [⟨s.board.now, 0, [], .loading⟩] }
  | .pass i page last => do
      let pass ← s.passes[i]?
      let (pass', redis) ← pass.proceed s.board page last
      return { s with
        board := { s.board with redis := redis }
        passes := s.passes.set i pass' }
  | .giveUp i => (s.passes[i]?).map fun pass =>
      { s with passes := s.passes.set i { pass with phase := .done } }

def emptySync (now : Time) : Sync := ⟨emptyBoard now, []⟩

/-! ### The law -/

/-- The key that a pass is about to delete. -/
def Pass.deletes (pass : Pass) : Option Target :=
  match pass.phase with
  | .deleting _ (.del target :: _) _ => some target
  | _ => none

/-- None of the rows is an active ban of the target. -/
def Unbanned (rows : List Ban) (target : Target) (now : Time) : Prop :=
  ∀ row ∈ rows, target ∈ row.targets → row.activeAt now = false

/-- What is asked when a pass deletes a key. -/
def AtDeletions (p : Board → Pass → Target → Prop) (s : Sync) : SyncEvent → Prop
  | .pass i _ _ => ∀ pass ∈ s.passes[i]?, ∀ target ∈ pass.deletes, p s.board pass target
  | _ => True

/-- **The key that a pass deletes is not that of an active ban.** -/
def Safe : Sync → SyncEvent → Prop :=
  AtDeletions fun b _ target => Unbanned b.rows target b.now

/-- The key that a pass deletes is not that of an active ban which was committed after the pass had
loaded its own. -/
def NoneSince : Sync → SyncEvent → Prop :=
  AtDeletions fun b pass target => Unbanned (b.rows.drop pass.known) target b.now

/-! ### The rows that a pass has seen -/

variable {b b' : Board} {pass : Pass} {now now' : Time} {target : Target} {rows rows' : List Ban}
  {s s' : Sync}

/-- **Rows are only added and lifted**: among the first rows none has become active. -/
def Later (rows rows' : List Ban) : Prop :=
  ∀ n ≤ rows.length, n ≤ rows'.length ∧
    ∀ row ∈ rows'.take n, row.isActive = true → row ∈ rows.take n

theorem later_refl : Later rows rows := fun _ hle => ⟨hle, fun _ hrow _ => hrow⟩

theorem later_apply (outcome : Outcome) : Later rows (outcome.apply rows) := by
  intro n hle
  cases outcome with
  | created ban =>
      refine ⟨hle.trans (by simp [Outcome.apply]), fun row hrow _ => ?_⟩
      rwa [Outcome.apply, List.take_append_of_le_length hle] at hrow
  | existing _ => exact ⟨hle, fun _ hrow _ => hrow⟩
  | deleted ban _ _ =>
      refine ⟨by simpa [Outcome.apply, deactivate] using hle, fun row hrow hactive => ?_⟩
      rw [Outcome.apply, deactivate, ← List.map_take] at hrow
      exact ((mem_deactivate ban.id).1 ⟨hrow, hactive⟩).1

/-- What an event of a call does to the rows and the time. -/
theorem later_step {ev : CallEvent} (hs : b.step ev = some b') :
    b.now ≤ b'.now ∧ Later b.rows b'.rows := by
  rcases step_cases hs with ⟨work, -, rfl⟩ | ⟨i, id, call, -, -, hproceed⟩ | ⟨i, call, -, -, rfl⟩ |
    ⟨d, -, rfl⟩
  · exact ⟨le_rfl, later_refl⟩
  · rcases proceed_cases hproceed with ⟨outcome, -, rfl⟩ | ⟨number, ttl, instr, instrs, -, rfl⟩ |
      ⟨call', -, rfl⟩
    · exact ⟨le_rfl, later_apply outcome⟩
    · exact ⟨le_rfl, later_refl⟩
    · exact ⟨le_rfl, later_refl⟩
  · exact ⟨le_rfl, later_refl⟩
  · exact ⟨Int.le_add_of_nonneg_right (Int.natCast_nonneg d), later_refl⟩

/-! ### What a pass knows -/

/-- The keys of the loaded bans that have not expired are all there. -/
def Listed (bans : List Ban) (keys : List Target) (now : Time) : Prop :=
  ∀ ban ∈ bans, ban.unexpired now = true → ∀ target ∈ ban.targets, target ∈ keys

/-- The keys that a pass has collected. -/
def Pass.Collected (pass : Pass) (now : Time) : Prop :=
  match pass.phase with
  | .scanning keys => Listed pass.bans keys now
  | .deleting keys instrs _ =>
      Listed pass.bans keys now ∧ ∀ target, .del target ∈ instrs → target ∉ keys
  | _ => True

/-- **What a pass knows**: of the rows that there were, it has loaded the active ones, and it does not
delete their keys. -/
structure Pass.Sound (pass : Pass) (rows : List Ban) (now : Time) : Prop where
  began : pass.now ≤ now
  known : pass.known ≤ rows.length
  loaded : ∀ row ∈ rows.take pass.known, row.activeAt pass.now = true → row ∈ pass.bans
  collected : pass.Collected now

theorem unexpired_of_activeAt {ban : Ban} (h : ban.activeAt now = true) : ban.unexpired now = true :=
  (Bool.and_eq_true _ _ ▸ h).2

theorem unexpired_antitone {ban : Ban} (hle : now ≤ now') (h : ban.unexpired now' = true) :
    ban.unexpired now = true := by
  unfold Ban.unexpired at *
  cases hexpires : ban.expiresAt with
  | none => rfl
  | some expiresAt =>
      simp only [hexpires, decide_eq_true_eq] at h ⊢
      exact lt_of_le_of_lt hle h

theorem Listed.later {bans : List Ban} {keys : List Target} (h : Listed bans keys now)
    (hle : now ≤ now') : Listed bans keys now' :=
  fun ban hban hunexpired => h ban hban (unexpired_antitone hle hunexpired)

theorem listed_activeKeys (bans : List Ban) (now : Time) : Listed bans (activeKeys bans now) now :=
  fun ban hban hunexpired _ htarget =>
    List.mem_flatMap.2 ⟨ban, List.mem_filter.2 ⟨hban, hunexpired⟩, htarget⟩

/-- Only stale keys are deleted. -/
theorem notMem_of_del_mem {keys page : List Target}
    (h : Instr.del target ∈ (staleKeys keys page).flatMap deleteIndexedKey) : target ∉ keys := by
  obtain ⟨stale, hstale, hinstr⟩ := List.mem_flatMap.1 h
  simp only [deleteIndexedKey, List.mem_cons, Instr.del.injEq, reduceCtorEq, List.not_mem_nil,
    or_false] at hinstr
  obtain rfl := hinstr
  simpa using (List.mem_filter.1 hstale).2

/-- What the others do leaves it true. -/
theorem Pass.Sound.later (h : pass.Sound rows now) (hle : now ≤ now') (hrows : Later rows rows') :
    pass.Sound rows' now' := by
  obtain ⟨hknown, hfirst⟩ := hrows pass.known h.known
  refine ⟨h.began.trans hle, hknown, fun row hrow hactive => ?_, ?_⟩
  · exact h.loaded row (hfirst row hrow (isActive_of_activeAt hactive)) hactive
  · have hcollected := h.collected
    unfold Pass.Collected at hcollected ⊢
    split at hcollected
    · exact hcollected.later hle
    · exact ⟨hcollected.1.later hle, hcollected.2⟩
    · trivial

/-- **What a step of the pass leaves true.** -/
theorem sound_proceed {pass' : Pass} {redis : Redis} {page : List Target} {last : Bool}
    (h : pass.Sound b.rows b.now) (hs : pass.proceed b page last = some (pass', redis)) :
    pass'.Sound b.rows b.now := by
  have hcollected := h.collected
  unfold Pass.Collected at hcollected
  unfold Pass.proceed at hs
  split at hs
  case h_1 hphase =>
      obtain ⟨rfl, -⟩ := Prod.mk.inj (Option.some_inj.1 hs)
      refine ⟨h.began, le_rfl, fun row hrow hactive => ?_, trivial⟩
      exact List.mem_filter.2 ⟨List.mem_of_mem_take hrow, hactive⟩
  case h_2 ban bans hphase =>
      dsimp only at hs
      split at hs
      all_goals
        obtain ⟨rfl, -⟩ := Prod.mk.inj (Option.some_inj.1 hs)
        exact ⟨h.began, h.known, h.loaded, trivial⟩
  case h_3 expiration instr instrs bans hphase =>
      obtain ⟨rfl, -⟩ := Prod.mk.inj (Option.some_inj.1 hs)
      exact ⟨h.began, h.known, h.loaded, trivial⟩
  case h_4 expiration bans hphase =>
      obtain ⟨rfl, -⟩ := Prod.mk.inj (Option.some_inj.1 hs)
      exact ⟨h.began, h.known, h.loaded, trivial⟩
  case h_5 hphase =>
      obtain ⟨rfl, -⟩ := Prod.mk.inj (Option.some_inj.1 hs)
      exact ⟨h.began, h.known, h.loaded, listed_activeKeys pass.bans b.now⟩
  case h_6 keys hphase =>
      split at hs
      · obtain ⟨rfl, -⟩ := Prod.mk.inj (Option.some_inj.1 hs)
        simp only [hphase] at hcollected
        exact ⟨h.began, h.known, h.loaded, hcollected, fun _ => notMem_of_del_mem⟩
      · cases hs
  case h_7 keys instr instrs last' hphase =>
      obtain ⟨rfl, -⟩ := Prod.mk.inj (Option.some_inj.1 hs)
      simp only [hphase] at hcollected
      exact ⟨h.began, h.known, h.loaded, hcollected.1, fun target hmem =>
        hcollected.2 target (List.mem_cons_of_mem _ hmem)⟩
  case h_8 keys hphase =>
      obtain ⟨rfl, -⟩ := Prod.mk.inj (Option.some_inj.1 hs)
      simp only [hphase] at hcollected
      exact ⟨h.began, h.known, h.loaded, hcollected.1⟩
  case h_9 keys hphase =>
      obtain ⟨rfl, -⟩ := Prod.mk.inj (Option.some_inj.1 hs)
      exact ⟨h.began, h.known, h.loaded, trivial⟩
  case h_10 => cases hs

/-! ### Runs -/

def Sync.Sound (s : Sync) : Prop := ∀ pass ∈ s.passes, pass.Sound s.board.rows s.board.now

/-- **Every event leaves true what the passes know.** -/
theorem sound_step {ev : SyncEvent} (h : s.Sound) (hs : s.step ev = some s') : s'.Sound := by
  cases ev with
  | call ev =>
      obtain ⟨board, hboard, rfl⟩ := Option.map_eq_some_iff.1 hs
      obtain ⟨hle, hrows⟩ := later_step hboard
      exact fun pass hpass => (h pass hpass).later hle hrows
  | begin =>
      obtain rfl := Option.some_inj.1 hs
      intro pass hpass
      rcases List.mem_append.1 hpass with hpass | hpass
      · exact h pass hpass
      · obtain rfl := List.mem_singleton.1 hpass
        exact ⟨le_rfl, Nat.zero_le _, fun row hrow => absurd hrow (by simp), trivial⟩
  | pass i page last =>
      simp only [Sync.step, Option.bind_eq_bind, Option.bind_eq_some_iff, Prod.exists] at hs
      obtain ⟨pass, hget, pass', redis, hproceed, hsome⟩ := hs
      obtain rfl := Option.some_inj.1 hsome
      intro other hother
      rcases List.mem_or_eq_of_mem_set hother with hother | rfl
      · exact h other hother
      · have hsound : other.Sound s.board.rows s.board.now :=
          sound_proceed (h pass (List.mem_of_getElem? hget)) hproceed
        exact hsound
  | giveUp i =>
      obtain ⟨pass, hget, rfl⟩ := Option.map_eq_some_iff.1 hs
      intro other hother
      rcases List.mem_or_eq_of_mem_set hother with hother | rfl
      · exact h other hother
      · have hpass := h pass (List.mem_of_getElem? hget)
        exact ⟨hpass.began, hpass.known, hpass.loaded, trivial⟩

/-- **The key that a pass deletes is not that of an active ban that it could have loaded.** -/
theorem Pass.Sound.unbanned_take (h : pass.Sound rows now) (hdeletes : target ∈ pass.deletes) :
    Unbanned (rows.take pass.known) target now := by
  intro row hrow htarget
  by_contra hactive
  have hactive : row.activeAt now = true := Bool.of_not_eq_false hactive
  have hloaded := h.loaded row hrow (activeAt_antitone h.began hactive)
  have hcollected := h.collected
  unfold Pass.deletes at hdeletes
  unfold Pass.Collected at hcollected
  split at hdeletes
  next keys key instrs last hphase =>
      obtain rfl := Option.some_inj.1 hdeletes
      simp only [hphase] at hcollected
      exact hcollected.2 key List.mem_cons_self
        (hcollected.1 row hloaded (unexpired_of_activeAt hactive) key htarget)
  next => cases hdeletes

theorem unbanned_iff_drop (h : Unbanned (rows.take pass.known) target now) :
    Unbanned rows target now ↔ Unbanned (rows.drop pass.known) target now := by
  constructor
  · exact fun hall row hrow => hall row (List.mem_of_mem_drop hrow)
  · intro hnew row hrow
    rw [← List.take_append_drop pass.known rows] at hrow
    exact (List.mem_append.1 hrow).elim (h row) (hnew row)

/-- **When a pass deletes a key, that is safe iff no newer ban is active.** -/
theorem safe_iff_noneSince (h : s.Sound) (ev : SyncEvent) : Safe s ev ↔ NoneSince s ev := by
  cases ev with
  | pass i page last =>
      have hdrop : ∀ pass ∈ s.passes[i]?, ∀ target ∈ pass.deletes,
          (Unbanned s.board.rows target s.board.now ↔
            Unbanned (s.board.rows.drop pass.known) target s.board.now) :=
        fun pass hget target hdeletes => unbanned_iff_drop
          ((h pass (List.mem_of_getElem? hget)).unbanned_take hdeletes)
      constructor
      · exact fun hsafe pass hget target hdeletes =>
          (hdrop pass hget target hdeletes).1 (hsafe pass hget target hdeletes)
      · exact fun hnone pass hget target hdeletes =>
          (hdrop pass hget target hdeletes).2 (hnone pass hget target hdeletes)
  | call _ => exact Iff.rfl
  | begin => exact Iff.rfl
  | giveUp _ => exact Iff.rfl

theorem sound_emptySync (now : Time) : (emptySync now).Sound := fun _ hpass =>
  absurd hpass List.not_mem_nil

/-- **The passes never delete the key of an active ban in exactly those runs** in which none deletes
the key of an active ban that was committed after the pass had loaded its own. -/
theorem reconciliation_iff (now : Time) (l : List SyncEvent) (s : Sync) :
    Run Sync.step Safe (emptySync now) l s ↔ Run Sync.step NoneSince (emptySync now) l s := by
  have hsafe : ∀ (s : Sync) (ev : SyncEvent) (s' : Sync), s.Sound → Safe s ev →
      s.step ev = some s' → NoneSince s ev ∧ s'.Sound :=
    fun _ ev _ hsound hok hs => ⟨(safe_iff_noneSince hsound ev).1 hok, sound_step hsound hs⟩
  have hnone : ∀ (s : Sync) (ev : SyncEvent) (s' : Sync), s.Sound → NoneSince s ev →
      s.step ev = some s' → Safe s ev ∧ s'.Sound :=
    fun _ ev _ hsound hok hs => ⟨(safe_iff_noneSince hsound ev).2 hok, sound_step hsound hs⟩
  constructor
  · exact fun hrun => hrun.exchange hsafe (sound_emptySync now)
  · exact fun hrun => hrun.exchange hnone (sound_emptySync now)

/-! ### A new ban -/

instance (rows : List Ban) (target : Target) (now : Time) : Decidable (Unbanned rows target now) :=
  inferInstanceAs (Decidable (∀ row ∈ rows, target ∈ row.targets → row.activeAt now = false))

instance (s : Sync) (ev : SyncEvent) : Decidable (Safe s ev) :=
  match ev with
  | .pass i _ _ => inferInstanceAs (Decidable (∀ pass ∈ s.passes[i]?, ∀ target ∈ pass.deletes,
      Unbanned s.board.rows target s.board.now))
  | .call _ => .isTrue trivial
  | .begin => .isTrue trivial
  | .giveUp _ => .isTrue trivial

/-- A ban is created and its key is written after a pass has loaded the bans, of which there are none;
then the pass scans the index. -/
def banAfterLoad : List SyncEvent :=
  [.begin, .pass 0 [] false,
    .call (.start (.create ⟨"a", "", "spam", none, Request.named_a⟩)),
    .call (.advance 0 ""), .call (.advance 0 ""), .call (.advance 0 "1"), .call (.advance 0 ""),
    .call (.advance 0 ""), .call (.advance 0 ""), .call (.advance 0 ""),
    .pass 0 [] false, .pass 0 [.session "a"] true, .pass 0 [] true]

/-- **The key of a new ban is deleted.** -/
theorem newBan_is_deleted : ¬ ∀ (now : Time) (l : List SyncEvent) (s : Sync),
    Run Sync.step Always (emptySync now) l s → Run Sync.step Safe (emptySync now) l s := by
  intro h
  obtain ⟨s, hrun, -⟩ : ∃ s, Run Sync.step Always (emptySync 0) banAfterLoad s ∧
      decide (s.board.redis.key (.session "a") = none) = true :=
    exists_run_of_execWhere (by decide +kernel)
  have hsafe := execWhere_of_run (h 0 banAfterLoad s hrun)
  have hnone : (execWhere Sync.step Safe (emptySync 0) banAfterLoad).isSome = false := by
    decide +kernel
  simp [hsafe] at hnone

end Bans
