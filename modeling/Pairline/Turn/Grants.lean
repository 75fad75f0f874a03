/-
**Granted slots come back.**

The quota handler counts a slot when it grants an allocation.  The slot comes back with the release
of the allocation, which the deletion of the allocation launches; so a slot that was granted for an
allocation that then fails to be created is not given back before the counter expires.

Main definitions:

* `Turn.Answers`, `Turn.TameNext` — what a store that answers tells, and what is then not called;
* `Turn.AllLaunched` — every release that the relay launched has its goroutine;
* `Turn.GrantedFirst`, `Turn.ReturnsSlots` — what the TURN library keeps to, and when every slot
  comes back;
* `Turn.QuotaReturned` — the law.

Main results:

* `Turn.tameNext_program` — nothing is queued locally that can be persisted;
* `Turn.books_of_run` — **every run keeps the books**;
* `Turn.quotaReturned_of_returnsSlots` — **when no creation fails, every slot comes back**;
* `Turn.failed_creation_keeps_slot` — the slot of a creation that fails does not.
-/

import Pairline.Turn.Books
import Pairline.Turn.Retention

set_option relaxedAutoImplicit false
set_option autoImplicit false

namespace Turn

open Program Transition Whitespace

/-! ### Programs -/

section Programs

variable {allocationQuota : ℤ} {α β : Type}

/-- One call, with what comes after it. -/
theorem all_ask_bind {P : ReleaseCmd → Prop} {c : ReleaseCmd} {f : c.Reply → RelayProg α} (hc : P c)
    (hf : ∀ reply, (f reply).All P) : ((ask c).bind f).All P := by
  refine ⟨hc, fun reply => ?_⟩
  cases reply with
  | ok reply => exact hf reply
  | error e => exact e.elim

theorem all_ask {P : ReleaseCmd → Prop} {c : ReleaseCmd} (hc : P c) : (ask c).All P :=
  ⟨hc, fun reply => by
    cases reply with
    | ok _ => trivial
    | error e => exact e.elim⟩

theorem all_queuePendingTURNRelease (r : PendingRelease) :
    (queuePendingTURNRelease r).All (ReleaseStore.Tame allocationQuota) := by
  unfold queuePendingTURNRelease
  cases pendingReleaseField r with
  | none => trivial
  | some field =>
      refine all_ask_bind trivial fun reply => ?_
      cases reply with
      | ok _ => exact all_ask trivial
      | error e => trivial

theorem all_completePendingTURNRelease (r : PendingRelease) :
    (completePendingTURNRelease r).All (ReleaseStore.Tame allocationQuota) := by
  unfold completePendingTURNRelease
  cases pendingReleaseField r with
  | none => trivial
  | some field =>
      refine all_ask_bind trivial fun reply => ?_
      cases reply with
      | ok _ => exact all_ask trivial
      | error e => trivial

theorem all_persistState (state : PendingReleaseState) :
    (persistState state).All (ReleaseStore.Tame allocationQuota) := by
  unfold persistState
  split_ifs
  · refine (all_queuePendingTURNRelease state.release).bind fun result => ?_
    match result with
    | .ok _ => exact all_ask_bind trivial fun _ => trivial
    | .error .failed => trivial
    | .error .panicked => trivial
  · trivial

theorem all_completeState (state : PendingReleaseState) :
    (completeState state).All (ReleaseStore.Tame allocationQuota) := by
  have hlocal : (completeState.completeLocal state).All (ReleaseStore.Tame allocationQuota) := by
    unfold completeState.completeLocal
    split_ifs
    · exact all_ask_bind trivial fun _ => trivial
    · trivial
  unfold completeState
  split_ifs
  · refine (all_completePendingTURNRelease state.release).bind fun result => ?_
    match result with
    | .ok _ => exact hlocal
    | .error .failed => trivial
    | .error .panicked => trivial
  · exact hlocal

theorem all_processState (state : PendingReleaseState) :
    (processState state).All (ReleaseStore.Tame allocationQuota) := by
  unfold processState
  refine (all_persistState state).bind fun result => ?_
  cases result with
  | none => trivial
  | some state =>
      refine all_ask_bind trivial fun reply => ?_
      match reply with
      | .ok _ => exact all_completeState state
      | .error .failed => trivial
      | .error .panicked => trivial

theorem all_processStates (n : ℕ) (states : List PendingReleaseState) :
    (processStates n states).All (ReleaseStore.Tame allocationQuota) := by
  induction n generalizing states with
  | zero => trivial
  | succ n ih =>
      simp only [processStates, bind_eq]
      refine all_ask_bind trivial fun i => ?_
      cases states[i]? with
      | none => trivial
      | some state =>
          refine (all_processState state).bind fun result => ?_
          cases result with
          | true => exact ih _
          | false => trivial

/-- **A drain queues nothing and reserves nothing.** -/
theorem all_processPendingReleases (username : String) :
    (processPendingReleases username).All (ReleaseStore.Tame allocationQuota) := by
  have hdurable : (pendingTURNReleases username).All (ReleaseStore.Tame allocationQuota) := by
    rcases pendingTURNReleases_cases username with hprogram | hprogram | hprogram
    · rw [hprogram]
      exact all_ask True.intro
    · rw [hprogram]
      exact True.intro
    · rw [hprogram]
      exact all_ask True.intro
  have hstates : (pendingReleaseStates username).All (ReleaseStore.Tame allocationQuota) := by
    unfold pendingReleaseStates
    refine all_ask_bind trivial fun queued => hdurable.bind fun result => ?_
    match result with
    | .ok _ => exact True.intro
    | .error .failed => exact True.intro
    | .error .panicked => exact True.intro
  unfold processPendingReleases
  refine hstates.bind fun result => ?_
  cases result with
  | none => trivial
  | some states => exact all_processStates states.length states

theorem all_quotaHandler (username : String) :
    (quotaHandler allocationQuota username).All (ReleaseStore.Tame allocationQuota) := by
  unfold quotaHandler
  split_ifs with hquota
  · trivial
  · refine (all_processPendingReleases username).bind fun _ => ?_
    refine all_ask_bind ⟨rfl, by omega⟩ fun reply => ?_
    cases reply <;> trivial

/-- What a store that answers every call tells: nothing panics, and what is persisted is. -/
def Answers : (c : ReleaseCmd) → Except Empty c.Reply → Prop
  | .hsetIndex _, reply => reply = .ok (.ok ())
  | .hsetUser _, reply => reply = .ok (.ok ())
  | .hdelIndex _, reply => reply = .ok (.ok ())
  | .hdelUser _, reply => reply = .ok (.ok ())
  | .releaseSlot _, reply => reply ≠ .ok (.error .panicked)
  | _, _ => True

/-- The next call is tame. -/
def TameNext (allocationQuota : ℤ) (p : RelayProg α) : Prop :=
  ∀ c ∈ p.next?, ReleaseStore.Tame allocationQuota c

theorem tameNext_of_all {p : RelayProg α} (h : p.All (ReleaseStore.Tame allocationQuota)) :
    p.Everywhere Answers (TameNext allocationQuota) := by
  refine h.everywhere fun q hq c hc => ?_
  cases q with
  | ret a => cases hc
  | call d next =>
      obtain rfl := Option.some_inj.1 hc
      exact hq.1

/-- **A goroutine queues locally only what cannot be persisted.** -/
theorem tameNext_releaseDeletedAllocation (r : PendingRelease) (a : α) :
    ((releaseDeletedAllocation r).bind fun _ => .ret a).Everywhere Answers
      (TameNext allocationQuota) := by
  have htame : ∀ {c : ReleaseCmd} (next : Except Empty c.Reply → RelayProg α),
      ReleaseStore.Tame allocationQuota c → TameNext allocationQuota (.call c next) := by
    intro c next hc d hd
    obtain rfl := Option.some_inj.1 hd
    exact hc
  have hret : TameNext allocationQuota (.ret a : RelayProg α) := fun c hc => by cases hc
  have hcomplete : ((ask (.completePendingRelease r)).bind fun _ => .ret a).Everywhere Answers
      (TameNext allocationQuota) :=
    And.intro (htame _ trivial) fun reply _ => by
      cases reply with
      | ok _ => exact hret
      | error e => exact e.elim
  cases hfield : pendingReleaseField r with
  | none =>
      have hqueue : (ask (.queueAllocationRelease r)).All (ReleaseStore.Tame allocationQuota) :=
        all_ask hfield
      have hrest : (releasePersisted r false).All (ReleaseStore.Tame allocationQuota) := by
        refine all_ask_bind trivial fun reply => ?_
        match reply with
        | .ok _ => exact all_ask trivial
        | .error .panicked => exact hqueue
        | .error .failed => trivial
      refine tameNext_of_all (All.bind ?_ fun _ => trivial)
      unfold releaseDeletedAllocation queuePendingTURNRelease
      simp only [hfield]
      exact hqueue.bind fun _ => hrest
  | some field =>
      unfold releaseDeletedAllocation queuePendingTURNRelease releasePersisted
        completePendingTURNRelease
      simp only [hfield]
      -- every answer on the way is the good one
      refine And.intro (htame _ trivial) fun reply hreply => ?_
      obtain rfl := hreply
      refine And.intro (htame _ trivial) fun reply hreply => ?_
      obtain rfl := hreply
      refine And.intro (htame _ trivial) fun reply hreply => ?_
      match reply with
      | .error e => exact e.elim
      | .ok (.error .panicked) => exact absurd rfl hreply
      | .ok (.error .failed) => exact hret
      | .ok (.ok _) =>
          refine And.intro (htame _ trivial) fun reply hreply => ?_
          obtain rfl := hreply
          refine And.intro (htame _ trivial) fun reply hreply => ?_
          obtain rfl := hreply
          exact hcomplete

/-- Every operation only makes tame calls when it is answered. -/
theorem tameNext_program (op : RelayOp) :
    (op.program allocationQuota).Everywhere Answers (TameNext allocationQuota) := by
  cases op with
  | quotaHandler username =>
      exact tameNext_of_all ((all_quotaHandler username).bind fun _ => trivial)
  | callback e => exact tameNext_of_all (all_ask_bind trivial fun _ => trivial)
  | release allocation fallbackUsername =>
      simp only [RelayOp.program, launchAllocationRelease]
      cases releaseOf allocation fallbackUsername with
      | none => exact tameNext_of_all (p := .ret none) trivial
      | some r => exact tameNext_releaseDeletedAllocation r none
  | processPendingReleases username =>
      exact tameNext_of_all ((all_processPendingReleases username).bind fun _ => trivial)

end Programs

theorem answers_exec (toUpper : String → String) (choice : ℕ) (c : ReleaseCmd) (s : ReleaseStore) :
    Answers c (.ok (c.exec toUpper { choice := choice } s).1) := by
  cases c with
  | releaseSlot r =>
      have hfailed : (s.release r).1 = .ok () ∨ (s.release r).1 = .error .failed := by
        unfold ReleaseStore.release
        dsimp only
        split
        · exact .inl rfl
        · exact .inr rfl
      intro h
      have hpanicked : (s.release r).1 = .error .panicked := (Except.ok.inj h)
      rcases hfailed with hreply | hreply
      · rw [hreply] at hpanicked
        cases hpanicked
      · rw [hreply] at hpanicked
        cases hpanicked
  | hsetIndex r => exact rfl
  | hsetUser r => exact rfl
  | hdelIndex r => exact rfl
  | hdelUser r => exact rfl
  | _ => exact trivial

/-! ### The goroutines of the releases -/

/-- Every release that the relay launched has its goroutine. -/
def AllLaunched (cfg : RelayConfig) : Prop :=
  ∀ release ∈ cfg.store.relay.releases, ∃ p ∈ cfg.procs,
    p.op = .release release.allocation release.fallbackUsername

namespace ReleaseStore

theorem relay_recordCreation (s : ReleaseStore) (e : Event) :
    (s.recordCreation e).relay = s.relay := by
  unfold recordCreation
  split
  · split <;> rfl
  · rfl

/-- Only a callback changes the relay. -/
theorem relay_exec (toUpper : String → String) (x : Answer) {c : ReleaseCmd}
    (hc : ∀ e, c ≠ .callback e) (s : ReleaseStore) : (c.exec toUpper x s).2.relay = s.relay := by
  have hsettle : ∀ {α : Type} {t : ReleaseStore} (reply : Except CallFailure α),
      t.relay = s.relay → (settle x.outcome reply s t).2.relay = s.relay :=
    fun reply ht => @settle_snd s _ _ (fun u => u.relay = s.relay) x.outcome reply rfl ht
  cases c with
  | hsetIndex r => exact hsettle _ rfl
  | hsetUser r => exact hsettle _ rfl
  | hdelIndex r => exact hsettle _ rfl
  | hdelUser r => exact hsettle _ rfl
  | hgetallIndex => rfl
  | hgetallUser username => rfl
  | releaseSlot r =>
      have hrelease : (s.release r).2.relay = s.relay := by
        unfold release
        dsimp only
        split
        · unfold recordApplied
          split <;> rfl
        · rfl
      have hrecord : ∀ (t : ReleaseStore) (reply : Except CallFailure Unit),
          (t.recordSuccess r reply).relay = t.relay := by
        intro t reply
        cases reply <;> rfl
      exact (hrecord _ _).trans (hsettle (s.release r).1 hrelease)
  | reserveSlot limit username =>
      have hreserve : (s.reserve limit username).2.relay = s.relay := by
        unfold reserve
        split <;> rfl
      have hrecord : ∀ (t : ReleaseStore) (reply : Except CallFailure Bool),
          (t.recordGrant username reply).relay = t.relay := by
        intro t reply
        unfold recordGrant
        split
        · split <;> rfl
        · rfl
      exact (hrecord _ _).trans (hsettle (s.reserve limit username).1 hreserve)
  | queueAllocationRelease r =>
      simp only [ReleaseCmd.exec, queueAllocationRelease]
      split_ifs <;> rfl
  | completePendingRelease r => rfl
  | snapshotPendingReleases username => rfl
  | nextState states => rfl
  | callback e => exact absurd rfl (hc e)

/-- **A callback answers with the releases that it launches.** -/
theorem releases_callback (s : ReleaseStore) (toUpper : String → String) (e : Event) :
    (s.callback toUpper e).2.relay.releases = (s.callback toUpper e).1 ++ s.relay.releases := by
  cases hstep : s.relay.step toUpper e with
  | none =>
      simp only [callback, hstep]
      rfl
  | some relay =>
      simp only [callback, hstep, relay_recordCreation]
      obtain ⟨launched, hlaunched⟩ : ∃ launched, relay.releases = launched ++ s.relay.releases := by
        cases e with
        | allocationCreated srcAddr dstAddr protocol userID random =>
            exact ⟨[], (Relay.attached_of_created hstep).2⟩
        | _ => exact (Relay.launched_of_step hstep (by simp)).2
      rw [hlaunched, List.length_append, Nat.add_sub_cancel, List.take_left']
      rfl

end ReleaseStore

section Steps

variable {X : Type} {toUpper : String → String} {answers : X → Answer} {allocationQuota : ℤ}
  {cfg cfg' : RelayConfig}

/-- No step loses the goroutine of a release. -/
theorem allLaunched_step (h : AllLaunched cfg) {ev : RelayEvent X}
    (hs : Pool.step (relaySystem toUpper allocationQuota answers) cfg ev = some cfg') :
    AllLaunched cfg' := by
  intro release hrelease
  rcases Pool.step_cases hs with ⟨op, -, rfl⟩ | ⟨i, x, op, c, next, -, hget, rfl⟩ | ⟨i, e, -⟩ |
    ⟨n, store, -, henv, rfl⟩
  · obtain ⟨p, hp, hop⟩ := h release hrelease
    exact ⟨p, List.mem_append_left _ hp, hop⟩
  · -- the process that moved keeps its operation
    have hstays : release ∈ cfg.store.relay.releases → ∃ p ∈ cfg.procs.set i
        ⟨op, next (.ok (c.exec toUpper (answers x) cfg.store).1)⟩,
        p.op = .release release.allocation release.fallbackUsername := by
      intro hold
      obtain ⟨p, hp, hop⟩ := h release hold
      obtain ⟨j, hj⟩ := List.mem_iff_getElem?.1 hp
      rcases eq_or_ne j i with rfl | hne
      · rw [hget, Option.some_inj] at hj
        subst hj
        obtain ⟨hlt, -⟩ := List.getElem?_eq_some_iff.1 hget
        exact ⟨_, List.mem_set hlt _, hop⟩
      · refine ⟨p, List.mem_of_getElem? (i := j) ?_, hop⟩
        rwa [List.getElem?_set_ne hne.symm]
    by_cases hc : ∀ e, c ≠ .callback e
    · obtain ⟨p, hp, hop⟩ := hstays (by
        have hrelay := ReleaseStore.relay_exec toUpper (answers x) hc cfg.store
        change release ∈ (c.exec toUpper (answers x) cfg.store).2.relay.releases at hrelease
        rwa [hrelay] at hrelease)
      exact ⟨p, List.mem_append_left _ hp, hop⟩
    · simp only [not_forall, not_not] at hc
      obtain ⟨e, rfl⟩ := hc
      have hreleases := cfg.store.releases_callback toUpper e
      change release ∈ (cfg.store.callback toUpper e).2.relay.releases at hrelease
      rw [hreleases] at hrelease
      rcases List.mem_append.1 hrelease with hnew | hold
      · refine ⟨_, List.mem_append_right _ (List.mem_map.2 ⟨_, List.mem_map.2 ⟨release, hnew, rfl⟩, rfl⟩),
          rfl⟩
      · obtain ⟨p, hp, hop⟩ := hstays hold
        exact ⟨p, List.mem_append_left _ hp, hop⟩
  · exact e.elim
  · refine h release ?_
    cases n with
    | tick d =>
        obtain rfl := Option.some_inj.1 henv
        exact hrelease
    | creationFailed sessionID =>
        obtain ⟨-, henv⟩ := Option.ite_none_right_eq_some.1 henv
        obtain rfl := Option.some_inj.1 henv
        exact hrelease

end Steps

/-! ### The law -/

/-- A store that answers every call. -/
def noFailure (choice : ℕ) : Answer := { choice := choice }

/-- The process `i` is about to take the callback `e`. -/
def NextCallback (cfg : RelayConfig) (i : ℕ) (e : Event) : Prop :=
  ∃ p ∈ cfg.procs[i]?, p.rest.next? = some (.callback e)

/-- The TURN library asks the quota handler before it creates an allocation. -/
def GrantedFirst (allocationQuota : ℤ) (cfg : RelayConfig) : RelayEvent ℕ → Prop
  | .advance i _ => ∀ e, NextCallback cfg i e → 0 < allocationQuota → cfg.store.Granted e
  | _ => True

/-- **No creation fails, and every creation is for a five-tuple that is not tracked, with an operation
id that was not used before.** -/
def ReturnsSlots (toUpper : String → String) (allocationQuota : ℤ) (cfg : RelayConfig) :
    RelayEvent ℕ → Prop
  | .env (.creationFailed _) => False
  | .advance i _ => ∀ e, NextCallback cfg i e → 0 < allocationQuota →
      FreshFiveTuple toUpper cfg.store.relay e ∧ cfg.store.Unused e
  | _ => True

/-- An allocation of the session is live: it was granted and is being created, or it is tracked. -/
def ReleaseStore.Live (s : ReleaseStore) (sessionID : String) : Prop :=
  sessionID ∈ s.granted ∨ ∃ key allocation tokenDigest,
    s.relay.service.activeAllocations.lookup key = some allocation ∧
    parseUsername allocation.username = some (sessionID, tokenDigest)

/-- A release of the session is pending: with its goroutine, or persisted, or queued locally. -/
def ReleasePending (cfg : RelayConfig) (sessionID : String) : Prop :=
  ∃ r tokenDigest, parseUsername r.username = some (sessionID, tokenDigest) ∧
    ((∃ p ∈ cfg.procs, ∃ allocation fallbackUsername, p.op = .release allocation fallbackUsername ∧
        releaseOf allocation fallbackUsername = some r ∧ p.rest.result? = none) ∨
      r ∈ cfg.store.pendingIndex ∨ r ∈ cfg.store.pendingOfUsers ∨ cfg.store.Local r)

/-- **When no allocation of a session is live and no release of it is pending, its stored count is
zero**, in any run of a store that answers in which every step is `ok`. -/
def QuotaReturned (toUpper : String → String) (allocationQuota : ℤ)
    (ok : RelayConfig → RelayEvent ℕ → Prop) : Prop :=
  ∀ l cfg, Run (Pool.step (relaySystem toUpper allocationQuota noFailure))
      (fun cfg ev => GrantedFirst allocationQuota cfg ev ∧ ok cfg ev) (Pool.idle newReleaseStore) l cfg →
    ∀ sessionID, ¬ cfg.store.Live sessionID → ¬ ReleasePending cfg sessionID →
      Key.count (cfg.store.liveKey sessionID) = 0

section Runs

variable {toUpper : String → String} {allocationQuota : ℤ} {l : List (RelayEvent ℕ)}
  {cfg cfg' : RelayConfig}

/-- **Every step keeps the books.** -/
theorem books_step {ev : RelayEvent ℕ} (hs : cfg.store.Books allocationQuota)
    (htame : ∀ p ∈ cfg.procs, TameNext allocationQuota p.rest)
    (hgranted : GrantedFirst allocationQuota cfg ev)
    (hreturns : ReturnsSlots toUpper allocationQuota cfg ev)
    (hstep : Pool.step (relaySystem toUpper allocationQuota noFailure) cfg ev = some cfg') :
    cfg'.store.Books allocationQuota := by
  rcases Pool.step_cases hstep with ⟨op, -, rfl⟩ | ⟨i, x, op, c, next, rfl, hget, rfl⟩ |
    ⟨i, e, -⟩ | ⟨n, store, rfl, henv, rfl⟩
  · exact hs
  · refine ReleaseStore.books_exec hs toUpper x c (htame _ (Pool.mem_of_getElem? hget) c rfl) ?_
    rintro e rfl hpos
    have hnext : NextCallback cfg i e := ⟨_, hget, rfl⟩
    exact ⟨hgranted e hnext hpos, hreturns e hnext hpos⟩
  · exact e.elim
  · cases n with
    | tick d =>
        obtain rfl := Option.some_inj.1 henv
        exact ReleaseStore.books_tick hs d
    | creationFailed sessionID => exact hreturns.elim

theorem books_of_run (h : Run (Pool.step (relaySystem toUpper allocationQuota noFailure))
      (fun cfg ev => GrantedFirst allocationQuota cfg ev ∧ ReturnsSlots toUpper allocationQuota cfg ev)
      (Pool.idle newReleaseStore) l cfg) :
    cfg.store.Books allocationQuota ∧ AllLaunched cfg := by
  refine h.invariant_of_reached (I := fun cfg => cfg.store.Books allocationQuota ∧ AllLaunched cfg)
    (fun cfg ev cfg' l hrun hinv hok hstep => ?_)
    ⟨ReleaseStore.books_newReleaseStore, fun _ h => absurd h List.not_mem_nil⟩
  have htame := Pool.everywhere_of_run (T := Answers) (Q := fun _ => TameNext allocationQuota)
    (fun x c s => answers_exec toUpper x c s) (fun _ e => e.elim) tameNext_program hrun
  exact ⟨books_step hinv.1 (fun p hp => (htame p hp).here) hok.1 hok.2 hstep,
    allLaunched_step hinv.2 hstep⟩

end Runs

/-- A session of which nothing is live or pending has nothing due. -/
theorem due_eq_empty {toUpper : String → String} {allocationQuota : ℤ} {l : List (RelayEvent ℕ)}
    {cfg : RelayConfig} {ok : RelayConfig → RelayEvent ℕ → Prop}
    (hrun : Run (Pool.step (relaySystem toUpper allocationQuota noFailure)) ok
      (Pool.idle newReleaseStore) l cfg) (hbalanced : cfg.store.Balanced) (hlaunched : AllLaunched cfg)
    {sessionID : String} (hlive : ¬ cfg.store.Live sessionID)
    (hpending : ¬ ReleasePending cfg sessionID) : cfg.store.due sessionID = ∅ := by
  refine Finset.eq_empty_of_forall_notMem fun operation hdue => ?_
  obtain ⟨hfilter, hunapplied⟩ := Finset.mem_sdiff.1 hdue
  obtain ⟨hmem, rfl⟩ := Finset.mem_filter.1 hfilter
  rw [List.mem_toFinset] at hmem hunapplied
  obtain ⟨sessionID, operationID⟩ := operation
  have hattached : operationID ∈ cfg.store.relay.attached :=
    hbalanced.attached ▸ List.mem_map_of_mem (f := Prod.snd) hmem
  -- an operation id belongs to one session
  have hsession : ∀ {other}, (other, operationID) ∈ cfg.store.attached → other = sessionID := by
    intro other hother
    have hdistinct : (cfg.store.attached.map Prod.snd).Nodup := hbalanced.attached ▸ hbalanced.distinct
    exact congrArg Prod.fst (List.inj_on_of_nodup_map hdistinct hother hmem rfl)
  have hnamed : operationID ≠ "" := fun h => hbalanced.named (h ▸ hattached)
  rcases hbalanced.noLeak operationID hattached with ⟨key, allocation, hlookup, rfl⟩ |
    ⟨release, hrelease, rfl⟩
  · obtain ⟨-, other, tokenDigest, hparse, hother⟩ :=
      hbalanced.names.service.active key allocation hlookup hnamed
    exact hlive (.inr ⟨key, allocation, tokenDigest, hlookup, hsession hother ▸ hparse⟩)
  obtain ⟨htrim, other, tokenDigest, hparse, hother⟩ :=
    hbalanced.names.releases release hrelease hnamed
  obtain rfl := hsession hother
  -- the goroutine of the release
  have hname : trim release.allocation.username ≠ "" := by
    intro hempty
    have hnone : parseUsername "" = none := rfl
    rw [← parseUsername_trim, hempty, hnone] at hparse
    cases hparse
  have hr : releaseOf release.allocation release.fallbackUsername =
      some ⟨trim release.allocation.username, release.allocation.releaseOperationID⟩ := by
    unfold releaseOf
    dsimp only
    rw [if_neg hname, htrim, if_neg (not_or.2 ⟨hname, hnamed⟩)]
  generalize hrdef : (⟨trim release.allocation.username, release.allocation.releaseOperationID⟩ :
    PendingRelease) = r at hr
  have hparse' : parseUsername r.username = some (other, tokenDigest) := by
    rw [← hrdef]
    exact (parseUsername_trim _).trans hparse
  obtain ⟨p, hp, hop⟩ := hlaunched release hrelease
  rcases retained_of_run hrun hp hop hr with hdone | hdurable | ⟨-, hmust | hlocal | haged⟩
  · have happlied := hbalanced.succeeded r hdone other tokenDigest hparse'
    rw [← hrdef, htrim] at happlied
    exact hunapplied happlied
  · exact hpending ⟨r, tokenDigest, hparse', .inr (.inl hdurable.1)⟩
  · refine hpending ⟨r, tokenDigest, hparse', .inl ⟨p, hp, _, _, hop, hr, ?_⟩⟩
    cases hrest : p.rest with
    | ret a =>
        rw [hrest] at hmust
        exact hmust.elim
    | call c next => rfl
  · exact hpending ⟨r, tokenDigest, hparse', .inr (.inr (.inr hlocal))⟩
  · obtain ⟨queuedAt, hqueued, -⟩ := haged
    have hnone := hbalanced.unqueued _ hqueued
    rw [hparse'] at hnone
    cases hnone

/-- **When no creation fails, every slot comes back.** -/
theorem quotaReturned_of_returnsSlots (toUpper : String → String) (allocationQuota : ℤ) :
    QuotaReturned toUpper allocationQuota (ReturnsSlots toUpper allocationQuota) := by
  intro l cfg hrun sessionID hlive hpending
  obtain ⟨hbooks, hlaunched⟩ := books_of_run hrun
  have hcount := @ReleaseStore.count_live cfg.store.redisNow _ _ (hbooks.nonneg sessionID)
  change 0 ≤ Key.count (cfg.store.liveKey sessionID) ∧
    Key.count (cfg.store.liveKey sessionID) ≤ _ at hcount
  by_cases hpos : 0 < allocationQuota
  · have hbalanced := hbooks.balanced hpos
    have hbound := hbalanced.bound sessionID
    have hgranted : cfg.store.granted.count sessionID = 0 :=
      List.count_eq_zero_of_not_mem fun h => hlive (.inl h)
    rw [due_eq_empty hrun hbalanced hlaunched hlive hpending, hgranted, Finset.card_empty] at hbound
    omega
  · have hunlimited := hbooks.unlimited (by omega) sessionID
    omega

/-- A slot is granted, and the allocation fails to be created. -/
def failedCreation : List (RelayEvent ℕ) :=
  [.start (.quotaHandler sessionUsername), .advance 0 0, .advance 0 0, .advance 0 0,
    .env (.creationFailed "session-1")]

/-- No process is about to take a callback. -/
def callsNothingBack (cfg : RelayConfig) : RelayEvent ℕ → Bool
  | .advance i _ => cfg.procs[i]?.all fun p =>
      match p.rest.next? with
      | some (.callback _) => false
      | _ => true
  | _ => true

/-- Nothing is granted, tracked or pending, and no release was launched. -/
def isQuiet (cfg : RelayConfig) : Bool :=
  cfg.store.granted.isEmpty && cfg.store.relay.service.activeAllocations.entries.isEmpty &&
    cfg.store.pendingIndex.isEmpty && cfg.store.pendingOfUsers.isEmpty &&
    cfg.store.pendingReleases.isEmpty && cfg.procs.all fun p =>
      match p.op with
      | .release _ _ => false
      | _ => true

/-- **The slot of a creation that fails is not given back.** -/
theorem failed_creation_keeps_slot : ¬ QuotaReturned asciiUpper 2 Always := by
  intro h
  obtain ⟨cfg, hrun, hcfg⟩ :
      ∃ cfg, Run (Pool.step (relaySystem asciiUpper 2 noFailure))
        (fun cfg ev => callsNothingBack cfg ev = true) (Pool.idle newReleaseStore) failedCreation cfg ∧
        (isQuiet cfg && decide (Key.count (cfg.store.liveKey "session-1") = 1)) = true :=
    exists_run_of_execWhere (by decide +kernel)
  rw [Bool.and_eq_true, decide_eq_true_eq] at hcfg
  obtain ⟨hquiet, hcount⟩ := hcfg
  simp only [isQuiet, Bool.and_eq_true, List.isEmpty_iff, List.all_eq_true] at hquiet
  obtain ⟨⟨⟨⟨⟨hgranted, hactive⟩, hindex⟩, husers⟩, hlocal⟩, hprocs⟩ := hquiet
  have hgrantedFirst : ∀ cfg ev, callsNothingBack cfg ev = true → GrantedFirst 2 cfg ev ∧
      Always cfg ev := by
    intro cfg ev hev
    refine ⟨?_, trivial⟩
    cases ev with
    | advance i x =>
        rintro e ⟨p, hp, hnext⟩
        simp only [callsNothingBack, Option.mem_def.1 hp, Option.all_some, hnext, Bool.false_eq_true] at hev
    | _ => trivial
  have hzero := h _ cfg (hrun.mono hgrantedFirst) "session-1" ?_ ?_
  · omega
  · rintro (hmem | ⟨key, allocation, tokenDigest, hlookup, -⟩)
    · rw [hgranted] at hmem
      cases hmem
    · have hmem := AList.mem_lookup_iff.1 hlookup
      rw [hactive] at hmem
      cases hmem
  · rintro ⟨r, tokenDigest, -, ⟨p, hp, allocation, fallbackUsername, hop, -⟩ | hmem | hmem | hmem⟩
    · have hp := hprocs p hp
      rw [hop] at hp
      cases hp
    · rw [hindex] at hmem
      cases hmem
    · rw [husers] at hmem
      cases hmem
    · rw [ReleaseStore.Local, hlocal] at hmem
      cases hmem

end Turn
