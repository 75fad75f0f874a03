/-
**No release lowers a counter twice, unless it comes too late.**

The script that gives a slot back marks the operation in the counter of the session, and a release
that is made again finds the mark and changes nothing.  The mark goes when the counter expires, a day
after the last call that wrote it, and the durable set keeps a release for as long as it is not
completed: a release that is made again after a day may lower the counter once more.

Main definitions:

* `Turn.Lasts` — a counter bears the mark of an operation, and will for some time;
* `Turn.ReleaseStore.Marking` — the operations that lowered a counter are marked;
* `Turn.CalledInTime` — a release call for an operation that has lowered the counter comes before the
  mark can expire;
* `Turn.ReleaseProtocol` — the law.

Main results:

* `Turn.ReleaseStore.marking_release` — **a release call in time lowers a counter once**;
* `Turn.releaseProtocol_of_calledInTime` — **so no run of such calls lowers it twice, and none loses
  a release**;
* `Turn.releaseProtocol_fails_after_expiry` — a release that is completed too late lowers it twice.
-/

import Pairline.Turn.Retention

set_option relaxedAutoImplicit false
set_option autoImplicit false

namespace Turn

open Program Transition Whitespace

/-! ### Marks -/

/-- A counter bears the mark of an operation, and does not expire before the time `expiry`. -/
def Lasts (expiry : ℕ) (operationID : String) (key : Option Key) : Prop :=
  ∃ fields e, key = some ⟨.hash fields, some e⟩ ∧ operationField operationID ∈ fields ∧ expiry ≤ e

theorem Lasts.marked {expiry : ℕ} {operationID : String} {key : Option Key}
    (h : Lasts expiry operationID key) : Key.Marked operationID key := by
  obtain ⟨fields, e, rfl, hmark, -⟩ := h
  exact hmark

/-- A mark that lasts is live. -/
theorem Lasts.live {now expiry : ℕ} {operationID name : String} {keys : CounterKeys}
    (h : Lasts expiry operationID (keys name)) (hnow : now < expiry) :
    Lasts expiry operationID (keys.live now name) := by
  obtain ⟨fields, e, hkey, hmark, hle⟩ := h
  rw [CounterKeys.live_of_lt hkey (hnow.trans_le hle)]
  exact ⟨fields, e, hkey, hmark, hle⟩

namespace ReleaseStore

/-- A release leaves the other marks, and does not bring their end nearer. -/
theorem Released.lasts {now expiry : ℕ} {operationID other : String} {key key' : Option Key}
    (h : Released now operationID key key') (hother : Lasts expiry other key)
    (hexpiry : expiry ≤ now + turnAllocationCounterTTL) : Lasts expiry other key' := by
  rcases h with ⟨-, rfl⟩ | ⟨-, fields, rfl, -, hmarks⟩
  · exact hother
  · exact ⟨fields, _, rfl, (hmarks other).2 (.inr hother.marked), hexpiry⟩

/-- A release that lowers the count finds no mark, and leaves its own. -/
theorem Released.lowered {now : ℕ} {operationID : String} {key key' : Option Key}
    (h : Released now operationID key key') (hlower : Key.count key' < Key.count key) :
    ¬ Key.Marked operationID key ∧ Lasts (now + turnAllocationCounterTTL) operationID key' := by
  rcases h with ⟨-, rfl⟩ | ⟨hmark, fields, rfl, -, hmarks⟩
  · exact absurd hlower (Int.lt_irrefl _)
  · exact ⟨hmark, fields, _, rfl, (hmarks operationID).2 (.inl rfl), le_refl _⟩

/-- **Every operation that has lowered a counter did so once, and its mark lasts for a day.** -/
structure Marking (s : ReleaseStore) : Prop where
  counting : s.Counting
  past : ∀ entry ∈ s.decremented, entry.2 ≤ s.redisNow
  lasting : ∀ sessionID operationID t, ((sessionID, operationID), t) ∈ s.decremented →
    s.redisNow < t + turnAllocationCounterTTL →
    Lasts (t + turnAllocationCounterTTL) operationID (s.counters (turnAllocationKey sessionID))
  once : (s.decremented.map Prod.fst).Nodup

/-- A call comes in time: an operation that lowered the counter still has its mark. -/
def InTime : ReleaseCmd → ReleaseStore → Prop
  | .releaseSlot r, s => ∀ sessionID tokenDigest t,
      parseUsername r.username = some (sessionID, tokenDigest) →
      ((sessionID, trim r.operationID), t) ∈ s.decremented →
      s.redisNow < t + turnAllocationCounterTTL
  | _, _ => True

/-- What the marks depend on is as it was, but for the time. -/
structure SameMarks (s t : ReleaseStore) : Prop where
  counters : t.counters = s.counters
  decremented : t.decremented = s.decremented
  now : s.relay.now ≤ t.relay.now

variable {s t : ReleaseStore}

theorem SameMarks.refl (s : ReleaseStore) : s.SameMarks s := ⟨rfl, rfl, le_refl _⟩

theorem SameMarks.marking (h : s.SameMarks t) (hs : s.Marking) : t.Marking := by
  have hnow : s.redisNow ≤ t.redisNow := Nat.div_le_div_right h.now
  refine ⟨?_, fun entry hentry => ?_, fun sessionID operationID u hentry hlt => ?_, ?_⟩
  · intro sessionID
    rw [h.counters]
    exact hs.counting sessionID
  · exact (hs.past entry (h.decremented ▸ hentry)).trans hnow
  · rw [h.counters]
    exact hs.lasting sessionID operationID u (h.decremented ▸ hentry) (hnow.trans_lt hlt)
  · rw [h.decremented]
    exact hs.once

/-- The counters that have expired bear no mark that lasts. -/
theorem Marking.expire (hs : s.Marking) : s.expire.Marking where
  counting := hs.counting.liveKey
  past := hs.past
  lasting sessionID operationID t hentry hlt := (hs.lasting sessionID operationID t hentry hlt).live hlt
  once := hs.once

/-- A counter that is written keeps the marks that last. -/
theorem Marking.writeCounter (hs : s.Marking) {sessionID : String} {key : Option Key}
    (hkey : IsCounter key)
    (hlasting : ∀ operationID t, ((sessionID, operationID), t) ∈ s.decremented →
      s.redisNow < t + turnAllocationCounterTTL → Lasts (t + turnAllocationCounterTTL) operationID key) :
    (s.writeCounter sessionID key).Marking := by
  refine ⟨fun other => ?_, hs.past, fun other operationID t hentry hlt => ?_, hs.once⟩
  all_goals
    simp only [ReleaseStore.writeCounter, Function.update_apply, turnAllocationKey_inj]
    split_ifs with heq
  · exact hkey
  · exact hs.counting.liveKey other
  · subst heq
    exact hlasting operationID t hentry hlt
  · exact (hs.lasting other operationID t hentry hlt).live hlt

/-- **A release call in time lowers a counter at most once for its operation.** -/
theorem marking_release (hs : s.Marking) {r : PendingRelease} (hr : InTime (.releaseSlot r) s) :
    (s.release r).2.Marking := by
  rcases release_cases hs.counting r with ⟨hcall, -⟩ | ⟨sessionID, tokenDigest, key, hparse, hkey, hcall⟩
  · rw [hcall]
    exact hs.expire
  rw [hcall]
  have hlive : ∀ operationID t, ((sessionID, operationID), t) ∈ s.decremented →
      s.redisNow < t + turnAllocationCounterTTL →
      Lasts (t + turnAllocationCounterTTL) operationID (s.liveKey sessionID) :=
    fun operationID t hentry hlt => (hs.lasting sessionID operationID t hentry hlt).live hlt
  have hwritten : (s.writeCounter sessionID key).Marking :=
    hs.writeCounter (hkey.isCounter (hs.counting.liveKey sessionID))
      fun operationID t hentry hlt => hkey.lasts (hlive operationID t hentry hlt)
        (Nat.add_le_add_right (hs.past _ hentry) _)
  have hsame : (s.writeCounter sessionID key).counters (turnAllocationKey sessionID) = key :=
    Function.update_self ..
  simp only [recordApplied, hparse, hsame]
  split_ifs with hlower
  · obtain ⟨hunmarked, hmark⟩ := hkey.lowered hlower
    refine ⟨hwritten.counting, fun entry hentry => ?_, fun other operationID t hentry hlt => ?_, ?_⟩
    · rcases List.mem_cons.1 hentry with rfl | hentry
      · exact le_refl _
      · exact hs.past entry hentry
    · rcases List.mem_cons.1 hentry with heq | hentry
      · cases heq
        exact hsame.symm ▸ hmark
      · exact hwritten.lasting other operationID t hentry hlt
    · -- an operation that had lowered the counter would have been marked
      refine List.nodup_cons.2 ⟨fun hmem => ?_, hs.once⟩
      obtain ⟨⟨operation, t⟩, hentry, heq⟩ := List.mem_map.1 hmem
      cases heq
      exact hunmarked (hlive _ t hentry (hr sessionID tokenDigest t hparse hentry)).marked
  · exact ⟨hwritten.counting, hwritten.past, hwritten.lasting, hwritten.once⟩

/-- A reserve call keeps the marks that last. -/
theorem marking_reserve (hs : s.Marking) (limit : ℤ) (username : String) :
    (s.reserve limit username).2.Marking := by
  rcases reserve_cases hs.counting limit username with
    ⟨reply, hcall, -⟩ | ⟨sessionID, tokenDigest, fields, -, -, hcall, -, hmarks⟩
  · rw [hcall]
    exact hs.expire
  rw [hcall]
  refine hs.writeCounter (.inr ⟨fields, _, rfl⟩) fun operationID t hentry hlt => ?_
  have hlive : Lasts (t + turnAllocationCounterTTL) operationID (s.liveKey sessionID) :=
    (hs.lasting sessionID operationID t hentry hlt).live hlt
  exact ⟨fields, _, rfl, (hmarks operationID).2 hlive.marked,
    Nat.add_le_add_right (hs.past _ hentry) _⟩

/-! ### What the calls do to the marks -/

theorem sameMarks_recordSuccess (r : PendingRelease) (reply : Except CallFailure Unit) :
    s.SameMarks (s.recordSuccess r reply) := by
  cases reply with
  | ok _ => exact ⟨rfl, rfl, le_refl _⟩
  | error e => exact .refl s

theorem sameMarks_recordGrant (username : String) (reply : Except CallFailure Bool) :
    s.SameMarks (s.recordGrant username reply) := by
  unfold recordGrant
  split
  · split
    · exact ⟨rfl, rfl, le_refl _⟩
    · exact .refl s
  · exact .refl s

theorem sameMarks_recordCreation (e : Event) : s.SameMarks (s.recordCreation e) := by
  unfold recordCreation
  split
  · split
    · exact ⟨rfl, rfl, le_refl _⟩
    · exact .refl s
  · exact .refl s

theorem sameMarks_queueAllocationRelease (r : PendingRelease) :
    s.SameMarks (s.queueAllocationRelease r) := by
  unfold queueAllocationRelease
  split_ifs
  · exact .refl s
  · exact ⟨rfl, rfl, le_refl _⟩

theorem marking_callback (toUpper : String → String) (e : Event) (hs : s.Marking) :
    (s.callback toUpper e).2.Marking := by
  unfold callback
  cases hstep : s.relay.step toUpper e with
  | none => exact hs
  | some relay =>
      have hrelay : s.SameMarks { s with relay := relay } := ⟨rfl, rfl, Relay.now_le_of_step hstep⟩
      exact (sameMarks_recordCreation e).marking (hrelay.marking hs)

/-- **What a call does to the marks**, when it comes in time. -/
theorem marking_exec (toUpper : String → String) (x : Answer) (c : ReleaseCmd) (hs : s.Marking)
    (hc : InTime c s) : (c.exec toUpper x s).2.Marking := by
  have hsettle : ∀ {α : Type} {t : ReleaseStore} (reply : Except CallFailure α), t.Marking →
      (settle x.outcome reply s t).2.Marking :=
    fun reply ht => @settle_snd s _ _ Marking x.outcome reply hs ht
  have hsame : ∀ {t : ReleaseStore}, s.SameMarks t → t.Marking := fun h => h.marking hs
  cases c with
  | hsetIndex r => exact hsettle _ (hsame ⟨rfl, rfl, le_refl _⟩)
  | hsetUser r => exact hsettle _ (hsame ⟨rfl, rfl, le_refl _⟩)
  | hdelIndex r => exact hsettle _ (hsame ⟨rfl, rfl, le_refl _⟩)
  | hdelUser r => exact hsettle _ (hsame ⟨rfl, rfl, le_refl _⟩)
  | hgetallIndex => exact hs
  | hgetallUser username => exact hs
  | releaseSlot r =>
      exact (sameMarks_recordSuccess r _).marking (hsettle (s.release r).1 (marking_release hs hc))
  | reserveSlot limit username =>
      exact (sameMarks_recordGrant username _).marking
        (hsettle (s.reserve limit username).1 (marking_reserve hs limit username))
  | queueAllocationRelease r => exact hsame (sameMarks_queueAllocationRelease r)
  | completePendingRelease r => exact hsame ⟨rfl, rfl, le_refl _⟩
  | snapshotPendingReleases username => exact hsame ⟨rfl, rfl, le_refl _⟩
  | nextState states => exact hs
  | callback e => exact marking_callback toUpper e hs

theorem marking_env {n : RelayEnv} (hs : s.Marking) (h : n.apply s = some t) : t.Marking := by
  have hsame : s.SameMarks t := by
    cases n with
    | tick d =>
        obtain rfl := Option.some_inj.1 h
        exact ⟨rfl, rfl, Nat.le_add_right _ _⟩
    | creationFailed sessionID =>
        obtain ⟨-, h⟩ := Option.ite_none_right_eq_some.1 h
        obtain rfl := Option.some_inj.1 h
        exact ⟨rfl, rfl, le_refl _⟩
  exact hsame.marking hs

theorem marking_newReleaseStore : newReleaseStore.Marking where
  counting _ := .inl rfl
  past _ h := absurd h List.not_mem_nil
  lasting _ _ _ h := absurd h List.not_mem_nil
  once := List.nodup_nil

end ReleaseStore

/-! ### The law -/

/-- **A release call for an operation that has lowered the counter comes before the mark of the
operation can expire.** -/
def CalledInTime {X : Type} (cfg : RelayConfig) : RelayEvent X → Prop
  | .advance i _ => ∀ p ∈ cfg.procs[i]?, ∀ c ∈ p.rest.next?, ReleaseStore.InTime c cfg.store
  | _ => True

/-- **No launched release is lost before a call for it has succeeded, and none lowers the counter of
its session twice**, in any run in which every step is `ok`. -/
def ReleaseProtocol (toUpper : String → String) (allocationQuota : ℤ)
    (ok : RelayConfig → RelayEvent Answer → Prop) : Prop :=
  ∀ l cfg, Run (Pool.step (relaySystem toUpper allocationQuota id)) ok (Pool.idle newReleaseStore) l
      cfg →
    (∀ p ∈ cfg.procs, ∀ allocation fallbackUsername r, p.op = .release allocation fallbackUsername →
      releaseOf allocation fallbackUsername = some r → Retained cfg.store p.rest r) ∧
    ∀ operation, (cfg.store.decremented.map Prod.fst).count operation ≤ 1

section Runs

variable {X : Type} {toUpper : String → String} {answers : X → Answer} {allocationQuota : ℤ}
  {l : List (RelayEvent X)} {cfg cfg' : RelayConfig}

theorem marking_step {ev : RelayEvent X} (hs : cfg.store.Marking) (hok : CalledInTime cfg ev)
    (hstep : Pool.step (relaySystem toUpper allocationQuota answers) cfg ev = some cfg') :
    cfg'.store.Marking := by
  rcases Pool.step_cases hstep with ⟨op, -, rfl⟩ | ⟨i, x, op, c, next, rfl, hget, rfl⟩ |
    ⟨i, e, -⟩ | ⟨n, store, -, henv, rfl⟩
  · exact hs
  · exact ReleaseStore.marking_exec toUpper (answers x) c hs (hok _ hget c rfl)
  · exact e.elim
  · exact ReleaseStore.marking_env hs henv

/-- In a run of calls in time every operation that has lowered a counter is marked. -/
theorem marking_of_run (h : Run (Pool.step (relaySystem toUpper allocationQuota answers)) CalledInTime
    (Pool.idle newReleaseStore) l cfg) : cfg.store.Marking :=
  h.invariant (I := fun cfg => cfg.store.Marking)
    (fun _ _ _ hs hok hstep => marking_step hs hok hstep) ReleaseStore.marking_newReleaseStore

end Runs

/-- **The release protocol holds in every run of calls in time.** -/
theorem releaseProtocol_of_calledInTime (toUpper : String → String) (allocationQuota : ℤ) :
    ReleaseProtocol toUpper allocationQuota CalledInTime := by
  intro l cfg hrun
  refine ⟨fun p hp allocation fallbackUsername r hop hr => retained_of_run hrun hp hop hr, ?_⟩
  exact List.nodup_iff_count_le_one.1 (marking_of_run hrun).once

/-- An allocation is granted, created and deleted; its release is persisted and made, and the answer
to its completion gets lost.  A day later another slot is granted, while the release is not found,
and the drain makes it again. -/
def lateDuplicate : List (RelayEvent Answer) :=
  [.start (.quotaHandler sessionUsername), .advance 0 {}, .advance 0 {}, .advance 0 {},
    .start (.callback (.allocationCreated (some ⟨"udp", "10.0.0.1:1111"⟩)
      (some ⟨"udp", "10.0.0.2:3478"⟩) "UDP" sessionUsername (some (Vector.replicate 12 0)))),
    .advance 1 {},
    .start (.callback (.allocationDeleted (some ⟨"udp", "10.0.0.1:1111"⟩)
      (some ⟨"udp", "10.0.0.2:3478"⟩) "UDP" sessionUsername)),
    .advance 2 {},
    -- the goroutine of the release
    .advance 3 {}, .advance 3 {}, .advance 3 {}, .advance 3 { outcome := .failed false }, .advance 3 {},
    .env (.tick ((24 * 60 + 30) * 60 * 10 ^ 9)),
    .start (.quotaHandler sessionUsername), .advance 4 {}, .advance 4 { outcome := .failed false },
    .advance 4 {},
    .start (.processPendingReleases ""), .advance 5 {}, .advance 5 {}, .advance 5 {}, .advance 5 {}]

/-- **A release whose completion got lost lowers the counter again a day later**: the mark of the
operation has expired with the counter, the release has not. -/
theorem releaseProtocol_fails_after_expiry : ¬ ReleaseProtocol asciiUpper 2 Always := by
  intro h
  obtain ⟨cfg, hrun, hcfg⟩ :
      ∃ cfg, Run (Pool.step (relaySystem asciiUpper 2 id)) Always (Pool.idle newReleaseStore) lateDuplicate
        cfg ∧ decide (¬ (cfg.store.decremented.map Prod.fst).Nodup) = true :=
    exists_run_of_execWhere (by decide +kernel)
  exact of_decide_eq_true hcfg (List.nodup_iff_count_le_one.2 (h _ cfg hrun).2)

end Turn
