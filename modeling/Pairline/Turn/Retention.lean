/-
**No release is lost.**

A launched release is with its goroutine until a call to persist it has returned; from then on it is
in the durable set or in the local table, until a release call for it has succeeded.  Only the local
table forgets: after the maximum pending age.

Main definitions:

* `Turn.ReleaseStore.Sound`, `Turn.ReleaseStore.Grows` — what every call keeps, and what a release
  relies on;
* `Turn.releaseContract` — the contract of every operation;
* `Turn.Retained` — where a launched release is.

Main results:

* `Turn.ReleaseStore.grows_exec` — **what a call does to the pending releases**;
* `Turn.keeps_of_run` — **every operation completes only what was released, or persisted**;
* `Turn.retained_of_run` — **no launched release is lost, in any run**.
-/

import Pairline.Turn.Releases

set_option relaxedAutoImplicit false
set_option autoImplicit false

namespace Turn

open Program Transition Whitespace

/-! ### What the calls do to the pending releases -/

namespace ReleaseStore

/-- The release was queued locally at least the maximum pending age ago. -/
def Aged (s : ReleaseStore) (r : PendingRelease) : Prop :=
  ∃ queuedAt, (r, queuedAt) ∈ s.queued ∧ queuedAt + pendingReleaseMaxAge ≤ s.relay.now

/-- The release is in the local table. -/
def Local (s : ReleaseStore) (r : PendingRelease) : Prop := r ∈ s.pendingReleases.map Prod.fst

/-- **What is persisted stays so until a release call succeeds**, and the local table holds what was
queued. -/
structure Sound (s : ReleaseStore) : Prop where
  written : ∀ r ∈ s.written, r ∈ s.succeeded ∨ (r ∈ s.pendingIndex ∧ r ∈ s.pendingOfUsers)
  queued : ∀ entry ∈ s.pendingReleases, entry ∈ s.queued

/-- **What the others do to the pending releases**: none gets lost. -/
structure Grows (s t : ReleaseStore) : Prop where
  succeeded : s.succeeded ⊆ t.succeeded
  written : s.written ⊆ t.written
  queued : s.queued ⊆ t.queued
  now : s.relay.now ≤ t.relay.now
  index : ∀ r ∈ s.pendingIndex, r ∈ t.pendingIndex ∨ r ∈ t.succeeded
  users : ∀ r ∈ s.pendingOfUsers, r ∈ t.pendingOfUsers ∨ r ∈ t.succeeded
  locals : ∀ r, r.trimmed = r → s.Local r →
    t.Local r ∨ r ∈ t.succeeded ∨ r ∈ t.written ∨ t.Aged r

/-- A call keeps to this: it completes only what was released, or persisted. -/
def Guard : ReleaseCmd → ReleaseStore → Prop
  | .hsetUser r, s => r ∈ s.pendingIndex ∨ r ∈ s.succeeded
  | .hdelIndex r, s => r ∈ s.succeeded
  | .hdelUser r, s => r ∈ s.succeeded
  | .completePendingRelease r, s => r.trimmed ∈ s.written ∨ r.trimmed ∈ s.succeeded
  | _, _ => True

variable {s t u : ReleaseStore} {r : PendingRelease}

theorem Aged.grows (h : s.Aged r) (hst : s.Grows t) : t.Aged r := by
  obtain ⟨queuedAt, hqueued, hage⟩ := h
  exact ⟨queuedAt, hst.queued hqueued, hage.trans hst.now⟩

theorem Grows.refl (s : ReleaseStore) : s.Grows s where
  succeeded := List.Subset.refl _
  written := List.Subset.refl _
  queued := List.Subset.refl _
  now := le_refl _
  index _ := .inl
  users _ := .inl
  locals _ _ := .inl

theorem Grows.trans (h : s.Grows t) (h' : t.Grows u) : s.Grows u where
  succeeded _ hr := h'.succeeded (h.succeeded hr)
  written _ hr := h'.written (h.written hr)
  queued _ hr := h'.queued (h.queued hr)
  now := h.now.trans h'.now
  index r hr := (h.index r hr).elim (h'.index r) fun hdone => .inr (h'.succeeded hdone)
  users r hr := (h.users r hr).elim (h'.users r) fun hdone => .inr (h'.succeeded hdone)
  locals r htrim hr := by
    rcases h.locals r htrim hr with hlocal | hdone | hwritten | haged
    · exact h'.locals r htrim hlocal
    · exact .inr (.inl (h'.succeeded hdone))
    · exact .inr (.inr (.inl (h'.written hwritten)))
    · exact .inr (.inr (.inr (haged.grows h')))

/-- The pending releases are as they were. -/
structure SamePending (s t : ReleaseStore) : Prop where
  index : t.pendingIndex = s.pendingIndex
  users : t.pendingOfUsers = s.pendingOfUsers
  locals : t.pendingReleases = s.pendingReleases
  written : t.written = s.written
  queued : t.queued = s.queued
  succeeded : s.succeeded ⊆ t.succeeded
  now : s.relay.now ≤ t.relay.now

theorem SamePending.refl (s : ReleaseStore) : s.SamePending s :=
  ⟨rfl, rfl, rfl, rfl, rfl, List.Subset.refl _, le_refl _⟩

theorem SamePending.trans (h : s.SamePending t) (h' : t.SamePending u) : s.SamePending u :=
  ⟨h'.index.trans h.index, h'.users.trans h.users, h'.locals.trans h.locals,
    h'.written.trans h.written, h'.queued.trans h.queued, fun _ hr => h'.succeeded (h.succeeded hr),
    h.now.trans h'.now⟩

theorem SamePending.grows (h : s.SamePending t) : s.Grows t where
  succeeded := h.succeeded
  written := h.written.symm ▸ List.Subset.refl _
  queued := h.queued.symm ▸ List.Subset.refl _
  now := h.now
  index _ hr := .inl (h.index.symm ▸ hr)
  users _ hr := .inl (h.users.symm ▸ hr)
  locals r _ hr := by
    rw [Local, h.locals]
    exact .inl hr

theorem SamePending.sound (h : s.SamePending t) (hs : s.Sound) : t.Sound where
  written r hr := by
    rw [h.index, h.users]
    exact (hs.written r (h.written ▸ hr)).imp_left fun hdone => h.succeeded hdone
  queued entry hentry := by
    rw [h.queued]
    exact hs.queued entry (h.locals ▸ hentry)

section Calls

theorem samePending_recordApplied (before : CounterKeys) (r : PendingRelease) :
    s.SamePending (s.recordApplied before r) := by
  unfold recordApplied
  split
  · exact .refl s
  · exact ⟨rfl, rfl, rfl, rfl, rfl, List.Subset.refl _, le_refl _⟩

theorem samePending_release (r : PendingRelease) : s.SamePending (s.release r).2 := by
  have hcounters : ∀ keys, s.SamePending { s with counters := keys } :=
    fun keys => ⟨rfl, rfl, rfl, rfl, rfl, List.Subset.refl _, le_refl _⟩
  unfold release
  dsimp only
  split
  · exact (hcounters _).trans (samePending_recordApplied _ r)
  · exact hcounters _

theorem samePending_reserve (limit : ℤ) (username : String) :
    s.SamePending (s.reserve limit username).2 := by
  unfold reserve
  split <;> exact ⟨rfl, rfl, rfl, rfl, rfl, List.Subset.refl _, le_refl _⟩

theorem samePending_recordSuccess (r : PendingRelease) (reply : Except CallFailure Unit) :
    s.SamePending (s.recordSuccess r reply) := by
  cases reply with
  | ok _ => exact ⟨rfl, rfl, rfl, rfl, rfl, List.subset_cons_self _ _, le_refl _⟩
  | error e => exact .refl s

theorem samePending_recordGrant (username : String) (reply : Except CallFailure Bool) :
    s.SamePending (s.recordGrant username reply) := by
  unfold recordGrant
  split
  · split
    · exact ⟨rfl, rfl, rfl, rfl, rfl, List.Subset.refl _, le_refl _⟩
    · exact .refl s
  · exact .refl s

theorem samePending_recordCreation (e : Event) : s.SamePending (s.recordCreation e) := by
  unfold recordCreation
  split
  · split
    · exact ⟨rfl, rfl, rfl, rfl, rfl, List.Subset.refl _, le_refl _⟩
    · exact .refl s
  · exact .refl s

/-- Either the effect of a call, or nothing. -/
theorem settle_snd {α : Type} {P : ReleaseStore → Prop} (outcome : Outcome)
    (reply : Except CallFailure α) (hs : P s) (ht : P t) : P (settle outcome reply s t).2 := by
  unfold settle
  dsimp only
  split_ifs
  · exact ht
  · exact hs

theorem samePending_callback (toUpper : String → String) (e : Event) :
    s.SamePending (s.callback toUpper e).2 := by
  unfold callback
  cases hstep : s.relay.step toUpper e with
  | none => exact .refl s
  | some relay =>
      have hrelay : s.SamePending { s with relay := relay } :=
        ⟨rfl, rfl, rfl, rfl, rfl, List.Subset.refl _, Relay.now_le_of_step hstep⟩
      exact hrelay.trans (samePending_recordCreation e)

theorem grows_hsetIndex (r : PendingRelease) :
    s.Grows { s with pendingIndex := s.pendingIndex.insert r } :=
  { Grows.refl s with index := fun _ hr => .inl (List.mem_insert_of_mem hr) }

theorem sound_hsetIndex (hs : s.Sound) (r : PendingRelease) :
    Sound { s with pendingIndex := s.pendingIndex.insert r } where
  written r' hr' := (hs.written r' hr').imp_right (And.imp_left List.mem_insert_of_mem)
  queued := hs.queued

theorem grows_hsetUser (r : PendingRelease) :
    s.Grows { s with
      pendingOfUsers := s.pendingOfUsers.insert r
      written := r :: s.written } :=
  { Grows.refl s with
    written := List.subset_cons_self _ _
    users := fun _ hr => .inl (List.mem_insert_of_mem hr)
    locals := fun _ _ hr => .inl hr }

theorem sound_hsetUser (hs : s.Sound) (hr : r ∈ s.pendingIndex ∨ r ∈ s.succeeded) :
    Sound { s with
      pendingOfUsers := s.pendingOfUsers.insert r
      written := r :: s.written } where
  written r' hr' := by
    rcases List.mem_cons.1 hr' with rfl | hr'
    · exact hr.symm.imp_right fun hindex => ⟨hindex, List.mem_insert_self⟩
    · exact (hs.written r' hr').imp_right (And.imp_right List.mem_insert_of_mem)
  queued := hs.queued

/-- What is left without a release of which a call succeeded. -/
theorem mem_filter_ne_or {l : List PendingRelease} {r' : PendingRelease} (hr : r ∈ s.succeeded)
    (h : r' ∈ l) : r' ∈ l.filter (· ≠ r) ∨ r' ∈ s.succeeded := by
  rcases eq_or_ne r' r with rfl | hne
  · exact .inr hr
  · exact .inl (List.mem_filter.2 ⟨h, decide_eq_true hne⟩)

theorem grows_hdelIndex (hr : r ∈ s.succeeded) :
    s.Grows { s with pendingIndex := s.pendingIndex.filter (· ≠ r) } :=
  { Grows.refl s with index := fun _ hr' => mem_filter_ne_or hr hr' }

theorem sound_hdelIndex (hs : s.Sound) (hr : r ∈ s.succeeded) :
    Sound { s with pendingIndex := s.pendingIndex.filter (· ≠ r) } where
  written r' hr' := by
    rcases hs.written r' hr' with hdone | ⟨hindex, husers⟩
    · exact .inl hdone
    · exact (mem_filter_ne_or hr hindex).symm.imp_right fun h => ⟨h, husers⟩
  queued := hs.queued

theorem grows_hdelUser (hr : r ∈ s.succeeded) :
    s.Grows { s with pendingOfUsers := s.pendingOfUsers.filter (· ≠ r) } :=
  { Grows.refl s with users := fun _ hr' => mem_filter_ne_or hr hr' }

theorem sound_hdelUser (hs : s.Sound) (hr : r ∈ s.succeeded) :
    Sound { s with pendingOfUsers := s.pendingOfUsers.filter (· ≠ r) } where
  written r' hr' := by
    rcases hs.written r' hr' with hdone | ⟨hindex, husers⟩
    · exact .inl hdone
    · exact (mem_filter_ne_or hr husers).symm.imp_right fun h => ⟨hindex, h⟩
  queued := hs.queued

/-- **What the local table forgets has reached the maximum pending age.** -/
theorem grows_cleanupExpiredPendingReleases (hs : s.Sound) :
    s.Grows s.cleanupExpiredPendingReleases := by
  refine { Grows.refl s with locals := fun r _ hr => ?_ }
  obtain ⟨⟨r, queuedAt⟩, hentry, rfl⟩ := List.mem_map.1 hr
  by_cases hage : s.relay.now - queuedAt < pendingReleaseMaxAge
  · exact .inl (List.mem_map_of_mem (List.mem_filter.2 ⟨hentry, decide_eq_true hage⟩))
  · have hpos : 0 < pendingReleaseMaxAge := by decide
    have hold : queuedAt + pendingReleaseMaxAge ≤ s.relay.now := by omega
    exact .inr (.inr (.inr ⟨queuedAt, hs.queued _ hentry, hold⟩))

theorem sound_cleanupExpiredPendingReleases (hs : s.Sound) :
    s.cleanupExpiredPendingReleases.Sound where
  written := hs.written
  queued entry hentry := hs.queued entry (List.mem_filter.1 hentry).1

theorem grows_queueAllocationRelease (hs : s.Sound) (r : PendingRelease) :
    s.Grows (s.queueAllocationRelease r) := by
  unfold queueAllocationRelease
  split_ifs
  · exact .refl s
  refine (grows_cleanupExpiredPendingReleases hs).trans ?_
  refine { Grows.refl _ with
    queued := List.subset_cons_self _ _
    locals := fun r' _ hr' => .inl ?_ }
  obtain ⟨entry, hentry, rfl⟩ := List.mem_map.1 hr'
  by_cases heq : entry.1 = r.trimmed
  · rw [heq]
    exact List.mem_map_of_mem (f := Prod.fst) List.mem_cons_self
  · exact List.mem_map_of_mem
      (List.mem_cons_of_mem _ (List.mem_filter.2 ⟨hentry, decide_eq_true heq⟩))

theorem sound_queueAllocationRelease (hs : s.Sound) (r : PendingRelease) :
    (s.queueAllocationRelease r).Sound := by
  unfold queueAllocationRelease
  split_ifs
  · exact hs
  refine ⟨hs.written, fun entry hentry => ?_⟩
  rcases List.mem_cons.1 hentry with rfl | hentry
  · exact List.mem_cons_self
  · have hkept := (List.mem_filter.1 hentry).1
    exact List.mem_cons_of_mem _ (hs.queued entry (List.mem_filter.1 hkept).1)

theorem grows_completePendingRelease (hr : r.trimmed ∈ s.written ∨ r.trimmed ∈ s.succeeded) :
    s.Grows (s.completePendingRelease r) := by
  refine { Grows.refl s with locals := fun r' htrim hr' => ?_ }
  obtain ⟨entry, hentry, rfl⟩ := List.mem_map.1 hr'
  by_cases heq : entry.1 = r
  · rw [← heq, htrim] at hr
    exact .inr (hr.elim (fun hwritten => .inr (.inl hwritten)) .inl)
  · exact .inl (List.mem_map_of_mem (List.mem_filter.2 ⟨hentry, decide_eq_true heq⟩))

theorem sound_completePendingRelease (hs : s.Sound) (r : PendingRelease) :
    (s.completePendingRelease r).Sound where
  written := hs.written
  queued entry hentry := hs.queued entry (List.mem_filter.1 hentry).1

/-- **What a call does to the pending releases**, when it keeps to its guard. -/
theorem grows_exec (toUpper : String → String) (x : Answer) (c : ReleaseCmd) (hs : s.Sound)
    (hc : Guard c s) : s.Grows (c.exec toUpper x s).2 ∧ (c.exec toUpper x s).2.Sound := by
  have hsettle : ∀ {t : ReleaseStore} (reply : Except CallFailure Unit), s.Grows t → t.Sound →
      s.Grows (settle x.outcome reply s t).2 ∧ (settle x.outcome reply s t).2.Sound :=
    fun reply hgrows hsound => @settle_snd s _ _ (fun t => s.Grows t ∧ t.Sound) x.outcome reply
      ⟨.refl s, hs⟩ ⟨hgrows, hsound⟩
  have hsame : ∀ {t : ReleaseStore}, s.SamePending t → s.Grows t ∧ t.Sound :=
    fun h => ⟨h.grows, h.sound hs⟩
  cases c with
  | hsetIndex r => exact hsettle _ (grows_hsetIndex r) (sound_hsetIndex hs r)
  | hsetUser r => exact hsettle _ (grows_hsetUser r) (sound_hsetUser hs hc)
  | hdelIndex r => exact hsettle _ (grows_hdelIndex hc) (sound_hdelIndex hs hc)
  | hdelUser r => exact hsettle _ (grows_hdelUser hc) (sound_hdelUser hs hc)
  | hgetallIndex => exact ⟨.refl s, hs⟩
  | hgetallUser username => exact ⟨.refl s, hs⟩
  | releaseSlot r =>
      have hcall := @settle_snd s _ _ s.SamePending x.outcome (s.release r).1 (.refl s)
        (samePending_release r)
      exact hsame (hcall.trans (samePending_recordSuccess r _))
  | reserveSlot limit username =>
      have hcall := @settle_snd s _ _ s.SamePending x.outcome (s.reserve limit username).1 (.refl s)
        (samePending_reserve limit username)
      exact hsame (hcall.trans (samePending_recordGrant username _))
  | queueAllocationRelease r =>
      exact ⟨grows_queueAllocationRelease hs r, sound_queueAllocationRelease hs r⟩
  | completePendingRelease r =>
      exact ⟨grows_completePendingRelease hc, sound_completePendingRelease hs r⟩
  | snapshotPendingReleases username =>
      exact ⟨grows_cleanupExpiredPendingReleases hs, sound_cleanupExpiredPendingReleases hs⟩
  | nextState states => exact ⟨.refl s, hs⟩
  | callback e => exact hsame (samePending_callback toUpper e)

/-- What happens beside the operations loses no release either. -/
theorem grows_env {n : RelayEnv} (hs : s.Sound) (h : n.apply s = some t) : s.Grows t ∧ t.Sound := by
  have hsame : s.SamePending t := by
    cases n with
    | tick d =>
        obtain rfl := Option.some_inj.1 h
        exact ⟨rfl, rfl, rfl, rfl, rfl, List.Subset.refl _, Nat.le_add_right _ _⟩
    | creationFailed sessionID =>
        obtain ⟨-, h⟩ := Option.ite_none_right_eq_some.1 h
        obtain rfl := Option.some_inj.1 h
        exact ⟨rfl, rfl, rfl, rfl, rfl, List.Subset.refl _, le_refl _⟩
  exact ⟨hsame.grows, hsame.sound hs⟩

end Calls

end ReleaseStore

/-! ### What the calls tell -/

section Replies

variable {toUpper : String → String} {x : Answer} {r : PendingRelease} {s : ReleaseStore}

theorem Outcome.reply_eq_ok {α : Type} {outcome : Outcome} {reply : Except CallFailure α} {a : α}
    (h : outcome.reply reply = .ok a) : outcome = .answered ∧ reply = .ok a := by
  cases outcome with
  | answered => exact ⟨rfl, h⟩
  | failed applied => cases h
  | panicked applied => cases h

theorem mem_pendingIndex_of_ok (h : ((ReleaseCmd.hsetIndex r).exec toUpper x s).1 = .ok ()) :
    r ∈ ((ReleaseCmd.hsetIndex r).exec toUpper x s).2.pendingIndex := by
  obtain ⟨houtcome, -⟩ := Outcome.reply_eq_ok h
  simp only [ReleaseCmd.exec, ReleaseStore.settle, houtcome, Outcome.applies, if_true]
  exact List.mem_insert_self

theorem mem_written_of_ok (h : ((ReleaseCmd.hsetUser r).exec toUpper x s).1 = .ok ()) :
    r ∈ ((ReleaseCmd.hsetUser r).exec toUpper x s).2.written := by
  obtain ⟨houtcome, -⟩ := Outcome.reply_eq_ok h
  simp only [ReleaseCmd.exec, ReleaseStore.settle, houtcome, Outcome.applies, if_true]
  exact List.mem_cons_self

theorem mem_succeeded_of_ok (h : ((ReleaseCmd.releaseSlot r).exec toUpper x s).1 = .ok ()) :
    r.trimmed ∈ ((ReleaseCmd.releaseSlot r).exec toUpper x s).2.succeeded := by
  simp only [ReleaseCmd.exec] at h ⊢
  rw [h]
  exact List.mem_cons_self

end Replies

/-! ### The contract of the operations -/

section Contract

variable {X : Type} (toUpper : String → String) (answers : X → Answer) {α β : Type}

/-- A program keeps to the guard and ends in `Φ`. -/
def Secured (p : RelayProg α) (Φ : α → ReleaseStore → Prop) (s : ReleaseStore) : Prop :=
  p.Secure (fun x => ReleaseCmd.exec toUpper (answers x)) ReleaseStore.Grows ReleaseStore.Guard
    (fun _ => True) Φ s

variable {toUpper answers} {s t : ReleaseStore} {Φ : α → ReleaseStore → Prop} {r : PendingRelease}

theorem Secured.bind {p : RelayProg α} {f : α → RelayProg β} {Ψ : β → ReleaseStore → Prop}
    (h : Secured toUpper answers p Φ s)
    (hf : ∀ a t, Φ a t → Secured toUpper answers (f a) Ψ t) :
    Secured toUpper answers (p.bind f) Ψ s :=
  Secure.bind (h.mono hf)

/-- One call, with what comes after it. -/
theorem secured_ask_bind {c : ReleaseCmd} {f : c.Reply → RelayProg α}
    (hguard : ∀ t, s.Grows t → ReleaseStore.Guard c t)
    (hok : ∀ t x, s.Grows t → Secured toUpper answers (f (c.exec toUpper (answers x) t).1) Φ
      (c.exec toUpper (answers x) t).2) :
    Secured toUpper answers ((ask c).bind f) Φ s :=
  fun t ht => ⟨hguard t ht, fun x => hok t x ht, fun e => e.elim⟩

/-- One call, at the end. -/
theorem secured_ask {c : ReleaseCmd} {Φ : c.Reply → ReleaseStore → Prop}
    (hguard : ∀ t, s.Grows t → ReleaseStore.Guard c t)
    (hok : ∀ t x, s.Grows t → Φ (c.exec toUpper (answers x) t).1 (c.exec toUpper (answers x) t).2) :
    Secured toUpper answers (ask c) Φ s :=
  fun t ht => ⟨hguard t ht, fun x => hok t x ht, fun e => e.elim⟩

theorem secured_queueAllocationRelease (r : PendingRelease) :
    Secured toUpper answers (ask (.queueAllocationRelease r)) (fun _ _ => True) s :=
  secured_ask (fun _ _ => trivial) fun _ _ _ => trivial

theorem secured_completePendingRelease (hr : r.trimmed ∈ s.written ∨ r.trimmed ∈ s.succeeded) :
    Secured toUpper answers (ask (.completePendingRelease r)) (fun _ _ => True) s :=
  secured_ask (fun _ ht => hr.imp (ht.written ·) (ht.succeeded ·)) fun _ _ _ => trivial

/-- A release that is persisted is written. -/
theorem secured_queuePendingTURNRelease (r : PendingRelease) :
    Secured toUpper answers (queuePendingTURNRelease r)
      (fun result t => result = .ok () → r.trimmed ∈ t.written) s := by
  unfold queuePendingTURNRelease
  cases hfield : pendingReleaseField r with
  | none => exact fun h => by cases h
  | some field =>
      obtain rfl := pendingReleaseField_eq_some hfield
      refine secured_ask_bind (fun _ _ => trivial) fun t x ht => ?_
      cases hreply : ((ReleaseCmd.hsetIndex r.trimmed).exec toUpper (answers x) t).1 with
      | error e => exact fun h => by cases h
      | ok _ =>
          have hindex := mem_pendingIndex_of_ok hreply
          exact secured_ask (fun u hu => hu.index _ hindex) fun u y hu => mem_written_of_ok

/-- What is completed was released. -/
theorem secured_completePendingTURNRelease (hr : r.trimmed ∈ s.succeeded) :
    Secured toUpper answers (completePendingTURNRelease r)
      (fun _ t => r.trimmed ∈ t.succeeded) s := by
  unfold completePendingTURNRelease
  cases hfield : pendingReleaseField r with
  | none => exact hr
  | some field =>
      obtain rfl := pendingReleaseField_eq_some hfield
      have hkept : ∀ (x : X) {t u : ReleaseStore}, r.trimmed ∈ t.succeeded →
          u.succeeded = t.succeeded →
          r.trimmed ∈ (ReleaseStore.settle (answers x).outcome (.ok ()) t u).2.succeeded :=
        fun x t u hdone hsame => @ReleaseStore.settle_snd t u _ (r.trimmed ∈ ·.succeeded)
          (answers x).outcome (.ok ()) hdone (hsame.symm ▸ hdone)
      refine secured_ask_bind (fun t ht => ht.succeeded hr) fun t x ht => ?_
      have hdone : r.trimmed ∈ ((ReleaseCmd.hdelIndex r.trimmed).exec toUpper (answers x) t).2.succeeded :=
        hkept x (ht.succeeded hr) rfl
      cases hreply : ((ReleaseCmd.hdelIndex r.trimmed).exec toUpper (answers x) t).1 with
      | error e => exact hdone
      | ok _ =>
          exact secured_ask (fun u hu => hu.succeeded hdone)
            fun u y hu => hkept y (hu.succeeded hdone) rfl

/-! ### The goroutine -/

theorem secured_releasePersisted (r : PendingRelease) (persisted : Bool) :
    Secured toUpper answers (releasePersisted r persisted) (fun _ _ => True) s := by
  simp only [releasePersisted, bind_eq]
  refine secured_ask_bind (fun _ _ => trivial) fun t x ht => ?_
  cases hreply : ((ReleaseCmd.releaseSlot r).exec toUpper (answers x) t).1 with
  | error e =>
      cases e with
      | failed => trivial
      | panicked => exact secured_queueAllocationRelease r
  | ok _ =>
      have hdone := mem_succeeded_of_ok hreply
      cases persisted with
      | false => exact secured_completePendingRelease (.inr hdone)
      | true =>
          simp only [if_true]
          refine (secured_completePendingTURNRelease hdone).bind fun result u hu => ?_
          match result with
          | .ok _ => exact secured_completePendingRelease (.inr hu)
          | .error .failed => exact secured_completePendingRelease (.inr hu)
          | .error .panicked => exact secured_queueAllocationRelease r

theorem secured_releaseDeletedAllocation (r : PendingRelease) :
    Secured toUpper answers (releaseDeletedAllocation r) (fun _ _ => True) s := by
  simp only [releaseDeletedAllocation, bind_eq]
  refine (secured_queuePendingTURNRelease r).bind fun result t _ => ?_
  match result with
  | .ok _ => exact secured_releasePersisted r true
  | .error .panicked => exact secured_queueAllocationRelease r
  | .error .failed =>
      exact (secured_queueAllocationRelease r).bind fun _ _ _ => secured_releasePersisted r false

/-! ### The drain -/

theorem secured_persistState (state : PendingReleaseState) :
    Secured toUpper answers (persistState state) (fun _ _ => True) s := by
  unfold persistState
  split_ifs
  · refine (secured_queuePendingTURNRelease state.release).bind fun result t ht => ?_
    match result with
    | .ok _ =>
        exact (secured_completePendingRelease (.inl (ht rfl))).bind fun _ _ _ => trivial
    | .error .failed => trivial
    | .error .panicked => trivial
  · trivial

theorem secured_completeState {state : PendingReleaseState}
    (hdone : state.release.trimmed ∈ s.succeeded) :
    Secured toUpper answers (completeState state) (fun _ _ => True) s := by
  have hlocal : ∀ {t : ReleaseStore}, state.release.trimmed ∈ t.succeeded →
      Secured toUpper answers (completeState.completeLocal state) (fun _ _ => True) t := by
    intro t ht
    unfold completeState.completeLocal
    split_ifs
    · exact (secured_completePendingRelease (.inr ht)).bind fun _ _ _ => trivial
    · trivial
  unfold completeState
  split_ifs
  · refine (secured_completePendingTURNRelease hdone).bind fun result t ht => ?_
    match result with
    | .ok _ => exact hlocal ht
    | .error .failed => trivial
    | .error .panicked => trivial
  · exact hlocal hdone

theorem secured_processState (state : PendingReleaseState) :
    Secured toUpper answers (processState state) (fun _ _ => True) s := by
  simp only [processState, bind_eq]
  refine (secured_persistState state).bind fun result t _ => ?_
  cases result with
  | none => trivial
  | some state =>
      refine secured_ask_bind (fun _ _ => trivial) fun u x hu => ?_
      cases hreply : ((ReleaseCmd.releaseSlot state.release).exec toUpper (answers x) u).1 with
      | ok _ => exact secured_completeState (mem_succeeded_of_ok hreply)
      | error e => cases e <;> trivial

theorem secured_processStates (n : ℕ) (states : List PendingReleaseState) :
    Secured toUpper answers (processStates n states) (fun _ _ => True) s := by
  induction n generalizing states s with
  | zero => trivial
  | succ n ih =>
      simp only [processStates, bind_eq]
      refine secured_ask_bind (fun _ _ => trivial) fun t x _ => ?_
      generalize ((ReleaseCmd.nextState states.length).exec toUpper (answers x) t).1 = i
      cases hstate : states[i]? with
      | none => trivial
      | some state =>
          refine (secured_processState state).bind fun result u _ => ?_
          cases result with
          | true => exact ih (states.eraseIdx i)
          | false => trivial

theorem secured_pendingReleaseStates (username : String) :
    Secured toUpper answers (pendingReleaseStates username) (fun _ _ => True) s := by
  unfold pendingReleaseStates
  have hdurable : ∀ t, Secured toUpper answers (pendingTURNReleases username) (fun _ _ => True) t := by
    intro t
    rcases pendingTURNReleases_cases username with hprogram | hprogram | hprogram
    · rw [hprogram]
      exact secured_ask (fun _ _ => True.intro) fun _ _ _ => True.intro
    · rw [hprogram]
      exact True.intro
    · rw [hprogram]
      exact secured_ask (fun _ _ => True.intro) fun _ _ _ => True.intro
  refine secured_ask_bind (fun _ _ => trivial) fun t x _ => (hdurable _).bind fun result u _ => ?_
  match result with
  | .ok _ => exact True.intro
  | .error .failed => exact True.intro
  | .error .panicked => exact True.intro

theorem secured_processPendingReleases (username : String) :
    Secured toUpper answers (processPendingReleases username) (fun _ _ => True) s := by
  simp only [processPendingReleases, bind_eq]
  refine (secured_pendingReleaseStates username).bind fun result t _ => ?_
  cases result with
  | none => trivial
  | some states => exact secured_processStates states.length states

theorem secured_quotaHandler (allocationQuota : ℤ) (username : String) :
    Secured toUpper answers (quotaHandler allocationQuota username) (fun _ _ => True) s := by
  unfold quotaHandler
  split_ifs
  · trivial
  · refine (secured_processPendingReleases username).bind fun _ t _ => ?_
    refine secured_ask_bind (fun _ _ => trivial) fun u x _ => ?_
    cases ((ReleaseCmd.reserveSlot allocationQuota username).exec toUpper (answers x) u).1 <;>
      trivial

/-- **Every operation keeps to the guard**, from any store. -/
theorem secured_program (allocationQuota : ℤ) (op : RelayOp) :
    Secured toUpper answers (op.program allocationQuota) (fun _ _ => True) s := by
  cases op with
  | quotaHandler username =>
      exact (secured_quotaHandler allocationQuota username).bind fun _ _ _ => trivial
  | callback e =>
      exact secured_ask_bind (fun _ _ => trivial) fun _ _ _ => trivial
  | release allocation fallbackUsername =>
      have hlaunch : Secured toUpper answers (launchAllocationRelease allocation fallbackUsername)
          (fun _ _ => True) s := by
        unfold launchAllocationRelease
        cases releaseOf allocation fallbackUsername with
        | none => trivial
        | some r => exact secured_releaseDeletedAllocation r
      exact hlaunch.bind fun _ _ _ => trivial
  | processPendingReleases username =>
      exact (secured_processPendingReleases username).bind fun _ _ _ => trivial

end Contract

/-- **The contract of every operation.** -/
def releaseContract : Pool.Contract RelayOp ReleaseCmd Empty ReleaseStore (Option Bool) where
  inv := ReleaseStore.Sound
  rely _ := ReleaseStore.Grows
  guard _ := ReleaseStore.Guard
  post _ _ _ := True
  faults _ := True

theorem lawful_releaseContract : releaseContract.Lawful where
  refl _ s _ := .refl s
  trans _ _ _ _ h h' := h.trans h'
  stable _ _ _ _ _ _ := trivial

theorem sound_newReleaseStore : newReleaseStore.Sound :=
  ⟨fun _ h => absurd h List.not_mem_nil, fun _ h => absurd h List.not_mem_nil⟩

section Runs

variable {X : Type} {toUpper : String → String} {answers : X → Answer} {allocationQuota : ℤ}
  {ok : RelayConfig → RelayEvent X → Prop} {l : List (RelayEvent X)} {cfg cfg' : RelayConfig}

/-- **In every run every operation keeps its contract.** -/
theorem keeps_of_run
    (h : Run (Pool.step (relaySystem toUpper allocationQuota answers)) ok
      (Pool.idle newReleaseStore) l cfg) :
    releaseContract.Keeps (relaySystem toUpper allocationQuota answers) cfg := by
  have hidle : releaseContract.Keeps (relaySystem toUpper allocationQuota answers)
      (Pool.idle newReleaseStore) :=
    ⟨sound_newReleaseStore, fun p hp => absurd hp List.not_mem_nil⟩
  refine Pool.Contract.keeps_of_run lawful_releaseContract ?_ ?_ ?_ ?_ hidle h
  · exact fun cfg op _ _ => secured_program allocationQuota op
  · intro cfg i x op c next hkeeps _ _ hguard
    obtain ⟨hgrows, hsound⟩ := ReleaseStore.grows_exec toUpper (answers x) c hkeeps.1 hguard
    exact ⟨hsound, fun op' _ => secured_program allocationQuota op', fun _ _ _ _ => .inl hgrows⟩
  · intro cfg n store hkeeps _ henv
    obtain ⟨hgrows, hsound⟩ := ReleaseStore.grows_env hkeeps.1 henv
    exact ⟨hsound, fun _ _ => .inl hgrows⟩
  · exact fun _ _ _ _ => trivial

/-- No step loses a pending release. -/
theorem grows_of_step
    (hkeeps : releaseContract.Keeps (relaySystem toUpper allocationQuota answers) cfg)
    {ev : RelayEvent X}
    (hs : Pool.step (relaySystem toUpper allocationQuota answers) cfg ev = some cfg') :
    cfg.store.Grows cfg'.store := by
  rcases Pool.step_cases hs with ⟨op, -, rfl⟩ | ⟨i, x, op, c, next, -, hget, rfl⟩ | ⟨i, e, -⟩ |
    ⟨n, store, -, henv, rfl⟩
  · exact .refl _
  · exact (ReleaseStore.grows_exec toUpper (answers x) c hkeeps.1
      (hkeeps.guard lawful_releaseContract hget)).1
  · exact e.elim
  · exact (ReleaseStore.grows_env hkeeps.1 henv).1

end Runs

/-! ### What a goroutine holds -/

/-- The calls after which the goroutine of a release need not hold it any more. -/
def Persists (r : PendingRelease) (c : ReleaseCmd) : Prop :=
  c = .hsetUser r ∨ c = .queueAllocationRelease r

/-- What is released bears trimmed names, and both. -/
theorem releaseOf_eq_some {allocation : ActiveAllocation} {fallbackUsername : String}
    {r : PendingRelease} (h : releaseOf allocation fallbackUsername = some r) :
    r.trimmed = r ∧ r.username ≠ "" ∧ r.operationID ≠ "" := by
  unfold releaseOf at h
  dsimp only at h
  split_ifs at h with hempty hnames hnames
  · obtain rfl := Option.some_inj.1 h
    exact ⟨by simp only [PendingRelease.trimmed, trim_trim], not_or.1 hnames⟩
  · obtain rfl := Option.some_inj.1 h
    exact ⟨by simp only [PendingRelease.trimmed, trim_trim], not_or.1 hnames⟩

/-- A release that is queued locally is in the local table. -/
theorem local_queueAllocationRelease (s : ReleaseStore) {r : PendingRelease} (htrim : r.trimmed = r)
    (hname : r.username ≠ "") (hoperation : r.operationID ≠ "") :
    (s.queueAllocationRelease r).Local r := by
  simp only [ReleaseStore.queueAllocationRelease, ReleaseStore.Local, htrim]
  rw [if_neg (not_or.2 ⟨hname, hoperation⟩)]
  exact List.mem_cons_self

/-- The goroutine of a release begins with it in its hands. -/
theorem must_releaseDeletedAllocation {r : PendingRelease} (htrim : r.trimmed = r) :
    (releaseDeletedAllocation r).Must (Persists r) := by
  have hqueue : ∀ {α : Type} (f : Unit → RelayProg α),
      ((ask (.queueAllocationRelease r)).bind f).Must (Persists r) := fun f => .inl (.inr rfl)
  unfold releaseDeletedAllocation queuePendingTURNRelease
  cases hfield : pendingReleaseField r with
  | none => exact hqueue _
  | some field =>
      obtain rfl := pendingReleaseField_eq_some hfield
      refine .inr fun reply => ?_
      match reply with
      | .error e => exact e.elim
      | .ok (.ok _) => exact .inl (.inl (congrArg _ htrim))
      | .ok (.error .failed) => exact hqueue _
      | .ok (.error .panicked) => exact .inl (.inr rfl)

/-- A goroutine whose call to persist the release is not answered well queues it locally. -/
def QueuesAfterFailure (r : PendingRelease) (p : RelayProg (Option Bool)) : Prop :=
  ∀ next, p = .call (.hsetUser r) next → ∀ e, (next (.ok (.error e))).Must (Persists r)

theorem everywhere_queuesAfterFailure {T : (c : ReleaseCmd) → Except Empty c.Reply → Prop}
    {r : PendingRelease} (htrim : r.trimmed = r) :
    ((releaseDeletedAllocation r).bind fun _ => .ret none).Everywhere T (QueuesAfterFailure r) := by
  -- after the attempt to persist it the release is not written any more
  have hqueue : (ask (.queueAllocationRelease r)).All (· ≠ .hsetUser r) :=
    ⟨by simp, fun reply => by
      cases reply with
      | ok _ => trivial
      | error e => exact e.elim⟩
  have hcomplete : (ask (.completePendingRelease r)).All (· ≠ .hsetUser r) :=
    ⟨by simp, fun reply => by
      cases reply with
      | ok _ => trivial
      | error e => exact e.elim⟩
  have hcompleteDurable : (completePendingTURNRelease r).All (· ≠ .hsetUser r) := by
    unfold completePendingTURNRelease
    cases pendingReleaseField r with
    | none => trivial
    | some field =>
        refine ⟨by simp, fun reply => ?_⟩
        match reply with
        | .error e => exact e.elim
        | .ok (.error e) => trivial
        | .ok (.ok _) =>
            refine ⟨by simp, fun reply => ?_⟩
            match reply with
            | .error e => exact e.elim
            | .ok _ => trivial
  have hrest : ∀ persisted, (releasePersisted r persisted).All (· ≠ .hsetUser r) := by
    refine fun persisted => ⟨by simp, fun reply => ?_⟩
    match reply with
    | .error e => exact e.elim
    | .ok (.error .failed) => trivial
    | .ok (.error .panicked) => exact hqueue
    | .ok (.ok _) =>
        cases persisted with
        | false => exact hcomplete
        | true =>
            refine hcompleteDurable.bind fun result => ?_
            match result with
            | .ok _ => exact hcomplete
            | .error .failed => exact hcomplete
            | .error .panicked => exact hqueue
  have hnever : ∀ {p : RelayProg Unit}, p.All (· ≠ .hsetUser r) →
      (p.bind fun _ => .ret none).Everywhere T (QueuesAfterFailure r) := by
    intro p hp
    have hall : (p.bind fun _ => (.ret none : RelayProg (Option Bool))).All (· ≠ .hsetUser r) :=
      hp.bind fun _ => trivial
    refine hall.everywhere fun q hq next heq => ?_
    subst heq
    exact absurd rfl hq.1
  have hfailed : (((ask (.queueAllocationRelease r)).bind fun _ => releasePersisted r false).All
      (· ≠ .hsetUser r)) := hqueue.bind fun _ => hrest false
  unfold releaseDeletedAllocation queuePendingTURNRelease
  cases hfield : pendingReleaseField r with
  | none => exact hnever hfailed
  | some field =>
      obtain rfl : field = r := (pendingReleaseField_eq_some hfield).trans htrim
      refine And.intro (fun next heq => by cases heq) fun reply _ => ?_
      match reply with
      | .error e => exact e.elim
      | .ok (.error .failed) => exact hnever hfailed
      | .ok (.error .panicked) => exact hnever hqueue
      | .ok (.ok _) =>
          refine And.intro (fun next heq e => ?_) fun reply _ => ?_
          · obtain ⟨-, rfl⟩ := heq
            cases e with
            | failed => exact .inl (.inr rfl)
            | panicked => exact .inl (.inr rfl)
          · match reply with
            | .error e => exact e.elim
            | .ok (.ok _) => exact hnever (hrest true)
            | .ok (.error .failed) => exact hnever hfailed
            | .ok (.error .panicked) => exact hnever hqueue

/-- The release is with its goroutine, or some place has taken it over. -/
def Held (s : ReleaseStore) (rest : RelayProg (Option Bool)) (r : PendingRelease) : Prop :=
  rest.Must (Persists r) ∨ r ∈ s.succeeded ∨ r ∈ s.written ∨ s.Local r ∨ s.Aged r

theorem held_of_grows {s t : ReleaseStore} {rest : RelayProg (Option Bool)} {r : PendingRelease}
    (htrim : r.trimmed = r)
    (h : r ∈ s.succeeded ∨ r ∈ s.written ∨ s.Local r ∨ s.Aged r) (hst : s.Grows t) :
    Held t rest r := by
  rcases h with hdone | hwritten | hlocal | haged
  · exact .inr (.inl (hst.succeeded hdone))
  · exact .inr (.inr (.inl (hst.written hwritten)))
  · rcases hst.locals r htrim hlocal with hlocal | hdone | hwritten | haged
    · exact .inr (.inr (.inr (.inl hlocal)))
    · exact .inr (.inl hdone)
    · exact .inr (.inr (.inl hwritten))
    · exact .inr (.inr (.inr (.inr haged)))
  · exact .inr (.inr (.inr (.inr (haged.grows hst))))

/-- Every release that was launched is held. -/
def AllHeld (cfg : RelayConfig) : Prop :=
  ∀ p ∈ cfg.procs, ∀ allocation fallbackUsername r, p.op = .release allocation fallbackUsername →
    releaseOf allocation fallbackUsername = some r → Held cfg.store p.rest r

section Steps

variable {X : Type} {toUpper : String → String} {answers : X → Answer} {allocationQuota : ℤ}
  {ok : RelayConfig → RelayEvent X → Prop} {l : List (RelayEvent X)} {cfg cfg' : RelayConfig}

/-- A release that is launched is held from the start. -/
theorem held_launch {s : ReleaseStore} {allocation : ActiveAllocation} {fallbackUsername : String}
    {r : PendingRelease} (hr : releaseOf allocation fallbackUsername = some r) :
    Held s ((relaySystem toUpper allocationQuota answers).launch
      (.release allocation fallbackUsername)).rest r := by
  refine .inl ?_
  simp only [Pool.System.launch, relaySystem, RelayOp.program, launchAllocationRelease, hr]
  exact (must_releaseDeletedAllocation (releaseOf_eq_some hr).1).bind _

/-- What a call does to the release that its goroutine holds. -/
theorem held_call {s : ReleaseStore} {x : Answer} {c : ReleaseCmd} {r : PendingRelease}
    {next : Except Empty c.Reply → RelayProg (Option Bool)} (htrim : r.trimmed = r)
    (hname : r.username ≠ "") (hoperation : r.operationID ≠ "")
    (hfailure : QueuesAfterFailure r (.call c next))
    (hgrows : s.Grows (c.exec toUpper x s).2) (h : Held s (.call c next) r) :
    Held (c.exec toUpper x s).2 (next (.ok (c.exec toUpper x s).1)) r := by
  rcases h with (hpersists | hmust) | hplaces
  · rcases hpersists with rfl | rfl
    · cases hreply : ((ReleaseCmd.hsetUser r).exec toUpper x s).1 with
      | ok _ => exact .inr (.inr (.inl (mem_written_of_ok hreply)))
      | error e => exact .inl (hfailure next rfl e)
    · exact .inr (.inr (.inr (.inl (local_queueAllocationRelease s htrim hname hoperation))))
  · exact .inl (hmust _)
  · exact held_of_grows htrim hplaces hgrows

/-- **Every step keeps what was launched held.** -/
theorem allHeld_step (hheld : AllHeld cfg)
    (hkeeps : releaseContract.Keeps (relaySystem toUpper allocationQuota answers) cfg)
    (hqueues : ∀ p ∈ cfg.procs, ∀ allocation fallbackUsername r,
      p.op = .release allocation fallbackUsername →
      releaseOf allocation fallbackUsername = some r → QueuesAfterFailure r p.rest)
    {ev : RelayEvent X}
    (hs : Pool.step (relaySystem toUpper allocationQuota answers) cfg ev = some cfg') :
    AllHeld cfg' := by
  have hgrows := grows_of_step hkeeps hs
  -- a process that does not move
  have hstays : ∀ p ∈ cfg.procs, ∀ allocation fallbackUsername r,
      p.op = .release allocation fallbackUsername →
      releaseOf allocation fallbackUsername = some r → Held cfg'.store p.rest r := by
    intro p hp allocation fallbackUsername r hop hr
    rcases hheld p hp allocation fallbackUsername r hop hr with hmust | hplaces
    · exact .inl hmust
    · exact held_of_grows (releaseOf_eq_some hr).1 hplaces hgrows
  intro p hp allocation fallbackUsername r hop hr
  rcases Pool.step_cases hs with ⟨op, -, rfl⟩ | ⟨i, x, op, c, next, -, hget, rfl⟩ | ⟨i, e, -⟩ |
    ⟨n, store, -, -, rfl⟩
  · rcases List.mem_append.1 hp with hp | hp
    · exact hstays p hp allocation fallbackUsername r hop hr
    · obtain rfl := List.mem_singleton.1 hp
      simp only [Pool.System.launch] at hop
      subst hop
      exact held_launch hr
  · rcases Pool.mem_advance hp with rfl | ⟨j, -, hj⟩ | ⟨op', -, rfl⟩
    · have hmem := Pool.mem_of_getElem? hget
      obtain ⟨htrim, hname, hoperation⟩ := releaseOf_eq_some hr
      exact held_call htrim hname hoperation (hqueues _ hmem allocation fallbackUsername r hop hr)
        hgrows (hheld _ hmem allocation fallbackUsername r hop hr)
    · exact hstays p (Pool.mem_of_getElem? hj) allocation fallbackUsername r hop hr
    · simp only [Pool.System.launch] at hop
      subst hop
      exact held_launch hr
  · exact e.elim
  · exact hstays p hp allocation fallbackUsername r hop hr

/-- **Every release that was launched is held, in every run.** -/
theorem allHeld_of_run
    (h : Run (Pool.step (relaySystem toUpper allocationQuota answers)) ok
      (Pool.idle newReleaseStore) l cfg) : AllHeld cfg := by
  refine h.invariant_of_reached (fun cfg ev cfg' l hrun hheld _ hs => ?_)
    fun p hp => absurd hp List.not_mem_nil
  refine allHeld_step hheld (keeps_of_run hrun) ?_ hs
  -- what is left of a release still queues it after a failure
  have hall : ∀ p ∈ cfg.procs, p.rest.Everywhere (fun _ _ => True) (fun rest =>
      ∀ allocation fallbackUsername r, p.op = .release allocation fallbackUsername →
        releaseOf allocation fallbackUsername = some r → QueuesAfterFailure r rest) := by
    refine Pool.everywhere_of_run (T := fun _ _ => True) (Q := fun op rest =>
      ∀ allocation fallbackUsername r, op = .release allocation fallbackUsername →
        releaseOf allocation fallbackUsername = some r → QueuesAfterFailure r rest)
      (fun _ _ _ => trivial) (fun _ _ => trivial) (fun op => ?_) hrun
    cases op with
    | release allocation fallbackUsername =>
        cases hr : releaseOf allocation fallbackUsername with
        | none =>
            refine everywhere_of_forall (fun rest a f r hop hr' => ?_) _
            cases hop
            rw [hr] at hr'
            cases hr'
        | some r =>
            simp only [relaySystem, RelayOp.program, launchAllocationRelease, hr]
            refine (everywhere_queuesAfterFailure (releaseOf_eq_some hr).1).mono ?_
            intro rest hrest a f r' hop hr'
            cases hop
            obtain rfl := Option.some_inj.1 (hr.symm.trans hr')
            exact hrest
    | _ => exact everywhere_of_forall (fun rest a f r hop _ => by cases hop) _
  exact fun p hp allocation fallbackUsername r => (hall p hp).here allocation fallbackUsername r

end Steps

/-! ### Where a launched release is -/

/-- **A launched release is pending until a call for it has succeeded**: in the durable set, or as
long as it was not written there, with its goroutine or in the local table, where it may stay for
the maximum pending age. -/
def Retained (s : ReleaseStore) (rest : RelayProg (Option Bool)) (r : PendingRelease) : Prop :=
  r ∈ s.succeeded ∨ (r ∈ s.pendingIndex ∧ r ∈ s.pendingOfUsers) ∨
    (r ∉ s.written ∧ (rest.Must (Persists r) ∨ s.Local r ∨ s.Aged r))

/-- **No launched release is lost**, however the calls fail and whatever runs beside it. -/
theorem retained_of_run {X : Type} {toUpper : String → String} {answers : X → Answer}
    {allocationQuota : ℤ} {ok : RelayConfig → RelayEvent X → Prop} {l : List (RelayEvent X)}
    {cfg : RelayConfig}
    (h : Run (Pool.step (relaySystem toUpper allocationQuota answers)) ok
      (Pool.idle newReleaseStore) l cfg)
    {p : Pool.Process RelayOp ReleaseCmd.Reply Empty (Option Bool)} (hp : p ∈ cfg.procs)
    {allocation : ActiveAllocation} {fallbackUsername : String} {r : PendingRelease}
    (hop : p.op = .release allocation fallbackUsername)
    (hr : releaseOf allocation fallbackUsername = some r) : Retained cfg.store p.rest r := by
  have hsound : cfg.store.Sound := (keeps_of_run h).1
  by_cases hwritten : r ∈ cfg.store.written
  · exact (hsound.written r hwritten).imp_right .inl
  rcases allHeld_of_run h p hp allocation fallbackUsername r hop hr with
    hmust | hdone | hwritten' | hlocal | haged
  · exact .inr (.inr ⟨hwritten, .inl hmust⟩)
  · exact .inl hdone
  · exact absurd hwritten' hwritten
  · exact .inr (.inr ⟨hwritten, .inr (.inl hlocal)⟩)
  · exact .inr (.inr ⟨hwritten, .inr (.inr haged)⟩)

end Turn
