/-
**Claiming stale entries, and deleting stale consumers.**

When a node connects to a stream it first claims what has been pending for long, page by page, and
then deletes the consumers that have not been seen for longer still.  With a consumer goes all that is
pending for it.  The pages end when the store reports one without a stale entry, although there may be
more behind it.

Main definitions:

* `Streams.claimStalePending`, `Streams.cleanupStaleConsumers` — **what a node does when it connects**;
* `Streams.GroupState` — a group and its consumers;
* `Streams.HandsOver`, `Streams.DeletesNoOwner`, `Streams.NothingLost` — the law;
* `Streams.Paged` — every page up to the last stale entry has a stale entry.

Main results:

* `Streams.mem_claimStalePending_of_paged`, `Streams.exists_left_of_not_paged` — which entries the
  pages reach;
* `Streams.nothingLost_iff` — **nothing is lost exactly when no page without a stale entry comes before
  the last one**;
* `Streams.farEntry_isLost` — an entry behind a thousand fresh ones is lost with its consumer.
-/

import Mathlib.Data.List.Nodup
import Pairline.ConsumerGroup

set_option relaxedAutoImplicit false
set_option autoImplicit false

namespace Streams

open ConsumerGroup

abbrev Consumer := String

/-! ### Connecting -/

/-- How long an entry must have been pending to be claimed, and how many are claimed at a time; times
are in milliseconds. -/
def minIdleMs : ℕ := 30000

def claimCount : ℕ := 100

def Stale (now : ℕ) (p : Pending Consumer) : Bool := p.idleFor minIdleMs now

variable (looks now : ℕ) (current : Consumer)

/-- `do_claim_stale_pending`, with the number of attempts that are left; the store looks at `looks`
entries for a page. -/
def doClaimStalePending : ℕ → ℕ → ConsumerGroup.Group Consumer → ConsumerGroup.Group Consumer
  | 0, _, g => g
  | attempts + 1, startId, g =>
      let reply := g.autoclaim current now minIdleMs looks claimCount startId
      if reply.2.2 = [] ∨ reply.2.1 = startId then reply.1
      else doClaimStalePending attempts reply.2.1 reply.1

def claimStalePending (g : ConsumerGroup.Group Consumer) : ConsumerGroup.Group Consumer :=
  doClaimStalePending looks now current 100 0 g

/-- `get_stream_stale_consumer_idle_ms`. -/
def staleConsumerIdleMs (setting : ℤ) : ℕ := (max setting 60000).toNat

variable (active : List Consumer) (setting : ℤ)

/-- The test for a consumer, given with the time at which it was seen last. -/
def isStaleConsumer (consumer : Consumer × ℕ) : Bool :=
  consumer.1 ≠ current ∧ staleConsumerIdleMs setting ≤ now - consumer.2 ∧ consumer.1 ∉ active

def cleanupStaleConsumers (consumers : List (Consumer × ℕ)) (g : ConsumerGroup.Group Consumer) :
    ConsumerGroup.Group Consumer :=
  (consumers.filter (isStaleConsumer now current active setting)).foldl
    (fun g consumer => g.deleteConsumer consumer.1) g

/-! ### The law -/

/-- A group, and when its consumers were seen last.  What is pending for a consumer it has been handed
at a time at which it was seen. -/
structure GroupState where
  group : ConsumerGroup.Group Consumer
  consumers : List (Consumer × ℕ)
  increasing : group.pending.Pairwise fun p q => p.id < q.id
  positive : ∀ p ∈ group.pending, 0 < p.id
  seen : ∀ p ∈ group.pending, ∀ consumer ∈ consumers, p.consumer = consumer.1 →
    p.deliveredAt ≤ consumer.2

/-- Every stale entry of the one group is claimed in the other. -/
def HandsOver (g g' : ConsumerGroup.Group Consumer) : Prop :=
  ∀ p ∈ g.pending, Stale now p = true → ⟨p.id, current, now⟩ ∈ g'.pending

/-- No consumer for which something is pending is deleted. -/
def DeletesNoOwner (consumers : List (Consumer × ℕ)) (g : ConsumerGroup.Group Consumer) : Prop :=
  ∀ consumer ∈ consumers, isStaleConsumer now current active setting consumer = true →
    ∀ p ∈ g.pending, p.consumer ≠ consumer.1

/-- **Every stale entry is handed over, and then no consumer that owns an entry is deleted.** -/
def NothingLost (s : GroupState) : Prop :=
  HandsOver now current s.group (claimStalePending looks now current s.group) ∧
    DeletesNoOwner now current active setting s.consumers
      (claimStalePending looks now current s.group)

/-- **Each of the first pages of a list, up to the last stale entry, has a stale entry.** -/
def Paged : ℕ → List (Pending Consumer) → Prop
  | 0, l => ∀ p ∈ l, Stale now p = false
  | pages + 1, l => (∀ p ∈ l, Stale now p = false) ∨
      ((scan (Stale now) looks claimCount l).1 ≠ [] ∧
        Paged pages (scan (Stale now) looks claimCount l).2)

/-! ### One page -/

section Page

variable {looks now current} {g : ConsumerGroup.Group Consumer} {ids : List ℕ}

theorem map_id_claim : (g.claim current now ids).pending.map Pending.id =
    g.pending.map Pending.id := by
  simp only [ConsumerGroup.Group.claim, List.map_map]
  refine List.map_congr_left fun p _ => ?_
  simp only [Function.comp_apply]
  split <;> rfl

/-- An entry of a claim was there before, or has been claimed. -/
theorem mem_claim {p : Pending Consumer} (h : p ∈ (g.claim current now ids).pending) :
    p ∈ g.pending ∨ (p.consumer = current ∧ p.deliveredAt = now) := by
  obtain ⟨q, hq, rfl⟩ := List.mem_map.1 h
  by_cases hid : q.id ∈ ids
  · simp [hid]
  · simp [hid, hq]

/-- What has been claimed once stays so when it is claimed again. -/
theorem mem_claim_of_claimed {id : ℕ} (h : ⟨id, current, now⟩ ∈ g.pending) :
    (⟨id, current, now⟩ : Pending Consumer) ∈ (g.claim current now ids).pending := by
  refine List.mem_map.2 ⟨_, h, ?_⟩
  split <;> rfl

theorem mem_claim_of_mem {p : Pending Consumer} (h : p ∈ g.pending) (hid : p.id ∈ ids) :
    ⟨p.id, current, now⟩ ∈ (g.claim current now ids).pending :=
  List.mem_map.2 ⟨p, h, by simp [hid]⟩

theorem mem_claim_of_not_mem {p : Pending Consumer} (h : p ∈ g.pending) (hid : p.id ∉ ids) :
    p ∈ (g.claim current now ids).pending :=
  List.mem_map.2 ⟨p, h, by simp [hid]⟩

theorem claim_nil : g.claim current now [] = g := by
  simp [ConsumerGroup.Group.claim]

end Page

/-! ### One page after another -/

/-- The entries that are pending from some number on. -/
def tailFrom (g : ConsumerGroup.Group Consumer) (startId : ℕ) : List (Pending Consumer) :=
  g.pending.filter fun p => startId ≤ p.id

/-- The entries are in the order of their numbers. -/
def Ordered (g : ConsumerGroup.Group Consumer) : Prop := (g.pending.map Pending.id).Pairwise (· < ·)

section Pages

variable {looks now current} {g : ConsumerGroup.Group Consumer} {startId : ℕ} {ids : List ℕ}

theorem Ordered.claim (h : Ordered g) : Ordered (g.claim current now ids) := by
  unfold Ordered
  rw [map_id_claim]
  exact h

theorem Ordered.eq_of_id (h : Ordered g) {p q : Pending Consumer} (hp : p ∈ g.pending)
    (hq : q ∈ g.pending) (hid : p.id = q.id) : p = q :=
  List.inj_on_of_nodup_map (h.imp Nat.ne_of_lt) hp hq hid

theorem mem_tailFrom {p : Pending Consumer} :
    p ∈ tailFrom g startId ↔ p ∈ g.pending ∧ startId ≤ p.id := by
  simp [tailFrom]

theorem tailFrom_zero : tailFrom g 0 = g.pending := by simp [tailFrom]

theorem Ordered.tailFrom (h : Ordered g) :
    ((Streams.tailFrom g startId).map Pending.id).Pairwise (· < ·) :=
  List.Pairwise.sublist (List.filter_sublist.map _) h

/-- The entries from the first one after a page on are those after the page, also when the page has
been claimed. -/
theorem tailFrom_after_page (h : Ordered g) {page rest : List (Pending Consumer)}
    {next : Pending Consumer} (hl : tailFrom g startId = page ++ next :: rest)
    (hids : ∀ id ∈ ids, id ∈ page.map Pending.id) :
    tailFrom (g.claim current now ids) next.id = next :: rest := by
  have hsorted : ((page ++ next :: rest).map Pending.id).Pairwise (· < ·) := hl ▸ h.tailFrom
  rw [List.map_append, List.map_cons, List.pairwise_append] at hsorted
  obtain ⟨-, hrest, hacross⟩ := hsorted
  have hstart : startId ≤ next.id := by
    have hmem : next ∈ tailFrom g startId := hl ▸ List.mem_append_right _ List.mem_cons_self
    exact (mem_tailFrom.1 hmem).2
  -- what has been claimed comes before
  have hbefore : ∀ p ∈ next :: rest, p.id ∉ ids := by
    intro p hp hid
    have hlt := hacross p.id (hids p.id hid) p.id (List.mem_map_of_mem hp)
    omega
  have hsame : ∀ p : Pending Consumer,
      (if p.id ∈ ids then (⟨p.id, current, now⟩ : Pending Consumer) else p).id = p.id := by
    intro p
    split <;> rfl
  have hfilter : g.pending.filter (fun p => next.id ≤ p.id) = next :: rest := by
    have hin : g.pending.filter (fun p => next.id ≤ p.id) =
        (tailFrom g startId).filter fun p => next.id ≤ p.id := by
      rw [tailFrom, List.filter_filter]
      refine List.filter_congr fun p _ => ?_
      by_cases hle : next.id ≤ p.id
      · simp [hle, hstart.trans hle]
      · simp [hle]
    rw [hin, hl, List.filter_append]
    have hnone : page.filter (fun p => next.id ≤ p.id) = [] := by
      refine List.filter_eq_nil_iff.2 fun p hp => ?_
      have hlt := hacross p.id (List.mem_map_of_mem hp) next.id List.mem_cons_self
      simpa using hlt
    have hall : (next :: rest).filter (fun p => next.id ≤ p.id) = next :: rest := by
      refine List.filter_eq_self.2 fun p hp => ?_
      rcases List.mem_cons.1 hp with rfl | hp
      · simp
      · have hlt := (List.pairwise_cons.1 hrest).1 p.id (List.mem_map_of_mem hp)
        simpa using hlt.le
    rw [hnone, hall, List.nil_append]
  calc tailFrom (g.claim current now ids) next.id
      = (g.pending.filter fun p => next.id ≤ p.id).map
          fun p => if p.id ∈ ids then ⟨p.id, current, now⟩ else p := by
        simp only [tailFrom, ConsumerGroup.Group.claim, List.filter_map]
        congr 1
        exact List.filter_congr fun p _ => by simp only [Function.comp_apply, hsame]
    _ = (next :: rest).map fun p => if p.id ∈ ids then ⟨p.id, current, now⟩ else p := by
        rw [hfilter]
    _ = next :: rest := by
        rw [List.map_congr_left fun p hp => if_neg (hbefore p hp), List.map_id']

/-- What the first page of a tail is, and what is left of it. -/
theorem exists_page (looks now : ℕ) (g : ConsumerGroup.Group Consumer) (startId : ℕ) : ∃ page,
    tailFrom g startId = page ++ (scan (Stale now) looks claimCount (tailFrom g startId)).2 ∧
      (scan (Stale now) looks claimCount (tailFrom g startId)).1 = page.filter (Stale now) :=
  scan_append _ _ _

/-- The group after a page has been claimed. -/
def claimPage (looks now : ℕ) (current : Consumer) (startId : ℕ)
    (g : ConsumerGroup.Group Consumer) : ConsumerGroup.Group Consumer :=
  g.claim current now
    ((scan (Stale now) looks claimCount (tailFrom g startId)).1.map Pending.id)

/-- Where the page after this one starts. -/
def nextStartId (looks now startId : ℕ) (g : ConsumerGroup.Group Consumer) : ℕ :=
  ((scan (Stale now) looks claimCount (tailFrom g startId)).2.head?.map Pending.id).getD 0

theorem doClaimStalePending_succ (attempts : ℕ) :
    doClaimStalePending looks now current (attempts + 1) startId g =
      if (scan (Stale now) looks claimCount (tailFrom g startId)).1 = [] ∨
          nextStartId looks now startId g = startId then claimPage looks now current startId g
      else doClaimStalePending looks now current attempts (nextStartId looks now startId g)
        (claimPage looks now current startId g) := by
  simp only [doClaimStalePending, ConsumerGroup.Group.autoclaim, List.map_eq_nil_iff]
  rfl

/-! ### What the pages reach -/

/-- What has been claimed stays so. -/
theorem mem_doClaimStalePending_of_claimed (attempts : ℕ) {id : ℕ}
    (h : ⟨id, current, now⟩ ∈ g.pending) : (⟨id, current, now⟩ : Pending Consumer) ∈
      (doClaimStalePending looks now current attempts startId g).pending := by
  induction attempts generalizing startId g with
  | zero => exact h
  | succ attempts ih =>
      rw [doClaimStalePending_succ]
      split
      · exact mem_claim_of_claimed h
      · exact ih (mem_claim_of_claimed h)

/-- An entry was there before, or has been claimed. -/
theorem mem_doClaimStalePending (attempts : ℕ) {p : Pending Consumer}
    (h : p ∈ (doClaimStalePending looks now current attempts startId g).pending) :
    p ∈ g.pending ∨ p.consumer = current := by
  induction attempts generalizing startId g with
  | zero => exact .inl h
  | succ attempts ih =>
      rw [doClaimStalePending_succ] at h
      have hclaim : p ∈ (claimPage looks now current startId g).pending →
          p ∈ g.pending ∨ p.consumer = current :=
        fun hp => (mem_claim hp).imp_right And.left
      split at h
      · exact hclaim h
      · exact (ih h).elim hclaim .inr

theorem Ordered.doClaimStalePending (h : Ordered g) (attempts : ℕ) :
    Ordered (Streams.doClaimStalePending looks now current attempts startId g) := by
  induction attempts generalizing startId g with
  | zero => exact h
  | succ attempts ih =>
      rw [doClaimStalePending_succ]
      split
      · exact h.claim
      · exact ih h.claim

variable (current) in
/-- **One page with a stale entry**: where the next one starts, and what is left for it. -/
theorem Ordered.page (h : Ordered g) {page rest : List (Pending Consumer)}
    {next : Pending Consumer} (hl : Streams.tailFrom g startId = page ++ next :: rest)
    (hpage : (scan (Stale now) looks claimCount (Streams.tailFrom g startId)).1 =
      page.filter (Stale now))
    (hrest : (scan (Stale now) looks claimCount (Streams.tailFrom g startId)).2 = next :: rest)
    (hsome : (scan (Stale now) looks claimCount (Streams.tailFrom g startId)).1 ≠ []) :
    nextStartId looks now startId g ≠ startId ∧
      Streams.tailFrom (claimPage looks now current startId g) (nextStartId looks now startId g) =
        next :: rest := by
  have hnext : nextStartId looks now startId g = next.id := by simp [nextStartId, hrest]
  have hclaimed : ∀ id ∈ (scan (Stale now) looks claimCount
      (Streams.tailFrom g startId)).1.map Pending.id, id ∈ page.map Pending.id := by
    intro id hid
    obtain ⟨q, hq, rfl⟩ := List.mem_map.1 hid
    rw [hpage] at hq
    exact List.mem_map_of_mem (List.mem_filter.1 hq).1
  rw [hnext]
  refine ⟨?_, tailFrom_after_page h hl hclaimed⟩
  -- the page has an entry, from which on it was read
  obtain ⟨q, hq⟩ := List.exists_mem_of_ne_nil _ hsome
  rw [hpage] at hq
  have hin : q ∈ page := (List.mem_filter.1 hq).1
  have hstart : startId ≤ q.id := (mem_tailFrom.1 (hl ▸ List.mem_append_left _ hin)).2
  have hsorted : ((page ++ next :: rest).map Pending.id).Pairwise (· < ·) := hl ▸ h.tailFrom
  rw [List.map_append, List.map_cons, List.pairwise_append] at hsorted
  have hlt := hsorted.2.2 q.id (List.mem_map_of_mem hin) next.id List.mem_cons_self
  omega

/-- **Every stale entry that the pages reach is claimed.** -/
theorem mem_doClaimStalePending_of_paged (h : Ordered g) (attempts : ℕ)
    (hpaged : Paged looks now attempts (tailFrom g startId)) {p : Pending Consumer}
    (hp : p ∈ tailFrom g startId) (hstale : Stale now p = true) : ⟨p.id, current, now⟩ ∈
      (doClaimStalePending looks now current attempts startId g).pending := by
  induction attempts generalizing startId g p with
  | zero => exact absurd (hpaged p hp) (by simp [hstale])
  | succ attempts ih =>
      obtain hnone | ⟨hsome, hrest⟩ := hpaged
      · exact absurd (hnone p hp) (by simp [hstale])
      obtain ⟨page, hl, hpage⟩ := exists_page looks now g startId
      rw [doClaimStalePending_succ]
      -- an entry of the page is claimed now, and one behind it with the pages that follow
      have hnow : p ∈ page → ⟨p.id, current, now⟩ ∈
          (claimPage looks now current startId g).pending := by
        intro hin
        refine mem_claim_of_mem (mem_tailFrom.1 hp).1 (List.mem_map_of_mem ?_)
        rw [hpage]
        exact List.mem_filter.2 ⟨hin, hstale⟩
      cases hnext : (scan (Stale now) looks claimCount (tailFrom g startId)).2 with
      | nil =>
          have hin : p ∈ page := by
            rw [hl, hnext, List.append_nil] at hp
            exact hp
          split
          · exact hnow hin
          · exact mem_doClaimStalePending_of_claimed _ (hnow hin)
      | cons next rest =>
          rw [hnext] at hl
          obtain ⟨hgoes, htail⟩ := h.page current hl hpage hnext hsome
          rw [if_neg (not_or.2 ⟨hsome, hgoes⟩)]
          rw [hl] at hp
          rcases List.mem_append.1 hp with hin | hbehind
          · exact mem_doClaimStalePending_of_claimed _ (hnow hin)
          · have hordered : Ordered (claimPage looks now current startId g) := h.claim
            refine ih hordered ?_ (htail ▸ hbehind) hstale
            rw [htail, ← hnext]
            exact hrest

variable (current) in
/-- **When a page without a stale entry comes before the last one, an entry is left.** -/
theorem exists_left_of_not_paged (h : Ordered g) (attempts : ℕ)
    (hnot : ¬ Paged looks now attempts (tailFrom g startId)) : ∃ p ∈ tailFrom g startId,
      Stale now p = true ∧
        p ∈ (doClaimStalePending looks now current attempts startId g).pending := by
  induction attempts generalizing startId g with
  | zero =>
      simp only [Paged, not_forall, Bool.not_eq_false] at hnot
      obtain ⟨p, hp, hstale⟩ := hnot
      exact ⟨p, hp, hstale, (mem_tailFrom.1 hp).1⟩
  | succ attempts ih =>
      simp only [Paged, not_or, not_forall, Bool.not_eq_false] at hnot
      obtain ⟨⟨p, hp, hstale⟩, hrest⟩ := hnot
      rw [doClaimStalePending_succ]
      by_cases hsome : (scan (Stale now) looks claimCount (tailFrom g startId)).1 = []
      · -- an empty page is taken for the last one
        refine ⟨p, hp, hstale, ?_⟩
        rw [if_pos (.inl hsome), claimPage, hsome, List.map_nil, claim_nil]
        exact (mem_tailFrom.1 hp).1
      · have hnot' : ¬ Paged looks now attempts
            (scan (Stale now) looks claimCount (tailFrom g startId)).2 :=
          fun hpaged => hrest ⟨hsome, hpaged⟩
        obtain ⟨page, hl, hpage⟩ := exists_page looks now g startId
        cases hnext : (scan (Stale now) looks claimCount (tailFrom g startId)).2 with
        | nil =>
            have hall : Paged looks now attempts [] := by
              cases attempts with
              | zero => exact fun _ hm => absurd hm List.not_mem_nil
              | succ => exact .inl fun _ hm => absurd hm List.not_mem_nil
            exact absurd (hnext ▸ hall) hnot'
        | cons next rest =>
            rw [hnext] at hl
            obtain ⟨hgoes, htail⟩ := h.page current hl hpage hnext hsome
            rw [hnext, ← htail] at hnot'
            have hordered : Ordered (claimPage looks now current startId g) := h.claim
            obtain ⟨q, hq, hqstale, hleft⟩ := ih hordered hnot'
            rw [if_neg (not_or.2 ⟨hsome, hgoes⟩)]
            rw [htail] at hq
            exact ⟨q, hl ▸ List.mem_append_right _ hq, hqstale, hleft⟩

end Pages

/-! ### What is lost -/

section Lost

variable {looks now current active setting} {s : GroupState}

theorem GroupState.ordered (s : GroupState) : Ordered s.group := List.pairwise_map.2 s.increasing

/-- When everything stale has been claimed, a consumer that is deleted owns nothing: it has been
handed nothing since it was seen. -/
theorem deletesNoOwner_of_handsOver
    (h : HandsOver now current s.group (claimStalePending looks now current s.group)) :
    DeletesNoOwner now current active setting s.consumers
      (claimStalePending looks now current s.group) := by
  intro consumer hconsumer hstale p hp howner
  obtain ⟨hne, hidle, -⟩ := of_decide_eq_true hstale
  have hcutoff : 60000 ≤ staleConsumerIdleMs setting := by
    unfold staleConsumerIdleMs
    omega
  have hbefore : p ∈ s.group.pending :=
    (mem_doClaimStalePending _ hp).resolve_right (howner ▸ hne)
  have hseen := s.seen p hbefore consumer hconsumer howner
  have hpstale : Stale now p = true := by
    refine decide_eq_true ?_
    simp only [minIdleMs]
    omega
  have hclaimed := h p hbefore hpstale
  have heq := (s.ordered.doClaimStalePending 100).eq_of_id hp hclaimed rfl
  exact hne (howner.symm.trans (congrArg Pending.consumer heq))

/-- **Nothing is lost exactly when no page without a stale entry comes before the last one**, and the
stale entries are on the first hundred pages. -/
theorem nothingLost_iff (looks now : ℕ) (current : Consumer) (active : List Consumer) (setting : ℤ)
    (s : GroupState) : NothingLost looks now current active setting s ↔
      Paged looks now 100 s.group.pending := by
  rw [← tailFrom_zero (g := s.group)]
  constructor
  · rintro ⟨hhands, -⟩
    by_contra hnot
    obtain ⟨p, hp, hstale, hleft⟩ := exists_left_of_not_paged current s.ordered 100 hnot
    -- the entry is still as it was, although it should have been claimed
    have hclaimed := hhands p (mem_tailFrom.1 hp).1 hstale
    have heq := (s.ordered.doClaimStalePending 100).eq_of_id hleft hclaimed rfl
    have hidle : minIdleMs ≤ now - p.deliveredAt := of_decide_eq_true hstale
    have hnow : p.deliveredAt = now := congrArg Pending.deliveredAt heq
    simp only [minIdleMs] at hidle
    omega
  · intro hpaged
    have hhands : HandsOver now current s.group (claimStalePending looks now current s.group) :=
      fun p hp hstale => mem_doClaimStalePending_of_paged s.ordered 100 hpaged
        (mem_tailFrom.2 ⟨hp, Nat.zero_le _⟩) hstale
    exact ⟨hhands, deletesNoOwner_of_handsOver hhands⟩

/-- A thousand entries that a node has just been handed, and behind them one of a node that is gone. -/
def behindFresh : GroupState where
  group :=
    { lastDelivered := 1001
      pending := (List.range' 1 1000).map (fun id => ⟨id, "phoenix-1", 400000⟩) ++
        [⟨1001, "phoenix-2", 0⟩] }
  consumers := [("phoenix-1", 400000), ("phoenix-2", 0)]
  increasing := by
    refine List.pairwise_append.2 ⟨List.pairwise_map.2 List.pairwise_lt_range', ?_, ?_⟩
    · exact List.pairwise_singleton _ _
    · intro p hp q hq
      obtain ⟨id, hid, rfl⟩ := List.mem_map.1 hp
      rw [List.mem_singleton.1 hq]
      have hlt := (List.mem_range'_1.1 hid).2
      exact hlt
  positive := by
    intro p hp
    rcases List.mem_append.1 hp with hfresh | hlast
    · obtain ⟨id, hid, rfl⟩ := List.mem_map.1 hfresh
      exact (List.mem_range'_1.1 hid).1
    · rw [List.mem_singleton.1 hlast]
      decide
  seen := by
    intro p hp consumer hconsumer howner
    rcases List.mem_append.1 hp with hfresh | hlast
    · obtain ⟨id, hid, rfl⟩ := List.mem_map.1 hfresh
      simp only [List.mem_cons, List.not_mem_nil, or_false] at hconsumer
      rcases hconsumer with rfl | rfl
      · exact le_rfl
      · have hother : "phoenix-1" ≠ "phoenix-2" := by decide
        exact absurd howner hother
    · rw [List.mem_singleton.1 hlast]
      exact Nat.zero_le _

/-- The first page has no stale entry, and the entry behind it is lost. -/
theorem farEntry_isLost : ¬ ∀ (looks now : ℕ) (current : Consumer) (active : List Consumer)
    (setting : ℤ) (s : GroupState), NothingLost looks now current active setting s := by
  intro h
  obtain ⟨hhands, -⟩ := h 1000 400000 "phoenix-1" ["phoenix-1"] 300000 behindFresh
  have hclaimed := hhands ⟨1001, "phoenix-2", 0⟩
    (List.mem_append_right _ (List.mem_singleton_self _)) rfl
  have hlost : decide ((⟨1001, "phoenix-1", 400000⟩ : Pending Consumer) ∈
      (claimStalePending 1000 400000 "phoenix-1" behindFresh.group).pending) = false := by
    decide +kernel
  exact absurd hclaimed (of_decide_eq_false hlost)

end Lost

end Streams
