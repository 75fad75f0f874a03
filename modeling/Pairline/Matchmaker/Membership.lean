/-
**The membership set of a session.**

The set of the queues of a session is what leaving goes by: a queue that holds the session and is not
in the set keeps it.  An enqueue writes the queue first and lists it afterwards.  A leave reads the
set, removes the session from every queue that it read, takes those queues out of the set one by one
— and then deletes the set, with whatever was listed in the meantime.

Main definitions:

* `Matchmaker.MembershipListed` — every queue that holds the session is in its set;
* `Matchmaker.LeaveRemoves` — a leave removes the session from all queues;
* `Matchmaker.QueueMembership` — both, whenever no operation on the session is in progress;
* `Matchmaker.ListingKept` — no leave that will delete the set passes over a queue that is listed.

Main results:

* `Matchmaker.queueMembership_of_listingKept` — **the law holds in every run in which no listing
  falls between the reading and the deletion of the set by a leave that does not remove it**;
* `Matchmaker.listing_between_read_and_deletion` — one that does.
-/

import Pairline.Matchmaker.QueueStore

set_option relaxedAutoImplicit false
set_option autoImplicit false

namespace Matchmaker

open Program Sessions Transition

variable (text : Text) (config : Config) (routeOf : SessionId → Route)

/-! ### The law -/

/-- The key of the membership set of a session. -/
def membershipKeyOf (sid : SessionId) : String := sessionQueueKey config sid (routeOf sid)

/-- **Every queue that holds the session is listed in its membership set.** -/
def MembershipListed (sid : SessionId) (s : QueueStore) : Prop :=
  ∀ queueKey, sid ∈ s.queues queueKey → queueKey ∈ s.membership (membershipKeyOf config routeOf sid)

/-- **A leave of the session that finds its route removes it from all queues.** -/
def LeaveRemoves (sid : SessionId) (s : QueueStore) : Prop :=
  ∀ answer : Answer, answer.routed = true → ∀ queueKey,
    sid ∉ ((leaveQueue config sid).run (QueueCmd.exec routeOf answer) s).2.queues queueKey

/-- No enqueue and no leave of the session is in progress. -/
def NoneInProgress (sid : SessionId) (cfg : QueueConfig) : Prop :=
  ∀ p ∈ cfg.procs, (p.op.enqueues sid = true ∨ p.op = .leave sid) → p.rest.result?.isSome

/-- **The law of queue membership**, for the runs whose steps meet a condition. -/
def QueueMembership (ok : SessionId → QueueConfig → QueueEvent → Prop) : Prop :=
  ∀ sid l cfg, Run (Pool.step (queueSystem text config routeOf)) (ok sid) (Pool.idle emptyQueues) l
    cfg → NoneInProgress sid cfg →
      MembershipListed config routeOf sid cfg.store ∧ LeaveRemoves config routeOf sid cfg.store

/-- **Nothing that is listed is lost.**  When a queue is added to the membership set of the session,
every leave that has the deletion of the set ahead of it also has the removal of the session from
that queue ahead of it.  The set expires only while it lists no queue that holds the session, and
neither a listing fails nor a removal that a deletion follows. -/
def ListingKept (sid : SessionId) (cfg : QueueConfig) : QueueEvent → Prop
  | .start _ => True
  | .advance i _ => ∀ p queueKey, cfg.procs[i]? = some p →
      p.rest.next? = some (.saddMembership (membershipKeyOf config routeOf sid) queueKey) →
        ∀ q ∈ cfg.procs, q.op = .leave sid →
          q.rest.Must (· = .delMembership (membershipKeyOf config routeOf sid)) →
            q.rest.Must (· = .zrem queueKey sid)
  | .fail i _ => ∀ p queueKey, cfg.procs[i]? = some p →
      p.rest.next? ≠ some (.saddMembership (membershipKeyOf config routeOf sid) queueKey) ∧
        (p.rest.Must (· = .delMembership (membershipKeyOf config routeOf sid)) →
          p.rest.next? ≠ some (.zrem queueKey sid))
  | .env membershipKey => membershipKey = membershipKeyOf config routeOf sid →
      ∀ queueKey ∈ cfg.store.membership membershipKey, sid ∉ cfg.store.queues queueKey

/-! ### The invariant -/

variable {text config routeOf} {sid : SessionId} {cfg cfg' : QueueConfig} {ev : QueueEvent}

/-- Some process has the listing of a queue ahead of it. -/
def Listing (config : Config) (routeOf : SessionId → Route) (sid : SessionId) (cfg : QueueConfig)
    (queueKey : String) : Prop :=
  ∃ p ∈ cfg.procs, p.rest.Must (· = .saddMembership (membershipKeyOf config routeOf sid) queueKey)

/-- **What holds between the queues of a session and its membership set**: a queue that holds the
session is listed or will be, and a leave that will delete the set will remove the session from it,
or it will be listed again. -/
structure Kept (config : Config) (routeOf : SessionId → Route) (sid : SessionId)
    (cfg : QueueConfig) : Prop where
  listed : ∀ queueKey, sid ∈ cfg.store.queues queueKey →
    queueKey ∈ cfg.store.membership (membershipKeyOf config routeOf sid) ∨
      Listing config routeOf sid cfg queueKey
  deleted : ∀ p ∈ cfg.procs,
    p.rest.Must (· = .delMembership (membershipKeyOf config routeOf sid)) →
      ∀ queueKey, sid ∈ cfg.store.queues queueKey →
        Listing config routeOf sid cfg queueKey ∨ p.rest.Must (· = .zrem queueKey sid)

/-- **A session enters a queue by an enqueue that lists the queue later on.** -/
theorem listing_of_entered {queueKey : String}
    (hs : Pool.step (queueSystem text config routeOf) cfg ev = some cfg')
    (hshape : ∀ p ∈ cfg.procs, Shape config routeOf p.op p.rest)
    (hin : sid ∈ cfg'.store.queues queueKey) (hout : sid ∉ cfg.store.queues queueKey) :
    Listing config routeOf sid cfg' queueKey := by
  rcases Pool.step_cases hs with ⟨op, -, rfl⟩ | ⟨i, x, op, c, next, rfl, hget, rfl⟩ |
    ⟨i, e, op, c, next, -, -, rfl⟩ | ⟨key, store, -, hstore, rfl⟩
  · exact absurd hin hout
  · rcases mem_queues_exec hin with hin | rfl
    · exact absurd hin hout
    · have hp := Pool.mem_of_getElem? hget
      obtain ⟨-, -, hmust⟩ := (hshape _ hp).zadd queueKey sid rfl
      rcases Pool.must_of_step hs hp hmust with ⟨q, hq, -, hmust⟩ | ⟨j, c, next', hget', hc, hev⟩
      · exact ⟨q, hq, hmust⟩
      · -- the step was the writing of the queue, not of the set
        rcases hev with ⟨x', hev, -⟩ | ⟨e, hev, -⟩
        · obtain ⟨rfl, -⟩ := Pool.Event.advance.inj hev
          rw [hget'] at hget
          cases hget
          cases hc
        · cases hev
  · exact absurd hin hout
  · obtain rfl := Option.some_inj.1 hstore
    exact absurd hin hout

/-- A listing that is ahead stays ahead until it takes place. -/
theorem listing_of_step {queueKey : String}
    (hs : Pool.step (queueSystem text config routeOf) cfg ev = some cfg')
    (hok : ListingKept config routeOf sid cfg ev) (h : Listing config routeOf sid cfg queueKey) :
    Listing config routeOf sid cfg' queueKey ∨
      ∃ i x op next, ev = .advance i x ∧ cfg.procs[i]? = some ⟨op,
        .call (.saddMembership (membershipKeyOf config routeOf sid) queueKey) next⟩ ∧
        cfg' = (queueSystem text config routeOf).advance cfg i x op _ next := by
  obtain ⟨p, hp, hmust⟩ := h
  rcases Pool.must_of_step hs hp hmust with ⟨q, hq, -, hmust⟩ |
    ⟨i, c, next, hget, rfl, ⟨x, rfl, hcfg⟩ | ⟨e, rfl, -⟩⟩
  · exact .inl ⟨q, hq, hmust⟩
  · exact .inr ⟨i, x, p.op, next, rfl, hget, hcfg⟩
  · exact absurd rfl (hok _ queueKey hget).1

/-- A queue that holds the session and is in the set stays in it, or is listed again. -/
theorem listed_of_member {queueKey : String}
    (hs : Pool.step (queueSystem text config routeOf) cfg ev = some cfg')
    (hshape : ∀ p ∈ cfg.procs, Shape config routeOf p.op p.rest)
    (hok : ListingKept config routeOf sid cfg ev) (hkept : Kept config routeOf sid cfg)
    (hin : sid ∈ cfg.store.queues queueKey)
    (hmem : queueKey ∈ cfg.store.membership (membershipKeyOf config routeOf sid)) :
    queueKey ∈ cfg'.store.membership (membershipKeyOf config routeOf sid) ∨
      Listing config routeOf sid cfg queueKey := by
  rcases Pool.step_cases hs with ⟨op, -, rfl⟩ | ⟨i, x, op, c, next, rfl, hget, rfl⟩ |
    ⟨i, e, op, c, next, -, -, rfl⟩ | ⟨key, store, rfl, hstore, rfl⟩
  · exact .inl hmem
  · have hp := Pool.mem_of_getElem? hget
    rcases @mem_membership_exec routeOf x c cfg.store _ _ hmem with hmem | rfl | rfl
    · exact .inl hmem
    · -- a leave takes the queue out: it has removed the session from what it read
      obtain ⟨hdel, hzrem⟩ := (hshape _ hp).srem _ _ rfl
      exact .inr ((hkept.deleted _ hp hdel queueKey hin).resolve_right (hzrem queueKey sid))
    · have hzrem := (hshape _ hp).del _ rfl
      exact .inr ((hkept.deleted _ hp (.inl rfl) queueKey hin).resolve_right (hzrem queueKey sid))
  · exact .inl hmem
  · obtain rfl := Option.some_inj.1 hstore
    rcases eq_or_ne (membershipKeyOf config routeOf sid) key with rfl | hne
    · exact absurd hin (hok rfl queueKey hmem)
    · exact .inl (by simpa [atKey_of_ne hne] using hmem)

/-- The first half of the invariant after a step. -/
theorem Kept.listed_of_step (hkept : Kept config routeOf sid cfg)
    (hs : Pool.step (queueSystem text config routeOf) cfg ev = some cfg')
    (hshape : ∀ p ∈ cfg.procs, Shape config routeOf p.op p.rest)
    (hok : ListingKept config routeOf sid cfg ev) {queueKey : String}
    (hin : sid ∈ cfg'.store.queues queueKey) :
    queueKey ∈ cfg'.store.membership (membershipKeyOf config routeOf sid) ∨
      Listing config routeOf sid cfg' queueKey := by
  by_cases hbefore : sid ∈ cfg.store.queues queueKey
  · have hlisting : queueKey ∈ cfg'.store.membership (membershipKeyOf config routeOf sid) ∨
        Listing config routeOf sid cfg queueKey := by
      rcases hkept.listed queueKey hbefore with hmem | hlisting
      · exact listed_of_member hs hshape hok hkept hbefore hmem
      · exact .inr hlisting
    rcases hlisting with hmem | hlisting
    · exact .inl hmem
    · rcases listing_of_step hs hok hlisting with hlisting | ⟨i, x, op, next, rfl, -, rfl⟩
      · exact .inr hlisting
      · exact .inl (@mem_membership_saddMembership routeOf x cfg.store _ _)
  · exact .inr (listing_of_entered hs hshape hin hbefore)

/-- A leave that will delete the set is a leave of the session. -/
theorem leave_of_deleting {p : Pool.Process QueueOp QueueCmd.Reply QueueError (Except QueueError Unit)}
    (hshape : Shape config routeOf p.op p.rest)
    (hdel : p.rest.Must (· = .delMembership (membershipKeyOf config routeOf sid))) :
    p.op = .leave sid := by
  obtain ⟨sid', hop, hkey⟩ := hshape.deleting _ hdel
  rw [hop, sessionQueueKey_inj hkey]

/-- No operation begins with the deletion ahead of it. -/
theorem not_deleting_program (op : QueueOp) (membershipKey : String)
    (hshape : Shape config routeOf op (op.program text config)) :
    ¬ (op.program text config).Must (· = .delMembership membershipKey) := by
  intro h
  obtain ⟨sid, rfl, -⟩ := hshape.deleting _ h
  rcases h with h | h
  · cases h
  · exact h (.error .notFound)

/-- **The step of the second half**: a leave that had the deletion ahead of it still has the removal
ahead of it, or the queue will be listed again. -/
theorem Kept.deleted_before_step (hkept : Kept config routeOf sid cfg)
    (hs : Pool.step (queueSystem text config routeOf) cfg ev = some cfg')
    (hshape : ∀ p ∈ cfg.procs, Shape config routeOf p.op p.rest)
    (hok : ListingKept config routeOf sid cfg ev)
    {p : Pool.Process QueueOp QueueCmd.Reply QueueError (Except QueueError Unit)}
    (hp : p ∈ cfg.procs)
    (hdel : p.rest.Must (· = .delMembership (membershipKeyOf config routeOf sid)))
    {queueKey : String} (hin : sid ∈ cfg'.store.queues queueKey) :
    Listing config routeOf sid cfg' queueKey ∨ p.rest.Must (· = .zrem queueKey sid) := by
  by_cases hbefore : sid ∈ cfg.store.queues queueKey
  · rcases hkept.deleted p hp hdel queueKey hbefore with hlisting | hzrem
    · rcases listing_of_step hs hok hlisting with hlisting | ⟨i, x, op, next, rfl, hget, -⟩
      · exact .inl hlisting
      · exact .inr (hok _ queueKey hget rfl p hp (leave_of_deleting (hshape p hp) hdel) hdel)
    · exact .inr hzrem
  · exact .inl (listing_of_entered hs hshape hin hbefore)

/-- The second half of the invariant after a step. -/
theorem Kept.deleted_of_step (hkept : Kept config routeOf sid cfg)
    (hs : Pool.step (queueSystem text config routeOf) cfg ev = some cfg')
    (hshape : ∀ p ∈ cfg.procs, Shape config routeOf p.op p.rest)
    (hshape' : ∀ p ∈ cfg'.procs, Shape config routeOf p.op p.rest)
    (hok : ListingKept config routeOf sid cfg ev)
    {p : Pool.Process QueueOp QueueCmd.Reply QueueError (Except QueueError Unit)}
    (hp : p ∈ cfg'.procs)
    (hdel : p.rest.Must (· = .delMembership (membershipKeyOf config routeOf sid)))
    {queueKey : String} (hin : sid ∈ cfg'.store.queues queueKey) :
    Listing config routeOf sid cfg' queueKey ∨ p.rest.Must (· = .zrem queueKey sid) := by
  have hop := leave_of_deleting (hshape' p hp) hdel
  -- for a process that the step leaves alone
  have hold : p ∈ cfg.procs → Listing config routeOf sid cfg' queueKey ∨
      p.rest.Must (· = .zrem queueKey sid) :=
    fun hp => hkept.deleted_before_step hs hshape hok hp hdel hin
  rcases Pool.step_cases hs with ⟨op, -, rfl⟩ | ⟨i, x, op, c, next, rfl, hget, rfl⟩ |
    ⟨i, e, op, c, next, rfl, hget, rfl⟩ | ⟨key, store, -, hstore, rfl⟩
  · rcases List.mem_append.1 hp with hp' | hp'
    · exact hold hp'
    · obtain rfl := List.mem_singleton.1 hp'
      exact absurd hdel (not_deleting_program op _ (hshape' _ hp))
  · rcases Pool.mem_advance hp with rfl | ⟨j, -, hj⟩ | ⟨op', hop', -⟩
    · have hp₀ := Pool.mem_of_getElem? hget
      rcases (hshape _ hp₀).decided sid c next _ _ hop rfl hdel with hdel₀ | ⟨rfl, -⟩
      · rcases hkept.deleted_before_step hs hshape hok hp₀ hdel₀ hin with hlisting | rfl | hnext
        · exact .inl hlisting
        · exact absurd hin (@notMem_queues_zrem routeOf x cfg.store sid queueKey)
        · exact .inr (hnext _)
      · -- the set is read: what is in it is removed, what is not will be listed
        rcases hkept.listed queueKey hin with hmem | hlisting
        · exact .inr ((hshape _ hp₀).read sid next rfl _ queueKey hmem)
        · rcases listing_of_step hs hok hlisting with hlisting | ⟨j, x', op', next', hev, hget', -⟩
          · exact .inl hlisting
          · obtain ⟨rfl, -⟩ := Pool.Event.advance.inj hev
            rw [hget'] at hget
            cases hget
    · exact hold (Pool.mem_of_getElem? hj)
    · exact absurd hop' List.not_mem_nil
  · rcases Pool.mem_set_cases hp with rfl | ⟨j, -, hj⟩
    · have hp₀ := Pool.mem_of_getElem? hget
      rcases (hshape _ hp₀).decided sid c next _ _ hop rfl hdel with hdel₀ | ⟨-, hread⟩
      · rcases hkept.deleted_before_step hs hshape hok hp₀ hdel₀ hin with hlisting | rfl | hnext
        · exact .inl hlisting
        · exact absurd rfl ((hok _ queueKey hget).2 hdel₀)
        · exact .inr (hnext _)
      · cases hread
    · exact hold (Pool.mem_of_getElem? hj)
  · exact hold hp

/-- **The invariant holds in every run in which nothing that is listed is lost.** -/
theorem kept_of_run {l : List QueueEvent}
    (h : Run (Pool.step (queueSystem text config routeOf)) (ListingKept config routeOf sid)
      (Pool.idle emptyQueues) l cfg) : Kept config routeOf sid cfg := by
  refine h.invariant_of_reached ?_ ⟨fun _ hin => absurd hin List.not_mem_nil,
    fun _ hp => absurd hp List.not_mem_nil⟩
  intro cfg ev cfg' l hrun hkept hok hs
  have hshape := shape_of_run hrun
  have hshape' := shape_of_run (hrun.append (.single hok hs))
  exact ⟨fun _ hin => hkept.listed_of_step hs hshape hok hin,
    fun _ hp hdel _ hin => hkept.deleted_of_step hs hshape hshape' hok hp hdel hin⟩

/-! ### Leaving from a state at rest -/

/-- What follows the reading of the set puts no session into a queue. -/
theorem notAdding_afterMembership (route : Route) (keys : List String) (queueKey : String) :
    (afterMembership config sid route (.ok keys)).All (· ≠ .zadd queueKey sid) := by
  cases keys with
  | nil => trivial
  | cons key keys =>
      refine (All.pipeline fun c hc hzadd => ?_).bind fun result => ?_
      · subst hzadd
        simp [removalCommands] at hc
      · refine (pruning_afterRemoval _ _ result).mono fun c hc hzadd => ?_
        subst hzadd
        obtain ⟨_, _, hc⟩ := hc
        cases hc

/-- **Where every queue that holds the session is listed, a leave removes it from all queues.** -/
theorem leaveRemoves_of_listed {s : QueueStore} (h : MembershipListed config routeOf sid s) :
    LeaveRemoves config routeOf sid s := by
  intro answer hrouted queueKey
  have hrun : (leaveQueue config sid).run (QueueCmd.exec routeOf answer) s =
      (afterMembership config sid (routeOf sid)
        (.ok (s.membership (membershipKeyOf config routeOf sid)))).run
          (QueueCmd.exec routeOf answer) s := by
    simp only [leaveQueue, queueCommand, command, bind_eq, call_bind, ret_bind, run, QueueCmd.exec,
      hrouted, if_true]
    rfl
  rw [hrun]
  have hkeep : ∀ c : QueueCmd, c ≠ .zadd queueKey sid → ∀ s : QueueStore, sid ∉ s.queues queueKey →
      sid ∉ (c.exec routeOf answer s).2.queues queueKey := by
    intro c hc s hout hin
    exact (mem_queues_exec hin).elim hout hc
  by_cases hin : sid ∈ s.queues queueKey
  · have hmem := h queueKey hin
    generalize s.membership (membershipKeyOf config routeOf sid) = keys at hmem
    have hmust : (afterMembership config sid (routeOf sid) (.ok keys)).Must
        (· = .zrem queueKey sid) := shape_smembersMembership.read sid _ rfl keys queueKey hmem
    refine hmust.run_establishes (notAdding_afterMembership _ keys queueKey) ?_ hkeep
    rintro _ s rfl
    exact notMem_queues_zrem sid queueKey
  · exact (notAdding_afterMembership _ _ queueKey).run_invariant hkeep hin

/-- **Queue membership, where nothing that is listed is lost.** -/
theorem queueMembership_of_listingKept (text : Text) (config : Config)
    (routeOf : SessionId → Route) :
    QueueMembership text config routeOf (ListingKept config routeOf) := by
  intro sid l cfg hrun hquiet
  have hlisted : MembershipListed config routeOf sid cfg.store := by
    intro queueKey hin
    rcases (kept_of_run hrun).listed queueKey hin with hmem | ⟨p, hp, hmust⟩
    · exact hmem
    · -- an operation with a listing ahead of it is an enqueue of the session, and has not ended
      have hsid := (shape_of_run hrun p hp).listing _ _ _ hmust
      obtain ⟨result, hresult⟩ := Option.isSome_iff_exists.1 (hquiet p hp (.inl hsid))
      rw [result?_eq_some.1 hresult] at hmust
      exact absurd hmust id
  exact ⟨hlisted, leaveRemoves_of_listed hlisted⟩

/-! ### Two runs -/

/-- A waiting text session with the interests. -/
def waitingSession (sid : SessionId) (interests : String) : Session where
  id := sid
  token := "token"
  ip := "203.0.113.24"
  sessionKind := .human
  redisShard := 7
  matchGeneration := none
  status := .waiting
  partnerId := none
  lastPartnerId := none
  signalingReady := false
  webrtcStarted := false
  preferences := ⟨"text", interests⟩
  createdAt := 0
  lastActivity := 0
  banStatus := false
  banReason := none

/-- The world finds session a as it waits for somebody who likes music. -/
def musicAnswer : Answer := { session := some (waitingSession "a" "music") }

/-- Session a joins its strict queue, and its overflow phase adds a random queue. -/
def joinAndOverflow : List QueueEvent :=
  [.start (.join "a" (textPreferences "music"))] ++ List.replicate 5 (.advance 0 {}) ++
    [.start (.fallback "a" .overflowWaitElapsed)] ++ List.replicate 8 (.advance 1 musicAnswer)

/-- In these runs a set is added to only when every leave has ended. -/
def listsApart (cfg : QueueConfig) : QueueEvent → Bool
  | .start _ => true
  | .advance i _ =>
      match cfg.procs[i]?.bind fun p => p.rest.next? with
      | some (.saddMembership _ _) => cfg.procs.all fun p =>
          match p.op with
          | .leave _ => p.rest.result?.isSome
          | _ => true
      | _ => true
  | .fail _ _ => false
  | .env _ => false

theorem listingKept_of_listsApart (h : listsApart cfg ev = true) :
    ListingKept config routeOf sid cfg ev := by
  cases ev with
  | start op => trivial
  | advance i x =>
      intro p queueKey hget hnext q hq hop hdel
      simp only [listsApart, hget, Option.bind_some, hnext, List.all_eq_true] at h
      have hended := h q hq
      rw [hop] at hended
      obtain ⟨result, hresult⟩ := Option.isSome_iff_exists.1 hended
      rw [result?_eq_some.1 hresult] at hdel
      exact absurd hdel id
  | fail i e => cases h
  | env key => cases h

/-- One operation after the other: what the fallback phase has added, the leave removes. -/
theorem queueMembership_of_listingKept_joinAndOverflow :
    ∃ cfg, Run (Pool.step (queueSystem asciiText defaultConfig fun _ => ⟨"text", 7⟩))
        (ListingKept defaultConfig (fun _ => ⟨"text", 7⟩) "a") (Pool.idle emptyQueues)
        joinAndOverflow cfg ∧
      cfg.store.queues (randomQueueKey defaultConfig "text" 7) = ["a"] ∧
      MembershipListed defaultConfig (fun _ => ⟨"text", 7⟩) "a" cfg.store ∧
      LeaveRemoves defaultConfig (fun _ => ⟨"text", 7⟩) "a" cfg.store := by
  obtain ⟨cfg, hrun, hcfg⟩ :
      ∃ cfg, Run (Pool.step (queueSystem asciiText defaultConfig fun _ => ⟨"text", 7⟩))
        (fun cfg ev => listsApart cfg ev = true) (Pool.idle emptyQueues) joinAndOverflow cfg ∧
        (cfg.procs.all (fun p => p.rest.result?.isSome) &&
          decide (cfg.store.queues (randomQueueKey defaultConfig "text" 7) = ["a"])) = true :=
    exists_run_of_execWhere (by decide +kernel)
  rw [Bool.and_eq_true, List.all_eq_true, decide_eq_true_eq] at hcfg
  have hkept : Run (Pool.step (queueSystem asciiText defaultConfig fun _ => ⟨"text", 7⟩))
      (ListingKept defaultConfig (fun _ => ⟨"text", 7⟩) "a") (Pool.idle emptyQueues)
      joinAndOverflow cfg := hrun.mono fun _ _ => listingKept_of_listsApart
  exact ⟨cfg, hkept, hcfg.2, queueMembership_of_listingKept asciiText defaultConfig _ "a" _ cfg hkept
    fun p hp _ => hcfg.1 p hp⟩

/-- Session a waits in its strict queue; a leave reads its set; then the overflow phase of the
session adds a random queue and lists it; and the leave deletes the set. -/
def overflowWhileLeaving : List QueueEvent :=
  [.start (.join "a" (textPreferences "music"))] ++ List.replicate 5 (.advance 0 {}) ++
    [.start (.leave "a")] ++ List.replicate 2 (.advance 1 {}) ++
    [.start (.fallback "a" .overflowWaitElapsed)] ++ List.replicate 8 (.advance 2 musicAnswer) ++
    List.replicate 4 (.advance 1 {})

/-- **A listing between the reading and the deletion of the set is lost**: the session stays in the
random queue, and no set knows of it. -/
theorem listing_between_read_and_deletion :
    ¬ QueueMembership asciiText defaultConfig (fun _ => ⟨"text", 7⟩) fun _ => Always := by
  intro h
  obtain ⟨cfg, hrun, hcfg⟩ :
      ∃ cfg, Run (Pool.step (queueSystem asciiText defaultConfig fun _ => ⟨"text", 7⟩)) Unfailing
        (Pool.idle emptyQueues) overflowWhileLeaving cfg ∧
        (cfg.procs.all (fun p => p.rest.result?.isSome) &&
          decide ("a" ∈ cfg.store.queues (randomQueueKey defaultConfig "text" 7)) &&
          decide (cfg.store.membership
            (membershipKeyOf defaultConfig (fun _ => ⟨"text", 7⟩) "a") = [])) = true :=
    exists_run_of_execWhere (by decide +kernel)
  rw [Bool.and_eq_true, Bool.and_eq_true, List.all_eq_true, decide_eq_true_eq,
    decide_eq_true_eq] at hcfg
  obtain ⟨⟨hquiet, hin⟩, hempty⟩ := hcfg
  have hlisted := (h "a" _ cfg hrun.always fun p hp _ => hquiet p hp).1 _ hin
  rw [hempty] at hlisted
  exact absurd hlisted List.not_mem_nil

end Matchmaker
