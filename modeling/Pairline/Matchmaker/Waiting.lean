/-
**How long a session has waited.**

A session with interests that joins the queue is enqueued under the time of its joining, and two
events are scheduled for it: one for when the relaxed wait has elapsed, one for the overflow wait.
An event that still belongs to the current joining enqueues the session in the queues of its phase —
under the time of that moment, and only if the lock of the session is free.  A sweep takes the waiting
time of a session from the score in the queue that it sweeps.

The pairings and timeouts that a sweep brings about are changes of records and leaves, which are events
of their own here; the answers of the session store to a sweep are part of its event.

Main definitions:

* `Matchmaker.WaitState`, `Matchmaker.waitStep` — the queues with their scores, the delayed events of
  all nodes and the clock, and what one event does;
* `Matchmaker.sweepPool` — the sessions that a sweep tests, with their waiting times;
* `Matchmaker.KeepsWaiting` — no event ends the waiting of a session;
* `Matchmaker.RelaxationByTotalWait` — after its phase event a session is in the queues of the phase,
  and has waited long enough for them.

Main results:

* `Matchmaker.mem_queue_of_run` — the scores of a session change by its own phase events only;
* `Matchmaker.relaxation_iff` — **a session enters the queues of a phase exactly when its lock is free,
  and has waited long enough there exactly when the wait has passed once more**;
* `Matchmaker.relaxed_session_waits_again` — a sweep at the moment of the phase event.
-/

import Pairline.Matchmaker.QueueStore
import Pairline.Transition

set_option relaxedAutoImplicit false
set_option autoImplicit false

namespace Matchmaker

open Sessions Transition

/-! ### Queues with scores -/

/-- A sorted set, as its members with their scores. -/
abbrev ScoredQueue := List (SessionId × ℕ)

/-- `ZADD`. -/
def zadd (sid : SessionId) (score : ℕ) (queue : ScoredQueue) : ScoredQueue :=
  (sid, score) :: queue.filter (·.1 ≠ sid)

/-- `ZREM`. -/
def zrem (sid : SessionId) (queue : ScoredQueue) : ScoredQueue := queue.filter (·.1 ≠ sid)

/-- `ZRANGEBYSCORE` with a limit: the lowest scores, sessions of one score in their own order. -/
def lowestScores (limit : ℕ) (queue : ScoredQueue) : ScoredQueue :=
  (queue.mergeSort fun a b => a.2 < b.2 || (a.2 = b.2 && a.1 ≤ b.1)).take limit

theorem mem_zadd {sid sid' : SessionId} {score score' : ℕ} {queue : ScoredQueue} :
    (sid', score') ∈ zadd sid score queue ↔
      sid' = sid ∧ score' = score ∨ sid' ≠ sid ∧ (sid', score') ∈ queue := by
  simp only [zadd, List.mem_cons, Prod.mk.injEq, List.mem_filter, decide_eq_true_eq]
  exact or_congr_right and_comm

theorem mem_zrem {sid sid' : SessionId} {score : ℕ} {queue : ScoredQueue} :
    (sid', score) ∈ zrem sid queue ↔ sid' ≠ sid ∧ (sid', score) ∈ queue := by
  simp only [zrem, List.mem_filter, decide_eq_true_eq]
  exact and_comm

theorem mem_of_mem_lowestScores {limit : ℕ} {queue : ScoredQueue} {entry : SessionId × ℕ}
    (h : entry ∈ lowestScores limit queue) : entry ∈ queue :=
  List.mem_mergeSort.1 (List.mem_of_mem_take h)

/-! ### Events -/

/-- A message that is sent to the matchmaker of a node with a delay. -/
structure DelayedMatchEvent where
  node : ℕ
  sid : SessionId
  phase : FallbackPhase
  generation : ℕ
  due : ℕ
  deriving DecidableEq

structure WaitState where
  now : ℕ
  session : SessionId → Option Session
  queues : String → ScoredQueue
  /-- `fallback_generations` of each node. -/
  generations : ℕ → SessionId → Option ℕ
  nextGeneration : ℕ
  delayed : List DelayedMatchEvent

/-- Nobody waits. -/
def noneWaiting : WaitState where
  now := 0
  session _ := none
  queues _ := []
  generations _ _ := none
  nextGeneration := 0
  delayed := []

inductive WaitEvent
  | tick (d : ℕ)
  /-- `join_queue` on a node. -/
  | join (node : ℕ) (sid : SessionId) (preferences : Preferences)
  /-- `leave_queue` on a node, with the queues that it finds listed. -/
  | leave (node : ℕ) (sid : SessionId) (queueKeys : List String)
  /-- The record of a session is written, or deleted. -/
  | record (sid : SessionId) (session : Option Session)
  /-- A delayed event arrives; the lock of its session is free or not. -/
  | phase (i : ℕ) (unlocked : Bool)
  /-- A sweep that began at some time reads a queue, and what the store has of its sessions. -/
  | sweep (queueKey : String) (began : ℕ) (ready : SessionId → Option QueueMeta)

variable (text : Text) (config : Config) (routeOf : SessionId → Route)

/-- `enqueue_queue_keys`, as far as the queues go. -/
def enqueue (queues : String → ScoredQueue) (sid : SessionId) (queueKeys : List String)
    (timestamp : ℕ) : String → ScoredQueue :=
  fun queueKey => if queueKey ∈ queueKeys then zadd sid timestamp (queues queueKey) else
    queues queueKey

/-- The setting that a phase waits for. -/
def phaseWait (phase : FallbackPhase) : ℕ :=
  match phase with
  | .relaxedWaitElapsed => config.matchRelaxedWaitMs
  | .overflowWaitElapsed => config.matchOverflowWaitMs

/-- `schedule_delayed_match_event`; without a wait there is no event. -/
def scheduleDelayedMatchEvent (node : ℕ) (sid : SessionId) (generation now : ℕ)
    (phase : FallbackPhase) : List DelayedMatchEvent :=
  if phaseWait config phase = 0 then []
  else [⟨node, sid, phase, generation, now + phaseWait config phase⟩]

/-- `schedule_fallback_checks`. -/
def scheduleFallbackChecks (node : ℕ) (sid : SessionId) (generation now : ℕ) :
    List DelayedMatchEvent :=
  scheduleDelayedMatchEvent config node sid generation now .relaxedWaitElapsed ++
    scheduleDelayedMatchEvent config node sid generation now .overflowWaitElapsed

/-- The entry of one session on one node. -/
def setGeneration (generations : ℕ → SessionId → Option ℕ) (node : ℕ) (sid : SessionId)
    (generation : Option ℕ) : ℕ → SessionId → Option ℕ :=
  Function.update generations node (Function.update (generations node) sid generation)

/-- `join_queue`. -/
def joinWaiting (s : WaitState) (node : ℕ) (sid : SessionId) (preferences : Preferences) :
    WaitState :=
  let normalized := normalizePreferences text preferences
  let route := routeOf sid
  let queues := enqueue s.queues sid (initialQueueKeys text config normalized route.mode route.shard)
    s.now
  if interestBuckets text normalized = [] then
    { s with queues := queues, generations := setGeneration s.generations node sid none }
  else
    { s with
      queues := queues
      generations := setGeneration s.generations node sid (some s.nextGeneration)
      nextGeneration := s.nextGeneration + 1
      delayed := s.delayed ++ scheduleFallbackChecks config node sid s.nextGeneration s.now }

/-- `schedule_fallback_phase` when the lock is free. -/
def enterFallbackQueues (s : WaitState) (sid : SessionId) (phase : FallbackPhase) : WaitState :=
  match s.session sid with
  | some session =>
      if pairableSession session then
        { s with queues :=
            enqueue s.queues sid (fallbackQueueKeys text config phase session (routeOf sid)) s.now }
      else s
  | none => s

/-- What the matchmaker of a node does with a delayed event. -/
def handleDelayed (s : WaitState) (event : DelayedMatchEvent) (unlocked : Bool) : WaitState :=
  if s.generations event.node event.sid = some event.generation ∧ unlocked = true then
    enterFallbackQueues text config routeOf s event.sid event.phase
  else s

/-- **One event.** -/
def waitStep (s : WaitState) : WaitEvent → Option WaitState
  | .tick d => some { s with now := s.now + d }
  | .join node sid preferences => some (joinWaiting text config routeOf s node sid preferences)
  | .leave node sid queueKeys => some
      { s with
        queues := fun queueKey =>
          if queueKey ∈ queueKeys then zrem sid (s.queues queueKey) else s.queues queueKey
        generations := setGeneration s.generations node sid none }
  | .record sid session => some { s with session := Function.update s.session sid session }
  | .phase i unlocked =>
      match s.delayed[i]? with
      | some event =>
          if event.due ≤ s.now then
            some (handleDelayed text config routeOf { s with delayed := s.delayed.eraseIdx i } event
              unlocked)
          else none
      | none => none
  | .sweep _ began _ => if began ≤ s.now then some s else none

/-- `build_session_pool`. -/
def buildSessionPool (entries : ScoredQueue) (ready : SessionId → Option QueueMeta) (began : ℕ) :
    List Candidate :=
  entries.filterMap fun entry =>
    (ready entry.1).map fun session => ⟨entry.1, session, (began : ℤ) - entry.2⟩

/-- **The sessions that a sweep tests**, with their waiting times. -/
def sweepPool (batchSize : ℕ) (s : WaitState) (queueKey : String) (began : ℕ)
    (ready : SessionId → Option QueueMeta) : List Candidate :=
  buildSessionPool (lowestScores batchSize (s.queues queueKey)) ready began

/-! ### The law -/

/-- The session waits, with the preferences of a record. -/
def Waits (s : WaitState) (sid : SessionId) (session : Session) : Prop :=
  ∃ current, s.session sid = some current ∧ pairableSession current = true ∧
    current.preferences = session.preferences

/-- **No event ends the waiting of a session**: it neither joins again nor leaves, and its record stays
that of a waiting session. -/
def KeepsWaiting (sid : SessionId) (session : Session) (_ : WaitState) : WaitEvent → Prop
  | .join _ sid' _ => sid' ≠ sid
  | .leave _ sid' _ => sid' ≠ sid
  | .record sid' written => sid' = sid →
      ∃ current, written = some current ∧ pairableSession current = true ∧
        current.preferences = session.preferences
  | _ => True

/-- A delayed event of the phase that belongs to the current joining of the session. -/
def Current (s : WaitState) (i : ℕ) (sid : SessionId) (phase : FallbackPhase) : Prop :=
  ∃ event, s.delayed[i]? = some event ∧ event.sid = sid ∧ event.phase = phase ∧
    s.generations event.node sid = some event.generation

/-- The session is in the queue. -/
def Queued (s : WaitState) (queueKey : String) (sid : SessionId) : Prop :=
  ∃ score, (sid, score) ∈ s.queues queueKey

/-- **A session that joins and keeps waiting is in the queues of a phase once its event was handled,
and every sweep of them finds that it has waited for the wait of the phase.** -/
def RelaxationByTotalWait (batchSize : ℕ) : Prop :=
  ∀ (l l' l'' : List WaitEvent) (s₀ s₁ s₂ s₃ s₄ : WaitState) (node : ℕ) (sid : SessionId)
    (preferences : Preferences) (session : Session) (phase : FallbackPhase) (i : ℕ)
    (unlocked : Bool),
    Run (waitStep text config routeOf) Always noneWaiting l s₀ →
    waitStep text config routeOf s₀ (.join node sid preferences) = some s₁ →
    interestBuckets text (normalizePreferences text preferences) ≠ [] → Waits s₁ sid session →
    Run (waitStep text config routeOf) (KeepsWaiting sid session) s₁ l' s₂ →
    Current s₂ i sid phase → s₀.now + phaseWait config phase ≤ s₂.now →
    waitStep text config routeOf s₂ (.phase i unlocked) = some s₃ →
    Run (waitStep text config routeOf) (KeepsWaiting sid session) s₃ l'' s₄ →
    ∀ queueKey ∈ fallbackQueueKeys text config phase session (routeOf sid),
      Queued s₄ queueKey sid ∧ ∀ began ready s₅,
        waitStep text config routeOf s₄ (.sweep queueKey began ready) = some s₅ →
        ∀ c ∈ sweepPool batchSize s₄ queueKey began ready, c.sid = sid →
          (phaseWait config phase : ℤ) ≤ c.wait

/-- No further event of the phase takes effect for the session. -/
def NoFurther (sid : SessionId) (phase : FallbackPhase) (s : WaitState) : WaitEvent → Prop
  | .phase i unlocked => ¬ (unlocked = true ∧ Current s i sid phase)
  | _ => True

/-! ### The queues of the two phases -/

variable {text config routeOf}

theorem afterTag_relaxedBucketQueueKey (mode : String) (shard : ℕ) (family : String) :
    afterTag (relaxedBucketQueueKey config mode shard family) =
      '\x7d' :: (":bucket:relaxed:" ++ family).toList := by
  have h := afterTag_key config mode shard (":bucket:relaxed:" ++ family)
  rwa [← String.append_assoc] at h

theorem afterTag_randomQueueKey (mode : String) (shard : ℕ) :
    afterTag (randomQueueKey config mode shard) = '\x7d' :: ":random:local".toList :=
  afterTag_key config mode shard ":random:local"

/-- No queue is of both phases. -/
theorem not_mem_both {session session' : Session} {route route' : Route} {queueKey : String}
    (h : queueKey ∈ fallbackQueueKeys text config .relaxedWaitElapsed session route)
    (h' : queueKey ∈ fallbackQueueKeys text config .overflowWaitElapsed session' route') : False := by
  have hrandom : queueKey = randomQueueKey config route'.mode route'.shard := by
    have hmem := List.mem_eraseDups.1 h'
    simpa only [List.mem_cons, List.not_mem_nil, or_false, or_self] using hmem
  subst hrandom
  rcases List.mem_append.1 (List.mem_eraseDups.1 h) with hmem | hmem
  · obtain ⟨family, -, heq⟩ := List.mem_map.1 hmem
    have hafter := congrArg afterTag heq
    rw [afterTag_relaxedBucketQueueKey, afterTag_randomQueueKey, String.toList_append] at hafter
    simp at hafter
  · have hafter := congrArg afterTag (List.mem_singleton.1 hmem)
    rw [afterTag_randomQueueKey, afterTag_sharedRandomQueueKey] at hafter
    simp at hafter

theorem phase_eq_of_mem {phase phase' : FallbackPhase} {session session' : Session}
    {route route' : Route} {queueKey : String}
    (h : queueKey ∈ fallbackQueueKeys text config phase session route)
    (h' : queueKey ∈ fallbackQueueKeys text config phase' session' route') : phase' = phase := by
  cases phase with
  | relaxedWaitElapsed =>
      cases phase' with
      | relaxedWaitElapsed => rfl
      | overflowWaitElapsed => exact (not_mem_both h h').elim
  | overflowWaitElapsed =>
      cases phase' with
      | relaxedWaitElapsed => exact (not_mem_both h' h).elim
      | overflowWaitElapsed => rfl

/-! ### Scores -/

section Scores

variable {s s' : WaitState} {sid sid' : SessionId} {score : ℕ} {queueKey : String}

/-- An enqueue leaves the scores of other sessions alone, and those in other queues. -/
theorem mem_enqueue {queues : String → ScoredQueue} {queueKeys : List String} {timestamp : ℕ}
    (h : sid ≠ sid' ∨ queueKey ∉ queueKeys) :
    (sid, score) ∈ enqueue queues sid' queueKeys timestamp queueKey ↔
      (sid, score) ∈ queues queueKey := by
  unfold enqueue
  split_ifs with hmem
  · rw [mem_zadd]
    have hne := h.resolve_right fun hnot => hnot hmem
    simp [hne]
  · exact Iff.rfl

/-- The score of a session that is enqueued. -/
theorem mem_enqueue_self {queues : String → ScoredQueue} {queueKeys : List String} {timestamp : ℕ}
    (h : queueKey ∈ queueKeys) :
    (sid, score) ∈ enqueue queues sid queueKeys timestamp queueKey ↔ score = timestamp := by
  unfold enqueue
  rw [if_pos h, mem_zadd]
  simp

theorem queues_joinWaiting (s : WaitState) (node : ℕ) (preferences : Preferences) :
    (joinWaiting text config routeOf s node sid preferences).queues =
      enqueue s.queues sid (initialQueueKeys text config (normalizePreferences text preferences)
        (routeOf sid).mode (routeOf sid).shard) s.now := by
  simp only [joinWaiting, apply_ite WaitState.queues, ite_self]

/-- A phase enqueues a session in its own queues, or does nothing. -/
theorem queues_enterFallbackQueues (s : WaitState) (sid : SessionId) (phase : FallbackPhase) :
    (enterFallbackQueues text config routeOf s sid phase).queues = s.queues ∨
      ∃ session, (enterFallbackQueues text config routeOf s sid phase).queues =
        enqueue s.queues sid (fallbackQueueKeys text config phase session (routeOf sid)) s.now := by
  unfold enterFallbackQueues
  split
  · split_ifs
    · exact .inr ⟨_, rfl⟩
    · exact .inl rfl
  · exact .inl rfl

theorem mem_handleDelayed {event : DelayedMatchEvent} {unlocked : Bool} {phase : FallbackPhase}
    {session : Session} {route : Route}
    (hkey : queueKey ∈ fallbackQueueKeys text config phase session route)
    (h : ¬ (unlocked = true ∧ event.sid = sid ∧ event.phase = phase ∧
      s.generations event.node sid = some event.generation)) :
    (sid, score) ∈ (handleDelayed text config routeOf s event unlocked).queues queueKey ↔
      (sid, score) ∈ s.queues queueKey := by
  unfold handleDelayed
  split_ifs with hcurrent
  · obtain ⟨hgeneration, hunlocked⟩ := hcurrent
    rcases queues_enterFallbackQueues s event.sid event.phase with hsame | ⟨current, hqueues⟩
    · rw [hsame]
    · rw [hqueues]
      refine mem_enqueue ?_
      by_cases hsid : sid = event.sid
      · -- the event is of the other phase
        subst hsid
        exact .inr fun hmem => h ⟨hunlocked, rfl, phase_eq_of_mem hkey hmem, hgeneration⟩
      · exact .inl hsid
  · exact Iff.rfl

variable {session : Session} {phase : FallbackPhase}

/-- **The scores of a session change by its own phase events only**, while it keeps waiting. -/
theorem mem_queue_of_step {ev : WaitEvent}
    (hkey : queueKey ∈ fallbackQueueKeys text config phase session (routeOf sid))
    (hwaiting : KeepsWaiting sid session s ev) (hnone : NoFurther sid phase s ev)
    (hs : waitStep text config routeOf s ev = some s') :
    (sid, score) ∈ s'.queues queueKey ↔ (sid, score) ∈ s.queues queueKey := by
  cases ev with
  | tick d =>
      obtain rfl := Option.some_inj.1 hs
      exact Iff.rfl
  | join node other preferences =>
      obtain rfl := Option.some_inj.1 hs
      rw [queues_joinWaiting]
      exact mem_enqueue (.inl fun heq => hwaiting heq.symm)
  | leave node other queueKeys =>
      obtain rfl := Option.some_inj.1 hs
      have hne : sid ≠ other := fun heq => hwaiting heq.symm
      by_cases hmem : queueKey ∈ queueKeys
      · simp [hmem, mem_zrem, hne]
      · simp [hmem]
  | record other written =>
      obtain rfl := Option.some_inj.1 hs
      exact Iff.rfl
  | phase i unlocked =>
      simp only [waitStep] at hs
      split at hs
      next event hevent =>
          split_ifs at hs
          obtain rfl := Option.some_inj.1 hs
          refine mem_handleDelayed hkey fun ⟨hunlocked, hsid, hphase, hgeneration⟩ => ?_
          exact hnone ⟨hunlocked, event, hevent, hsid, hphase, hsid ▸ hgeneration⟩
      next => cases hs
  | sweep key began ready =>
      simp only [waitStep] at hs
      split_ifs at hs
      obtain rfl := Option.some_inj.1 hs
      exact Iff.rfl

/-- … also over a run. -/
theorem mem_queue_of_run {l : List WaitEvent}
    (hkey : queueKey ∈ fallbackQueueKeys text config phase session (routeOf sid))
    (hrun : Run (waitStep text config routeOf)
      (fun s ev => KeepsWaiting sid session s ev ∧ NoFurther sid phase s ev) s l s') :
    (sid, score) ∈ s'.queues queueKey ↔ (sid, score) ∈ s.queues queueKey := by
  induction hrun with
  | refl s => exact Iff.rfl
  | head hok hs _ ih => exact ih.trans (mem_queue_of_step hkey hok.1 hok.2 hs)

end Scores

/-! ### The phase event -/

section Phase

variable {s s' t : WaitState} {sid : SessionId} {score i : ℕ} {queueKey : String}
  {session : Session} {phase : FallbackPhase} {unlocked : Bool}

theorem fallbackQueueKeys_congr {current : Session} (h : current.preferences = session.preferences)
    (route : Route) : fallbackQueueKeys text config phase current route =
      fallbackQueueKeys text config phase session route := by
  cases phase with
  | relaxedWaitElapsed =>
      simp only [fallbackQueueKeys, h]
  | overflowWaitElapsed => rfl

/-- **What the event of a phase does to the scores of its session.** -/
theorem mem_queue_of_phase (hwaits : Waits s sid session) (hcurrent : Current s i sid phase)
    (hkey : queueKey ∈ fallbackQueueKeys text config phase session (routeOf sid))
    (hs : waitStep text config routeOf s (.phase i unlocked) = some s') :
    (sid, score) ∈ s'.queues queueKey ↔
      if unlocked = true then score = s.now else (sid, score) ∈ s.queues queueKey := by
  obtain ⟨event, hevent, rfl, rfl, hgeneration⟩ := hcurrent
  obtain ⟨current, hsession, hpairable, hpreferences⟩ := hwaits
  simp only [waitStep, hevent] at hs
  split_ifs at hs
  obtain rfl := Option.some_inj.1 hs
  unfold handleDelayed
  by_cases hunlocked : unlocked = true
  · rw [if_pos ⟨hgeneration, hunlocked⟩, if_pos hunlocked]
    simp only [enterFallbackQueues, hsession, if_pos hpairable, fallbackQueueKeys_congr hpreferences]
    exact mem_enqueue_self hkey
  · rw [if_neg fun h => hunlocked h.2, if_neg hunlocked]

/-- A tested session is in the queue, with the score that its waiting time is counted from. -/
theorem mem_queue_of_mem_sweepPool {batchSize began : ℕ} {ready : SessionId → Option QueueMeta}
    {c : Candidate} (hc : c ∈ sweepPool batchSize s queueKey began ready) :
    ∃ score, (c.sid, score) ∈ s.queues queueKey ∧ c.wait = (began : ℤ) - score := by
  obtain ⟨entry, hentry, hmap⟩ := List.mem_filterMap.1 hc
  obtain ⟨found, -, rfl⟩ := Option.map_eq_some_iff.1 hmap
  exact ⟨entry.2, mem_of_mem_lowestScores hentry, rfl⟩

/-- **A session enters the queues of a phase exactly when its lock is free** (or it is there already),
**and has waited long enough there exactly when the wait has passed once more**: the event of the phase
is the last one that takes effect for the session, and the waiting time is counted from it. -/
theorem relaxation_iff {batchSize : ℕ} {l : List WaitEvent} (hwaits : Waits s sid session)
    (hcurrent : Current s i sid phase)
    (hs : waitStep text config routeOf s (.phase i unlocked) = some s')
    (hrun : Run (waitStep text config routeOf)
      (fun s ev => KeepsWaiting sid session s ev ∧ NoFurther sid phase s ev) s' l t)
    (hkey : queueKey ∈ fallbackQueueKeys text config phase session (routeOf sid)) :
    (Queued t queueKey sid ↔ unlocked = true ∨ Queued s queueKey sid) ∧
      (unlocked = true → ∀ began ready t',
        waitStep text config routeOf t (.sweep queueKey began ready) = some t' →
        ∀ c ∈ sweepPool batchSize t queueKey began ready, c.sid = sid →
          ((phaseWait config phase : ℤ) ≤ c.wait ↔ s.now + phaseWait config phase ≤ began)) := by
  have hscores : ∀ score, (sid, score) ∈ t.queues queueKey ↔
      if unlocked = true then score = s.now else (sid, score) ∈ s.queues queueKey :=
    fun score => (mem_queue_of_run hkey hrun).trans (mem_queue_of_phase hwaits hcurrent hkey hs)
  constructor
  · cases unlocked with
    | true =>
        have hqueued : Queued t queueKey sid := ⟨s.now, (hscores s.now).2 rfl⟩
        simp [hqueued]
    | false =>
        simp only [Bool.false_eq_true, if_false] at hscores
        simp only [Queued, hscores, Bool.false_eq_true, false_or]
  · rintro rfl began ready t' - c hc rfl
    obtain ⟨score, hscore, hwait⟩ := mem_queue_of_mem_sweepPool hc
    have hentered : score = s.now := (hscores score).1 hscore
    rw [hwait, hentered]
    omega

end Phase

/-! ### A session with one interest -/

section Example

def listener : Session where
  id := "a"
  token := "token"
  ip := "192.0.2.1"
  sessionKind := .human
  redisShard := 0
  matchGeneration := none
  status := .waiting
  partnerId := none
  lastPartnerId := none
  signalingReady := false
  webrtcStarted := false
  preferences := ⟨"text", "music"⟩
  createdAt := 0
  lastActivity := 0
  banStatus := false
  banReason := none

/-- All sessions are of one route. -/
def oneRoute (_ : SessionId) : Route := ⟨"text", 0⟩

/-- The session has a record. -/
def recorded : WaitState :=
  { noneWaiting with session := Function.update noneWaiting.session "a" (some listener) }

/-- It joins, at time 0. -/
def joined : WaitState :=
  joinWaiting asciiText defaultConfig oneRoute recorded 0 "a" (textPreferences "music")

/-- The relaxed wait has elapsed. -/
def fiveSecondsLater : WaitState := { joined with now := joined.now + 5000 }

/-- What the store has of the session. -/
def listenerReady (_ : SessionId) : Option QueueMeta := some ⟨"text", ["music"], none⟩

def relaxedQueue : String := relaxedBucketQueueKey defaultConfig "text" 0 "mu"

theorem waits_fiveSecondsLater : Waits fiveSecondsLater "a" listener :=
  ⟨listener, by decide +kernel, rfl, rfl⟩

theorem current_fiveSecondsLater : Current fiveSecondsLater 0 "a" .relaxedWaitElapsed :=
  ⟨⟨0, "a", .relaxedWaitElapsed, 0, 5000⟩, by decide +kernel, rfl, rfl, by decide +kernel⟩

theorem relaxedQueue_mem : relaxedQueue ∈
    fallbackQueueKeys asciiText defaultConfig .relaxedWaitElapsed listener (oneRoute "a") := by
  decide +kernel

/-- **After ten seconds the session has waited long enough for the relaxed queue.** -/
theorem relaxed_session_after_ten_seconds : ∃ s t,
    waitStep asciiText defaultConfig oneRoute fiveSecondsLater (.phase 0 true) = some s ∧
    waitStep asciiText defaultConfig oneRoute s (.tick 5000) = some t ∧
    Queued t relaxedQueue "a" ∧ ∀ began ready t',
      waitStep asciiText defaultConfig oneRoute t (.sweep relaxedQueue began ready) = some t' →
      ∀ c ∈ sweepPool 500 t relaxedQueue began ready, c.sid = "a" →
        (5000 ≤ c.wait ↔ 10000 ≤ began) := by
  obtain ⟨s, hs⟩ : ∃ s, waitStep asciiText defaultConfig oneRoute fiveSecondsLater
      (.phase 0 true) = some s := Option.isSome_iff_exists.1 (by decide +kernel)
  have hrun : Run (waitStep asciiText defaultConfig oneRoute)
      (fun s ev => KeepsWaiting "a" listener s ev ∧ NoFurther "a" .relaxedWaitElapsed s ev) s
      [.tick 5000] _ := .single ⟨trivial, trivial⟩ rfl
  have h := @relaxation_iff asciiText defaultConfig oneRoute _ _ _ _ _ _ _ _ _ 500 _
    waits_fiveSecondsLater current_fiveSecondsLater hs hrun relaxedQueue_mem
  exact ⟨s, _, hs, rfl, h.1.2 (.inl rfl), h.2 rfl⟩

/-- **A sweep at the moment of the phase event finds that the session has not waited at all.** -/
theorem relaxed_session_waits_again :
    ¬ RelaxationByTotalWait asciiText defaultConfig oneRoute 500 := by
  intro h
  obtain ⟨s, hs⟩ : ∃ s, waitStep asciiText defaultConfig oneRoute fiveSecondsLater
      (.phase 0 true) = some s := Option.isSome_iff_exists.1 (by decide +kernel)
  have hnow : (waitStep asciiText defaultConfig oneRoute fiveSecondsLater (.phase 0 true)).any
      (fun s => decide (5000 ≤ s.now ∧ ⟨"a", ⟨"text", ["music"], none⟩, 0⟩ ∈
        sweepPool 500 s relaxedQueue 5000 listenerReady)) = true := by decide +kernel
  rw [hs, Option.any_some, decide_eq_true_eq] at hnow
  have hwaited := (h [.record "a" (some listener)] [.tick 5000] [] recorded joined
    fiveSecondsLater s s 0 "a" (textPreferences "music") listener .relaxedWaitElapsed 0 true
    (.single trivial rfl) rfl (by decide +kernel) ⟨listener, by decide +kernel, rfl, rfl⟩
    (.single trivial rfl) current_fiveSecondsLater (by decide +kernel) hs (.refl s) relaxedQueue
    relaxedQueue_mem).2 5000 listenerReady s (if_pos hnow.1) _ hnow.2 rfl
  exact absurd hwaited (by decide)

end Example

end Matchmaker
