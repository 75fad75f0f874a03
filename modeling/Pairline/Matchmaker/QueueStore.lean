/-
**The keys of the queues and the operations that write them.**

A waiting session stands in the sorted sets of its queues; the set of its queues is kept under a key
of its own, its membership set, and the queues of a shard are listed in the registry of the shard.
Joining, the two fallback phases and leaving are programs of several commands each; pruning is one
script.  The session store answers as the world decides, with the route of a session as its only
fixed point, and whether a session lock is free is decided by the world as well.  The scores of the
sorted sets and the events sent to other nodes are left out.

Main definitions:

* `Matchmaker.QueueStore`, `Matchmaker.QueueCmd`, `Matchmaker.QueueCmd.exec` — the keys and the
  commands on them;
* `Matchmaker.joinQueue`, `Matchmaker.scheduleFallbackPhase`, `Matchmaker.leaveQueue`,
  `Matchmaker.queueKeys` — the operations;
* `Matchmaker.queueSystem` — the operations side by side;
* `Matchmaker.Shape` — what each operation still has to do wherever it stands.

Main results:

* `Matchmaker.sessionQueueKey_inj`, `Matchmaker.tag_of_queueOf` — keys tell sessions and shards apart;
* `Matchmaker.shape_of_run` — **an enqueue that has written a queue still lists it, and a leave that
  has read its set still removes what it read**.
-/

import Pairline.Pool
import Pairline.Sessions.Record

set_option relaxedAutoImplicit false
set_option autoImplicit false

namespace Matchmaker

open Program Sessions

/-! ### Keys -/

/-- `queue_registry_key`. -/
def queueRegistryKey (config : Config) (route : Route) : String :=
  "matchmaking:" ++ tag config route.mode route.shard ++ ":queues"

/-- `session_queue_key`. -/
def sessionQueueKey (config : Config) (sid : SessionId) (route : Route) : String :=
  "matchmaking:session_queues:" ++ tag config route.mode route.shard ++ ":" ++ sid

/-- `queue_registry_keys`: the registries of all shards. -/
def queueRegistryKeys (config : Config) : List String :=
  allowedModes.flatMap fun mode =>
    (List.range config.matchShardCount).map fun shard => queueRegistryKey config ⟨mode, shard⟩

/-- The key of a queue of a shard. -/
def QueueOf (config : Config) (route : Route) (queueKey : String) : Prop :=
  ∃ rest, queueKey = "matchmaking_queue:" ++ tag config route.mode route.shard ++ rest

variable (text : Text) (config : Config)

/-- `relaxed_bucket_family`. -/
def relaxedBucketFamily (bucket : String) : String :=
  if text.slice 2 bucket = "" then "misc" else text.slice 2 bucket

/-- `relaxed_fallback_queue_keys`. -/
def relaxedFallbackQueueKeys (preferences : NormalPreferences) (route : Route) : List String :=
  (((interestBuckets text preferences).map (relaxedBucketFamily text)).eraseDups.map
      (relaxedBucketQueueKey config route.mode route.shard) ++
    [sharedRandomQueueKey config route.mode route.shard]).eraseDups

/-- `overflow_fallback_queue_keys`. -/
def overflowFallbackQueueKeys (route : Route) : List String :=
  [randomQueueKey config route.mode route.shard,
    randomQueueKey config route.mode route.shard].eraseDups

/-! ### Commands -/

structure QueueStore where
  queues : String → List SessionId
  registry : String → List String
  membership : String → List String

/-- Nothing is queued. -/
def emptyQueues : QueueStore := ⟨fun _ => [], fun _ => [], fun _ => []⟩

/-- A set without one of its members. -/
def without (x : String) (l : List String) : List String := l.filter (· ≠ x)

@[simp] theorem mem_without {x y : String} {l : List String} :
    y ∈ without x l ↔ y ∈ l ∧ y ≠ x := by
  simp [without]

/-- The set under one key is changed. -/
def atKey (sets : String → List String) (key : String) (f : List String → List String) :
    String → List String :=
  Function.update sets key (f (sets key))

theorem atKey_self (sets : String → List String) (key : String) (f : List String → List String) :
    atKey sets key f key = f (sets key) := Function.update_self _ _ _

theorem atKey_of_ne {key key' : String} (h : key' ≠ key) (sets : String → List String)
    (f : List String → List String) : atKey sets key f key' = sets key' :=
  Function.update_of_ne h _ _

inductive QueueCmd
  | getSessionRoute (sid : SessionId)
  | getSession (sid : SessionId)
  | acquireLock (sid : SessionId)
  | releaseLock (sid : SessionId)
  | zadd (queueKey : String) (sid : SessionId)
  | zrem (queueKey : String) (sid : SessionId)
  | saddRegistry (registryKey queueKey : String)
  | saddMembership (membershipKey queueKey : String)
  | expireMembership (membershipKey : String)
  | smembersRegistry (registryKey : String)
  | smembersMembership (membershipKey : String)
  | sremMembership (membershipKey queueKey : String)
  | delMembership (membershipKey : String)
  | pruneScript (queueKey registryKey : String)

/-- The types of the replies. -/
abbrev QueueCmd.Reply : QueueCmd → Type
  | .getSessionRoute _ => Option Route
  | .getSession _ => Option Session
  | .acquireLock _ => Bool
  | .smembersRegistry _ => List String
  | .smembersMembership _ => List String
  | _ => Unit

/-- What the world adds to a command: what is found of a session, and whether its lock is free. -/
structure Answer where
  routed : Bool := true
  session : Option Session := none
  unlocked : Bool := true

/-- What a command answers and does. -/
def QueueCmd.exec (routeOf : SessionId → Route) (answer : Answer) :
    (c : QueueCmd) → QueueStore → c.Reply × QueueStore
  | .getSessionRoute sid, s => (if answer.routed then some (routeOf sid) else none, s)
  | .getSession _, s => (answer.session, s)
  | .acquireLock _, s => (answer.unlocked, s)
  | .releaseLock _, s => ((), s)
  | .zadd queueKey sid, s => ((), { s with queues := atKey s.queues queueKey (List.insert sid) })
  | .zrem queueKey sid, s => ((), { s with queues := atKey s.queues queueKey (without sid) })
  | .saddRegistry registryKey queueKey, s =>
      ((), { s with registry := atKey s.registry registryKey (List.insert queueKey) })
  | .saddMembership membershipKey queueKey, s =>
      ((), { s with membership := atKey s.membership membershipKey (List.insert queueKey) })
  | .expireMembership _, s => ((), s)
  | .smembersRegistry registryKey, s => (s.registry registryKey, s)
  | .smembersMembership membershipKey, s => (s.membership membershipKey, s)
  | .sremMembership membershipKey queueKey, s =>
      ((), { s with membership := atKey s.membership membershipKey (without queueKey) })
  | .delMembership membershipKey, s =>
      ((), { s with membership := atKey s.membership membershipKey fun _ => [] })
  | .pruneScript queueKey registryKey, s =>
      ((), if s.queues queueKey = [] then
          { s with registry := atKey s.registry registryKey (without queueKey) } else s)

section Effects

variable {routeOf : SessionId → Route} {answer : Answer} {c : QueueCmd} {s : QueueStore}

/-- **Only `ZADD` puts a session into a queue.** -/
theorem mem_queues_exec {sid : SessionId} {queueKey : String}
    (h : sid ∈ (c.exec routeOf answer s).2.queues queueKey) :
    sid ∈ s.queues queueKey ∨ c = .zadd queueKey sid := by
  cases c with
  | zadd key sid' =>
      rcases eq_or_ne queueKey key with rfl | hne
      · simp only [QueueCmd.exec, atKey_self, List.mem_insert_iff] at h
        rcases h with rfl | h
        · exact .inr rfl
        · exact .inl h
      · simp only [QueueCmd.exec, atKey_of_ne hne] at h
        exact .inl h
  | zrem key sid' =>
      rcases eq_or_ne queueKey key with rfl | hne
      · simp only [QueueCmd.exec, atKey_self, mem_without] at h
        exact .inl h.1
      · simp only [QueueCmd.exec, atKey_of_ne hne] at h
        exact .inl h
  | pruneScript key registryKey =>
      simp only [QueueCmd.exec] at h
      split_ifs at h <;> exact .inl h
  | _ => exact .inl h

theorem notMem_queues_zrem (sid : SessionId) (queueKey : String) :
    sid ∉ ((QueueCmd.zrem queueKey sid).exec routeOf answer s).2.queues queueKey := by
  simp [QueueCmd.exec, atKey_self]

/-- **Only the pruning of an empty queue takes a queue off a registry.** -/
theorem mem_registry_exec {registryKey queueKey : String} (h : queueKey ∈ s.registry registryKey) :
    queueKey ∈ (c.exec routeOf answer s).2.registry registryKey ∨
      c = .pruneScript queueKey registryKey ∧ s.queues queueKey = [] := by
  cases c with
  | saddRegistry key queueKey' =>
      rcases eq_or_ne registryKey key with rfl | hne
      · exact .inl (by simp [QueueCmd.exec, atKey_self, h])
      · exact .inl (by simpa [QueueCmd.exec, atKey_of_ne hne] using h)
  | pruneScript queueKey' key =>
      simp only [QueueCmd.exec]
      split_ifs with hempty
      · rcases eq_or_ne registryKey key with rfl | hne
        · rcases eq_or_ne queueKey queueKey' with rfl | hqueue
          · exact .inr ⟨rfl, hempty⟩
          · exact .inl (by simp [atKey_self, h, hqueue])
        · exact .inl (by simpa [atKey_of_ne hne] using h)
      · exact .inl h
  | _ => exact .inl h

theorem mem_registry_saddRegistry (registryKey queueKey : String) :
    queueKey ∈ ((QueueCmd.saddRegistry registryKey queueKey).exec routeOf answer s).2.registry
      registryKey := by
  simp [QueueCmd.exec, atKey_self]

/-- **Only a leave takes a queue off a membership set.** -/
theorem mem_membership_exec {membershipKey queueKey : String}
    (h : queueKey ∈ s.membership membershipKey) :
    queueKey ∈ (c.exec routeOf answer s).2.membership membershipKey ∨
      c = .sremMembership membershipKey queueKey ∨ c = .delMembership membershipKey := by
  cases c with
  | saddMembership key queueKey' =>
      rcases eq_or_ne membershipKey key with rfl | hne
      · exact .inl (by simp [QueueCmd.exec, atKey_self, h])
      · exact .inl (by simpa [QueueCmd.exec, atKey_of_ne hne] using h)
  | sremMembership key queueKey' =>
      rcases eq_or_ne membershipKey key with rfl | hne
      · rcases eq_or_ne queueKey queueKey' with rfl | hqueue
        · exact .inr (.inl rfl)
        · exact .inl (by simp [QueueCmd.exec, atKey_self, h, hqueue])
      · exact .inl (by simpa [QueueCmd.exec, atKey_of_ne hne] using h)
  | delMembership key =>
      rcases eq_or_ne membershipKey key with rfl | hne
      · exact .inr (.inr rfl)
      · exact .inl (by simpa [QueueCmd.exec, atKey_of_ne hne] using h)
  | pruneScript queueKey' key =>
      simp only [QueueCmd.exec]
      split_ifs <;> exact .inl h
  | _ => exact .inl h

theorem mem_membership_saddMembership (membershipKey queueKey : String) :
    queueKey ∈ ((QueueCmd.saddMembership membershipKey queueKey).exec routeOf answer s).2.membership
      membershipKey := by
  simp [QueueCmd.exec, atKey_self]

end Effects

/-! ### Operations -/

inductive QueueError
  | notFound
  | locked
  | redis (text : String)

abbrev QueueProg := Program QueueCmd.Reply QueueError

def queueCommand (c : QueueCmd) : QueueProg (Except QueueError c.Reply) :=
  Program.command (V := QueueCmd.Reply) c

/-- The commands of `enqueue_queue_keys`. -/
def enqueueCommands (sid : SessionId) (route : Route) (queueKeys : List String) : List QueueCmd :=
  (queueKeys.flatMap fun queueKey =>
    [.zadd queueKey sid, .saddRegistry (queueRegistryKey config route) queueKey,
      .saddMembership (sessionQueueKey config sid route) queueKey]) ++
    [.expireMembership (sessionQueueKey config sid route)]

def enqueueQueueKeys (sid : SessionId) (route : Route) (queueKeys : List String) :
    QueueProg (Except QueueError Unit) :=
  pipeline (enqueueCommands config sid route queueKeys)

def joinQueue (sid : SessionId) (preferences : Preferences) :
    QueueProg (Except QueueError Unit) := do
  match ← queueCommand (.getSessionRoute sid) with
  | .ok (some route) =>
      enqueueQueueKeys config sid route
        (initialQueueKeys text config (normalizePreferences text preferences) route.mode route.shard)
  | .ok none => return .error .notFound
  | .error reason => return .error reason

inductive FallbackPhase
  | relaxedWaitElapsed
  | overflowWaitElapsed
  deriving DecidableEq

/-- `pairable_session?`. -/
def pairableSession (session : Session) : Bool :=
  session.status = .waiting && session.partnerId.isNone

/-- The queues of a fallback phase. -/
def fallbackQueueKeys (phase : FallbackPhase) (session : Session) (route : Route) : List String :=
  match phase with
  | .relaxedWaitElapsed => relaxedFallbackQueueKeys text config session.preferences route
  | .overflowWaitElapsed => overflowFallbackQueueKeys config route

/-- What `schedule_fallback_phase` does under the lock of the session. -/
def fallbackUnderLock (sid : SessionId) (phase : FallbackPhase) :
    QueueProg (Except QueueError Unit) := do
  match ← queueCommand (.getSession sid) with
  | .ok (some session) =>
      if pairableSession session then
        match ← queueCommand (.getSessionRoute sid) with
        | .ok (some route) =>
            if fallbackQueueKeys text config phase session route = [] then return .ok ()
            else
              enqueueQueueKeys config sid route (fallbackQueueKeys text config phase session route)
        | _ => return .ok ()
      else return .ok ()
  | _ => return .ok ()

/-- `with_lock`; a lock that is not free is not waited for. -/
def withLock (sid : SessionId) (body : QueueProg (Except QueueError Unit)) :
    QueueProg (Except QueueError Unit) := do
  match ← queueCommand (.acquireLock sid) with
  | .ok true =>
      let result ← body
      let _ ← queueCommand (.releaseLock sid)
      return result
  | _ => return .error .locked

def scheduleFallbackPhase (sid : SessionId) (phase : FallbackPhase) :
    QueueProg (Except QueueError Unit) :=
  withLock sid (fallbackUnderLock text config sid phase)

/-- `prune_queue_if_empty` for one queue after another. -/
def pruneQueues : List (String × String) → QueueProg Unit
  | [] => return ()
  | (registryKey, queueKey) :: entries => do
      let _ ← queueCommand (.pruneScript queueKey registryKey)
      pruneQueues entries

/-- The commands of `remove_leave_queue_membership`. -/
def removalCommands (queueKeys : List String) (membershipKey : String) (sid : SessionId) :
    List QueueCmd :=
  queueKeys.map (.zrem · sid) ++ (queueKeys.map (.sremMembership membershipKey ·) ++
    [.delMembership membershipKey])

/-- `load_registry_entries`, from some registries on. -/
def loadRegistryEntries : List String → List (String × String) →
    QueueProg (Except QueueError (List (String × String)))
  | [], entries => return .ok entries.eraseDups
  | registryKey :: registryKeys, entries => do
      match ← queueCommand (.smembersRegistry registryKey) with
      | .ok queueKeys => loadRegistryEntries registryKeys (queueKeys.map (registryKey, ·) ++ entries)
      | .error reason => return .error reason

/-- What is done with the registries of a session without a route: it is removed from every queue. -/
def removeFromRegistered (sid : SessionId) (entries : List (String × String)) :
    QueueProg (Except QueueError Unit) := do
  if (entries.map Prod.snd).eraseDups = [] then return .ok ()
  else
    match ← pipeline ((entries.map Prod.snd).eraseDups.map (QueueCmd.zrem · sid)) with
    | .ok _ =>
        pruneQueues entries
        return .ok ()
    | .error reason => return .error reason

def cleanupUnknownQueueMembership (sid : SessionId) : QueueProg (Except QueueError Unit) := do
  match ← loadRegistryEntries (queueRegistryKeys config) [] with
  | .ok entries => removeFromRegistered sid entries
  | .error reason => return .error reason

/-- What `leave_queue` does when it has removed what it read. -/
def afterRemoval (route : Route) (queueKeys : List String) (result : Except QueueError Unit) :
    QueueProg (Except QueueError Unit) := do
  match result with
  | .ok _ =>
      pruneQueues (queueKeys.map (queueRegistryKey config route, ·))
      return .ok ()
  | .error reason => return .error reason

/-- What `leave_queue` does with the membership set that it read. -/
def afterMembership (sid : SessionId) (route : Route) (reply : Except QueueError (List String)) :
    QueueProg (Except QueueError Unit) := do
  match reply with
  | .ok [] => return .ok ()
  | .ok queueKeys =>
      let result ← pipeline (removalCommands queueKeys (sessionQueueKey config sid route) sid)
      afterRemoval config route queueKeys result
  | .error reason => return .error reason

def leaveQueue (sid : SessionId) : QueueProg (Except QueueError Unit) := do
  match ← queueCommand (.getSessionRoute sid) with
  | .ok (some route) =>
      let reply ← queueCommand (.smembersMembership (sessionQueueKey config sid route))
      afterMembership config sid route reply
  | .ok none => cleanupUnknownQueueMembership config sid
  | .error reason => return .error reason

/-- `prune_queue_if_empty` at the end of a matching. -/
def pruneQueueIfEmpty (queueKey registryKey : String) : QueueProg (Except QueueError Unit) := do
  let _ ← queueCommand (.pruneScript queueKey registryKey)
  return .ok ()

/-- `queue_keys`, from some registries on: a registry that cannot be read counts as empty. -/
def registeredQueues : List String → QueueProg (List String)
  | [] => return []
  | registryKey :: registryKeys => do
      match ← queueCommand (.smembersRegistry registryKey) with
      | .ok queueKeys =>
          let rest ← registeredQueues registryKeys
          return queueKeys ++ rest
      | .error _ => registeredQueues registryKeys

/-- `queue_keys`: the queues that a sweep visits. -/
def queueKeys : QueueProg (List String) := do
  let keys ← registeredQueues (queueRegistryKeys config)
  return keys.eraseDups.mergeSort fun a b => decide (a ≤ b)

/-! ### The operations side by side -/

inductive QueueOp
  | join (sid : SessionId) (preferences : Preferences)
  | fallback (sid : SessionId) (phase : FallbackPhase)
  | leave (sid : SessionId)
  | prune (queueKey registryKey : String)

/-- The operation enqueues the session. -/
def QueueOp.enqueues (op : QueueOp) (sid : SessionId) : Bool :=
  match op with
  | .join sid' _ => sid' = sid
  | .fallback sid' _ => sid' = sid
  | _ => false

def QueueOp.program : QueueOp → QueueProg (Except QueueError Unit)
  | .join sid preferences => joinQueue text config sid preferences
  | .fallback sid phase => scheduleFallbackPhase text config sid phase
  | .leave sid => leaveQueue config sid
  | .prune queueKey registryKey => pruneQueueIfEmpty queueKey registryKey

/-- **The operations on the queues, side by side**; a membership set may expire. -/
def queueSystem (routeOf : SessionId → Route) :
    Pool.System QueueOp Answer String QueueCmd.Reply QueueError QueueStore
      (Except QueueError Unit) where
  program op := op.program text config
  exec := QueueCmd.exec routeOf
  spawns _ _ := []
  env key s := some { s with membership := atKey s.membership key fun _ => [] }

/-- The queues with the operations under way. -/
abbrev QueueConfig :=
  Pool.Config QueueOp QueueCmd.Reply QueueError QueueStore (Except QueueError Unit)

abbrev QueueEvent := Pool.Event QueueOp Answer String QueueError

/-- No command fails. -/
def Unfailing (_ : QueueConfig) : QueueEvent → Prop
  | .fail _ _ => False
  | _ => True

instance (cfg : QueueConfig) (ev : QueueEvent) : Decidable (Unfailing cfg ev) := by
  cases ev <;> unfold Unfailing <;> infer_instance

/-! ### Keys tell sessions and shards apart -/

variable {text config}

/-- Keys with the same front have the same hash tag and the same rest. -/
theorem key_inj {front : String} {mode mode' : String} {shard shard' : ℕ} {rest rest' : String}
    (h : front ++ tag config mode shard ++ rest = front ++ tag config mode' shard' ++ rest') :
    tag config mode shard = tag config mode' shard' ∧ rest = rest' := by
  rw [String.append_assoc, String.append_assoc, String.append_right_inj] at h
  obtain ⟨body, htag, hbody⟩ := toList_tag config mode shard
  obtain ⟨body', htag', hbody'⟩ := toList_tag config mode' shard'
  have hlists := congrArg String.toList h
  rw [String.toList_append, String.toList_append, htag, htag', List.append_assoc,
    List.append_assoc] at hlists
  -- both bodies end before the first closing brace
  have hbefore : ∀ {b : List Char} (l : List Char), (∀ c ∈ b, (c ≠ '\x7d')) →
      (b ++ '\x7d' :: l).takeWhile (· ≠ '\x7d') = b := by
    intro b l hb
    rw [List.takeWhile_append_of_pos fun c hc => decide_eq_true (hb c hc)]
    simp
  have hsame : body = body' := by
    rw [← hbefore rest.toList hbody, ← hbefore rest'.toList hbody']
    exact congrArg _ hlists
  subst hsame
  have hrest := List.append_cancel_left hlists
  refine ⟨String.toList_inj.1 (htag.trans htag'.symm), String.toList_inj.1 ?_⟩
  exact (List.cons.inj hrest).2

/-- **A membership set belongs to one session.** -/
theorem sessionQueueKey_inj {sid sid' : SessionId} {route route' : Route}
    (h : sessionQueueKey config sid route = sessionQueueKey config sid' route') : sid = sid' := by
  unfold sessionQueueKey at h
  have hassoc : ∀ front tag separator rest : String,
      front ++ tag ++ separator ++ rest = front ++ tag ++ (separator ++ rest) := by
    intro front tag separator rest
    exact String.append_assoc
  rw [hassoc, hassoc] at h
  have hrest := (key_inj h).2
  rwa [String.append_right_inj] at hrest

/-- **A queue belongs to one shard.** -/
theorem tag_of_queueOf {route route' : Route} {queueKey : String}
    (h : QueueOf config route queueKey) (h' : QueueOf config route' queueKey) :
    tag config route.mode route.shard = tag config route'.mode route'.shard := by
  obtain ⟨rest, rfl⟩ := h
  obtain ⟨rest', hrest'⟩ := h'
  exact (key_inj hrest').1

theorem queueOf_strictBucketQueueKey (route : Route) (bucket : String) :
    QueueOf config route (strictBucketQueueKey config route.mode route.shard bucket) :=
  ⟨":bucket:strict:" ++ bucket, by
    unfold strictBucketQueueKey
    exact String.append_assoc⟩

theorem queueOf_relaxedBucketQueueKey (route : Route) (family : String) :
    QueueOf config route (relaxedBucketQueueKey config route.mode route.shard family) :=
  ⟨":bucket:relaxed:" ++ family, by
    unfold relaxedBucketQueueKey
    exact String.append_assoc⟩

theorem queueOf_randomQueueKey (route : Route) :
    QueueOf config route (randomQueueKey config route.mode route.shard) := ⟨":random:local", rfl⟩

theorem queueOf_sharedRandomQueueKey (route : Route) :
    QueueOf config route (sharedRandomQueueKey config route.mode route.shard) :=
  ⟨":random:shared", rfl⟩

theorem queueOf_of_mem_initialQueueKeys {preferences : NormalPreferences} {route : Route}
    {queueKey : String}
    (h : queueKey ∈ initialQueueKeys text config preferences route.mode route.shard) :
    QueueOf config route queueKey := by
  unfold initialQueueKeys at h
  split_ifs at h
  · obtain rfl := List.mem_singleton.1 h
    exact queueOf_sharedRandomQueueKey route
  · obtain ⟨bucket, -, rfl⟩ := List.mem_map.1 (List.mem_eraseDups.1 h)
    exact queueOf_strictBucketQueueKey route bucket

theorem queueOf_of_mem_fallbackQueueKeys {phase : FallbackPhase} {session : Session}
    {route : Route} {queueKey : String}
    (h : queueKey ∈ fallbackQueueKeys text config phase session route) :
    QueueOf config route queueKey := by
  cases phase with
  | relaxedWaitElapsed =>
      rcases List.mem_append.1 (List.mem_eraseDups.1 h) with h | h
      · obtain ⟨family, -, rfl⟩ := List.mem_map.1 h
        exact queueOf_relaxedBucketQueueKey route family
      · obtain rfl := List.mem_singleton.1 h
        exact queueOf_sharedRandomQueueKey route
  | overflowWaitElapsed =>
      have hmem := List.mem_eraseDups.1 h
      simp only [List.mem_cons, List.not_mem_nil, or_false, or_self] at hmem
      subst hmem
      exact queueOf_randomQueueKey route

/-! ### The commands of the two pipelines -/

theorem mem_enqueueCommands {sid : SessionId} {route : Route} {queueKeys : List String}
    {c : QueueCmd} : c ∈ enqueueCommands config sid route queueKeys ↔
      (∃ queueKey ∈ queueKeys, c = .zadd queueKey sid ∨
        c = .saddRegistry (queueRegistryKey config route) queueKey ∨
        c = .saddMembership (sessionQueueKey config sid route) queueKey) ∨
      c = .expireMembership (sessionQueueKey config sid route) := by
  simp [enqueueCommands]

/-- **A queue that is written is listed afterwards**, in the registry and in the membership set. -/
theorem listed_of_suffix {sid sid' : SessionId} {route : Route} {queueKeys : List String}
    {queueKey : String} {cs : List QueueCmd}
    (h : .zadd queueKey sid' :: cs <:+ enqueueCommands config sid route queueKeys) :
    sid' = sid ∧ queueKey ∈ queueKeys ∧
      .saddRegistry (queueRegistryKey config route) queueKey ∈ cs ∧
      .saddMembership (sessionQueueKey config sid route) queueKey ∈ cs := by
  induction queueKeys with
  | nil =>
      have hmem := h.subset List.mem_cons_self
      simp [enqueueCommands] at hmem
  | cons key keys ih =>
      simp only [enqueueCommands, List.flatMap_cons, List.cons_append, List.nil_append,
        List.suffix_cons_iff, List.cons.injEq, reduceCtorEq, false_and, false_or] at h
      rcases h with ⟨hzadd, rfl⟩ | h
      · cases hzadd
        simp
      · obtain ⟨hsid, hkey, hreg, hmem⟩ := ih h
        exact ⟨hsid, List.mem_cons_of_mem _ hkey, hreg, hmem⟩

theorem mem_removalCommands {queueKeys : List String} {membershipKey : String} {sid : SessionId}
    {c : QueueCmd} : c ∈ removalCommands queueKeys membershipKey sid ↔
      (∃ queueKey ∈ queueKeys, c = .zrem queueKey sid) ∨
      (∃ queueKey ∈ queueKeys, c = .sremMembership membershipKey queueKey) ∨
      c = .delMembership membershipKey := by
  simp [removalCommands, eq_comm]

/-- **When a leave takes apart a membership set, it has removed the session from every queue**, and
the set will be deleted. -/
theorem removed_of_suffix {queueKeys : List String} {membershipKey : String} {sid : SessionId}
    {c : QueueCmd} {cs : List QueueCmd} (h : c :: cs <:+ removalCommands queueKeys membershipKey sid)
    (hc : ∀ queueKey, c ≠ .zrem queueKey sid) :
    .delMembership membershipKey ∈ c :: cs ∧
      ∀ queueKey sid', .zrem queueKey sid' ∉ c :: cs := by
  -- the suffix begins after the removals from the queues
  have hafter : c :: cs <:+ queueKeys.map (QueueCmd.sremMembership membershipKey ·) ++
      [QueueCmd.delMembership membershipKey] := by
    unfold removalCommands at h
    generalize queueKeys.map (QueueCmd.sremMembership membershipKey ·) ++
      [QueueCmd.delMembership membershipKey] = after at h
    induction queueKeys with
    | nil => exact h
    | cons key keys ih =>
        rw [List.map_cons, List.cons_append, List.suffix_cons_iff] at h
        rcases h with hzrem | h
        · exact absurd (List.cons.inj hzrem).1 (hc key)
        · exact ih h
  refine ⟨?_, fun queueKey sid' hmem => ?_⟩
  · -- the last command is in every suffix that is not empty
    have hlast := hafter.getLast (List.cons_ne_nil c cs)
    rw [List.getLast_append_of_ne_nil _ (by simp), List.getLast_singleton] at hlast
    exact hlast ▸ List.getLast_mem _
  · have hmem' := hafter.subset hmem
    simp at hmem'

/-! ### What is left of an operation -/

variable (config)

/-- **What an operation still has to do**, wherever it stands. -/
structure Shape (routeOf : SessionId → Route) (op : QueueOp)
    (p : QueueProg (Except QueueError Unit)) : Prop where
  zadd : ∀ queueKey sid, p.next? = some (.zadd queueKey sid) →
    QueueOf config (routeOf sid) queueKey ∧
      p.Must (· = .saddRegistry (queueRegistryKey config (routeOf sid)) queueKey) ∧
      p.Must (· = .saddMembership (sessionQueueKey config sid (routeOf sid)) queueKey)
  registering : ∀ registryKey queueKey, p.Must (· = .saddRegistry registryKey queueKey) →
    ∃ sid, op.enqueues sid = true
  listing : ∀ sid route queueKey,
    p.Must (· = .saddMembership (sessionQueueKey config sid route) queueKey) →
      op.enqueues sid = true
  read : ∀ sid next, p = .call (.smembersMembership (sessionQueueKey config sid (routeOf sid))) next →
    ∀ keys queueKey, queueKey ∈ keys → (next (.ok keys)).Must (· = .zrem queueKey sid)
  srem : ∀ membershipKey key, p.next? = some (.sremMembership membershipKey key) →
    p.Must (· = .delMembership membershipKey) ∧ ∀ queueKey sid, ¬ p.Must (· = .zrem queueKey sid)
  del : ∀ membershipKey, p.next? = some (.delMembership membershipKey) →
    ∀ queueKey sid, ¬ p.Must (· = .zrem queueKey sid)
  deleting : ∀ membershipKey, p.Must (· = .delMembership membershipKey) →
    ∃ sid, op = .leave sid ∧ membershipKey = sessionQueueKey config sid (routeOf sid)
  decided : ∀ sid c next reply membershipKey, op = .leave sid → p = .call c next →
    (next reply).Must (· = .delMembership membershipKey) →
      p.Must (· = .delMembership membershipKey) ∨
        c = .smembersMembership membershipKey ∧ reply.isOk = true

/-- The commands that neither list nor remove anything, removals from a queue aside. -/
def Plain : QueueCmd → Prop
  | .zadd _ _ | .saddRegistry _ _ | .saddMembership _ _ => False
  | .smembersMembership _ | .sremMembership _ _ | .delMembership _ => False
  | _ => True

/-- The replies of the session store are those of the route of the session. -/
def Routed (routeOf : SessionId → Route) : (c : QueueCmd) → Except QueueError c.Reply → Prop
  | .getSessionRoute sid, .ok (some route) => route = routeOf sid
  | _, _ => True

variable {config} {routeOf : SessionId → Route} {op : QueueOp}
  {p : QueueProg (Except QueueError Unit)}

theorem not_must_of_plain (h : p.All Plain) {c : QueueCmd} (hc : ¬ Plain c) : ¬ p.Must (· = c) := by
  have hall : p.All fun d => ¬ d = c := by
    induction p with
    | ret a => trivial
    | call d next ih => exact ⟨fun hd => hc (hd ▸ h.1), fun reply => ih reply (h.2 reply)⟩
  exact not_must_of_all .notFound hall

/-- A program that ends when its next command fails has nothing left that it must do. -/
theorem shape_of_error {c : QueueCmd} {next : Except QueueError c.Reply → QueueProg _}
    (hc : Plain c) (herror : (next (.error .notFound)).All Plain)
    (hdecided : ∀ sid reply membershipKey, op = .leave sid →
      ¬ (next reply).Must (· = .delMembership membershipKey)) :
    Shape config routeOf op (.call c next) := by
  have hmust : ∀ d, ¬ Plain d → ¬ (Program.call c next).Must (· = d) := by
    rintro d hd (rfl | hnext)
    · exact hd hc
    · exact not_must_of_plain herror hd (hnext _)
  have hnext : ∀ d, ¬ Plain d → (Program.call c next).next? ≠ some d := by
    intro d hd h
    rw [next?_call, Option.some_inj] at h
    exact hd (h ▸ hc)
  exact
    { zadd := fun queueKey sid h => absurd h (hnext _ id)
      registering := fun registryKey queueKey h => absurd h (hmust _ id)
      listing := fun sid route queueKey h => absurd h (hmust _ id)
      read := fun sid next' h => absurd (congrArg next? h) (hnext _ id)
      srem := fun membershipKey key h => absurd h (hnext _ id)
      del := fun membershipKey h => absurd h (hnext _ id)
      deleting := fun membershipKey h => absurd h (hmust _ id)
      decided := by
        rintro sid c next reply membershipKey hop h hdel
        cases h
        exact absurd hdel (hdecided sid reply membershipKey hop) }

theorem shape_of_plain (h : p.All Plain) : Shape config routeOf op p := by
  cases p with
  | ret a =>
      exact
        { zadd := fun _ _ h => by simp at h
          registering := fun _ _ h => absurd h id
          listing := fun _ _ _ h => absurd h id
          read := fun _ _ h => by simp at h
          srem := fun _ _ h => by simp at h
          del := fun _ h => by simp at h
          deleting := fun _ h => absurd h id
          decided := fun _ _ _ _ _ _ h => by simp at h }
  | call c next =>
      exact shape_of_error h.1 (h.2 _) fun _ reply _ _ => not_must_of_plain (h.2 reply) id

theorem everywhere_of_plain {T : (c : QueueCmd) → Except QueueError c.Reply → Prop}
    (h : p.All Plain) : p.Everywhere T (Shape config routeOf op) :=
  h.everywhere fun _ => shape_of_plain

/-! ### Enqueueing -/

variable {sid : SessionId} {queueKeys : List String}
  {f : Except QueueError Unit → QueueProg (Except QueueError Unit)}

/-- What a pipeline must do, when nothing that lists or removes comes after it. -/
theorem must_pipeline_iff {cs : List QueueCmd} (hf : ∀ result, (f result).All Plain) {c : QueueCmd}
    (hc : ¬ Plain c) : ((pipeline cs).bind f).Must (· = c) ↔ c ∈ cs := by
  rw [must_pipeline_bind .notFound fun result => not_must_of_plain (hf result) hc]
  constructor
  · rintro ⟨d, hd, rfl⟩
    exact hd
  · exact fun h => ⟨c, h, rfl⟩

/-- **An enqueue lists every queue that it has written.** -/
theorem everywhere_enqueueQueueKeys (hop : op.enqueues sid = true)
    (hkeys : ∀ queueKey ∈ queueKeys, QueueOf config (routeOf sid) queueKey)
    (hf : ∀ result, (f result).All Plain) :
    ((enqueueQueueKeys config sid (routeOf sid) queueKeys).bind f).Everywhere (Routed routeOf)
      (Shape config routeOf op) := by
  refine everywhere_pipeline (fun g c cs hsuffix => ?_) fun result => everywhere_of_plain (hf result)
  have hmust : ∀ d, ¬ Plain d →
      (((pipeline (c :: cs)).bind fun result => f (g result)).Must (· = d) ↔ d ∈ c :: cs) :=
    fun d => must_pipeline_iff fun result => hf (g result)
  have hcommand : ∀ d ∈ c :: cs, d ∈ enqueueCommands config sid (routeOf sid) queueKeys :=
    fun d hd => hsuffix.subset hd
  have hnext : ∀ d, ((pipeline (c :: cs)).bind fun result => f (g result)).next? = some d →
      c = d := by
    intro d h
    rwa [next?_pipeline_bind, Option.some_inj] at h
  constructor
  case zadd =>
    intro queueKey sid' h
    obtain rfl := hnext _ h
    obtain ⟨rfl, hmem, hregistry, hmembership⟩ := listed_of_suffix hsuffix
    exact ⟨hkeys queueKey hmem, (hmust _ id).2 (List.mem_cons_of_mem _ hregistry),
      (hmust _ id).2 (List.mem_cons_of_mem _ hmembership)⟩
  case registering => exact fun _ _ _ => ⟨sid, hop⟩
  case listing =>
    intro sid' route queueKey h
    have hmem := mem_enqueueCommands.1 (hcommand _ ((hmust _ id).1 h))
    simp only [reduceCtorEq, QueueCmd.saddMembership.injEq, false_or, or_false] at hmem
    obtain ⟨_, -, hkey, -⟩ := hmem
    rwa [sessionQueueKey_inj hkey]
  case read =>
    intro sid' next h
    obtain rfl := hnext _ (congrArg next? h)
    have hmem := mem_enqueueCommands.1 (hcommand _ List.mem_cons_self)
    simp at hmem
  case srem =>
    intro membershipKey key h
    obtain rfl := hnext _ h
    have hmem := mem_enqueueCommands.1 (hcommand _ List.mem_cons_self)
    simp at hmem
  case del =>
    intro membershipKey h
    obtain rfl := hnext _ h
    have hmem := mem_enqueueCommands.1 (hcommand _ List.mem_cons_self)
    simp at hmem
  case deleting =>
    intro membershipKey h
    have hmem := mem_enqueueCommands.1 (hcommand _ ((hmust _ id).1 h))
    simp at hmem
  case decided =>
    rintro sid' _ _ _ _ rfl
    cases hop

theorem everywhere_joinQueue (preferences : Preferences) :
    (joinQueue text config sid preferences).Everywhere (Routed routeOf)
      (Shape config routeOf (.join sid preferences)) := by
  refine ⟨shape_of_error trivial trivial fun _ _ _ => by simp, fun reply hreply => ?_⟩
  match reply, hreply with
  | .ok (some route), hroute =>
      obtain rfl : route = routeOf sid := hroute
      dsimp only [ret_bind]
      have hkeys : ∀ queueKey ∈ initialQueueKeys text config (normalizePreferences text preferences)
          (routeOf sid).mode (routeOf sid).shard, QueueOf config (routeOf sid) queueKey :=
        fun queueKey h => queueOf_of_mem_initialQueueKeys h
      -- the keys must not be computed while the programs are compared
      generalize initialQueueKeys text config (normalizePreferences text preferences)
        (routeOf sid).mode (routeOf sid).shard = queueKeys at hkeys ⊢
      rw [← bind_ret (enqueueQueueKeys _ _ _ _)]
      exact everywhere_enqueueQueueKeys (by simp [QueueOp.enqueues]) hkeys fun _ => trivial
  | .ok none, _ => exact everywhere_of_plain trivial
  | .error reason, _ => exact everywhere_of_plain trivial

theorem everywhere_fallbackUnderLock (phase : FallbackPhase) (hf : ∀ result, (f result).All Plain) :
    ((fallbackUnderLock text config sid phase).bind f).Everywhere (Routed routeOf)
      (Shape config routeOf (.fallback sid phase)) := by
  refine ⟨shape_of_error trivial (hf _) fun _ _ _ => by simp, fun reply _ => ?_⟩
  match reply with
  | .ok (some session) =>
      dsimp only [ret_bind]
      split_ifs
      · refine ⟨shape_of_error trivial (hf _) fun _ _ _ => by simp, fun reply hreply => ?_⟩
        match reply, hreply with
        | .ok (some route), hroute =>
            obtain rfl : route = routeOf sid := hroute
            dsimp only [ret_bind]
            split_ifs
            · exact everywhere_of_plain (hf _)
            · exact everywhere_enqueueQueueKeys (by simp [QueueOp.enqueues])
                (fun queueKey h => queueOf_of_mem_fallbackQueueKeys h) hf
        | .ok none, _ => exact everywhere_of_plain (hf _)
        | .error reason, _ => exact everywhere_of_plain (hf _)
      · exact everywhere_of_plain (hf _)
  | .ok none => exact everywhere_of_plain (hf _)
  | .error reason => exact everywhere_of_plain (hf _)

theorem everywhere_scheduleFallbackPhase (phase : FallbackPhase) :
    (scheduleFallbackPhase text config sid phase).Everywhere (Routed routeOf)
      (Shape config routeOf (.fallback sid phase)) := by
  refine ⟨shape_of_error trivial trivial fun _ _ _ => by simp, fun reply _ => ?_⟩
  match reply with
  | .ok true =>
      exact everywhere_fallbackUnderLock phase fun result => ⟨trivial, fun _ => trivial⟩
  | .ok false => exact everywhere_of_plain trivial
  | .error reason => exact everywhere_of_plain trivial

/-! ### Leaving -/

/-- A script that prunes a queue. -/
def Pruning (c : QueueCmd) : Prop := ∃ queueKey registryKey, c = .pruneScript queueKey registryKey

theorem pruning_pruneQueues (entries : List (String × String)) :
    (pruneQueues entries).All Pruning := by
  induction entries with
  | nil => trivial
  | cons entry entries ih => exact ⟨⟨_, _, rfl⟩, fun _ => ih⟩

theorem Pruning.plain {c : QueueCmd} (h : Pruning c) : Plain c := by
  obtain ⟨queueKey, registryKey, rfl⟩ := h
  trivial

theorem plain_loadRegistryEntries (registryKeys : List String) (entries : List (String × String)) :
    (loadRegistryEntries registryKeys entries).All Plain := by
  induction registryKeys generalizing entries with
  | nil => trivial
  | cons registryKey registryKeys ih =>
      refine ⟨trivial, fun reply => ?_⟩
      cases reply with
      | ok queueKeys => exact ih _
      | error reason => trivial

theorem plain_removeFromRegistered (sid : SessionId) (entries : List (String × String)) :
    (removeFromRegistered sid entries).All Plain := by
  unfold removeFromRegistered
  split_ifs
  · trivial
  · refine (All.pipeline fun c hc => ?_).bind fun result => ?_
    · obtain ⟨queueKey, -, rfl⟩ := List.mem_map.1 hc
      trivial
    · cases result with
      | ok _ => exact ((pruning_pruneQueues entries).mono fun _ => Pruning.plain).bind fun _ => trivial
      | error reason => trivial

theorem plain_cleanupUnknownQueueMembership (sid : SessionId) :
    (cleanupUnknownQueueMembership config sid).All Plain := by
  refine (plain_loadRegistryEntries _ _).bind fun result => ?_
  cases result with
  | ok entries => exact plain_removeFromRegistered sid entries
  | error reason => trivial

theorem pruning_afterRemoval (route : Route) (queueKeys : List String)
    (result : Except QueueError Unit) :
    (afterRemoval config route queueKeys result).All Pruning := by
  cases result with
  | ok _ => exact (pruning_pruneQueues _).bind fun _ => trivial
  | error reason => trivial

/-- **A leave that has read the membership set takes it apart** after it has removed the session
from what it read. -/
theorem everywhere_removal :
    ((pipeline (removalCommands queueKeys (sessionQueueKey config sid (routeOf sid)) sid)).bind
      (afterRemoval config (routeOf sid) queueKeys)).Everywhere (Routed routeOf)
        (Shape config routeOf (.leave sid)) := by
  have hprune := @pruning_afterRemoval config (routeOf sid) queueKeys
  have hplain := fun result => (hprune result).mono fun _ => Pruning.plain
  refine everywhere_pipeline (fun g c cs hsuffix => ?_) fun result =>
    everywhere_of_plain (hplain result)
  generalize hp : (pipeline (c :: cs)).bind _ = p
  have hmust : ∀ d, ¬ Pruning d → (p.Must (· = d) ↔ d ∈ c :: cs) := by
    intro d hd
    rw [← hp, must_pipeline_bind .notFound fun result =>
      not_must_of_all .notFound ((hprune (g result)).mono fun c hc (hcd : c = d) => hd (hcd ▸ hc))]
    constructor
    · rintro ⟨c', hc', rfl⟩
      exact hc'
    · exact fun h => ⟨d, h, rfl⟩
  have hcommand : ∀ d ∈ c :: cs,
      d ∈ removalCommands queueKeys (sessionQueueKey config sid (routeOf sid)) sid :=
    fun d hd => hsuffix.subset hd
  have hnext : ∀ d, p.next? = some d → c = d := by
    intro d h
    rwa [← hp, next?_pipeline_bind, Option.some_inj] at h
  have hremoved : (∀ queueKey, c ≠ .zrem queueKey sid) →
      p.Must (· = .delMembership (sessionQueueKey config sid (routeOf sid))) ∧
        ∀ queueKey sid', ¬ p.Must (· = .zrem queueKey sid') := by
    intro hc
    obtain ⟨hdel, hzrem⟩ := removed_of_suffix hsuffix hc
    refine ⟨(hmust _ (by simp [Pruning])).2 hdel, fun queueKey sid' h => ?_⟩
    exact hzrem queueKey sid' ((hmust _ (by simp [Pruning])).1 h)
  constructor
  case zadd =>
    intro queueKey sid' h
    obtain rfl := hnext _ h
    have hmem := mem_removalCommands.1 (hcommand _ List.mem_cons_self)
    simp at hmem
  case registering =>
    intro registryKey queueKey h
    have hmem := mem_removalCommands.1 (hcommand _ ((hmust _ (by simp [Pruning])).1 h))
    simp at hmem
  case listing =>
    intro sid' route' queueKey h
    have hmem := mem_removalCommands.1 (hcommand _ ((hmust _ (by simp [Pruning])).1 h))
    simp at hmem
  case read =>
    intro sid' next h
    obtain rfl := hnext _ (congrArg next? h)
    have hmem := mem_removalCommands.1 (hcommand _ List.mem_cons_self)
    simp at hmem
  case srem =>
    intro membershipKey key h
    obtain rfl := hnext _ h
    have hmem := mem_removalCommands.1 (hcommand _ List.mem_cons_self)
    simp only [reduceCtorEq, QueueCmd.sremMembership.injEq, and_false, exists_false, false_or,
      or_false] at hmem
    obtain ⟨_, -, rfl, -⟩ := hmem
    exact hremoved fun _ => by simp
  case del =>
    intro membershipKey h
    obtain rfl := hnext _ h
    exact (hremoved fun _ => by simp).2
  case deleting =>
    intro membershipKey h
    have hmem := mem_removalCommands.1 (hcommand _ ((hmust _ (by simp [Pruning])).1 h))
    simp only [reduceCtorEq, and_false, exists_false, false_or,
      QueueCmd.delMembership.injEq] at hmem
    exact ⟨sid, rfl, hmem⟩
  case decided =>
    intro sid' c' next reply membershipKey _ h hdel
    left
    rw [← hp, pipeline_cons_bind, Program.call.injEq] at h
    obtain ⟨rfl, hnext⟩ := h
    obtain rfl := eq_of_heq hnext
    rw [must_pipeline_bind .notFound fun result => not_must_of_plain (hplain _) id] at hdel
    obtain ⟨d, hd, rfl⟩ := hdel
    exact (hmust _ (by simp [Pruning])).2 (List.mem_cons_of_mem _ hd)

theorem shape_smembersMembership :
    Shape config routeOf (.leave sid)
      (.call (.smembersMembership (sessionQueueKey config sid (routeOf sid)))
        (afterMembership config sid (routeOf sid))) := by
  have hmust : ∀ d, (∀ key, d ≠ QueueCmd.smembersMembership key) →
      ¬ (Program.call (QueueCmd.smembersMembership (sessionQueueKey config sid (routeOf sid)))
        (afterMembership config sid (routeOf sid)) : QueueProg _).Must (· = d) := by
    rintro d hd (rfl | hnext)
    · exact hd _ rfl
    · exact hnext (.error .notFound)
  constructor
  case zadd => exact fun _ _ h => by simp at h
  case registering => exact fun _ _ h => absurd h (hmust _ fun _ => by simp)
  case listing => exact fun _ _ _ h => absurd h (hmust _ fun _ => by simp)
  case read =>
    intro sid' next h keys queueKey hmem
    rw [Program.call.injEq, QueueCmd.smembersMembership.injEq] at h
    obtain ⟨hkey, hnext⟩ := h
    obtain rfl := sessionQueueKey_inj hkey
    obtain rfl := eq_of_heq hnext
    cases keys with
    | nil => exact absurd hmem List.not_mem_nil
    | cons key keys =>
        have hremoval : (pipeline (removalCommands (key :: keys)
            (sessionQueueKey config sid (routeOf sid)) sid) : QueueProg _).Must
              (· = .zrem queueKey sid) :=
          must_pipeline (mem_removalCommands.2 (.inl ⟨queueKey, hmem, rfl⟩)) rfl
        exact hremoval.bind _
  case srem => exact fun _ _ h => by simp at h
  case del => exact fun _ h => by simp at h
  case deleting => exact fun _ h => absurd h (hmust _ fun _ => by simp)
  case decided =>
    rintro sid' c next reply membershipKey - h hdel
    cases h
    match reply, hdel with
    | .ok (key :: keys), hdel =>
        have hmem : QueueCmd.delMembership membershipKey ∈ removalCommands (key :: keys)
            (sessionQueueKey config sid (routeOf sid)) sid := by
          refine (must_pipeline_iff (fun result => ?_) id).1 hdel
          exact (pruning_afterRemoval _ _ result).mono fun _ => Pruning.plain
        simp only [mem_removalCommands, reduceCtorEq, and_false, exists_false, false_or,
          QueueCmd.delMembership.injEq] at hmem
        exact .inr ⟨by rw [hmem], rfl⟩

theorem everywhere_leaveQueue :
    (leaveQueue config sid).Everywhere (Routed routeOf) (Shape config routeOf (.leave sid)) := by
  refine ⟨shape_of_error trivial trivial ?_, fun reply hreply => ?_⟩
  · intro _ reply membershipKey _ hdel
    match reply, hdel with
    | .ok (some route), .inr hnext => exact hnext (.error .notFound)
    | .ok none, hdel =>
        exact not_must_of_plain (plain_cleanupUnknownQueueMembership sid) id hdel
  match reply, hreply with
  | .ok (some route), hroute =>
      obtain rfl : route = routeOf sid := hroute
      refine ⟨shape_smembersMembership, fun reply _ => ?_⟩
      match reply with
      | .ok [] => exact everywhere_of_plain trivial
      | .ok (key :: keys) => exact everywhere_removal
      | .error reason => exact everywhere_of_plain trivial
  | .ok none, _ => exact everywhere_of_plain (plain_cleanupUnknownQueueMembership sid)
  | .error reason, _ => exact everywhere_of_plain trivial

/-! ### Runs -/

/-- **Whatever is left of an operation has the shape of the operation**, in every run. -/
theorem shape_of_run {ok} {store : QueueStore} {l : List QueueEvent} {cfg : QueueConfig}
    (h : Transition.Run (Pool.step (queueSystem text config routeOf)) ok (Pool.idle store) l cfg) :
    ∀ p ∈ cfg.procs, Shape config routeOf p.op p.rest := by
  have hrun := Pool.everywhere_of_run (T := Routed routeOf) (Q := Shape config routeOf) ?_ ?_ ?_ h
  · exact fun p hp => (hrun p hp).here
  · intro x c s
    cases c <;> simp only [queueSystem, QueueCmd.exec, Routed]
    split_ifs <;> simp
  · intro c e
    cases c <;> trivial
  · intro op
    cases op with
    | join sid preferences => exact everywhere_joinQueue preferences
    | fallback sid phase => exact everywhere_scheduleFallbackPhase phase
    | leave sid => exact everywhere_leaveQueue
    | prune queueKey registryKey => exact everywhere_of_plain ⟨trivial, fun _ => trivial⟩

end Matchmaker
