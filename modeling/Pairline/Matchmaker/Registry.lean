/-
**The registries of the queues.**

A sweep finds the queues of a shard through the registry of the shard.  An enqueue writes a queue and
its registry entry by two commands; pruning takes an empty queue off the registry by one script.  An
enqueue writes the queue first: between the two commands a queue that nobody can find may hold a
session, but the enqueue still has the registry entry ahead of it, and no pruning comes in between
that could undo it, as the script looks at the queue once more.

Main definitions:

* `Matchmaker.QueuesRegistered` — every queue of a shard that is not empty is in its registry;
* `Matchmaker.RegistryWritten` — the registry entries of an enqueue do not fail.

Main results:

* `Matchmaker.run_queueKeys` — what a sweep finds;
* `Matchmaker.queues_registered` — **whenever no enqueue is in progress, every waiting session stands
  in a queue that a sweep visits**.
-/

import Pairline.Matchmaker.QueueStore

set_option relaxedAutoImplicit false
set_option autoImplicit false

namespace Matchmaker

open Program Sessions Transition

variable {text : Text} {config : Config} {routeOf : SessionId → Route}

/-! ### What a sweep finds -/

theorem run_registeredQueues {answer : Answer} (registryKeys : List String) (s : QueueStore) :
    (registeredQueues registryKeys).run (QueueCmd.exec routeOf answer) s =
      (registryKeys.flatMap s.registry, s) := by
  induction registryKeys with
  | nil => rfl
  | cons registryKey registryKeys ih =>
      have hrun : (registeredQueues (registryKey :: registryKeys)).run
          (QueueCmd.exec routeOf answer) s =
            ((registeredQueues registryKeys).bind fun rest =>
              .ret (s.registry registryKey ++ rest)).run (QueueCmd.exec routeOf answer) s := rfl
      rw [hrun, run_bind, ih]
      rfl

/-- **A sweep finds what is in some registry.** -/
theorem run_queueKeys {answer : Answer} (s : QueueStore) (queueKey : String) :
    queueKey ∈ ((queueKeys config).run (QueueCmd.exec routeOf answer) s).1 ↔
      ∃ registryKey ∈ queueRegistryKeys config, queueKey ∈ s.registry registryKey := by
  unfold queueKeys
  rw [bind_eq, run_bind, run_registeredQueues]
  simp only [pure_eq, run, List.mem_mergeSort, List.mem_eraseDups, List.mem_flatMap]

/-- The registry of a queue is among those that a sweep reads. -/
theorem queueRegistryKey_mem (hshards : 0 < config.matchShardCount) (route : Route) :
    queueRegistryKey config route ∈ queueRegistryKeys config := by
  have hmode : normalizeMode route.mode ∈ allowedModes := by
    unfold normalizeMode
    split_ifs with h
    · exact h
    · decide
  have hsame : queueRegistryKey config route = queueRegistryKey config
      ⟨normalizeMode route.mode, route.shard % config.matchShardCount⟩ := by
    have hnormal : normalizeMode (normalizeMode route.mode) = normalizeMode route.mode := if_pos hmode
    simp only [queueRegistryKey, tag, hnormal, Nat.mod_mod]
  rw [hsame]
  refine List.mem_flatMap.2 ⟨_, hmode, List.mem_map.2 ⟨_, ?_, rfl⟩⟩
  exact List.mem_range.2 (Nat.mod_lt _ hshards)

/-! ### The law -/

/-- **Every queue of a shard that is not empty is in the registry of the shard.** -/
def QueuesRegistered (config : Config) (s : QueueStore) : Prop :=
  ∀ route queueKey, QueueOf config route queueKey → s.queues queueKey ≠ [] →
    queueKey ∈ s.registry (queueRegistryKey config route)

/-- A sweep visits the queues of every session that waits in a queue of some shard. -/
def SweepVisitsAll (config : Config) (routeOf : SessionId → Route) (s : QueueStore) : Prop :=
  ∀ answer route queueKey sid, QueueOf config route queueKey → sid ∈ s.queues queueKey →
    queueKey ∈ ((queueKeys config).run (QueueCmd.exec routeOf answer) s).1

/-- No enqueue is in progress. -/
def NoEnqueue (cfg : QueueConfig) : Prop :=
  ∀ p ∈ cfg.procs, ∀ sid, p.op.enqueues sid = true → p.rest.result?.isSome

/-- A command that writes a registry entry does not fail; any other may. -/
def RegistryWritten (cfg : QueueConfig) (ev : QueueEvent) : Prop :=
  ∀ i e, ev = .fail i e → ∀ p, cfg.procs[i]? = some p →
    ∀ registryKey queueKey, p.rest.next? ≠ some (.saddRegistry registryKey queueKey)

/-- A queue is in the registry, or will be. -/
def Registering (cfg : QueueConfig) (registryKey queueKey : String) : Prop :=
  queueKey ∈ cfg.store.registry registryKey ∨
    ∃ p ∈ cfg.procs, p.rest.Must (· = .saddRegistry registryKey queueKey)

/-- Every queue of a shard that is not empty is in the registry of the shard, or will be. -/
def AllRegistering (config : Config) (cfg : QueueConfig) : Prop :=
  ∀ route queueKey, QueueOf config route queueKey → cfg.store.queues queueKey ≠ [] →
    Registering cfg (queueRegistryKey config route) queueKey

/-- What is registered stays so, as long as the queue is not empty. -/
theorem registering_of_step {cfg cfg' : QueueConfig} {ev : QueueEvent}
    {registryKey queueKey : String}
    (hs : Pool.step (queueSystem text config routeOf) cfg ev = some cfg')
    (hok : RegistryWritten cfg ev) (hqueue : cfg.store.queues queueKey ≠ [])
    (h : Registering cfg registryKey queueKey) : Registering cfg' registryKey queueKey := by
  rcases h with h | ⟨p, hp, hmust⟩
  · left
    rcases Pool.step_cases hs with ⟨op, -, rfl⟩ | ⟨i, x, op, c, next, -, -, rfl⟩ |
      ⟨i, e, op, c, next, -, -, rfl⟩ | ⟨key, store, -, hstore, rfl⟩
    · exact h
    · rcases mem_registry_exec h with h | ⟨-, hempty⟩
      · exact h
      · exact absurd hempty hqueue
    · exact h
    · obtain rfl := Option.some_inj.1 hstore
      exact h
  · rcases Pool.must_of_step hs hp hmust with ⟨q, hq, -, hmust⟩ |
      ⟨i, c, next, hget, rfl, ⟨x, -, rfl⟩ | ⟨e, rfl, rfl⟩⟩
    · exact .inr ⟨q, hq, hmust⟩
    · exact .inl (@mem_registry_saddRegistry routeOf x cfg.store registryKey queueKey)
    · exact absurd rfl (hok i e rfl _ hget registryKey queueKey)

/-- **A queue that a step fills is registered later on**: the enqueue has its registry entry ahead of
it. -/
theorem registering_of_filled {cfg cfg' : QueueConfig} {ev : QueueEvent} {route : Route}
    {queueKey : String} (hs : Pool.step (queueSystem text config routeOf) cfg ev = some cfg')
    (hshape : ∀ p ∈ cfg.procs, Shape config routeOf p.op p.rest)
    (hqueue : QueueOf config route queueKey) (hempty : cfg.store.queues queueKey = [])
    (hfilled : cfg'.store.queues queueKey ≠ []) :
    Registering cfg' (queueRegistryKey config route) queueKey := by
  obtain ⟨sid, hsid⟩ := List.exists_mem_of_ne_nil _ hfilled
  have hnot : sid ∉ cfg.store.queues queueKey := by
    rw [hempty]
    exact List.not_mem_nil
  rcases Pool.step_cases hs with ⟨op, -, rfl⟩ | ⟨i, x, op, c, next, rfl, hget, rfl⟩ |
    ⟨i, e, op, c, next, -, -, rfl⟩ | ⟨key, store, -, hstore, rfl⟩
  · exact absurd hsid hnot
  · rcases mem_queues_exec hsid with hsid | rfl
    · exact absurd hsid hnot
    · have hp := Pool.mem_of_getElem? hget
      obtain ⟨hof, hmust, -⟩ := (hshape _ hp).zadd queueKey sid rfl
      have hkey : queueRegistryKey config (routeOf sid) = queueRegistryKey config route := by
        rw [queueRegistryKey, queueRegistryKey, tag_of_queueOf hof hqueue]
      rw [hkey] at hmust
      rcases Pool.must_of_step hs hp hmust with ⟨q, hq, -, hmust⟩ | ⟨j, c, next', hget', hc, hev⟩
      · exact .inr ⟨q, hq, hmust⟩
      · -- the step was the writing of the queue, not of the registry
        rcases hev with ⟨x', hev, -⟩ | ⟨e, hev, -⟩
        · obtain ⟨rfl, -⟩ := Pool.Event.advance.inj hev
          rw [hget'] at hget
          cases hget
          cases hc
        · cases hev
  · exact absurd hsid hnot
  · obtain rfl := Option.some_inj.1 hstore
    exact absurd hsid hnot

theorem allRegistering_of_run {l : List QueueEvent} {cfg : QueueConfig}
    (h : Run (Pool.step (queueSystem text config routeOf)) RegistryWritten (Pool.idle emptyQueues) l
      cfg) : AllRegistering config cfg := by
  refine h.invariant_of_reached ?_ fun route queueKey _ hqueue => absurd rfl hqueue
  intro cfg ev cfg' l hrun hall hok hs route queueKey hof hqueue
  by_cases hempty : cfg.store.queues queueKey = []
  · exact registering_of_filled hs (shape_of_run hrun) hof hempty hqueue
  · exact registering_of_step hs hok hempty (hall route queueKey hof hempty)

/-- **Whenever no enqueue is in progress, every queue of a shard that is not empty is in the registry
of the shard, and a sweep visits every waiting session.** -/
theorem queues_registered (hshards : 0 < config.matchShardCount) {l : List QueueEvent}
    {cfg : QueueConfig}
    (h : Run (Pool.step (queueSystem text config routeOf)) RegistryWritten (Pool.idle emptyQueues) l
      cfg) (hquiet : NoEnqueue cfg) :
    QueuesRegistered config cfg.store ∧ SweepVisitsAll config routeOf cfg.store := by
  have hregistered : QueuesRegistered config cfg.store := by
    intro route queueKey hof hqueue
    rcases allRegistering_of_run h route queueKey hof hqueue with hmem | ⟨p, hp, hmust⟩
    · exact hmem
    · -- an operation with a registry entry ahead of it is an enqueue, and has not ended
      obtain ⟨sid, hsid⟩ := (shape_of_run h p hp).registering _ _ hmust
      obtain ⟨result, hresult⟩ := Option.isSome_iff_exists.1 (hquiet p hp sid hsid)
      rw [result?_eq_some.1 hresult] at hmust
      exact absurd hmust id
  refine ⟨hregistered, fun answer route queueKey sid hof hsid => ?_⟩
  rw [run_queueKeys]
  exact ⟨_, queueRegistryKey_mem hshards route,
    hregistered route queueKey hof (List.ne_nil_of_mem hsid)⟩

/-- A text session without interests. -/
def anyText : Preferences where
  mode := some (.string "text")
  atomMode := none
  interests := none
  atomInterests := none

/-- Session b leaves the shared queue of its shard while session a joins it: the queue is pruned
between the two commands by which session a enters it. -/
def pruneWhileJoining : List QueueEvent :=
  [.start (.join "b" anyText)] ++ List.replicate 5 (.advance 0 {}) ++
    [.start (.leave "b")] ++ List.replicate 5 (.advance 1 {}) ++
    [.start (.join "a" anyText)] ++ List.replicate 2 (.advance 2 {}) ++
    [.advance 1 {}] ++ List.replicate 3 (.advance 2 {})

theorem queues_registered_pruneWhileJoining :
    ∃ cfg, Run (Pool.step (queueSystem asciiText defaultConfig fun _ => ⟨"text", 7⟩))
        RegistryWritten (Pool.idle emptyQueues) pruneWhileJoining cfg ∧
      cfg.store.queues (sharedRandomQueueKey defaultConfig "text" 7) = ["a"] ∧
      QueuesRegistered defaultConfig cfg.store ∧
      SweepVisitsAll defaultConfig (fun _ => ⟨"text", 7⟩) cfg.store := by
  obtain ⟨cfg, hrun, hcfg⟩ :
      ∃ cfg, Run (Pool.step (queueSystem asciiText defaultConfig fun _ => ⟨"text", 7⟩)) Unfailing
        (Pool.idle emptyQueues) pruneWhileJoining cfg ∧
        (cfg.procs.all (fun p => p.rest.result?.isSome) &&
          decide (cfg.store.queues (sharedRandomQueueKey defaultConfig "text" 7) = ["a"])) = true :=
    exists_run_of_execWhere (by decide +kernel)
  rw [Bool.and_eq_true, List.all_eq_true, decide_eq_true_eq] at hcfg
  have hwritten : Run (Pool.step (queueSystem asciiText defaultConfig fun _ => ⟨"text", 7⟩))
      RegistryWritten (Pool.idle emptyQueues) pruneWhileJoining cfg := by
    refine hrun.mono fun cfg ev hev i e h => ?_
    subst h
    exact absurd hev id
  exact ⟨cfg, hwritten, hcfg.2,
    queues_registered (by decide) hwritten fun p hp _ _ => hcfg.1 p hp⟩

end Matchmaker
