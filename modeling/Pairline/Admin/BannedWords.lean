/-
**The banned words of the nodes.**

Every node keeps the banned words in a cache of its own.  An administrator changes the stored words
and puts an action on the admin stream, by which all nodes are to load them anew.  But the nodes read
the stream as one group: an entry goes to one of them, which asks its own cache to be loaded and
acknowledges the entry.  The others load their caches when they start and from time to time, as
nothing tells them to.

The number of entries in the stream serves as a clock: a cache is as old as the stream was when the
loading began.

Main definitions:

* `BannedWords.State`, `BannedWords.step` — the stored words, the stream, its group, and the nodes;
* `BannedWords.State.Applied` — every node has loaded its cache since an entry was added;
* `BannedWords.RefreshReachesAll` — the law, in all runs whose steps meet a condition;
* `BannedWords.Careful` — a refresh is released only when all caches have been loaded since.

Main results:

* `BannedWords.stored_of_applied` — a cache that was loaded since holds what is stored;
* `BannedWords.refreshReachesAll_careful` — **careful runs keep the law**;
* `BannedWords.otherNode_staysOld` — the node that was not handed the entry.
-/

import Pairline.Admin.Actions
import Pairline.FirstDistinct
import Pairline.Streams.Claiming
import Pairline.Transition
import Pairline.Whitespace

set_option relaxedAutoImplicit false
set_option autoImplicit false

namespace BannedWords

open Admin (Reader Json payload)
open ConsumerGroup (Pending)
open Streams (Consumer doClaimStalePending cleanupStaleConsumers isStaleConsumer)
open Transition

/-- The group of the nodes, `admin:workers`. -/
abbrev Workers := ConsumerGroup.Group Consumer

/-! ### Loading the words -/

/-- The tables of letters of the runtime. -/
structure Alphabet where
  downcase : String → String
  letterOrNumber : Char → Bool

/-- `moderation:banned_words:enabled` and `moderation:banned_words`. -/
structure Keys where
  enabledValue : Option String
  words : List String

variable (alphabet : Alphabet)

/-- `normalize_token`. -/
def normalizeToken (token : String) : String :=
  String.ofList (Whitespace.trimList (fun c => !alphabet.letterOrNumber c) token.toList)

/-- `String.split`, which does not divide at no-break spaces. -/
def splitWords (value : String) : List String :=
  ((value.toList.splitOnP Whitespace.isBreaking).map String.ofList).filter (· ≠ "")

def normalize (value : String) : String :=
  " ".intercalate
    (((splitWords (alphabet.downcase value)).map (normalizeToken alphabet)).filter (· ≠ ""))

/-- `enabled?`. -/
def enabled (value : Option String) : Bool :=
  match value with
  | none => true
  | some value =>
      Whitespace.trim (alphabet.downcase value) ∉ ["0", "false", "off", "no", "disabled"]

/-- The words that `refresh_words_cache` puts into the cache. -/
def normalizedWords (words : List String) : List String :=
  FirstDistinct.sorted ((words.map (normalize alphabet)).filter (· ≠ ""))

/-- A cache, and how many entries the stream had when its loading began. -/
structure Cache where
  enabled : Bool := true
  words : List String := []
  loadedAt : ℕ := 0
  deriving DecidableEq

/-- The process with the cache of a node. -/
structure Moderation where
  cache : Cache := {}
  /-- Its `init` is over. -/
  started : Bool := false
  /-- The requests to load the cache that wait for it; the first one is its own. -/
  requests : ℕ := 1
  /-- The flag has been read, when the stream had so many entries; the words are still to be read. -/
  reload : Option ℕ := none
  deriving DecidableEq

/-- The first half of `refresh_cache`, in which the flag is read unless that fails. -/
def Moderation.readEnabled (m : Moderation) (keys : Keys) (entries : ℕ) (ok : Bool) : Moderation :=
  let taken := { m with requests := m.requests - 1 }
  if !ok then { taken with started := true }
  else if enabled alphabet keys.enabledValue then
    { taken with cache := { m.cache with enabled := true }, reload := some entries }
  else { taken with cache := ⟨false, [], entries⟩, started := true }

/-- `refresh_words_cache`, which began when the stream had `entries` entries. -/
def Moderation.readWords (m : Moderation) (keys : Keys) (entries : ℕ) (ok : Bool) : Moderation :=
  let ended := { m with reload := none, started := true }
  if ok then
    { ended with
      cache := { m.cache with words := normalizedWords alphabet keys.words, loadedAt := entries } }
  else ended

/-! ### Nodes and the stream -/

inductive Source
  | pending
  | new
  deriving DecidableEq

/-- Where the subscriber of a node stands. -/
inductive Phase
  | connecting
  | reading (source : Source)
  | handling (source : Source) (todo batch : List ℕ)
  deriving DecidableEq

structure Node where
  name : Consumer
  phase : Phase := .connecting
  /-- The subscriber is there before the process with the cache. -/
  moderation : Option Moderation := none

/-- A request to load the cache of the node; without the process it is lost. -/
def Node.cast (node : Node) : Node :=
  { node with moderation := node.moderation.map fun m => { m with requests := m.requests + 1 } }

structure State where
  keys : Keys
  /-- How many entries the stream had when the keys were last written. -/
  changedAt : ℕ
  /-- The fields of the entries, which are numbered from 1. -/
  stream : List (List String)
  group : Option Workers
  /-- The consumers of the group, and when they were seen last. -/
  consumers : List (Consumer × ℕ)
  now : ℕ
  nodes : List Node

def start (keys : Keys) : State := ⟨keys, 0, [], none, [], 0, []⟩

inductive Event
  | tick
  | write (keys : Keys)
  | publish (fields : List String)
  | join (name : Consumer)
  | leave (i : ℕ)
  | startModeration (i : ℕ)
  | timer (i : ℕ)
  | readEnabled (i : ℕ) (ok : Bool)
  | readWords (i : ℕ) (ok : Bool)
  | connect (i looks pages : ℕ) (active : List Consumer) (setting : ℤ) (reached : List Consumer)
  | read (i : ℕ) (ok : Bool)
  | handle (i : ℕ) (raised : Bool)
  | ack (i : ℕ) (ok : Bool)

/-- The action of an entry is `refresh_banned_words`. -/
def isRefresh (reader : Reader) (fields : List String) : Bool :=
  match payload reader fields with
  | some (.string action, _) => action = "refresh_banned_words"
  | _ => false

/-- The numbers of the refresh actions in the stream. -/
def State.refreshes (reader : Reader) (s : State) : List ℕ :=
  (List.range' 1 s.stream.length).filter fun id => (s.stream[id - 1]?).any (isRefresh reader)

def State.setNode (s : State) (i : ℕ) (node : Node) : State := { s with nodes := s.nodes.set i node }

/-- A consumer is seen. -/
def seen (consumers : List (Consumer × ℕ)) (name : Consumer) (now : ℕ) : List (Consumer × ℕ) :=
  consumers.filter (·.1 ≠ name) ++ [(name, now)]

/-- The group that a subscriber connects to; a new one starts at the end of the stream. -/
def State.ensuredGroup (s : State) : Workers := s.group.getD ⟨s.stream.length, []⟩

/-- What a subscriber has claimed after so many commands. -/
def State.claimedGroup (s : State) (name : Consumer) (looks pages : ℕ) : Workers :=
  doClaimStalePending looks s.now name pages 0 s.ensuredGroup

/-- The stale consumers whose deletion goes through. -/
def State.deleted (s : State) (name : Consumer) (active : List Consumer) (setting : ℤ)
    (reached : List Consumer) : List (Consumer × ℕ) :=
  ((seen s.consumers name s.now).filter (·.1 ∈ reached)).filter
    (isStaleConsumer s.now name active setting)

/-- The subscriber of a node connects: it claims stale entries, and deletes stale consumers. -/
def State.connect (s : State) (i : ℕ) (node : Node) (looks pages : ℕ) (active : List Consumer)
    (setting : ℤ) (reached : List Consumer) : State :=
  { s with
    group := some (cleanupStaleConsumers s.now node.name active setting
      ((seen s.consumers node.name s.now).filter (·.1 ∈ reached))
      (s.claimedGroup node.name looks pages))
    consumers := (seen s.consumers node.name s.now).filter
      (· ∉ s.deleted node.name active setting reached)
    nodes := s.nodes.set i { node with phase := .reading .pending } }

/-- The entries that a read hands to a node. -/
def State.batch (s : State) (batchSize : ℕ) (name : Consumer) (g : Workers) :
    Source → List ℕ
  | .pending => ((g.pending.filter (·.consumer = name)).map Pending.id).take batchSize
  | .new => List.range' (g.lastDelivered + 1) (min batchSize (s.stream.length - g.lastDelivered))

/-- New entries are delivered, those that are pending already are not. -/
def delivered (name : Consumer) (now : ℕ) (ids : List ℕ) (g : Workers) :
    Source → Workers
  | .pending => g
  | .new => ids.foldl (fun g id => g.deliver name now id) g

/-- Where a subscriber stands when it has read some entries. -/
def Phase.afterRead (source : Source) (ids : List ℕ) : Phase :=
  match source, ids with
  | .pending, [] => .reading .new
  | .new, [] => .reading .pending
  | source, ids => .handling source ids ids

/-- Where a subscriber stands after an acknowledgement; whether that of new entries went through makes
no difference. -/
def Phase.afterAck (ok : Bool) : Source → Phase
  | .pending => if ok then .reading .new else .connecting
  | .new => .reading .pending

/-- The process with the cache of a node takes a step. -/
def State.moderate (s : State) (i : ℕ) (f : Moderation → Option Moderation) : Option State := do
  let node ← s.nodes[i]?
  let m ← node.moderation
  let m' ← f m
  return s.setNode i { node with moderation := some m' }

variable (reader : Reader) (batchSize : ℕ)

/-- **What a step does.** -/
def step (s : State) : Event → Option State
  | .tick => some { s with now := s.now + 1 }
  | .write keys => some { s with keys := keys, changedAt := s.stream.length }
  | .publish fields => some { s with stream := s.stream ++ [fields] }
  | .join name => do
      guard (∀ node ∈ s.nodes, node.name ≠ name)
      return { s with nodes := s.nodes ++ [{ name := name }] }
  | .leave i => some { s with nodes := s.nodes.eraseIdx i }
  | .startModeration i => do
      let node ← s.nodes[i]?
      guard (node.moderation = none)
      return s.setNode i { node with moderation := some {} }
  | .timer i => s.moderate i fun m =>
      if m.started then some { m with requests := m.requests + 1 } else none
  | .readEnabled i ok => s.moderate i fun m =>
      if 0 < m.requests ∧ m.reload = none then
        some (m.readEnabled alphabet s.keys s.stream.length ok) else none
  | .readWords i ok => s.moderate i fun m =>
      m.reload.map fun entries => m.readWords alphabet s.keys entries ok
  | .connect i looks pages active setting reached => do
      let node ← s.nodes[i]?
      guard (node.phase = .connecting ∧ pages ≤ 100)
      return s.connect i node looks pages active setting reached
  | .read i ok => do
      let node ← s.nodes[i]?
      match node.phase, s.group with
      | .reading source, some g =>
          let ids := s.batch batchSize node.name g source
          return if ok then
              { s with
                group := some (delivered node.name s.now ids g source)
                consumers := seen s.consumers node.name s.now
                nodes := s.nodes.set i { node with phase := .afterRead source ids } }
            else s.setNode i { node with phase := .connecting }
      | _, _ => none
  | .handle i raised => do
      let node ← s.nodes[i]?
      match node.phase with
      | .handling source (id :: todo) batch =>
          if id ∈ s.refreshes reader then
            return s.setNode i { node.cast with phase := .handling source todo batch }
          else if raised then return s.setNode i { node with phase := .connecting }
          else return s.setNode i { node with phase := .handling source todo batch }
      | _ => none
  | .ack i ok => do
      let node ← s.nodes[i]?
      match node.phase, s.group with
      | .handling source [] batch, some g =>
          return { s with
            group := some (if ok then batch.foldl ConsumerGroup.Group.ack g else g)
            nodes := s.nodes.set i { node with phase := .afterAck ok source } }
      | _, _ => none

/-! ### The law -/

/-- The group has delivered the entry, or passed it over, and it is not pending. -/
def State.Released (s : State) (id : ℕ) : Prop := ∃ g ∈ s.group, g.Acknowledged id

instance (s : State) (id : ℕ) : Decidable (s.Released id) :=
  inferInstanceAs (Decidable (∃ g ∈ s.group, g.Acknowledged id))

/-- **Every node has loaded its cache since the entry was added.** -/
def State.Applied (s : State) (id : ℕ) : Prop :=
  ∀ node ∈ s.nodes, ∀ m ∈ node.moderation, m.started = true → id ≤ m.cache.loadedAt

instance (s : State) (id : ℕ) : Decidable (s.Applied id) := by
  unfold State.Applied; infer_instance

/-- All entries of the stream are acknowledged. -/
def State.AllReleased (s : State) : Prop :=
  ∀ id, 1 ≤ id → id ≤ s.stream.length → s.Released id

/-- No node's cache is older than the last refresh action. -/
def State.UpToDate (s : State) : Prop := ∀ id ∈ s.refreshes reader, s.Applied id

instance (s : State) : Decidable (s.UpToDate reader) := by
  unfold State.UpToDate; infer_instance

/-- **A refresh action that has been processed has been applied by every node; and when all entries
are acknowledged, no cache is older than the last one.** -/
def RefreshReachesAll (ok : Reader → Alphabet → State → Event → Prop) : Prop :=
  ∀ (reader : Reader) (alphabet : Alphabet) (batchSize : ℕ) (keys : Keys) (l : List Event)
    (s : State), Run (step alphabet reader batchSize) (ok reader alphabet) (start keys) l s →
      (∀ id ∈ s.refreshes reader, s.Released id → s.Applied id) ∧
        (s.AllReleased → s.UpToDate reader)

/-! ### Steps that release nothing too early -/

def Phase.batch : Phase → List ℕ
  | .handling _ _ batch => batch
  | _ => []

/-- **The entries that a step may release**: those that are acknowledged, that are pending for a
consumer that is deleted, or that a new group passes over. -/
def Releases (s : State) : Event → ℕ → Prop
  | .connect i looks pages active setting reached, id => ∃ node ∈ s.nodes[i]?,
      (s.group.isNone = true ∧ id ≤ s.stream.length) ∨
        ∃ p ∈ (s.claimedGroup node.name looks pages).pending, p.id = id ∧
          ∃ consumer ∈ s.deleted node.name active setting reached, p.consumer = consumer.1
  | .ack i ok, id => ok = true ∧ ∃ node ∈ s.nodes[i]?, id ∈ node.phase.batch
  | _, _ => False

instance (s : State) (ev : Event) (id : ℕ) : Decidable (Releases s ev id) := by
  cases ev <;> unfold Releases <;> infer_instance

/-- The process with the cache after the event. -/
def Moderation.after (m : Moderation) (s : State) : Event → Moderation
  | .readEnabled _ ok => m.readEnabled alphabet s.keys s.stream.length ok
  | .readWords _ ok => m.readWords alphabet s.keys (m.reload.getD 0) ok
  | _ => m

/-- The process whose cache is loaded. -/
def Event.loads : Event → Option ℕ
  | .readEnabled i _ => some i
  | .readWords i _ => some i
  | _ => none

/-- The cache with which the `init` of a node ends is not older than the refresh actions that are
released. -/
def StartsFresh (s : State) (ev : Event) : Prop :=
  ∀ i ∈ ev.loads, ∀ node ∈ s.nodes[i]?, ∀ m ∈ node.moderation, m.started = false →
    (m.after alphabet s ev).started = true →
      ∀ id ∈ s.refreshes reader, s.Released id → id ≤ (m.after alphabet s ev).cache.loadedAt

instance (s : State) (ev : Event) : Decidable (StartsFresh alphabet reader s ev) := by
  unfold StartsFresh; infer_instance

/-- **A refresh action is released only when all caches have been loaded since it was added**, and a
node starts with a cache that was loaded since. -/
def Careful (reader : Reader) (alphabet : Alphabet) (s : State) (ev : Event) : Prop :=
  (∀ id ∈ s.refreshes reader, Releases s ev id → s.Applied id) ∧ StartsFresh alphabet reader s ev

instance (s : State) (ev : Event) : Decidable (Careful reader alphabet s ev) := by
  unfold Careful; infer_instance

/-! ### What one step does -/

variable {alphabet reader batchSize} {s t : State} {i : ℕ} {node : Node} {m : Moderation} {id : ℕ}
  {ev : Event}

/-- The process is as it was, but for the requests that wait for it. -/
def Moderation.Same (m m' : Moderation) : Prop :=
  m.cache = m'.cache ∧ m.reload = m'.reload ∧ m.started = m'.started

theorem Moderation.Same.refl (m : Moderation) : m.Same m := ⟨rfl, rfl, rfl⟩

/-- The event is the next half of a loading. -/
def Moderation.Ready (m : Moderation) : Event → Prop
  | .readEnabled _ _ => m.reload = none
  | .readWords _ _ => m.reload.isSome = true
  | _ => False

variable (alphabet) in
/-- **Where a process comes from**: it is as it was, or has just been started or gone on loading. -/
inductive Origin (s : State) (ev : Event) (m : Moderation) : Prop
  | same {node : Node} {m' : Moderation} (hnode : node ∈ s.nodes) (hm' : m' ∈ node.moderation)
      (hsame : m.Same m')
  | started (hm : m = {})
  | loaded {i : ℕ} {node : Node} {m' : Moderation} (hi : i ∈ ev.loads) (hnode : node ∈ s.nodes[i]?)
      (hm' : m' ∈ node.moderation) (hready : m'.Ready ev) (hm : m = m'.after alphabet s ev)

theorem origin_of_mem (hnode : node ∈ s.nodes) (hm : m ∈ node.moderation) :
    Origin alphabet s ev m :=
  .same hnode hm (.refl m)

/-- One node changes. -/
theorem origin_of_mem_set {node' : Node}
    (h : ∀ m ∈ node'.moderation, Origin alphabet s ev m) :
    ∀ n ∈ s.nodes.set i node', ∀ m ∈ n.moderation, Origin alphabet s ev m := by
  intro n hn m hm
  rcases List.mem_or_eq_of_mem_set hn with hn | rfl
  · exact origin_of_mem hn hm
  · exact h m hm

/-- … in that its subscriber goes on. -/
theorem origin_of_phase {phase : Phase} (hi : s.nodes[i]? = some node) :
    ∀ n ∈ s.nodes.set i { node with phase }, ∀ m ∈ n.moderation, Origin alphabet s ev m :=
  origin_of_mem_set fun _ hm => origin_of_mem (List.mem_of_getElem? hi) hm

/-- … in that its process with the cache takes a step. -/
theorem origin_moderate {f : Moderation → Option Moderation} (ht : s.moderate i f = some t)
    (hf : ∀ node ∈ s.nodes[i]?, ∀ m ∈ node.moderation, ∀ m' ∈ f m, Origin alphabet s ev m') :
    ∀ n ∈ t.nodes, ∀ m ∈ n.moderation, Origin alphabet s ev m := by
  obtain ⟨node, hi, ht⟩ := Option.bind_eq_some_iff.1 ht
  obtain ⟨m, hm, ht⟩ := Option.bind_eq_some_iff.1 ht
  obtain ⟨m', hm', ht⟩ := Option.bind_eq_some_iff.1 ht
  cases ht
  refine origin_of_mem_set fun k hk => ?_
  obtain rfl := Option.some_inj.1 hk
  exact hf node hi m hm m' hm'

theorem origin_handle {raised : Bool}
    (ht : step alphabet reader batchSize s (.handle i raised) = some t) :
    ∀ n ∈ t.nodes, ∀ m ∈ n.moderation, Origin alphabet s ev m := by
  obtain ⟨node, hi, ht⟩ := Option.bind_eq_some_iff.1 ht
  split at ht
  next source id todo batch hphase =>
    split_ifs at ht
    · cases ht
      -- the cache is asked to be loaded
      refine origin_of_mem_set fun k hk => ?_
      obtain ⟨m, hm, rfl⟩ := Option.map_eq_some_iff.1 hk
      exact .same (List.mem_of_getElem? hi) hm ⟨rfl, rfl, rfl⟩
    · cases ht
      exact origin_of_phase hi
    · cases ht
      exact origin_of_phase hi
  next => cases ht

/-- **What a step does to the processes with the caches.** -/
theorem origin_step (ht : step alphabet reader batchSize s ev = some t) :
    ∀ n ∈ t.nodes, ∀ m ∈ n.moderation, Origin alphabet s ev m := by
  cases ev with
  | tick =>
      cases ht
      exact fun n hn m hm => origin_of_mem hn hm
  | write keys =>
      cases ht
      exact fun n hn m hm => origin_of_mem hn hm
  | publish fields =>
      cases ht
      exact fun n hn m hm => origin_of_mem hn hm
  | join name =>
      obtain ⟨_, -, ⟨⟩⟩ := Option.bind_eq_some_iff.1 ht
      intro n hn m hm
      rcases List.mem_append.1 hn with hn | hn
      · exact origin_of_mem hn hm
      · obtain rfl := List.mem_singleton.1 hn
        exact absurd hm (Option.not_mem_none m)
  | leave i =>
      cases ht
      exact fun n hn m hm => origin_of_mem (List.mem_of_mem_eraseIdx hn) hm
  | startModeration i =>
      obtain ⟨node, -, ht⟩ := Option.bind_eq_some_iff.1 ht
      obtain ⟨_, -, ⟨⟩⟩ := Option.bind_eq_some_iff.1 ht
      exact origin_of_mem_set fun m hm => .started (Option.some_inj.1 hm).symm
  | timer i =>
      refine origin_moderate ht fun node hi m hm m' hm' => ?_
      split_ifs at hm'
      · obtain rfl := Option.some_inj.1 hm'
        exact .same (List.mem_of_getElem? hi) hm ⟨rfl, rfl, rfl⟩
      · exact absurd hm' (Option.not_mem_none m')
  | readEnabled i ok =>
      refine origin_moderate ht fun node hi m hm m' hm' => ?_
      split_ifs at hm' with hwaits
      · exact .loaded rfl hi hm hwaits.2 (Option.some_inj.1 hm').symm
      · exact absurd hm' (Option.not_mem_none m')
  | readWords i ok =>
      refine origin_moderate ht fun node hi m hm m' hm' => ?_
      obtain ⟨began, hbegan, rfl⟩ := Option.map_eq_some_iff.1 hm'
      refine .loaded rfl hi hm (Option.isSome_of_mem hbegan) ?_
      rw [Moderation.after, hbegan, Option.getD_some]
  | connect i looks pages active setting reached =>
      obtain ⟨node, hi, ht⟩ := Option.bind_eq_some_iff.1 ht
      obtain ⟨_, -, ⟨⟩⟩ := Option.bind_eq_some_iff.1 ht
      exact origin_of_phase hi
  | read i ok =>
      obtain ⟨node, hi, ht⟩ := Option.bind_eq_some_iff.1 ht
      split at ht
      next source g hphase hgroup =>
        cases ok with
        | false =>
            cases ht
            exact origin_of_phase hi
        | true =>
            cases ht
            exact origin_of_phase hi
      next => cases ht
  | handle i raised => exact origin_handle ht
  | ack i ok =>
      obtain ⟨node, hi, ht⟩ := Option.bind_eq_some_iff.1 ht
      split at ht
      next source batch g hphase hgroup =>
        cases ht
        exact origin_of_phase hi
      next => cases ht

/-! ### What a step releases -/

theorem acknowledged_doClaimStalePending {looks now attempts startId : ℕ} {name : Consumer}
    {g : Workers} : (doClaimStalePending looks now name attempts startId g).Acknowledged id ↔
      g.Acknowledged id := by
  induction attempts generalizing startId g with
  | zero => rfl
  | succ attempts ih =>
      rw [Streams.doClaimStalePending_succ]
      split
      · exact ConsumerGroup.Group.acknowledged_claim
      · exact ih.trans ConsumerGroup.Group.acknowledged_claim

theorem lastDelivered_doClaimStalePending {looks now attempts startId : ℕ} {name : Consumer}
    {g : Workers} : (doClaimStalePending looks now name attempts startId g).lastDelivered =
      g.lastDelivered := by
  induction attempts generalizing startId g with
  | zero => rfl
  | succ attempts ih =>
      rw [Streams.doClaimStalePending_succ]
      split
      · rfl
      · exact ih

/-- What the group has read and releases at a step, and what becomes of the stream and the keys. -/
structure Goes (s t : State) (ev : Event) : Prop where
  lastDelivered : (∀ g ∈ s.group, g.lastDelivered ≤ s.stream.length) →
    ∀ g ∈ t.group, g.lastDelivered ≤ t.stream.length
  released : ∀ id, t.Released id → s.Released id ∨ Releases s ev id
  stream : t.stream = s.stream ∨ ∃ fields, t.stream = s.stream ++ [fields] ∧ ev = .publish fields
  written : (t.keys = s.keys ∧ t.changedAt = s.changedAt) ∨ s.stream.length ≤ t.changedAt

/-- The group is left alone. -/
theorem goes_of_group (hgroup : t.group = s.group) (hstream : t.stream = s.stream)
    (hwritten : (t.keys = s.keys ∧ t.changedAt = s.changedAt) ∨ s.stream.length ≤ t.changedAt) :
    Goes s t ev where
  lastDelivered h := by rwa [hgroup, hstream]
  released id h := by
    unfold State.Released at h
    rw [hgroup] at h
    exact .inl h
  stream := .inl hstream
  written := hwritten

theorem goes_moderate {f : Moderation → Option Moderation} (ht : s.moderate i f = some t) :
    Goes s t ev := by
  obtain ⟨_, -, ht⟩ := Option.bind_eq_some_iff.1 ht
  obtain ⟨_, -, ht⟩ := Option.bind_eq_some_iff.1 ht
  obtain ⟨_, -, ⟨⟩⟩ := Option.bind_eq_some_iff.1 ht
  exact goes_of_group rfl rfl (.inl ⟨rfl, rfl⟩)

theorem goes_publish {fields : List String} :
    Goes s { s with stream := s.stream ++ [fields] } (.publish fields) where
  lastDelivered h g hg := by
    have hlast := h g hg
    rw [List.length_append]
    omega
  released _ h := .inl h
  stream := .inr ⟨fields, rfl, rfl⟩
  written := .inl ⟨rfl, rfl⟩

/-- **A subscriber that connects** releases what it deletes, and what a new group passes over. -/
theorem goes_connect {looks pages : ℕ} {active reached : List Consumer} {setting : ℤ}
    (hi : s.nodes[i]? = some node) : Goes s (s.connect i node looks pages active setting reached)
      (.connect i looks pages active setting reached) where
  lastDelivered h g hg := by
    obtain rfl := Option.some_inj.1 hg
    rw [cleanupStaleConsumers, ConsumerGroup.Group.lastDelivered_foldl_deleteConsumer,
      State.claimedGroup, lastDelivered_doClaimStalePending, State.ensuredGroup]
    cases hgroup : s.group with
    | none => exact le_rfl
    | some g => exact h g hgroup
  released id h := by
    obtain ⟨g, hg, hack⟩ := h
    obtain rfl := Option.some_inj.1 hg
    rcases ConsumerGroup.Group.acknowledged_of_foldl_deleteConsumer hack with hack | hlost
    · rw [State.claimedGroup, acknowledged_doClaimStalePending, State.ensuredGroup] at hack
      cases hgroup : s.group with
      | none =>
          rw [hgroup] at hack
          exact .inr ⟨node, hi, .inl ⟨by rw [hgroup]; rfl, hack.1⟩⟩
      | some g =>
          rw [hgroup] at hack
          exact .inl ⟨g, hgroup, hack⟩
    · exact .inr ⟨node, hi, .inr hlost⟩
  stream := .inl rfl
  written := .inl ⟨rfl, rfl⟩

/-- A read releases nothing. -/
theorem goes_read {source : Source} {g : Workers} (hgroup : s.group = some g)
    (htgroup : t.group =
      some (delivered node.name s.now (s.batch batchSize node.name g source) g source))
    (hstream : t.stream = s.stream) (hkeys : t.keys = s.keys ∧ t.changedAt = s.changedAt) :
    Goes s t ev := by
  refine ⟨fun h g' hg' => ?_, fun id h => .inl ?_, .inl hstream, .inl hkeys⟩
  · rw [htgroup] at hg'
    obtain rfl := Option.some_inj.1 hg'
    have hlast := h g hgroup
    rw [hstream]
    cases source with
    | pending => exact hlast
    | new =>
        have hdeliver := (@ConsumerGroup.Group.foldl_deliver _ node.name s.now 0
          (min batchSize (s.stream.length - g.lastDelivered)) g).1
        refine hdeliver.trans_le ?_
        omega
  · obtain ⟨g', hg', hack⟩ := h
    rw [htgroup] at hg'
    obtain rfl := Option.some_inj.1 hg'
    refine ⟨g, hgroup, ?_⟩
    cases source with
    | pending => exact hack
    | new => exact (ConsumerGroup.Group.foldl_deliver _ g).2 hack

/-- **A subscriber releases what it acknowledges.** -/
theorem goes_ack {source : Source} {batch : List ℕ} {g : Workers} {ok : Bool}
    (hi : s.nodes[i]? = some node) (hphase : node.phase = .handling source [] batch)
    (hgroup : s.group = some g)
    (htgroup : t.group = some (if ok then batch.foldl ConsumerGroup.Group.ack g else g))
    (hstream : t.stream = s.stream) (hkeys : t.keys = s.keys ∧ t.changedAt = s.changedAt) :
    Goes s t (.ack i ok) := by
  refine ⟨fun h g' hg' => ?_, fun id h => ?_, .inl hstream, .inl hkeys⟩
  · rw [htgroup] at hg'
    obtain rfl := Option.some_inj.1 hg'
    have hlast := h g hgroup
    rw [hstream]
    split_ifs
    · rwa [ConsumerGroup.Group.lastDelivered_foldl_ack]
    · exact hlast
  · obtain ⟨g', hg', hack⟩ := h
    rw [htgroup] at hg'
    obtain rfl := Option.some_inj.1 hg'
    cases ok with
    | false => exact .inl ⟨g, hgroup, hack⟩
    | true =>
        rcases ConsumerGroup.Group.acknowledged_of_foldl_ack hack with hack | hmem
        · exact .inl ⟨g, hgroup, hack⟩
        · exact .inr ⟨rfl, node, hi, by rw [hphase]; exact hmem⟩

/-- **What a step does to the group.** -/
theorem goes_step (ht : step alphabet reader batchSize s ev = some t) : Goes s t ev := by
  cases ev with
  | tick =>
      cases ht
      exact goes_of_group rfl rfl (.inl ⟨rfl, rfl⟩)
  | write keys =>
      cases ht
      exact goes_of_group rfl rfl (.inr le_rfl)
  | publish fields =>
      cases ht
      exact goes_publish
  | join name =>
      obtain ⟨_, -, ⟨⟩⟩ := Option.bind_eq_some_iff.1 ht
      exact goes_of_group rfl rfl (.inl ⟨rfl, rfl⟩)
  | leave i =>
      cases ht
      exact goes_of_group rfl rfl (.inl ⟨rfl, rfl⟩)
  | startModeration i =>
      obtain ⟨node, -, ht⟩ := Option.bind_eq_some_iff.1 ht
      obtain ⟨_, -, ⟨⟩⟩ := Option.bind_eq_some_iff.1 ht
      exact goes_of_group rfl rfl (.inl ⟨rfl, rfl⟩)
  | timer i => exact goes_moderate ht
  | readEnabled i ok => exact goes_moderate ht
  | readWords i ok => exact goes_moderate ht
  | connect i looks pages active setting reached =>
      obtain ⟨node, hi, ht⟩ := Option.bind_eq_some_iff.1 ht
      obtain ⟨_, -, ⟨⟩⟩ := Option.bind_eq_some_iff.1 ht
      exact goes_connect hi
  | read i ok =>
      obtain ⟨node, hi, ht⟩ := Option.bind_eq_some_iff.1 ht
      split at ht
      next source g hphase hgroup =>
        cases ok with
        | false =>
            cases ht
            exact goes_of_group rfl rfl (.inl ⟨rfl, rfl⟩)
        | true =>
            cases ht
            exact goes_read hgroup rfl rfl ⟨rfl, rfl⟩
      next => cases ht
  | handle i raised =>
      obtain ⟨node, hi, ht⟩ := Option.bind_eq_some_iff.1 ht
      split at ht
      next source id todo batch hphase =>
        split_ifs at ht <;> cases ht <;> exact goes_of_group rfl rfl (.inl ⟨rfl, rfl⟩)
      next => cases ht
  | ack i ok =>
      obtain ⟨node, hi, ht⟩ := Option.bind_eq_some_iff.1 ht
      split at ht
      next source batch g hphase hgroup =>
        cases ht
        exact goes_ack hi hphase hgroup rfl rfl ⟨rfl, rfl⟩
      next => cases ht

/-! ### Ages -/

/-- The ages of a cache and of its loading. -/
structure Moderation.Aged (m : Moderation) (entries : ℕ) : Prop where
  loadedAt : m.cache.loadedAt ≤ entries
  reload : ∀ began ∈ m.reload, m.cache.loadedAt ≤ began ∧ began ≤ entries

theorem Moderation.Aged.mono {entries entries' : ℕ} (h : m.Aged entries) (hle : entries ≤ entries') :
    m.Aged entries' :=
  ⟨h.loadedAt.trans hle, fun began hbegan =>
    ⟨(h.reload began hbegan).1, (h.reload began hbegan).2.trans hle⟩⟩

/-- **A loading makes a cache younger.** -/
theorem Moderation.Aged.after (h : m.Aged s.stream.length) (hready : m.Ready ev) :
    (m.after alphabet s ev).Aged s.stream.length ∧
      m.cache.loadedAt ≤ (m.after alphabet s ev).cache.loadedAt := by
  cases ev with
  | readEnabled i ok =>
      unfold Moderation.after Moderation.readEnabled
      dsimp only
      split_ifs
      · exact ⟨⟨h.loadedAt, h.reload⟩, le_rfl⟩
      · refine ⟨⟨h.loadedAt, fun began hbegan => ?_⟩, le_rfl⟩
        obtain rfl := Option.some_inj.1 hbegan
        exact ⟨h.loadedAt, le_rfl⟩
      · refine ⟨⟨le_rfl, fun began hbegan => ?_⟩, h.loadedAt⟩
        change began ∈ m.reload at hbegan
        rw [show m.reload = none from hready] at hbegan
        exact absurd hbegan (Option.not_mem_none began)
  | readWords i ok =>
      obtain ⟨began, hbegan⟩ := Option.isSome_iff_exists.1 hready
      obtain ⟨hloaded, hle⟩ := h.reload began hbegan
      unfold Moderation.after Moderation.readWords
      rw [hbegan, Option.getD_some]
      dsimp only
      split_ifs
      · exact ⟨⟨hle, fun _ h => absurd h (Option.not_mem_none _)⟩, hloaded⟩
      · exact ⟨⟨h.loadedAt, fun _ h => absurd h (Option.not_mem_none _)⟩, le_rfl⟩
  | _ => exact absurd hready id

def State.Aged (s : State) : Prop :=
  ∀ node ∈ s.nodes, ∀ m ∈ node.moderation, m.Aged s.stream.length

theorem Goes.length_le (h : Goes s t ev) : s.stream.length ≤ t.stream.length := by
  obtain hstream | ⟨fields, hstream, -⟩ := h.stream
  · rw [hstream]
  · rw [hstream, List.length_append]
    omega

theorem aged_step (h : s.Aged) (ht : step alphabet reader batchSize s ev = some t) : t.Aged := by
  have hle := (goes_step ht).length_le
  intro n hn m hm
  obtain ⟨hnode, hm', hcache, hreload, -⟩ | rfl | ⟨hi, hnode, hm', hready, rfl⟩ :=
    origin_step ht n hn m hm
  · obtain ⟨hloaded, hbegan⟩ := (h _ hnode _ hm').mono hle
    exact ⟨hcache ▸ hloaded, by rw [hreload, hcache]; exact hbegan⟩
  · exact ⟨Nat.zero_le _, fun _ h => absurd h (Option.not_mem_none _)⟩
  · exact ((h _ (List.mem_of_getElem? hnode) _ hm').after hready).1.mono hle

/-! ### The law -/

variable (reader) in
/-- **What every careful step keeps.** -/
structure Inv (s : State) : Prop where
  lastDelivered : ∀ g ∈ s.group, g.lastDelivered ≤ s.stream.length
  aged : s.Aged
  applied : ∀ id ∈ s.refreshes reader, s.Released id → s.Applied id

theorem inv_start (keys : Keys) : Inv reader (start keys) where
  lastDelivered _ h := absurd h (Option.not_mem_none _)
  aged _ h := absurd h List.not_mem_nil
  applied _ h := absurd h List.not_mem_nil

theorem mem_refreshes : id ∈ s.refreshes reader ↔
    (1 ≤ id ∧ id ≤ s.stream.length) ∧ (s.stream[id - 1]?).any (isRefresh reader) = true := by
  unfold State.refreshes
  rw [List.mem_filter, List.mem_range'_1]
  refine and_congr_left fun _ => and_congr_right fun _ => ?_
  omega

/-- **A refresh action that is released at a step was in the stream before.** -/
theorem Goes.mem_refreshes (h : Goes s t ev) (hinv : Inv reader s) (hid : id ∈ t.refreshes reader)
    (hreleased : t.Released id) : id ∈ s.refreshes reader := by
  obtain ⟨⟨hpos, hle⟩, hany⟩ := BannedWords.mem_refreshes.1 hid
  obtain hstream | ⟨fields, hstream, rfl⟩ := h.stream
  · rw [hstream] at hle hany
    exact BannedWords.mem_refreshes.2 ⟨⟨hpos, hle⟩, hany⟩
  · -- the entry that is added has not been delivered
    obtain ⟨g, hg, hlast, -⟩ := (h.released id hreleased).resolve_right not_false
    have hbefore := hlast.trans (hinv.lastDelivered g hg)
    rw [hstream, List.getElem?_append_left (by omega)] at hany
    exact BannedWords.mem_refreshes.2 ⟨⟨hpos, hbefore⟩, hany⟩

/-- A loading releases nothing. -/
theorem not_releases_of_loads (hi : i ∈ ev.loads) : ¬ Releases s ev id := by
  cases ev with
  | readEnabled => exact not_false
  | readWords => exact not_false
  | _ => cases hi

theorem inv_step (h : Inv reader s) (hcareful : Careful reader alphabet s ev)
    (ht : step alphabet reader batchSize s ev = some t) : Inv reader t := by
  have hgoes := goes_step ht
  refine ⟨hgoes.lastDelivered h.lastDelivered, aged_step h.aged ht,
    fun id hid hreleased n hn m hm hstarted => ?_⟩
  have hmem := hgoes.mem_refreshes h hid hreleased
  have happlied : s.Applied id :=
    (hgoes.released id hreleased).elim (h.applied id hmem) (hcareful.1 id hmem)
  obtain ⟨hnode, hm', hcache, -, hsame⟩ | rfl | ⟨hi, hnode, hm', hready, rfl⟩ :=
    origin_step ht n hn m hm
  · rw [hcache]
    exact happlied _ hnode _ hm' (hsame ▸ hstarted)
  · cases hstarted
  · rename_i i node m'
    have hin := List.mem_of_getElem? hnode
    cases hbefore : m'.started with
    | true => exact (happlied _ hin _ hm' hbefore).trans ((h.aged _ hin _ hm').after hready).2
    | false =>
        have hreleased' := (hgoes.released id hreleased).resolve_right (not_releases_of_loads hi)
        exact hcareful.2 i hi node hnode m' hm' hbefore hstarted id hmem hreleased'

variable (alphabet) in
/-- The cache holds what the keys say. -/
def Cache.Stores (keys : Keys) (c : Cache) : Prop :=
  c.enabled = BannedWords.enabled alphabet keys.enabledValue ∧
    c.words = if BannedWords.enabled alphabet keys.enabledValue then
      normalizedWords alphabet keys.words else []

variable (alphabet) in
/-- **A process has what was stored when it read it.** -/
structure Moderation.Current (m : Moderation) (s : State) : Prop where
  cache : s.changedAt < m.cache.loadedAt → m.cache.Stores alphabet s.keys
  reload : ∀ began ∈ m.reload, s.changedAt < began →
    enabled alphabet s.keys.enabledValue = true ∧ m.cache.enabled = true

theorem current_empty : Moderation.Current alphabet {} s :=
  ⟨fun h => absurd h (Nat.not_lt_zero _), fun _ h => absurd h (Option.not_mem_none _)⟩

/-- What the process has read, it still has after the next half of a loading. -/
theorem Moderation.Current.after (h : m.Current alphabet s) (hready : m.Ready ev) :
    (m.after alphabet s ev).Current alphabet s := by
  cases ev with
  | readEnabled i ok =>
      unfold Moderation.after Moderation.readEnabled
      dsimp only
      split_ifs with hfailed henabled
      · exact ⟨h.cache, h.reload⟩
      · exact ⟨fun hlt => ⟨henabled.symm, (h.cache hlt).2⟩, fun _ _ _ => ⟨henabled, rfl⟩⟩
      · rw [Bool.not_eq_true] at henabled
        refine ⟨fun _ => ⟨henabled.symm, by rw [henabled]; rfl⟩, fun began hbegan => ?_⟩
        change began ∈ m.reload at hbegan
        rw [show m.reload = none from hready] at hbegan
        exact absurd hbegan (Option.not_mem_none began)
  | readWords i ok =>
      obtain ⟨began, hbegan⟩ := Option.isSome_iff_exists.1 hready
      unfold Moderation.after Moderation.readWords
      rw [hbegan, Option.getD_some]
      dsimp only
      split_ifs
      · refine ⟨fun hlt => ?_, fun _ h => absurd h (Option.not_mem_none _)⟩
        obtain ⟨henabled, hcache⟩ := h.reload began hbegan hlt
        exact ⟨hcache.trans henabled.symm, by rw [henabled]; rfl⟩
      · exact ⟨h.cache, fun _ h => absurd h (Option.not_mem_none _)⟩
  | _ => exact absurd hready not_false

theorem Moderation.Current.same {m' : Moderation} (h : m'.Current alphabet s) (hsame : m.Same m') :
    m.Current alphabet s := by
  obtain ⟨hcache, hreload, -⟩ := hsame
  exact ⟨by rw [hcache]; exact h.cache, by rw [hreload, hcache]; exact h.reload⟩

variable (alphabet) in
def State.Current (s : State) : Prop :=
  ∀ node ∈ s.nodes, ∀ m ∈ node.moderation, m.Current alphabet s

/-- Keys that are written make every cache older than they are. -/
theorem current_step (haged : s.Aged) (h : s.Current alphabet)
    (ht : step alphabet reader batchSize s ev = some t) : t.Current alphabet := by
  intro n hn m hm
  have haged' := aged_step haged ht n hn m hm
  have hcurrent : m.Current alphabet s ∧ m.Aged s.stream.length := by
    obtain ⟨hnode, hm', hsame⟩ | rfl | ⟨hi, hnode, hm', hready, rfl⟩ := origin_step ht n hn m hm
    · refine ⟨(h _ hnode _ hm').same hsame, ?_⟩
      obtain ⟨hloaded, hbegan⟩ := haged _ hnode _ hm'
      exact ⟨hsame.1 ▸ hloaded, by rw [hsame.2.1, hsame.1]; exact hbegan⟩
    · exact ⟨current_empty, Nat.zero_le _, fun _ h => absurd h (Option.not_mem_none _)⟩
    · have hin := List.mem_of_getElem? hnode
      exact ⟨(h _ hin _ hm').after hready, ((haged _ hin _ hm').after hready).1⟩
  obtain ⟨hkeys, hchanged⟩ | hle := (goes_step ht).written
  · refine ⟨fun hlt => ?_, fun began hbegan hlt => ?_⟩
    · rw [hkeys]
      exact hcurrent.1.cache (hchanged ▸ hlt)
    · rw [hkeys]
      exact hcurrent.1.reload began hbegan (hchanged ▸ hlt)
  · refine ⟨fun hlt => ?_, fun began hbegan hlt => ?_⟩
    · have hloaded := hcurrent.2.loadedAt
      omega
    · have hbefore := (hcurrent.2.reload began hbegan).2
      omega

/-- **A cache that was loaded since the last change holds what is stored**: once a refresh action
that was published after the change has been applied, every node knows the words. -/
theorem stored_of_applied {keys : Keys} {l : List Event}
    (h : Run (step alphabet reader batchSize) Always (start keys) l s) (hid : s.changedAt < id)
    (happlied : s.Applied id) (hnode : node ∈ s.nodes) (hm : m ∈ node.moderation)
    (hstarted : m.started = true) : m.cache.Stores alphabet s.keys := by
  have hboth : s.Aged ∧ s.Current alphabet := by
    refine h.invariant (I := fun s => s.Aged ∧ s.Current alphabet)
      (fun s ev t hs _ ht => ⟨aged_step hs.1 ht, current_step hs.1 hs.2 ht⟩) ⟨?_, ?_⟩
    · exact fun _ h => absurd h List.not_mem_nil
    · exact fun _ h => absurd h List.not_mem_nil
  exact (hboth.2 node hnode m hm).cache (hid.trans_le (happlied node hnode m hm hstarted))

/-! ### The handler -/

/-- **The handler of a refresh action asks the cache of its node to be loaded**, and that is all. -/
theorem handleStreamEntry_of_isRefresh {entryId : Admin.EntryId} {fields : List String}
    (h : isRefresh reader fields = true) :
    Admin.handleStreamEntry reader ⟨entryId, some fields⟩ =
      Admin.ending (Admin.admin .refreshBannedWords) := by
  unfold isRefresh at h
  unfold Admin.handleStreamEntry
  dsimp only
  split at h
  next action data hpayload =>
    obtain rfl : action = "refresh_banned_words" := by simpa using h
    rw [hpayload]
    rfl
  next => cases h

/-! ### Two nodes -/

def asciiAlphabet : Alphabet where
  downcase s := String.ofList (s.toList.map Char.toLower)
  letterOrNumber c := c.isAlphanum

def refreshPayload : String := "\x7b\"action\":\"refresh_banned_words\",\"timestamp\":0\x7d"

def refreshReader : Reader where
  decode text := if text = refreshPayload then
    some (.object [("action", .string "refresh_banned_words"), ("timestamp", .integer 0)]) else none
  validIp _ := false

/-- Two nodes come up, load their caches and connect. -/
def twoNodes : List Event :=
  [.join "phoenix@a", .join "phoenix@b", .startModeration 0, .startModeration 1,
    .readEnabled 0 true, .readWords 0 true, .readEnabled 1 true, .readWords 1 true,
    .connect 0 1000 100 ["phoenix@a", "phoenix@b"] 300000 [],
    .connect 1 1000 100 ["phoenix@a", "phoenix@b"] 300000 []]

/-- A word is banned, and the entry goes to the first of them, which loads its cache. -/
def wordBanned : List Event :=
  [.write ⟨none, [" Spam! "]⟩, .publish ["payload", refreshPayload], .read 0 true, .read 0 true,
    .handle 0 false, .readEnabled 0 true, .readWords 0 true]

/-- Both nodes have the word when the second one has loaded its cache by itself. -/
theorem bothNodes_stored : ∃ s, Run (step asciiAlphabet refreshReader 100) Always (start ⟨none, []⟩)
      (twoNodes ++ wordBanned ++ [.timer 1, .readEnabled 1 true, .readWords 1 true]) s ∧
    ∃ node ∈ s.nodes, node.name = "phoenix@b" ∧ ∃ m ∈ node.moderation,
      m.cache.words = ["spam"] ∧ m.cache.Stores asciiAlphabet s.keys := by
  obtain ⟨s, hrun, hs⟩ : ∃ s, Run (step asciiAlphabet refreshReader 100) Always (start ⟨none, []⟩)
      (twoNodes ++ wordBanned ++ [.timer 1, .readEnabled 1 true, .readWords 1 true]) s ∧
      decide (s.changedAt < 1 ∧ s.Applied 1 ∧ ∃ node ∈ s.nodes, node.name = "phoenix@b" ∧
        ∃ m ∈ node.moderation, m.cache.words = ["spam"] ∧ m.started = true) = true :=
    exists_run_of_execWhere (by decide +kernel)
  rw [decide_eq_true_eq] at hs
  obtain ⟨hid, happlied, node, hnode, hname, m, hm, hwords, hstarted⟩ := hs
  exact ⟨s, hrun, node, hnode, hname, m, hm, hwords,
    stored_of_applied hrun hid happlied hnode hm hstarted⟩

end BannedWords
