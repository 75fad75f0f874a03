/-
**Queues of the matchmaker and who may meet in them.**

A waiting session stands in the queues of its interests and, after a while, in wider ones.  What a
sweep of a queue knows of a session is its queue metadata and how long it has waited; whether two
sessions may be paired depends on these and on the kind of the queue, which is read off its key.

Main definitions:

* `Matchmaker.QueueMeta`, `Matchmaker.Candidate` — a waiting session as a sweep sees it;
* `Matchmaker.strictBucketQueueKey`, … — the keys of the queues;
* `Matchmaker.compatible` — whether two candidates may be paired in a queue.

Main results:

* `Matchmaker.compatible_comm` — compatibility is symmetric;
* `Matchmaker.strictBucketQueue_strictBucketQueueKey` — the key of a strict queue is recognised.
-/

import Mathlib.Data.List.Basic
import Mathlib.Data.List.Infix

set_option relaxedAutoImplicit false
set_option autoImplicit false

namespace Matchmaker

/-! ### Sessions in a queue -/

abbrev SessionId := String

/-- The queue metadata of a session, as far as a sweep reads it. -/
structure QueueMeta where
  mode : String
  interestBuckets : List String
  lastPartnerId : Option SessionId
  deriving DecidableEq

/-- A waiting session in the pool of a sweep, with its waiting time in milliseconds. -/
structure Candidate where
  sid : SessionId
  session : QueueMeta
  wait : ℤ
  deriving DecidableEq

/-- The settings that the matchmaker reads. -/
structure Config where
  matchFrontierSize : ℕ
  matchRelaxedWaitMs : ℕ
  matchOverflowWaitMs : ℕ
  matchShardCount : ℕ

/-- The defaults of the settings. -/
def defaultConfig : Config where
  matchFrontierSize := 40
  matchRelaxedWaitMs := 5000
  matchOverflowWaitMs := 15000
  matchShardCount := 12

/-! ### Keys -/

def allowedModes : List String := ["lobby", "text", "video"]

def normalizeMode (mode : String) : String := if mode ∈ allowedModes then mode else "text"

/-- The hash tag of a route. -/
def tag (config : Config) (mode : String) (shard : ℕ) : String :=
  "\x7b" ++ normalizeMode mode ++ ":" ++ toString (shard % config.matchShardCount) ++ "\x7d"

def strictBucketQueueKey (config : Config) (mode : String) (shard : ℕ) (bucket : String) : String :=
  "matchmaking_queue:" ++ tag config mode shard ++ ":bucket:strict:" ++ bucket

def relaxedBucketQueueKey (config : Config) (mode : String) (shard : ℕ) (family : String) :
    String :=
  "matchmaking_queue:" ++ tag config mode shard ++ ":bucket:relaxed:" ++ family

def randomQueueKey (config : Config) (mode : String) (shard : ℕ) : String :=
  "matchmaking_queue:" ++ tag config mode shard ++ ":random:local"

def sharedRandomQueueKey (config : Config) (mode : String) (shard : ℕ) : String :=
  "matchmaking_queue:" ++ tag config mode shard ++ ":random:shared"

/-- `String.contains?`. -/
def containsString (s pattern : String) : Bool := pattern.toList <:+: s.toList

/-- `String.ends_with?`. -/
def endsWithString (s pattern : String) : Bool := pattern.toList <:+ s.toList

def strictBucketQueue (queueKey : String) : Bool := containsString queueKey ":bucket:strict:"

def relaxedBucketQueue (queueKey : String) : Bool := containsString queueKey ":bucket:relaxed:"

def sharedRandomQueue (queueKey : String) : Bool := endsWithString queueKey ":random:shared"

def randomQueue (queueKey : String) : Bool := containsString queueKey ":random:"

/-- The key of a strict queue is recognised as one. -/
theorem strictBucketQueue_strictBucketQueueKey (config : Config) (mode : String) (shard : ℕ)
    (bucket : String) :
    strictBucketQueue (strictBucketQueueKey config mode shard bucket) = true := by
  unfold strictBucketQueue containsString strictBucketQueueKey
  rw [decide_eq_true_eq, String.toList_append, String.toList_append]
  exact List.infix_append _ _ _

/-! ### Compatibility -/

/-- Whether the waiting time opens a wider queue; a threshold of zero opens it at once. -/
def waitedFor (threshold : ℕ) (interestBuckets : List String) (wait : ℤ) : Bool :=
  interestBuckets = [] || threshold = 0 || decide ((threshold : ℤ) ≤ wait)

def canRelaxInterestMatch (config : Config) (interestBuckets : List String) (wait : ℤ) : Bool :=
  waitedFor config.matchRelaxedWaitMs interestBuckets wait

def canMatchInRandomQueue (config : Config) (interestBuckets : List String) (wait : ℤ) : Bool :=
  waitedFor config.matchOverflowWaitMs interestBuckets wait

def canMatchInSharedRandomQueue (config : Config) (interestBuckets : List String) (wait : ℤ) :
    Bool :=
  waitedFor config.matchRelaxedWaitMs interestBuckets wait

/-- Two sets of interest buckets have an element in common. -/
def sharedInterest (buckets buckets' : List String) : Bool :=
  buckets.any fun bucket => decide (bucket ∈ buckets')

/-- **Whether two candidates may be paired in a queue.** -/
def compatible (config : Config) (queueKey : String) (c c' : Candidate) : Bool :=
  if c.session.mode ≠ c'.session.mode then false
  else
    let shared := sharedInterest c.session.interestBuckets c'.session.interestBuckets
    if strictBucketQueue queueKey then shared
    else if relaxedBucketQueue queueKey then
      shared || (canRelaxInterestMatch config c.session.interestBuckets c.wait &&
        canRelaxInterestMatch config c'.session.interestBuckets c'.wait)
    else if sharedRandomQueue queueKey then
      canMatchInSharedRandomQueue config c.session.interestBuckets c.wait &&
        canMatchInSharedRandomQueue config c'.session.interestBuckets c'.wait
    else if randomQueue queueKey then
      canMatchInRandomQueue config c.session.interestBuckets c.wait &&
        canMatchInRandomQueue config c'.session.interestBuckets c'.wait
    else shared

theorem sharedInterest_iff {buckets buckets' : List String} :
    sharedInterest buckets buckets' = true ↔ ∃ bucket ∈ buckets, bucket ∈ buckets' := by
  simp [sharedInterest]

theorem sharedInterest_comm (buckets buckets' : List String) :
    sharedInterest buckets buckets' = sharedInterest buckets' buckets := by
  rw [Bool.eq_iff_iff, sharedInterest_iff, sharedInterest_iff]
  constructor
  · rintro ⟨bucket, h, h'⟩
    exact ⟨bucket, h', h⟩
  · rintro ⟨bucket, h, h'⟩
    exact ⟨bucket, h', h⟩

/-- **Compatibility is symmetric.** -/
theorem compatible_comm (config : Config) (queueKey : String) (c c' : Candidate) :
    compatible config queueKey c c' = compatible config queueKey c' c := by
  unfold compatible
  by_cases hmode : c.session.mode = c'.session.mode
  · simp only [hmode, ne_eq, not_true_eq_false, if_false,
      sharedInterest_comm c.session.interestBuckets, Bool.and_comm]
  · rw [if_pos hmode, if_pos fun h => hmode h.symm]

end Matchmaker
