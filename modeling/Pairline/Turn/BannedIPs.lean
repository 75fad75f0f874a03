/-
**The ban check of many addresses at once.**

A script looks up the ban keys of a batch of addresses and returns the addresses whose key is there.
A cluster runs a script only if all its keys are in one hash slot, on the shard that has the slot, so
there the addresses are sorted by slot first and one batch is sent for each.  The slots are computed
by the caller, the batches run in any order, and their answers are put into one set.

Main definitions:

* `Turn.BannedIPs.redisClusterSlot` — the slot of a key;
* `Turn.BannedIPs.UniversalClient.run` — the script, on a single server or on a cluster, which refuses
  keys of different slots;
* `Turn.BannedIPs.checkBannedSessionIPs` — the check.

Main results:

* `Turn.BannedIPs.checkBannedSessionIPs_cluster` — **a cluster gives the answer of a single server**.
-/

import Mathlib.Data.Finset.Lattice.Basic
import Mathlib.Data.Finset.Lattice.Lemmas
import Pairline.Crc
import Pairline.Grouping
import Pairline.Turn.PendingFields

set_option relaxedAutoImplicit false
set_option autoImplicit false

namespace Turn.BannedIPs

open ByteSpace (trimSpace trimSpace_trimSpace)
open Control (Sentinel)
open PendingFields (GoString)

/-! ### Slots -/

/-- `redisHashSlotKey`: what stands between the first opening brace and the first closing one after
it, unless that is nothing. -/
def redisHashSlotKey (key : GoString) : GoString :=
  match key.idxOf? 123 with
  | none => key
  | some start =>
      match (key.drop (start + 1)).idxOf? 125 with
      | none | some 0 => key
      | some length => (key.drop (start + 1)).take length

/-- `redisClusterSlot`; the polynomial is added where the highest bit is set. -/
def redisClusterSlot (key : GoString) : ℕ :=
  (Crc.ofBytes 0x1021#16 (redisHashSlotKey key)).toNat % 16384

/-- `BanIPKey`. -/
def banIPKey (ipAddress : GoString) : GoString := "ban:ip:".toUTF8.toList ++ ipAddress

/-! ### Servers -/

/-- A reply of the server, as the client library hands it on. -/
inductive RedisValue (σ : Type)
  | null
  | int (n : ℤ)
  | string (s : σ)
  | slice (values : List (RedisValue σ))
  | other

/-- `redisValueSlice`. -/
def redisValueSlice {σ : Type} : RedisValue σ → Option (List (RedisValue σ))
  | .slice values => some values
  | _ => none

/-- A cluster: the slot of a key, the shard that has a slot, and the keys on each shard. -/
structure Cluster where
  slotOf : GoString → ℕ
  shardOf : ℕ → ℕ
  keys : ℕ → GoString → Bool

/-- The key is on the shard that has its slot. -/
def Cluster.has (c : Cluster) (key : GoString) : Bool := c.keys (c.shardOf (c.slotOf key)) key

/-- `*redis.ClusterClient`, or another client. -/
inductive UniversalClient
  | cluster (c : Cluster)
  | single (has : GoString → Bool)

/-- The keys that the client finds on its server. -/
def UniversalClient.has : UniversalClient → GoString → Bool
  | .cluster c => c.has
  | .single has => has

inductive ScriptError
  /-- The keys of a script are not in one slot. -/
  | crossSlot

/-- `checkBannedSessionIPsBatchScript`: the arguments at the positions of the keys that exist. -/
def checkBannedSessionIPsBatchScript (has : GoString → Bool) (keys args : List GoString) :
    RedisValue GoString :=
  .slice (keys.zipIdx.filterMap fun (key, i) =>
    if has key then args[i]?.map .string else none)

/-- A script runs on one server, in a cluster on the shard of its first key. -/
def UniversalClient.run : UniversalClient → List GoString → List GoString →
    Except ScriptError (RedisValue GoString)
  | .single has, keys, args => .ok (checkBannedSessionIPsBatchScript has keys args)
  | .cluster _, [], args => .ok (checkBannedSessionIPsBatchScript (fun _ => false) [] args)
  | .cluster c, key :: keys, args =>
      if keys.all fun key' => c.slotOf key' = c.slotOf key then
        .ok (checkBannedSessionIPsBatchScript (c.keys (c.shardOf (c.slotOf key))) (key :: keys) args)
      else .error .crossSlot

/-! ### The check -/

/-- `normalizeSessionIPs`: trimmed, without the empty one, each once. -/
def normalizeSessionIPs (sessionIPs : List GoString) : List GoString :=
  ((sessionIPs.map trimSpace).filter (· ≠ [])).eraseDups

/-- What a value of the reply adds to the banned addresses. -/
def bannedValue : RedisValue GoString → Option (List GoString)
  | .string value => some (if trimSpace value = [] then [] else [trimSpace value])
  | _ => none

def runBannedSessionIPBatch (client : UniversalClient) (sessionIPs : List GoString) :
    Except Sentinel (List GoString) :=
  if sessionIPs = [] then .ok []
  else
    match client.run (sessionIPs.map banIPKey) sessionIPs with
    | .error _ => .error .validationBackend
    | .ok values =>
        match (redisValueSlice values).bind fun rawValues => rawValues.mapM bannedValue with
        | none => .error .validationBackend
        | some banned => .ok banned.flatten

def groupSessionIPsByClusterSlot (sessionIPs : List GoString) : List (ℕ × List GoString) :=
  Grouping.groups (fun sessionIP => redisClusterSlot (banIPKey sessionIP)) sessionIPs

/-- The batches, in the order in which their answers are put into the set.  A map is gone through in
any order, and so its batches may come in any. -/
def batches (order : List (List GoString) → List (List GoString)) (normalized : List GoString) :
    UniversalClient → List (List GoString)
  | .cluster _ => order ((groupSessionIPsByClusterSlot normalized).map Prod.snd)
  | .single _ => [normalized]

/-- The set of the banned addresses that the batches return; all are run, and none may fail. -/
def bannedSet (client : UniversalClient) : List (List GoString) → Except Sentinel (Finset GoString)
  | [] => .ok ∅
  | group :: groups =>
      match runBannedSessionIPBatch client group, bannedSet client groups with
      | .ok banned, .ok bannedRest => .ok (banned.toFinset ∪ bannedRest)
      | .error cause, _ | _, .error cause => .error cause

/-- `CheckBannedSessionIPs`. -/
def checkBannedSessionIPs (client : UniversalClient)
    (order : List (List GoString) → List (List GoString)) (sessionIPs : List GoString) :
    Except Sentinel (List GoString) :=
  let normalized := normalizeSessionIPs sessionIPs
  if normalized = [] then .ok []
  else
    match bannedSet client (batches order normalized client) with
    | .error _ => .error .validationBackend
    | .ok banned => .ok (normalized.filter (· ∈ banned))

/-! ### One batch -/

/-- The script returns the addresses of a batch whose ban key exists. -/
theorem script_ban (has : GoString → Bool) (sessionIPs : List GoString) :
    checkBannedSessionIPsBatchScript has (sessionIPs.map banIPKey) sessionIPs =
      .slice ((sessionIPs.filter fun ip => has (banIPKey ip)).map .string) := by
  -- positions are counted from an offset, of which the arguments before it are dropped
  have hgen : ∀ (rest done : List GoString),
      ((rest.map banIPKey).zipIdx done.length).filterMap (fun (key, i) =>
        if has key then (done ++ rest)[i]?.map RedisValue.string else none) =
      (rest.filter fun ip => has (banIPKey ip)).map .string := by
    intro rest
    induction rest with
    | nil => intro done; rfl
    | cons ip rest ih =>
        intro done
        have hnext := ih (done ++ [ip])
        rw [List.length_append, List.append_assoc, List.singleton_append] at hnext
        rw [List.map_cons, List.zipIdx_cons, List.filterMap_cons]
        by_cases hip : has (banIPKey ip) = true
        · simp only [hip, if_true, List.getElem?_append_right le_rfl, Nat.sub_self,
            List.getElem?_cons_zero, Option.map_some, List.filter_cons_of_pos, List.map_cons]
          exact congrArg _ hnext
        · simp only [hip, Bool.false_eq_true, if_false]
          rw [List.filter_cons_of_neg (by simpa using hip)]
          exact hnext
  exact congrArg RedisValue.slice (hgen sessionIPs [])

/-- Addresses that are trimmed and not empty come back as they are. -/
theorem mapM_bannedValue {values : List GoString}
    (h : ∀ ip ∈ values, trimSpace ip = ip ∧ ip ≠ []) :
    (values.map RedisValue.string).mapM bannedValue = some (values.map fun ip => [ip]) := by
  induction values with
  | nil => rfl
  | cons ip values ih =>
      obtain ⟨htrim, hne⟩ := h ip List.mem_cons_self
      rw [List.map_cons, List.mapM_cons, ih fun ip' hip' => h ip' (List.mem_cons_of_mem _ hip'),
        bannedValue, htrim, if_neg hne]
      rfl

/-- **A batch of trimmed addresses, whose script is run, returns those that are banned.** -/
theorem runBannedSessionIPBatch_eq {client : UniversalClient} {has : GoString → Bool}
    {sessionIPs : List GoString} (h : ∀ ip ∈ sessionIPs, trimSpace ip = ip ∧ ip ≠ [])
    (hrun : sessionIPs ≠ [] → client.run (sessionIPs.map banIPKey) sessionIPs =
      .ok (checkBannedSessionIPsBatchScript has (sessionIPs.map banIPKey) sessionIPs)) :
    runBannedSessionIPBatch client sessionIPs =
      .ok (sessionIPs.filter fun ip => has (banIPKey ip)) := by
  unfold runBannedSessionIPBatch
  by_cases hnil : sessionIPs = []
  · rw [if_pos hnil, hnil]
    rfl
  · rw [if_neg hnil, hrun hnil, script_ban]
    simp only [redisValueSlice, Option.bind_some]
    rw [mapM_bannedValue fun ip hip => h ip (List.mem_filter.1 hip).1]
    exact congrArg Except.ok (List.flatMap_singleton' _)

/-! ### All batches -/

/-- What the set holds when every batch returns those of its addresses that are banned. -/
theorem bannedSet_eq {client : UniversalClient} {has : GoString → Bool} {groups : List (List GoString)}
    (h : ∀ group ∈ groups, runBannedSessionIPBatch client group =
      .ok (group.filter fun ip => has (banIPKey ip))) :
    bannedSet client groups = .ok (groups.flatten.filter fun ip => has (banIPKey ip)).toFinset := by
  induction groups with
  | nil => rfl
  | cons group groups ih =>
      rw [bannedSet, h group List.mem_cons_self,
        ih fun group' hgroup' => h group' (List.mem_cons_of_mem _ hgroup'), List.flatten_cons,
        List.filter_append, List.toFinset_append]

theorem mem_normalizeSessionIPs {sessionIPs : List GoString} {ip : GoString}
    (h : ip ∈ normalizeSessionIPs sessionIPs) : trimSpace ip = ip ∧ ip ≠ [] := by
  obtain ⟨hmem, hne⟩ := List.mem_filter.1 (List.mem_eraseDups.1 h)
  obtain ⟨ip', -, rfl⟩ := List.mem_map.1 hmem
  exact ⟨trimSpace_trimSpace ip', by simpa using hne⟩

/-- **The check, when its batches hold the normalized addresses and none is refused**: the normalized
addresses that are banned. -/
theorem checkBannedSessionIPs_eq {client : UniversalClient}
    {order : List (List GoString) → List (List GoString)} {has : GoString → Bool}
    {sessionIPs : List GoString}
    (hperm : (batches order (normalizeSessionIPs sessionIPs) client).flatten.Perm
      (normalizeSessionIPs sessionIPs))
    (h : ∀ group ∈ batches order (normalizeSessionIPs sessionIPs) client,
      runBannedSessionIPBatch client group = .ok (group.filter fun ip => has (banIPKey ip))) :
    checkBannedSessionIPs client order sessionIPs =
      .ok ((normalizeSessionIPs sessionIPs).filter fun ip => has (banIPKey ip)) := by
  unfold checkBannedSessionIPs
  by_cases hnil : normalizeSessionIPs sessionIPs = []
  · simp only [hnil, if_true, List.filter_nil]
  · simp only [hnil, if_false, bannedSet_eq h]
    refine congrArg Except.ok (List.filter_congr fun ip hip => ?_)
    rw [Bool.eq_iff_iff, decide_eq_true_iff, List.mem_toFinset, List.mem_filter]
    exact and_iff_right (hperm.mem_iff.2 hip)

/-- The single batch of a single server. -/
theorem checkBannedSessionIPs_single (has : GoString → Bool)
    (order : List (List GoString) → List (List GoString)) (sessionIPs : List GoString) :
    checkBannedSessionIPs (.single has) order sessionIPs =
      .ok ((normalizeSessionIPs sessionIPs).filter fun ip => has (banIPKey ip)) := by
  refine checkBannedSessionIPs_eq ?_ fun group hgroup => ?_
  · rw [batches, List.flatten_singleton]
  · rw [List.mem_singleton.1 hgroup]
    exact runBannedSessionIPBatch_eq (fun ip => mem_normalizeSessionIPs) fun _ => rfl

/-- A cluster runs the script of a batch whose keys are in one slot, and there it finds the keys that
are in the cluster. -/
theorem run_cluster {c : Cluster} {sessionIPs : List GoString} (hne : sessionIPs ≠ [])
    (hslot : ∀ ip ∈ sessionIPs, ∀ ip' ∈ sessionIPs,
      c.slotOf (banIPKey ip') = c.slotOf (banIPKey ip)) :
    (UniversalClient.cluster c).run (sessionIPs.map banIPKey) sessionIPs =
      .ok (checkBannedSessionIPsBatchScript c.has (sessionIPs.map banIPKey) sessionIPs) := by
  obtain ⟨ip, rest, rfl⟩ := List.exists_cons_of_ne_nil hne
  have hall : (rest.map banIPKey).all
      (fun key' => c.slotOf key' = c.slotOf (banIPKey ip)) = true := by
    rw [List.all_map, List.all_eq_true]
    intro ip' hip'
    exact decide_eq_true (hslot ip List.mem_cons_self ip' (List.mem_cons_of_mem _ hip'))
  rw [List.map_cons, UniversalClient.run, if_pos hall, ← List.map_cons, script_ban, script_ban]
  have hfilter : ((ip :: rest).filter fun ip' =>
      c.keys (c.shardOf (c.slotOf (banIPKey ip))) (banIPKey ip')) =
      (ip :: rest).filter fun ip' => c.has (banIPKey ip') :=
    List.filter_congr fun ip' hip' => by
      rw [Cluster.has, hslot ip List.mem_cons_self ip' hip']
  rw [hfilter]

/-- **A cluster gives the answer of a single server**: for any addresses, any keys on the shards and
any order of the batches, the check finds the same addresses as on one server that has all keys of the
cluster.  The server may compute slots in its own way, as long as keys that have the same slot for the
caller have the same slot there. -/
theorem checkBannedSessionIPs_cluster (c : Cluster)
    (hslot : ∀ key key', redisClusterSlot key = redisClusterSlot key' → c.slotOf key = c.slotOf key')
    (order order' : List (List GoString) → List (List GoString))
    (horder : ∀ groups, (order groups).Perm groups) (sessionIPs : List GoString) :
    checkBannedSessionIPs (.cluster c) order sessionIPs =
      checkBannedSessionIPs (.single c.has) order' sessionIPs := by
  rw [checkBannedSessionIPs_single]
  refine checkBannedSessionIPs_eq ?_ fun group hgroup => ?_
  · refine (horder _).flatten.trans ?_
    rw [← List.flatMap_def]
    exact Grouping.perm_groups _ _
  · obtain ⟨entry, hentry, rfl⟩ := List.mem_map.1 ((horder _).mem_iff.1 hgroup)
    have hkey := Grouping.eq_of_mem_groups hentry
    have hmem : ∀ ip ∈ entry.2, ip ∈ normalizeSessionIPs sessionIPs := fun ip hip =>
      (Grouping.perm_groups _ _).mem_iff.1 (List.mem_flatMap.2 ⟨entry, hentry, hip⟩)
    refine runBannedSessionIPBatch_eq (fun ip hip => mem_normalizeSessionIPs (hmem ip hip))
      fun hne => run_cluster hne fun ip hip ip' hip' => ?_
    exact hslot _ _ ((hkey ip' hip').trans (hkey ip hip).symm)

/-- The slot of a key as a server computes it, by a table. -/
def tableSlot (key : GoString) : ℕ :=
  ((redisHashSlotKey key).foldl
    (fun crc b => Crc.byteOfTable 0x1021#16 crc b.toBitVec) 0).toNat % 16384

/-- Both compute the same slots. -/
theorem tableSlot_eq (key : GoString) : tableSlot key = redisClusterSlot key := by
  have hbyte : (fun (crc : BitVec 16) (b : UInt8) =>
      Crc.byteOfTable 0x1021#16 crc b.toBitVec) = fun crc b => Crc.byte 0x1021#16 crc b.toBitVec :=
    funext fun crc => funext fun b => (Crc.byte_eq_byteOfTable _ (by decide) crc _).symm
  rw [tableSlot, hbyte]
  rfl

/-- Two shards, each with half of the slots, and a banned address on each. -/
def twoShards : Cluster where
  slotOf := tableSlot
  shardOf slot := slot / 8192
  keys
    | 0 => fun key => key = banIPKey "192.0.2.3".toUTF8.toList
    | _ => fun key => key = banIPKey "192.0.2.1".toUTF8.toList

/-- Addresses of both shards, one of them with a blank before it, one twice, and a blank. -/
theorem checkBannedSessionIPs_cluster_twoShards :
    checkBannedSessionIPs (.cluster twoShards) List.reverse
      (["192.0.2.1", " 192.0.2.3", "", "192.0.2.2", "192.0.2.1"].map (·.toUTF8.toList)) =
      .ok (["192.0.2.1", "192.0.2.3"].map (·.toUTF8.toList)) := by
  have hslot : ∀ key key', redisClusterSlot key = redisClusterSlot key' →
      twoShards.slotOf key = twoShards.slotOf key' := by
    intro key key' h
    change tableSlot key = tableSlot key'
    rw [tableSlot_eq, tableSlot_eq, h]
  rw [checkBannedSessionIPs_cluster twoShards hslot List.reverse id
    fun groups => List.reverse_perm groups]
  decide +kernel

end Turn.BannedIPs
