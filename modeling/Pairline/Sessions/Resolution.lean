/-
**Finding the latest record of a session.**

A record is written under its own route, and a session that moves to another shard is written once
more: what was there before stays.  A lookup goes by the locator; when that is gone, the possible
routes are probed one after another.

Main definitions:

* `Sessions.Write`, `Sessions.afterWrites` — what may be done with a record, and the store after it;
* `Sessions.versions` — the records that were written, the latest first;
* `Sessions.FindsLatest` — a lookup finds nothing, or the route of the latest record;
* `Sessions.ProbedBefore` — the order of the routes.

Main results:

* `Sessions.Holds.after` — the store holds the latest version under every route, and the locator
  leads to the latest of all;
* `Sessions.findsLatest_iff` — **a lookup finds the latest record exactly if the locator is left, or
  no older version is probed first**.
-/

import Pairline.Sessions.FailedWrites
import Pairline.Sessions.Mirror
import Pairline.Sessions.Guarding

set_option relaxedAutoImplicit false
set_option autoImplicit false

namespace Sessions

open Matchmaker (SessionId)
open Program

/-! ### Writes -/

/-- What is done with the record of a session. -/
inductive Write
  | persist (session : Session)
  | moveShard (newShard now : ℤ)

variable (rt : Runtime) (sid : SessionId)

/-- The store after a write; what is persisted is a record of the session. -/
def Write.after (s : Store) : Write → Store
  | .persist session => ((persistSession rt { session with id := sid }).run exec s).2
  | .moveShard newShard now => ((moveSessionShard rt sid newShard now).run exec s).2

/-- A store without keys. -/
def bareStore : Store := fun _ => { hot := fun _ => {} }

def afterWrites (writes : List Write) : Store := writes.foldl (Write.after rt sid) bareStore

/-- The records that were written, with the one of a write. -/
def Write.version (versions : List Session) : Write → List Session
  | .persist session => { session with id := sid } :: versions
  | .moveShard newShard now =>
      match versions with
      | [] => []
      | session :: older =>
          if session.redisShard = normalizedShard rt newShard then session :: older
          else
            { session with redisShard := normalizedShard rt newShard, lastActivity := now } ::
              session :: older

/-- **The records that were written**, the latest first. -/
def versions (writes : List Write) : List Session := writes.foldl (Write.version rt sid) []

/-- The locator keys that are lost. -/
structure Lost where
  locator : Bool
  ipLocator : Bool
  reportLocator : Bool

def Lost.apply (lost : Lost) (s : Store) : Store :=
  Function.update s sid
    { s sid with
      locator := if lost.locator then none else (s sid).locator
      ipLocator := if lost.ipLocator then none else (s sid).ipLocator
      reportLocator := if lost.reportLocator then none else (s sid).reportLocator }

/-! ### The law -/

/-- A lookup answers with the route of the latest record, under which it is stored, or finds
nothing. -/
def RouteOfLatest (s : Store) (versions : List Session) : Except Reason Route → Prop
  | .ok route => versions.head?.map (routeForSession rt) = some route ∧
      ((s sid).hot route).data = versions.head?
  | .error _ => True

instance (s : Store) (versions : List Session) (result : Except Reason Route) :
    Decidable (RouteOfLatest rt sid s versions result) := by
  cases result <;> unfold RouteOfLatest <;> infer_instance

/-- **A lookup after writes and losses finds nothing, or the route of the latest record.** -/
def FindsLatest (writes : List Write) (lost : Lost) (verifyExists : Bool) : Prop :=
  let s := lost.apply sid (afterWrites rt sid writes)
  RouteOfLatest rt sid s (versions rt sid writes)
    ((resolveSessionRoute rt sid verifyExists).run exec s).1

instance (writes : List Write) (lost : Lost) (verifyExists : Bool) :
    Decidable (FindsLatest rt sid writes lost verifyExists) := by
  unfold FindsLatest; infer_instance

/-- One route is probed before another. -/
def ProbedBefore (route route' : Route) : Prop :=
  (candidateRoutes rt).idxOf route < (candidateRoutes rt).idxOf route'

/-! ### What the store holds -/

/-- **The store holds the latest version under every route, and the locator leads to the latest of
all.** -/
structure Holds (s : Store) (versions : List Session) : Prop where
  locator : (s sid).locator = versions.head?.map (routeForSession rt)
  data : ∀ route, ((s sid).hot route).data =
    versions.find? fun version => routeForSession rt version = route

variable {rt sid} {s : Store} {older : List Session} {session : Session}

theorem holds_bareStore : Holds rt sid bareStore [] where
  locator := rfl
  data _ := rfl

/-- A record is written under its route, and the locator leads there. -/
theorem entry_persistSession :
    (((persistSession rt session).run exec s).2 session.id).locator =
        some (routeForSession rt session) ∧
      ∀ route, ((((persistSession rt session).run exec s).2 session.id).hot route).data =
        if route = routeForSession rt session then some session
        else ((s session.id).hot route).data := by
  refine ⟨?_, fun route => ?_⟩
  · simp [persistSession, writeSession, persistLocatorsAndIndexes, pipeline, redis, Program.command,
      run_bind, run_pipeline, run, exec, Op.exec, Entry.atRoute]
  · by_cases hroute : route = routeForSession rt session
    · subst hroute
      simp [persistSession, writeSession, persistLocatorsAndIndexes, pipeline, redis,
        Program.command, run_bind, run_pipeline, run, exec, Op.exec, Entry.atRoute]
    · simp [persistSession, writeSession, persistLocatorsAndIndexes, pipeline, redis,
        Program.command, run_bind, run_pipeline, run, exec, Op.exec, Entry.atRoute, hroute]

/-- A record that is written is the latest version. -/
theorem Holds.persist {versions : List Session} (h : Holds rt sid s versions)
    (hid : session.id = sid) :
    Holds rt sid ((persistSession rt session).run exec s).2 (session :: versions) := by
  subst hid
  obtain ⟨hlocator, hdata⟩ := @entry_persistSession rt s session
  refine ⟨hlocator, fun route => ?_⟩
  rw [hdata, h.data, List.find?_cons]
  by_cases hroute : routeForSession rt session = route
  · rw [if_pos hroute.symm, decide_eq_true hroute]
  · rw [if_neg (Ne.symm hroute), decide_eq_false hroute]

/-- The keys of the owner are not among those that a lookup reads. -/
theorem Holds.migrateOwnerRecord {versions : List Session} {oldRoute newRoute : Route}
    (h : Holds rt sid s versions) :
    Holds rt sid ((migrateOwnerRecord sid oldRoute newRoute).run exec s).2 versions := by
  have howner : (Sessions.migrateOwnerRecord sid oldRoute newRoute).run exec s =
      ((), ((s sid).hot oldRoute).owner.elim s fun owner =>
        (exec ⟨sid, .setexOwner newRoute owner⟩ s).2) := by
    have hget : exec ⟨sid, .getOwner oldRoute⟩ s = (((s sid).hot oldRoute).owner, s) :=
      Prod.ext rfl (Function.update_eq_self _ _)
    simp only [Sessions.migrateOwnerRecord, redis, Program.command, bind_eq, call_bind, ret_bind,
      run, hget]
    cases ((s sid).hot oldRoute).owner <;> rfl
  rw [howner]
  cases ((s sid).hot oldRoute).owner with
  | none => exact h
  | some owner =>
      refine ⟨?_, fun route => ?_⟩
      · simpa [exec, Op.exec, Entry.atRoute] using h.locator
      · rw [← h.data route]
        rcases eq_or_ne route newRoute with rfl | hne
        · simp [exec, Op.exec, Entry.atRoute]
        · simp [exec, Op.exec, Entry.atRoute, hne]

/-- The latest version is what is read. -/
theorem Holds.reads {e : Reason} (h : Holds rt sid s (session :: older)) :
    Reads exec e (getSession rt sid) s session 2 := by
  refine reads_getSession rt h.locator ?_
  rw [h.data, List.find?_cons, decide_eq_true rfl]

/-- Where nothing was written, a search finds nothing. -/
theorem Holds.searched_nil (h : Holds rt sid s []) : searched rt s sid = .error .notFound := by
  have hfind : ((candidateRoutes rt).find? fun route => ((s sid).hot route).data.isSome) = none := by
    refine List.find?_eq_none.2 fun route _ => ?_
    rw [h.data]
    simp
  rw [searched, hfind]

/-- **A move writes the latest version once more**, under the route of the new shard. -/
theorem Holds.moveShard {versions : List Session} (h : Holds rt sid s versions)
    (hids : ∀ version ∈ versions, version.id = sid) (newShard now : ℤ) :
    Holds rt sid ((moveSessionShard rt sid newShard now).run exec s).2
      (Write.version rt sid versions (.moveShard newShard now)) := by
  cases versions with
  | nil =>
      have hget : (getSession rt sid).run exec s = (.error .notFound, s) := by
        simp only [getSession, resolveSessionRoute, redis, Program.command, bind_eq, call_bind,
          ret_bind, run, exec_getLocator, h.locator, List.head?_nil, Option.map_none, run_bind,
          run_repairMissingSessionRoute, h.searched_nil]
        rfl
      simp only [moveSessionShard, bind_eq, run_bind, hget]
      exact h
  | cons session older =>
      rw [moveSessionShard, bind_eq, (h.reads (e := .notFound)).run_bind]
      simp only [Write.version]
      split_ifs with hshard
      · exact h
      · rw [bind_eq, run_bind, run_persistSession]
        have hpersist := @Holds.persist rt sid s { session with
          redisShard := normalizedShard rt newShard, lastActivity := now } _ h
          (hids session List.mem_cons_self)
        generalize (persistSession rt _).run exec s = result at hpersist ⊢
        dsimp only
        rw [bind_eq, run_bind]
        exact hpersist.migrateOwnerRecord

/-- Every version is a record of the session. -/
theorem id_of_mem_version {versions : List Session} (hids : ∀ version ∈ versions, version.id = sid)
    (write : Write) : ∀ version ∈ write.version rt sid versions, version.id = sid := by
  cases write with
  | persist session => exact List.forall_mem_cons.2 ⟨rfl, hids⟩
  | moveShard newShard now =>
      cases versions with
      | nil => exact hids
      | cons session older =>
          simp only [Write.version]
          split_ifs
          · exact hids
          · exact List.forall_mem_cons.2 ⟨hids session List.mem_cons_self, hids⟩

theorem Holds.after {versions : List Session} (h : Holds rt sid s versions)
    (hids : ∀ version ∈ versions, version.id = sid) (write : Write) :
    Holds rt sid (write.after rt sid s) (write.version rt sid versions) := by
  cases write with
  | persist session => exact h.persist rfl
  | moveShard newShard now => exact h.moveShard hids newShard now

/-- **What the store holds after any writes.** -/
theorem holds_afterWrites (writes : List Write) :
    Holds rt sid (afterWrites rt sid writes) (versions rt sid writes) := by
  have hfold : ∀ s versions, Holds rt sid s versions → (∀ version ∈ versions, version.id = sid) →
      Holds rt sid (writes.foldl (Write.after rt sid) s)
        (writes.foldl (Write.version rt sid) versions) := by
    induction writes with
    | nil => exact fun _ _ h _ => h
    | cons write writes ih =>
        exact fun s versions h hids => ih _ _ (h.after hids write) (id_of_mem_version hids write)
  exact hfold _ _ holds_bareStore fun _ h => absurd h List.not_mem_nil

/-! ### What a lookup answers -/

/-- A locator that leads to a record is the answer. -/
theorem run_resolveSessionRoute_of_leading {route : Route} {verifyExists : Bool}
    (hlocator : (s sid).locator = some route) (hdata : ((s sid).hot route).data.isSome = true) :
    ((resolveSessionRoute rt sid verifyExists).run exec s).1 = .ok route := by
  cases verifyExists with
  | true => rw [run_resolveSessionRoute_fst, foundRoute_of_leading hlocator hdata]
  | false =>
      simp only [resolveSessionRoute, redis, Program.command, bind_eq, call_bind, ret_bind, run,
        exec_getLocator, hlocator]
      rfl

/-- Without a locator the answer is what a search finds. -/
theorem run_resolveSessionRoute_of_none {verifyExists : Bool} (hlocator : (s sid).locator = none) :
    ((resolveSessionRoute rt sid verifyExists).run exec s).1 = searched rt s sid := by
  simp only [resolveSessionRoute, redis, Program.command, bind_eq, call_bind, ret_bind, run,
    exec_getLocator, hlocator, run_repairMissingSessionRoute]

/-- **What a search finds is a given element** exactly if none that it looks for stands before. -/
theorem find?_eq_some_iff_idxOf {α : Type} [BEq α] [LawfulBEq α] {p : α → Bool} {l : List α} {a : α}
    (hp : p a = true) (ha : a ∈ l) :
    l.find? p = some a ↔ ∀ b, p b = true → ¬ l.idxOf b < l.idxOf a := by
  induction l with
  | nil => exact absurd ha List.not_mem_nil
  | cons c l ih =>
      by_cases hca : c = a
      · subst hca
        simp [hp]
      · have ha' : a ∈ l := (List.mem_cons.1 ha).resolve_left (Ne.symm hca)
        rw [List.idxOf_cons_ne l hca]
        cases hpc : p c with
        | true =>
            -- the head is found, and stands before
            rw [List.find?_cons, hpc]
            refine iff_of_false (fun h => hca (Option.some_inj.1 h)) fun h => h c hpc ?_
            rw [List.idxOf_cons_self]
            exact Nat.succ_pos _
        | false =>
            rw [List.find?_cons, hpc]
            refine (ih ha').trans (forall_congr' fun b => imp_congr_right fun hpb => ?_)
            have hcb : c ≠ b := by
              rintro rfl
              rw [hpb] at hpc
              cases hpc
            rw [List.idxOf_cons_ne l hcb]
            omega

/-! ### The law holds exactly … -/

theorem locator_apply (lost : Lost) :
    (lost.apply sid s sid).locator = if lost.locator then none else (s sid).locator := by
  rw [Lost.apply, Function.update_self]

theorem hot_apply (lost : Lost) : (lost.apply sid s sid).hot = (s sid).hot := by
  rw [Lost.apply, Function.update_self]

/-- A record stands under a route exactly if a version was written there. -/
theorem Holds.isSome_data_iff {versions : List Session} (h : Holds rt sid s versions)
    (route : Route) : ((s sid).hot route).data.isSome = true ↔
      ∃ version ∈ versions, routeForSession rt version = route := by
  rw [h.data, List.find?_isSome]
  simp

/-- **Without its locator, a lookup finds the latest record exactly if no older version is probed
first.** -/
theorem Holds.routeOfLatest_searched_iff (h : Holds rt sid s (session :: older))
    (hshards : 0 < rt.matchShardCount) {t : Store} (hhot : (t sid).hot = (s sid).hot) :
    RouteOfLatest rt sid t (session :: older) (searched rt t sid) ↔
      ∀ version ∈ session :: older,
        ¬ ProbedBefore rt (routeForSession rt version) (routeForSession rt session) := by
  let found (route : Route) : Bool := ((t sid).hot route).data.isSome
  have hfound : ∀ route, found route = true ↔
      ∃ version ∈ session :: older, routeForSession rt version = route := by
    intro route
    change ((t sid).hot route).data.isSome = true ↔ _
    rw [hhot]
    exact h.isSome_data_iff route
  have hlatest : found (routeForSession rt session) = true :=
    (hfound _).2 ⟨session, List.mem_cons_self, rfl⟩
  have hmem := mem_candidateRoutes hshards session
  have hfirst := find?_eq_some_iff_idxOf hlatest hmem
  calc RouteOfLatest rt sid t (session :: older) (searched rt t sid)
      ↔ (candidateRoutes rt).find? found = some (routeForSession rt session) := by
        cases hfind : (candidateRoutes rt).find? found with
        | none => exact absurd hlatest (List.find?_eq_none.1 hfind _ hmem)
        | some route =>
            have hsearched : searched rt t sid = .ok route := by
              rw [searched, hfind]
            rw [hsearched]
            constructor
            · exact fun h => h.1.symm
            · intro hroute
              refine ⟨hroute.symm, ?_⟩
              rw [hhot, h.data, List.find?_cons, decide_eq_true (Option.some_inj.1 hroute.symm)]
              rfl
    _ ↔ ∀ route, found route = true →
          ¬ ProbedBefore rt route (routeForSession rt session) := hfirst
    _ ↔ _ := by
        constructor
        · exact fun h version hversion => h _ ((hfound _).2 ⟨version, hversion, rfl⟩)
        · intro h route hroute
          obtain ⟨version, hversion, rfl⟩ := (hfound route).1 hroute
          exact h version hversion

variable (rt sid)

/-- **A lookup finds the latest record exactly if the locator is left, or no older version stands
under a route that is probed before its own.** -/
theorem findsLatest_iff (hshards : 0 < rt.matchShardCount) (writes : List Write) (lost : Lost)
    (verifyExists : Bool) :
    FindsLatest rt sid writes lost verifyExists ↔
      lost.locator = false ∨ ∀ latest ∈ (versions rt sid writes).head?,
        ∀ version ∈ versions rt sid writes,
          ¬ ProbedBefore rt (routeForSession rt version) (routeForSession rt latest) := by
  have hholds := @holds_afterWrites rt sid writes
  unfold FindsLatest
  generalize versions rt sid writes = versions at hholds ⊢
  generalize afterWrites rt sid writes = s at hholds ⊢
  have hlocator := @locator_apply sid s lost
  have hhot := @hot_apply sid s lost
  dsimp only
  cases versions with
  | nil =>
      have hnone : (lost.apply sid s sid).locator = none := by
        rw [hlocator, hholds.locator]
        split_ifs <;> rfl
      have hsearched : searched rt (lost.apply sid s) sid = .error .notFound :=
        Holds.searched_nil ⟨hnone, fun route => by rw [hhot, hholds.data]⟩
      rw [run_resolveSessionRoute_of_none hnone, hsearched]
      exact iff_of_true trivial (.inr fun latest h => absurd h (Option.not_mem_none latest))
  | cons session older =>
      cases hlost : lost.locator with
      | false =>
          rw [hlost, if_neg Bool.false_ne_true, hholds.locator] at hlocator
          have hdata : ((s sid).hot (routeForSession rt session)).data = some session := by
            rw [hholds.data, List.find?_cons, decide_eq_true rfl]
          rw [run_resolveSessionRoute_of_leading hlocator (by rw [hhot, hdata]; rfl)]
          refine iff_of_true ⟨rfl, ?_⟩ (.inl rfl)
          rw [hhot, hdata]
          rfl
      | true =>
          rw [hlost, if_pos rfl] at hlocator
          rw [run_resolveSessionRoute_of_none hlocator]
          refine (hholds.routeOfLatest_searched_iff hshards hhot).trans ?_
          simp

/-! ### Older copies -/

/-- A session whose record was never moved is found without its locator. -/
theorem findsLatest_of_persisted :
    FindsLatest asciiRuntime "a" [.persist waitingSession, .persist waitingSession]
      ⟨true, true, false⟩ true := by
  have hversions : versions asciiRuntime "a" [.persist waitingSession, .persist waitingSession] =
      [waitingSession, waitingSession] := rfl
  have hiff := findsLatest_iff asciiRuntime "a" (by decide)
    [.persist waitingSession, .persist waitingSession] ⟨true, true, false⟩ true
  rw [hversions] at hiff
  refine hiff.2 (.inr ?_)
  intro latest hlatest version hversion
  obtain rfl := Option.some_inj.1 hlatest
  rcases List.mem_cons.1 hversion with rfl | hversion
  · exact Nat.lt_irrefl _
  · obtain rfl := List.mem_singleton.1 hversion
    exact Nat.lt_irrefl _

/-- **An older copy is found**: the session has moved from shard 4 to shard 7, its locator is lost,
and the probing comes upon the record at shard 4. -/
theorem movedSession_olderFound :
    ¬ FindsLatest asciiRuntime "a" [.persist waitingSession, .moveShard 7 60] ⟨true, false, false⟩
        true ∧
      ((resolveSessionRoute asciiRuntime "a" true).run exec (Lost.apply "a" ⟨true, false, false⟩
        (afterWrites asciiRuntime "a" [.persist waitingSession, .moveShard 7 60]))).1.toOption =
          some ⟨"text", 4⟩ := by
  decide +kernel

end Sessions
