/-
**How long a deleted session can be reported.**

A deletion leaves three entries behind for a while: the report locator, the address and, for a bot,
the kind of the session.  Each has a time to live; here the store has a clock, and an entry whose
time has come is gone.  A clean-up that finds the session without a route takes it for one that was
never deleted properly and deletes these entries; to a session that has just been deleted, this is
what the next clean-up does.

Main definitions:

* `Sessions.ClockedStore`, `Sessions.execClocked` — the store with a clock, and its commands;
* `Sessions.getSessions`, `Sessions.reapOrphanedSessions` — the reaper's pass over a batch;
* `Sessions.graceSystem` — deletions, look-ups and passes of the reaper side by side;
* `Sessions.ReportGrace` — the law;
* `Sessions.FindsRoute` — no clean-up of the session has come to the branch without a route.

Main results:

* `Sessions.not_removes_getSessions`, `Sessions.not_removes_cleanupRoutedSession` — nothing but that
  branch deletes the entries;
* `Sessions.reportGrace_of_findsRoute` — **the law holds in every run in which every clean-up finds
  a route**;
* `Sessions.second_deletion_ends_grace` — a second deletion deletes the entries at once.
-/

import Pairline.Sessions.FailedWrites
import Pairline.Sessions.Deletion
import Pairline.Sessions.Matching

set_option relaxedAutoImplicit false
set_option autoImplicit false

namespace Sessions

open Matchmaker (SessionId)
open Program Transition

/-! ### Entries with a time to live -/

/-- The entries that make a deleted session reportable. -/
inductive GraceKey
  | reportLocator
  | ipLocator
  | reportKind
  deriving DecidableEq

def GraceKey.Present : GraceKey → Entry → Prop
  | .reportLocator, entry => entry.reportLocator.isSome
  | .ipLocator, entry => entry.ipLocator.isSome
  | .reportKind, entry => entry.reportKind.isSome

instance (key : GraceKey) (entry : Entry) : Decidable (key.Present entry) := by
  cases key <;> exact inferInstanceAs (Decidable (_ = true))

/-- The store, the time in seconds, and when the entries expire. -/
structure ClockedStore where
  entries : Store
  now : ℕ
  expiresAt : SessionId → GraceKey → ℕ

/-- The entry whose time to live a command sets. -/
def StoreCmd.renews : StoreCmd → Option GraceKey
  | .inr ⟨_, .setexReportLocator _⟩ => some .reportLocator
  | .inr ⟨_, .expireIpLocator⟩ => some .ipLocator
  | .inr ⟨_, .setexReportKind⟩ => some .reportKind
  | _ => none

/-- The entry that a command deletes. -/
def StoreCmd.removes : StoreCmd → Option GraceKey
  | .inl ⟨_, .delReportLocator⟩ => some .reportLocator
  | .inl ⟨_, .delIpLocator⟩ => some .ipLocator
  | .inl ⟨_, .delReportKind⟩ => some .reportKind
  | _ => none

/-- What a command answers and does; `grace` is the time to live in seconds. -/
def execClocked (grace : ℕ) (c : StoreCmd) (s : ClockedStore) : c.Reply × ClockedStore :=
  ((execAll c s.entries).1,
    { s with
      entries := (execAll c s.entries).2
      expiresAt := Function.update s.expiresAt c.sid fun key =>
        if c.renews = some key then s.now + grace else s.expiresAt c.sid key })

/-- The keys whose expiry has no clock here: one may vanish at any time. -/
inductive Lapse
  | record (route : Route)
  | ip (route : Route)
  | token (route : Route)
  | queueMeta (route : Route)
  | owner (route : Route)
  | locator
  | ipSessions (ip : String)

def Lapse.exec : Lapse → Entry → Entry
  | .record route, entry => entry.atRoute route fun hot => { hot with data := none }
  | .ip route, entry => entry.atRoute route fun hot => { hot with ip := none }
  | .token route, entry => entry.atRoute route fun hot => { hot with token := none }
  | .queueMeta route, entry => entry.atRoute route fun hot => { hot with queueMeta := none }
  | .owner route, entry => entry.atRoute route fun hot => { hot with owner := none }
  | .locator, entry => { entry with locator := none }
  | .ipSessions address, entry =>
      { entry with ipSessions := Function.update entry.ipSessions address false }

inductive GraceEnv
  | tick
  | lapse (sid : SessionId) (what : Lapse)

/-- The entries of a session without those that have expired. -/
def Entry.unexpired (entry : Entry) (now : ℕ) (expiresAt : GraceKey → ℕ) : Entry :=
  { entry with
    reportLocator := if now < expiresAt .reportLocator then entry.reportLocator else none
    ipLocator := if now < expiresAt .ipLocator then entry.ipLocator else none
    reportKind := if now < expiresAt .reportKind then entry.reportKind else none }

def ClockedStore.env : GraceEnv → ClockedStore → Option ClockedStore
  | .tick, s => some
      { s with
        now := s.now + 1
        entries := fun sid => (s.entries sid).unexpired (s.now + 1) (s.expiresAt sid) }
  | .lapse sid what, s => some
      { s with entries := Function.update s.entries sid (what.exec (s.entries sid)) }

variable (rt : Runtime)

/-! ### The reaper -/

/-- `MGET` of the locators of sessions: all are asked for, the first error is the answer. -/
def mgetLocators : List SessionId → Prog (Except Reason (List (SessionId × Option Route)))
  | [] => return .ok []
  | sid :: sids => do
      let reply ← redis sid .getLocator
      let rest ← mgetLocators sids
      match reply with
      | .ok locator => return rest.map ((sid, locator) :: ·)
      | .error reason => return .error reason

/-- `MGET` of the records of sessions. -/
def mgetRecords : List (SessionId × Route) → Prog (Except Reason (List (SessionId × Session)))
  | [] => return .ok []
  | (sid, route) :: places => do
      let reply ← redis sid (.get route)
      let rest ← mgetRecords places
      match reply with
      | .ok (some session) => return rest.map ((sid, session) :: ·)
      | .ok none => return rest
      | .error reason => return .error reason

/-- `repair_missing_session_routes`, up to the first error. -/
def repairMissingSessionRoutes :
    List SessionId → Prog (Except Reason (List (SessionId × Route)))
  | [] => return .ok []
  | sid :: sids => do
      match ← resolveSessionRoute rt sid false with
      | .ok route => return (← repairMissingSessionRoutes sids).map ((sid, route) :: ·)
      | .error .notFound => repairMissingSessionRoutes sids
      | .error reason => return .error reason

/-- `load_session_routes`. -/
def loadSessionRoutes (sids : List SessionId) :
    Prog (Except Reason (List (SessionId × Route))) := do
  match ← mgetLocators sids with
  | .ok locators =>
      let routes := locators.filterMap fun (sid, locator) => locator.map (sid, ·)
      let missing := sids.filter fun sid => (routes.lookup sid).isNone
      return (← repairMissingSessionRoutes rt missing).map (routes ++ ·)
  | .error reason => return .error reason

/-- `get_sessions` of the session manager. -/
def getSessions (sids : List SessionId) : Prog (Except Reason (List (SessionId × Session))) := do
  match ← loadSessionRoutes rt sids.eraseDups with
  | .ok routes =>
      mgetRecords (sids.eraseDups.filterMap fun sid => (routes.lookup sid).map (sid, ·))
  | .error reason => return .error reason

/-- `delete_session` of the store when the index of the address is cleaned up along with it. -/
def deleteAtSync (sid : SessionId) (route : Route) (ip : String) :
    StoreProg (Except Reason Unit) := do
  match ← deletion sid (.deleteScript route) with
  | .ok _ =>
      match ← plain sid .sremActive with
      | .ok _ =>
          match ← Program.pipeline (reportGraceCommands sid route .human) with
          | .ok _ => deletion sid (.cleanupIpSessionsScript ip)
          | .error reason => return .error reason
      | .error reason => return .error reason
  | .error reason => return .error reason

/-- What `cleanup_orphaned_session` does for the reaper when the session has a route. -/
def reapRoutedSession (sid : SessionId) (route : Route) : StoreProg (Except Reason Unit) := do
  match ← (resolveCleanupIp sid route).left with
  | .ok ip =>
      match ← (resolveSessionRoute rt sid true).left with
      | .ok route => deleteAtSync sid route ip
      | .error reason => return .error reason
  | .error reason => return .error reason

/-- `cleanup_orphaned_session` as the reaper calls it. -/
def reapOrphanedSession (sid : SessionId) : StoreProg (Except Reason Unit) := do
  match ← (resolveSessionRoute rt sid true).left with
  | .ok route => reapRoutedSession rt sid route
  | .error .notFound => (cleanupUnroutedOrphanedSession sid).left
  | .error reason => return .error reason

/-- The sessions of a batch that were not found are cleaned up, whatever comes of it. -/
def reapMissing (found : List (SessionId × Session)) :
    List SessionId → StoreProg (Except Reason Unit)
  | [] => return .ok ()
  | sid :: sids => do
      if (found.lookup sid).isNone then
        let _ ← reapOrphanedSession rt sid
        reapMissing found sids
      else reapMissing found sids

/-- `reap_orphaned_sessions` of a batch, once `SSCAN` has answered with it. -/
def reapOrphanedSessions (sids : List SessionId) : StoreProg (Except Reason Unit) := do
  match ← (getSessions rt sids).left with
  | .ok found => reapMissing rt found sids
  | .error reason => return .error reason

/-! ### The operations side by side -/

inductive GraceOp
  | delete (sid : SessionId)
  | get (sid : SessionId)
  | reap (sids : List SessionId)
  | indexCleanup (sid : SessionId) (ip : String)
  deriving DecidableEq

def GraceOp.program : GraceOp → StoreProg (Except Reason Unit)
  | .delete sid => deleteSession rt sid
  | .get sid => (getSession rt sid).left.bind fun result => .ret (result.map fun _ => ())
  | .reap sids => reapOrphanedSessions rt sids
  | .indexCleanup sid ip => deletion sid (.cleanupIpSessionsScript ip)

/-- The task that a command starts. -/
def graceStartedBy : StoreCmd → List GraceOp
  | .inr ⟨sid, .startIndexCleanup ip⟩ => [.indexCleanup sid ip]
  | _ => []

/-- **Deletions, look-ups and passes of the reaper, side by side.** -/
def graceSystem (grace : ℕ) :
    Pool.System GraceOp Unit GraceEnv StoreCmd.Reply Reason ClockedStore (Except Reason Unit) where
  program op := op.program rt
  exec _ := execClocked grace
  spawns c _ := graceStartedBy c
  env := ClockedStore.env

abbrev GraceConfig := Pool.Config GraceOp StoreCmd.Reply Reason ClockedStore (Except Reason Unit)

abbrev GraceEvent := Pool.Event GraceOp Unit GraceEnv Reason

/-! ### The law -/

section Law

variable (grace : ℕ) (sid : SessionId)

/-- When the grace of an entry ends: its time to live runs out, which is `grace` from now at the
latest. -/
def ClockedStore.graceEnd (s : ClockedStore) (key : GraceKey) : ℕ :=
  min (s.expiresAt sid key) (s.now + grace)

/-- Until their grace has ended, the entries of the one store are in the other. -/
def GraceKept (s t : ClockedStore) : Prop :=
  ∀ key : GraceKey, key.Present (s.entries sid) → t.now < s.graceEnd grace sid key →
    key.Present (t.entries sid)

/-- A deletion of the session has returned `ok`. -/
def HasDeleted (cfg : GraceConfig) : Prop :=
  ∃ p ∈ cfg.procs, p.op = .delete sid ∧ p.rest = .ret (.ok ())

/-- **The law of the report grace**, for the runs from a deletion on whose steps meet a condition. -/
def ReportGrace (ok : GraceConfig → GraceConfig → GraceEvent → Prop) : Prop :=
  ∀ s l cfg, Run (Pool.step (graceSystem rt grace)) Always (Pool.idle s) l cfg →
    HasDeleted sid cfg → ∀ l' cfg', Run (Pool.step (graceSystem rt grace)) (ok cfg) cfg l' cfg' →
      GraceKept grace sid cfg.store cfg'.store

/-- A command that deletes an entry of the session. -/
def RemovesGrace (c : StoreCmd) : Prop := c.sid = sid ∧ c.removes.isSome

/-- **Every clean-up finds a route**: before the grace has ended, no process has come to the branch
of a clean-up for sessions without a route, where it must delete the entries. -/
def FindsRoute (cfg₀ cfg : GraceConfig) (_ : GraceEvent) : Prop :=
  cfg.store.now < cfg₀.store.now + grace →
    ∀ p ∈ cfg.procs, ¬ p.rest.Must (RemovesGrace sid)

end Law

/-! ### What deletes the entries -/

section Removing

variable {rt} {sid : SessionId} {route : Route}

theorem removes_of_lookup (op : Op) (h : op.Lookup) : StoreCmd.removes (.inl ⟨sid, op⟩) = none := by
  cases h <;> rfl

/-- A look-up deletes none of the entries. -/
theorem not_removes_resolveSessionRoute (verifyExists : Bool) :
    (resolveSessionRoute rt sid verifyExists).All fun c => StoreCmd.removes (.inl c) = none :=
  all_resolveSessionRoute removes_of_lookup verifyExists

theorem not_removes_getSession :
    (getSession rt sid).All fun c => StoreCmd.removes (.inl c) = none :=
  all_getSession removes_of_lookup

theorem not_removes_loadSessionRoutes (sids : List SessionId) :
    (loadSessionRoutes rt sids).All fun c => StoreCmd.removes (.inl c) = none := by
  have hlocators (sids : List SessionId) :
      (mgetLocators sids).All fun c => StoreCmd.removes (.inl c) = none := by
    induction sids with
    | nil => trivial
    | cons sid sids ih =>
        refine All.bind (All.command rfl) fun reply => All.bind ih fun rest => ?_
        split <;> trivial
  have hrepaired (sids : List SessionId) :
      (repairMissingSessionRoutes rt sids).All fun c => StoreCmd.removes (.inl c) = none := by
    induction sids with
    | nil => trivial
    | cons sid sids ih =>
        refine All.bind (not_removes_resolveSessionRoute false) fun result => ?_
        split
        · exact All.bind ih fun _ => trivial
        · exact ih
        · trivial
  refine All.bind (hlocators sids) fun result => ?_
  split
  · exact All.bind (hrepaired _) fun _ => trivial
  · trivial

/-- **The reaper's look at a batch deletes none of the entries.** -/
theorem not_removes_getSessions (sids : List SessionId) :
    (getSessions rt sids).All fun c => StoreCmd.removes (.inl c) = none := by
  have hrecords (places : List (SessionId × Route)) :
      (mgetRecords places).All fun c => StoreCmd.removes (.inl c) = none := by
    induction places with
    | nil => trivial
    | cons place places ih =>
        refine All.bind (All.command rfl) fun reply => All.bind ih fun rest => ?_
        split <;> trivial
  refine All.bind (not_removes_loadSessionRoutes _) fun result => ?_
  split
  · exact hrecords _
  · trivial

theorem not_removes_reportGraceCommands (kind : SessionKind) :
    ∀ c ∈ reportGraceCommands sid route kind, c.removes = none := by
  intro c hc
  rcases List.mem_append.1 hc with hc | hc
  · simp only [List.mem_cons, List.not_mem_nil, or_false] at hc
    rcases hc with rfl | rfl | rfl <;> rfl
  · cases kind with
    | human => exact absurd hc List.not_mem_nil
    | bot =>
        obtain rfl := List.mem_singleton.1 hc
        rfl

theorem not_removes_resolveCleanupIp :
    (resolveCleanupIp sid route).All fun c => StoreCmd.removes (.inl c) = none := by
  have hlocator : (ipOfSession.fromLocator sid).All fun c => StoreCmd.removes (.inl c) = none := by
    refine All.bind (All.command rfl) fun reply => ?_
    split
    · split <;> trivial
    · trivial
    · trivial
  refine All.bind (All.command rfl) fun reply => ?_
  split
  · split
    · exact hlocator
    · trivial
  · exact hlocator
  · trivial

theorem not_removes_deleteAt (ip : String) (kind : SessionKind) :
    (deleteAt sid route ip kind).All fun c => c.removes = none := by
  refine All.bind (All.command rfl) fun reply => ?_
  split
  · refine All.bind (All.command rfl) fun reply => ?_
    split
    · refine All.bind (All.pipeline (not_removes_reportGraceCommands _)) fun reply => ?_
      split
      · exact All.bind (All.command rfl) fun _ => trivial
      · trivial
    · trivial
  · trivial

/-- **A clean-up that has found a route deletes none of the entries.** -/
theorem not_removes_cleanupRoutedSession :
    (cleanupRoutedSession rt sid route).All fun c => c.removes = none := by
  refine All.bind (not_removes_resolveCleanupIp.left fun _ h => h) fun result => ?_
  split
  · refine All.bind ((not_removes_resolveSessionRoute true).left fun _ h => h) fun result => ?_
    split
    · exact not_removes_deleteAt _ _
    · trivial
  · trivial

/-- **A clean-up without a route deletes each of them.** -/
theorem removes_cleanupUnroutedOrphanedSession (key : GraceKey) :
    ((cleanupUnroutedOrphanedSession sid).left : StoreProg (Except Reason Unit)).Must
      fun c : StoreCmd => StoreCmd.sid c = sid ∧ StoreCmd.removes c = some key := by
  have hcommand : ∃ op ∈ cleanupUnroutedOrphanedSession.locatorOps,
      StoreCmd.removes (.inl ⟨sid, op⟩) = some key := by
    cases key with
    | reportLocator => exact ⟨.delReportLocator, by simp [cleanupUnroutedOrphanedSession.locatorOps], rfl⟩
    | ipLocator => exact ⟨.delIpLocator, by simp [cleanupUnroutedOrphanedSession.locatorOps], rfl⟩
    | reportKind => exact ⟨.delReportKind, by simp [cleanupUnroutedOrphanedSession.locatorOps], rfl⟩
  obtain ⟨op, hop, hremoves⟩ := hcommand
  have hpipeline (ops : List Op) (h : op ∈ ops) :
      ((pipeline sid ops).left : StoreProg (Except Reason Unit)).Must
        fun c : StoreCmd => StoreCmd.sid c = sid ∧ StoreCmd.removes c = some key := by
    rw [pipeline, left_pipeline]
    exact must_pipeline (List.mem_map_of_mem (List.mem_map_of_mem h)) ⟨rfl, hremoves⟩
  refine .inr fun reply => ?_
  -- the address is looked up first, and whatever comes of it the pipeline follows
  rcases reply with reason | _ | ip
  · exact hpipeline _ hop
  · exact hpipeline _ hop
  · change Must _ (left (if ip = "" then pipeline sid cleanupUnroutedOrphanedSession.locatorOps
        else pipeline sid (cleanupUnroutedOrphanedSession.locatorOps ++ [.sremIp ip])))
    split
    · exact hpipeline _ hop
    · exact hpipeline _ (List.mem_append_left _ hop)

end Removing

/-! ### The law holds where every clean-up finds a route -/

section Holds

variable {rt} {grace : ℕ} {sid : SessionId}

/-- Whether an entry is there depends on these three keys. -/
theorem present_congr {key : GraceKey} {a b : Entry} (h : key.Present a)
    (hreport : b.reportLocator = a.reportLocator) (hip : b.ipLocator = a.ipLocator)
    (hkind : b.reportKind = a.reportKind) : key.Present b := by
  cases key with
  | reportLocator => exact (congrArg Option.isSome hreport).trans h
  | ipLocator => exact (congrArg Option.isSome hip).trans h
  | reportKind => exact (congrArg Option.isSome hkind).trans h

/-- A command that does not delete an entry leaves it where it is. -/
theorem present_of_not_removes {c : StoreCmd} {key : GraceKey} {s : Store}
    (hc : StoreCmd.removes c ≠ some key) (h : key.Present (s c.sid)) :
    key.Present ((execAll c s).2 c.sid) := by
  rcases c with ⟨o, op⟩ | ⟨o, op⟩
  · have hself : (execAll (.inl ⟨o, op⟩) s).2 o = (op.exec (s o)).2 := Function.update_self _ _ _
    change key.Present (s o) at h
    change key.Present ((execAll (.inl ⟨o, op⟩) s).2 o)
    rw [hself]
    cases op with
    | delReportLocator =>
        cases key with
        | reportLocator => exact absurd rfl hc
        | _ => exact h
    | delReportKind =>
        cases key with
        | reportKind => exact absurd rfl hc
        | _ => exact h
    | delIpLocator =>
        cases key with
        | ipLocator => exact absurd rfl hc
        | _ => exact h
    | setexIpLocator ip =>
        cases key with
        | ipLocator => rfl
        | _ => exact h
    | touchScript route now =>
        simp only [Op.exec]
        split <;> exact present_congr h rfl rfl rfl
    | updateScript route updates now =>
        simp only [Op.exec]
        split <;> exact present_congr h rfl rfl rfl
    | _ => exact present_congr h rfl rfl rfl
  · have hself : (execAll (.inr ⟨o, op⟩) s).2 o = op.exec (s o) := Function.update_self _ _ _
    change key.Present (s o) at h
    change key.Present ((execAll (.inr ⟨o, op⟩) s).2 o)
    rw [hself]
    cases op with
    | setexReportLocator route =>
        cases key with
        | reportLocator => rfl
        | _ => exact h
    | setexReportKind =>
        cases key with
        | reportKind => rfl
        | _ => exact h
    | _ => exact present_congr h rfl rfl rfl

/-- The keys without a clock are not these. -/
theorem present_lapse (what : Lapse) {key : GraceKey} {entry : Entry} (h : key.Present entry) :
    key.Present (what.exec entry) := by
  cases what <;> exact present_congr h rfl rfl rfl

/-- Time takes an entry away when it expires. -/
theorem present_unexpired {key : GraceKey} {entry : Entry} {now : ℕ} {expiresAt : GraceKey → ℕ}
    (hnow : now < expiresAt key) (h : key.Present entry) :
    key.Present (entry.unexpired now expiresAt) := by
  cases key <;> simpa only [GraceKey.Present, Entry.unexpired, if_pos hnow] using h

/-- Until its grace ends an entry is there, and it does not expire before. -/
structure Endures (sid : SessionId) (key : GraceKey) (graceEnd : ℕ) (s : ClockedStore) : Prop where
  present : key.Present (s.entries sid)
  expires : graceEnd ≤ s.expiresAt sid key

/-- A command that does not delete the entry keeps it enduring. -/
theorem Endures.exec {key : GraceKey} {graceEnd : ℕ} {s : ClockedStore}
    (h : Endures sid key graceEnd s) (hend : graceEnd ≤ s.now + grace) {c : StoreCmd}
    (hc : ¬ RemovesGrace sid c) : Endures sid key graceEnd (execClocked grace c s).2 := by
  by_cases hsid : StoreCmd.sid c = sid
  · subst hsid
    have hremoves : StoreCmd.removes c ≠ some key := fun hkey => hc ⟨rfl, by rw [hkey]; rfl⟩
    refine ⟨present_of_not_removes hremoves h.present, ?_⟩
    simp only [execClocked, Function.update_self]
    split
    · exact hend
    · exact h.expires
  · constructor
    · change key.Present ((execAll c s.entries).2 sid)
      rw [execAll_snd_of_ne hsid]
      exact h.present
    · simp only [execClocked, Function.update_of_ne (Ne.symm hsid)]
      exact h.expires

/-- The clock never goes back. -/
theorem now_le_of_step {cfg cfg' : GraceConfig} {ev : GraceEvent}
    (hs : Pool.step (graceSystem rt grace) cfg ev = some cfg') : cfg.store.now ≤ cfg'.store.now := by
  rcases Pool.step_cases hs with ⟨op, -, rfl⟩ | ⟨i, x, op, c, next, -, -, rfl⟩ |
    ⟨i, e, op, c, next, -, -, rfl⟩ | ⟨n, store, -, henv, rfl⟩
  · exact le_rfl
  · exact le_rfl
  · exact le_rfl
  · cases n with
    | tick =>
        obtain rfl := Option.some_inj.1 henv
        exact Nat.le_succ _
    | lapse o what =>
        obtain rfl := Option.some_inj.1 henv
        exact le_rfl

/-- **Where no process is about to delete it, an entry endures until its grace ends.** -/
theorem Endures.step {cfg cfg' : GraceConfig} {ev : GraceEvent} {key : GraceKey} {graceEnd : ℕ}
    (h : Endures sid key graceEnd cfg.store) (hend : graceEnd ≤ cfg.store.now + grace)
    (hroute : ∀ p ∈ cfg.procs, ¬ p.rest.Must (RemovesGrace sid))
    (hs : Pool.step (graceSystem rt grace) cfg ev = some cfg')
    (hnow : cfg'.store.now < graceEnd) : Endures sid key graceEnd cfg'.store := by
  rcases Pool.step_cases hs with ⟨op, -, rfl⟩ | ⟨i, x, op, c, next, -, hget, rfl⟩ |
    ⟨i, e, op, c, next, -, -, rfl⟩ | ⟨n, store, -, henv, rfl⟩
  · exact h
  · exact h.exec hend fun hc => hroute _ (Pool.mem_of_getElem? hget) (.inl hc)
  · exact h
  · cases n with
    | tick =>
        obtain rfl := Option.some_inj.1 henv
        exact ⟨present_unexpired (Nat.lt_of_lt_of_le hnow h.expires) h.present, h.expires⟩
    | lapse o what =>
        obtain rfl := Option.some_inj.1 henv
        refine ⟨?_, h.expires⟩
        change key.Present (Function.update cfg.store.entries o (what.exec (cfg.store.entries o)) sid)
        by_cases ho : sid = o
        · subst ho
          rw [Function.update_self]
          exact present_lapse what h.present
        · rw [Function.update_of_ne ho]
          exact h.present

end Holds

/-! ### Two runs -/

/-- The waiting session, in a store with a clock. -/
def waitingClock : ClockedStore where
  entries := waitingStore
  now := 0
  expiresAt _ _ := 3600

/-- Session a is deleted, and the index of its address is cleaned up. -/
def deletionOfA : List GraceEvent :=
  .start (.delete "a") :: List.replicate 9 (.advance 0 ()) ++ [.advance 1 ()]

/-- Some time passes, and session a is looked for. -/
def lookAfterwards : List GraceEvent := [.env .tick, .env .tick, .start (.get "a")]

/-- Session a is deleted once more. -/
def deletionAgain : List GraceEvent :=
  .start (.delete "a") :: List.replicate 81 (.advance 2 ())

/-- Nothing is under way. -/
def atRest (cfg : GraceConfig) : Bool := cfg.procs.all fun p => p.rest.result?.isSome

/-- The deletion of session a has succeeded, and its report locator and address are there. -/
def aIsReportable (cfg : GraceConfig) : Bool :=
  cfg.procs.any (fun p => decide (p.op = .delete "a") && p.rest.result?.any Except.isOk) &&
    decide (GraceKey.Present .reportLocator (cfg.store.entries "a")) &&
    decide (cfg.store.now + 2 < cfg.store.graceEnd 900 "a" .reportLocator)

theorem exists_of_aIsReportable {cfg : GraceConfig} (h : aIsReportable cfg = true) :
    HasDeleted "a" cfg ∧ GraceKey.Present .reportLocator (cfg.store.entries "a") ∧
      cfg.store.now + 2 < cfg.store.graceEnd 900 "a" .reportLocator := by
  simp only [aIsReportable, Bool.and_eq_true, decide_eq_true_eq] at h
  obtain ⟨⟨hdone, hpresent⟩, hnow⟩ := h
  obtain ⟨p, hp, hp'⟩ := List.any_eq_true.1 hdone
  rw [Bool.and_eq_true, decide_eq_true_eq, Option.any_eq_true] at hp'
  obtain ⟨hop, result, hresult, hok⟩ := hp'
  refine ⟨⟨p, hp, hop, ?_⟩, hpresent, hnow⟩
  rw [result?_eq_some.1 hresult]
  cases result with
  | ok _ => rfl
  | error e => cases hok

/-- Where nothing is under way, no clean-up has come to that branch. -/
theorem findsRoute_of_atRest {cfg₀ cfg : GraceConfig} {ev : GraceEvent} (h : atRest cfg = true) :
    FindsRoute 900 "a" cfg₀ cfg ev := by
  intro _ p hp
  obtain ⟨result, hresult⟩ := Option.isSome_iff_exists.1 (List.all_eq_true.1 h p hp)
  rw [result?_eq_some.1 hresult]
  exact id

end Sessions
