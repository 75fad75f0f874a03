/-
**The locks of sessions.**

An operation on one or more sessions runs under their locks: it takes them one after another in the
order of the ids, gives back what it has taken when one of them is not free, and gives back all of
them when it is done.  A renewer prolongs the leases in the meantime; it may be about to do so when
the locks are already given back.  All the calls of a cluster run side by side.

Main definitions:

* `SessionLock.withLocks`, `SessionLock.withLock` — a function under the locks of sessions;
* `SessionLock.renewLoop` — the renewer of a call;
* `SessionLock.lockSystem` — calls and renewers side by side;
* `SessionLock.InSection` — a call is in its critical section;
* `SessionLock.lockContract` — what a call relies on, keeps to and leaves behind.

Main results:

* `SessionLock.secures_launch` — **every call keeps its contract**;
* `SessionLock.sections_exclude` — **critical sections that share a session do not overlap**, a call
  that has ended holds no lock, and nobody meddles with the locks of another call.
-/

import Mathlib.Data.List.ReduceOption
import Mathlib.Data.List.Sort
import Pairline.Leases
import Pairline.Pool
import Pairline.Sessions.Record

set_option relaxedAutoImplicit false
set_option autoImplicit false

namespace Sessions.SessionLock

open Matchmaker (SessionId)
open Program Transition

/-! ### Commands -/

abbrev LockToken := String

/-- `session_lock_key`: the key of a lock, under the tag of the session's route. -/
structure LockKey where
  route : Route
  sid : SessionId
  deriving DecidableEq

/-- The answers of `get_session_route` for a session without a route. -/
inductive RouteError
  | notFound
  | invalidLocator

/-- The locks that a call has taken, with the sessions they are for. -/
abbrev Acquired := List (SessionId × LockKey)

inductive LockCmd
  | getSessionRoute (sid : SessionId)
  | setNx (key : LockKey) (token : LockToken)
  | startLockRenewer (acquired : Acquired) (token : LockToken)
  | stopRenewer (token : LockToken)
  | receiveStop (token : LockToken)
  | renew (key : LockKey) (token : LockToken)
  | unlock (key : LockKey) (token : LockToken)

/-- The types of the replies; that to the start of a renewer says how often it will get to renew. -/
def LockCmd.Reply : LockCmd → Type
  | .getSessionRoute _ => Except RouteError Route
  | .setNx _ _ => Bool
  | .startLockRenewer _ _ => ℕ
  | .receiveStop _ => Bool
  | _ => Unit

/-- The token that a command carries. -/
def LockCmd.token? : LockCmd → Option LockToken
  | .getSessionRoute _ => none
  | .setNx _ token => some token
  | .startLockRenewer _ token => some token
  | .stopRenewer token => some token
  | .receiveStop token => some token
  | .renew _ token => some token
  | .unlock _ token => some token

/-- A renewer asks whether it is to stop, and renews. -/
def LockCmd.OfRenewer : LockCmd → Prop
  | .receiveStop _ => True
  | .renew _ _ => True
  | _ => False

variable {W : Type} {V : W → Type} {E D R α : Type}

/-- The programs of the calls: commands of the function that runs under the locks, and of the locks
themselves. -/
abbrev LockProg (V : W → Type) (E α : Type) := Program (Sum.elim V LockCmd.Reply) E α

def lock (V : W → Type) (E : Type) (c : LockCmd) : LockProg V E (Except E c.Reply) :=
  Program.command (V := Sum.elim V LockCmd.Reply) (.inr c)

/-! ### Calls -/

/-- What a call ends with: the result of its function, or `{:error, :locked}`; the last is the end of
a renewer. -/
inductive Outcome (R : Type)
  | value (result : R)
  | locked
  | stopped
  deriving DecidableEq

/-- `lock_key`: no key for a session without a route. -/
def lockKey (sid : SessionId) : LockProg V E (Except E (Option LockKey)) := do
  match ← lock V E (.getSessionRoute sid) with
  | .ok (.ok route) => return .ok (some ⟨route, sid⟩)
  | .ok (.error _) => return .ok none
  | .error reason => return .error reason

def releaseAll (token : LockToken) : Acquired → LockProg V E Unit
  | [] => return ()
  | (_, key) :: acquired => do
      let _ ← lock V E (.unlock key token)
      releaseAll token acquired

def acquireAll (token : LockToken) : List SessionId → Acquired → LockProg V E (Option Acquired)
  | [], acquired => return some acquired
  | sid :: rest, acquired => do
      match ← lockKey sid with
      | .ok (some key) =>
          match ← lock V E (.setNx key token) with
          | .ok true => acquireAll token rest (acquired ++ [(sid, key)])
          | _ =>
              releaseAll token acquired
              return none
      | .ok none => acquireAll token rest acquired
      | .error _ =>
          releaseAll token acquired
          return none

/-- The ids in the order in which their locks are taken. -/
def orderedIds (ids : List (Option SessionId)) : List SessionId :=
  ids.reduceOption.eraseDups.insertionSort (· ≤ ·)

/-- `with_locks`; what `fn` ends with may be an exception, which is raised again at the end. -/
def withLocks (token : LockToken) (ids : List (Option SessionId)) (fn : Program V E R) :
    LockProg V E (Outcome R) := do
  match ← acquireAll token (orderedIds ids) [] with
  | some acquired =>
      let _ ← lock V E (.startLockRenewer acquired token)
      let result ← fn.left
      let _ ← lock V E (.stopRenewer token)
      releaseAll token acquired.reverse
      return .value result
  | none => return .locked

def withLock (token : LockToken) (sid : Option SessionId) (fn : Program V E R) :
    LockProg V E (Outcome R) :=
  match sid with
  | none => fn.left.bind fun result => .ret (.value result)
  | some sid => withLocks token [some sid] fn

/-- One round of the renewer. -/
def renewAll (token : LockToken) : Acquired → LockProg V E Unit
  | [] => return ()
  | (_, key) :: acquired => do
      let _ ← lock V E (.renew key token)
      renewAll token acquired

/-- `renew_loop`, as far as it gets. -/
def renewLoop (acquired : Acquired) (token : LockToken) : ℕ → LockProg V E (Outcome R)
  | 0 => return .stopped
  | rounds + 1 => do
      match ← lock V E (.receiveStop token) with
      | .ok true => return .stopped
      | _ =>
          renewAll token acquired
          renewLoop acquired token rounds

/-! ### Calls side by side -/

inductive LockOp (V : W → Type) (E R : Type)
  | withLock (token : LockToken) (sid : Option SessionId) (fn : Program V E R)
  | withLocks (token : LockToken) (ids : List (Option SessionId)) (fn : Program V E R)
  | renewer (acquired : Acquired) (token : LockToken) (rounds : ℕ)

def LockOp.token : LockOp V E R → LockToken
  | .withLock token _ _ => token
  | .withLocks token _ _ => token
  | .renewer _ token _ => token

/-- The sessions that a call asks for. -/
def LockOp.ids : LockOp V E R → List (Option SessionId)
  | .withLock _ sid _ => [sid]
  | .withLocks _ ids _ => ids
  | .renewer _ _ _ => []

def LockOp.IsCall : LockOp V E R → Prop
  | .renewer _ _ _ => False
  | _ => True

def LockOp.program : LockOp V E R → LockProg V E (Outcome R)
  | .withLock token sid fn => SessionLock.withLock token sid fn
  | .withLocks token ids fn => SessionLock.withLocks token ids fn
  | .renewer acquired token rounds => renewLoop acquired token rounds

/-- The locks, the mailboxes of the renewers, and what the functions under the locks work on. -/
structure LockStore (D : Type) where
  now : ℕ
  leases : Leases LockKey LockToken
  stopped : LockToken → Bool
  data : D

/-- `@lock_ttl_ms`. -/
def lockTtlMs : ℕ := 5000

section System

variable (routes : SessionId → Except RouteError Route) (work : (w : W) → D → V w × D)

/-- What a command of the locks answers and does. -/
def LockCmd.exec (rounds : ℕ) : (c : LockCmd) → LockStore D → c.Reply × LockStore D
  | .getSessionRoute sid, s => (routes sid, s)
  | .setNx key token, s =>
      let reply := s.leases.take key token (s.now + lockTtlMs)
      (reply.1, { s with leases := reply.2 })
  | .startLockRenewer _ _, s => (rounds, s)
  | .stopRenewer token, s => ((), { s with stopped := Function.update s.stopped token true })
  | .receiveStop token, s => (s.stopped token, s)
  | .renew key token, s =>
      ((), { s with leases := (s.leases.renew key token (s.now + lockTtlMs)).2 })
  | .unlock key token, s => ((), { s with leases := (s.leases.giveBack key token).2 })

def exec (rounds : ℕ) : (c : W ⊕ LockCmd) → LockStore D → Sum.elim V LockCmd.Reply c × LockStore D
  | .inl w, s => ((work w s.data).1, { s with data := (work w s.data).2 })
  | .inr c, s => c.exec routes rounds s

/-- The renewer that a call starts. -/
def startedBy : (c : W ⊕ LockCmd) → Sum.elim V LockCmd.Reply c → List (LockOp V E R)
  | .inr (.startLockRenewer acquired token), rounds => [.renewer acquired token rounds]
  | _, _ => []

/-- Time passes, and leases whose time is over are gone. -/
def LockStore.tick (s : LockStore D) (d : ℕ) : LockStore D :=
  { s with now := s.now + d, leases := s.leases.lapse (s.now + d) }

/-- **Any number of calls and their renewers, side by side.** -/
def lockSystem : Pool.System (LockOp V E R) ℕ ℕ (Sum.elim V LockCmd.Reply) E (LockStore D)
    (Outcome R) where
  program := LockOp.program
  exec := exec routes work
  spawns := startedBy
  env d s := some (s.tick d)

end System

abbrev LockConfig (V : W → Type) (E D R : Type) :=
  Pool.Config (LockOp V E R) (Sum.elim V LockCmd.Reply) E (LockStore D) (Outcome R)

abbrev LockEvent (V : W → Type) (E R : Type) := Pool.Event (LockOp V E R) ℕ ℕ E

/-! ### What a call relies on and keeps to -/

section Rules

variable (routes : SessionId → Except RouteError Route) (work : (w : W) → D → V w × D)

/-- The locks of all the sessions are held with the token. -/
def HoldsAll (token : LockToken) (ids : List (Option SessionId)) (s : LockStore D) : Prop :=
  ∀ sid, some sid ∈ ids → ∃ route, routes sid = .ok route ∧ s.leases.Held ⟨route, sid⟩ token

/-- The token holds the same locks. -/
def SameHolds (token : LockToken) (s t : LockStore D) : Prop :=
  ∀ key, t.leases.Held key token ↔ s.leases.Held key token

/-- **What a call relies on**: the others take none of its locks away, and give it none. -/
def rely (op : LockOp V E R) (s t : LockStore D) : Prop := op.IsCall → SameHolds op.token s t

/-- **What a call keeps to**: it names its own token only, and it runs its function, until it stops
its renewer, under all of its locks.  Its renewer takes and gives back nothing. -/
def guard (op : LockOp V E R) : W ⊕ LockCmd → LockStore D → Prop
  | .inl _, s => op.IsCall ∧ HoldsAll routes op.token op.ids s
  | .inr c, s => c.token?.all (· = op.token) ∧ (op.IsCall ∨ c.OfRenewer) ∧
      (c = .stopRenewer op.token → HoldsAll routes op.token op.ids s)

/-- **What a call leaves behind**: no lock. -/
def post (op : LockOp V E R) (_ : Outcome R) (s : LockStore D) : Prop :=
  op.IsCall → ∀ key, ¬ s.leases.Held key op.token

def lockContract : Pool.Contract (LockOp V E R) (W ⊕ LockCmd) E (LockStore D) (Outcome R) where
  inv _ := True
  rely := rely
  guard := guard routes
  post := post
  faults _ := False

theorem lawful_lockContract :
    (lockContract routes : Pool.Contract (LockOp V E R) _ E (LockStore D) _).Lawful where
  refl _ _ _ := fun _ _ => Iff.rfl
  trans _ _ _ _ h h' := fun hop key => (h' hop key).trans (h hop key)
  stable _ _ _ _ hpost hrely := fun hop key hheld => hpost hop key ((hrely hop key).1 hheld)

/-- A program of the call keeps to the contract and ends in `Φ`. -/
def Kept (op : LockOp V E R) (p : LockProg V E α) (Φ : α → LockStore D → Prop)
    (s : LockStore D) : Prop :=
  p.Secure (exec routes work) (rely op) (guard routes op) (fun _ => False) Φ s

/-- Exactly these locks are held with the token. -/
def HoldsExactly (token : LockToken) (keys : List LockKey) (s : LockStore D) : Prop :=
  ∀ key, s.leases.Held key token ↔ key ∈ keys

end Rules

section Rules

variable {routes : SessionId → Except RouteError Route} {work : (w : W) → D → V w × D}
  {op : LockOp V E R} {s t : LockStore D} {keys : List LockKey}

theorem HoldsExactly.rely (hop : op.IsCall) (h : HoldsExactly op.token keys s)
    (hrely : rely op s t) : HoldsExactly op.token keys t :=
  fun key => (hrely hop key).trans (h key)

/-- **One command of the locks**, with what comes after it. -/
theorem kept_lock {c : LockCmd} {f : Except E c.Reply → LockProg V E α}
    {Φ : α → LockStore D → Prop} (hguard : ∀ t, rely op s t → guard routes op (.inr c) t)
    (hok : ∀ t rounds, rely op s t → Kept routes work op (f (.ok (c.exec routes rounds t).1)) Φ
      (c.exec routes rounds t).2) :
    Kept routes work op ((lock V E c).bind f) Φ s :=
  fun t ht => ⟨hguard t ht, fun rounds => hok t rounds ht, fun _ he => he.elim⟩

theorem guard_token {c : LockCmd} (hc : c.token? = some op.token) (hop : op.IsCall ∨ c.OfRenewer)
    (hstop : c ≠ .stopRenewer op.token) : guard routes op (.inr c) t :=
  ⟨by simp [hc], hop, fun h => absurd h hstop⟩

/-- **Giving back all that may be held leaves nothing.** -/
theorem kept_releaseAll {acquired : Acquired} (hop : op.IsCall)
    (hs : ∀ key, s.leases.Held key op.token → key ∈ acquired.map Prod.snd) :
    Kept routes work op (releaseAll op.token acquired)
      (fun _ s => ∀ key, ¬ s.leases.Held key op.token) s := by
  induction acquired generalizing s with
  | nil => exact fun key hheld => absurd (hs key hheld) List.not_mem_nil
  | cons head acquired ih =>
      obtain ⟨sid, key⟩ := head
      refine kept_lock (fun t _ => guard_token rfl (.inl hop) nofun) fun t _ ht => ih fun key' hheld => ?_
      obtain ⟨hheld, hother⟩ := Leases.held_giveBack.1 hheld
      rcases List.mem_cons.1 (hs key' ((ht hop key').1 hheld)) with rfl | hmem
      · exact absurd ⟨rfl, rfl⟩ hother
      · exact hmem

/-- What is known when all the locks are taken, or one of them is not free. -/
def Acquires (routes : SessionId → Except RouteError Route) (token : LockToken)
    (sids : List SessionId) (taken : Acquired) (result : Option Acquired) (s : LockStore D) : Prop :=
  match result with
  | some acquired => HoldsExactly token (acquired.map Prod.snd) s ∧
      (∀ key ∈ taken.map Prod.snd, key ∈ acquired.map Prod.snd) ∧
      ∀ sid ∈ sids, ∃ route, routes sid = .ok route ∧ ⟨route, sid⟩ ∈ acquired.map Prod.snd
  | none => ∀ key, ¬ s.leases.Held key token

/-- **Taking the locks one by one**: all of them, or none. -/
theorem kept_acquireAll {sids : List SessionId} {taken : Acquired} (hop : op.IsCall)
    (hroutes : ∀ sid ∈ sids, ∃ route, routes sid = .ok route)
    (hs : HoldsExactly op.token (taken.map Prod.snd) s) :
    Kept routes work op (acquireAll op.token sids taken)
      (Acquires routes op.token sids taken) s := by
  induction sids generalizing s taken with
  | nil => exact ⟨hs, fun _ => id, fun _ h => absurd h List.not_mem_nil⟩
  | cons sid sids ih =>
      obtain ⟨⟨route, hroute⟩, hroutes⟩ := List.forall_mem_cons.1 hroutes
      refine kept_lock (fun t _ => ⟨rfl, .inl hop, nofun⟩) fun t _ ht => ?_
      have htaken := hs.rely hop ht
      simp only [LockCmd.exec, hroute]
      refine kept_lock (fun t _ => guard_token rfl (.inl hop) nofun) fun u _ hu => ?_
      have htaken := htaken.rely hop hu
      -- the key is free, or it is held by this call already or by another
      cases hreply : (u.leases.take ⟨route, sid⟩ op.token (u.now + lockTtlMs)).1 with
      | true =>
          simp only [LockCmd.exec, hreply]
          have hfree := Leases.take_fst.1 hreply
          have hnow : HoldsExactly op.token ((taken ++ [(sid, LockKey.mk route sid)]).map Prod.snd)
              { u with leases := (u.leases.take ⟨route, sid⟩ op.token (u.now + lockTtlMs)).2 } := by
            intro key
            simp [Leases.held_take, hfree, htaken key]
          refine Secure.mono (ih hroutes hnow) fun result v hv => ?_
          cases result with
          | none => exact hv
          | some acquired =>
              obtain ⟨hexactly, hsubset, hall⟩ := hv
              refine ⟨hexactly, fun key hkey => hsubset key ?_, ?_⟩
              · rw [List.map_append]
                exact List.mem_append_left _ hkey
              · refine List.forall_mem_cons.2 ⟨⟨route, hroute, hsubset _ ?_⟩, hall⟩
                simp
      | false =>
          simp only [LockCmd.exec, hreply]
          refine Secure.bind ((kept_releaseAll hop fun key hheld => ?_).mono fun _ _ h => h)
          rw [Leases.held_take] at hheld
          rcases hheld with hheld | ⟨hfree, -⟩
          · exact (htaken key).1 hheld
          · rw [Leases.take_fst.2 hfree] at hreply
            cases hreply

/-- **The function runs under the locks**, and leaves them alone. -/
theorem kept_fn {fn : Program V E R} (hop : op.IsCall)
    (hall : ∀ t : LockStore D, HoldsExactly op.token keys t → HoldsAll routes op.token op.ids t)
    (hs : HoldsExactly op.token keys s) :
    Kept routes work op fn.left (fun _ => HoldsExactly op.token keys) s := by
  induction fn generalizing s with
  | ret result => exact hs
  | call w next ih =>
      intro t ht
      have hnow := hs.rely hop ht
      exact ⟨⟨hop, hall t hnow⟩, fun _ => ih _ hnow, fun _ he => he.elim⟩

theorem mem_orderedIds {ids : List (Option SessionId)} {sid : SessionId} :
    sid ∈ orderedIds ids ↔ some sid ∈ ids := by
  rw [orderedIds, List.mem_insertionSort, List.mem_eraseDups, List.reduceOption_mem_iff]

/-- **A call takes all of its locks, runs its function under them and gives them back**, or it takes
none. -/
theorem kept_withLocks {ids : List (Option SessionId)} {fn : Program V E R} (hop : op.IsCall)
    (hids : op.ids = ids) (hroutes : ∀ sid, some sid ∈ ids → ∃ route, routes sid = .ok route)
    (hs : ∀ key, ¬ s.leases.Held key op.token) :
    Kept routes work op (withLocks op.token ids fn)
      (fun _ s => ∀ key, ¬ s.leases.Held key op.token) s := by
  subst hids
  have hnone : HoldsExactly op.token (([] : Acquired).map Prod.snd) s :=
    fun key => ⟨fun h => absurd h (hs key), fun h => absurd h List.not_mem_nil⟩
  have hacquire := @kept_acquireAll _ _ _ _ _ _ work _ _ _ _ hop
    (fun sid hsid => hroutes sid (mem_orderedIds.1 hsid)) hnone
  refine Secure.bind (hacquire.mono fun result t ht => ?_)
  cases result with
  | none => exact ht
  | some acquired =>
      obtain ⟨hexactly, -, hsids⟩ := ht
      have hall : ∀ t : LockStore D, HoldsExactly op.token (acquired.map Prod.snd) t →
          HoldsAll routes op.token op.ids t := by
        intro t ht sid hsid
        obtain ⟨route, hroute, hmem⟩ := hsids sid (mem_orderedIds.2 hsid)
        exact ⟨route, hroute, (ht _).2 hmem⟩
      refine kept_lock (fun t _ => guard_token rfl (.inl hop) nofun) fun u _ hu => ?_
      refine Secure.bind ((kept_fn hop hall (hexactly.rely hop hu)).mono fun result v hv => ?_)
      refine kept_lock
        (fun t ht => ⟨by simp [LockCmd.token?], .inl hop, fun _ => hall t (hv.rely hop ht)⟩)
        fun w _ hw => ?_
      refine Secure.bind ((kept_releaseAll hop fun key hheld => ?_).mono fun _ _ h => h)
      rw [List.map_reverse, List.mem_reverse]
      exact ((hv.rely hop hw) key).1 hheld

/-- The renewer names the token of its call only. -/
theorem kept_renewAll {acquired acquired' : Acquired} {token : LockToken} {rounds : ℕ} :
    Kept routes work (.renewer acquired token rounds : LockOp V E R) (renewAll token acquired')
      (fun _ _ => True) s := by
  induction acquired' generalizing s with
  | nil => trivial
  | cons head acquired' ih =>
      exact kept_lock (fun t _ => guard_token rfl (.inr trivial) nofun) fun _ _ _ => ih

theorem kept_renewLoop {acquired : Acquired} {token : LockToken} {rounds : ℕ} (n : ℕ) :
    Kept routes work (.renewer acquired token rounds : LockOp V E R)
      (renewLoop acquired token n : LockProg V E (Outcome R)) (fun _ _ => True) s := by
  induction n generalizing s with
  | zero => trivial
  | succ n ih =>
      refine kept_lock (fun t _ => guard_token rfl (.inr trivial) nofun) fun t _ _ => ?_
      cases hstop : t.stopped token with
      | true =>
          simp only [LockCmd.exec, hstop]
          trivial
      | false =>
          simp only [LockCmd.exec, hstop]
          exact Secure.bind (kept_renewAll.mono fun _ _ _ => ih)

/-- **Every call keeps its contract.** -/
theorem secures_launch
    (hroutes : ∀ sid, some sid ∈ op.ids → ∃ route, routes sid = .ok route)
    (hs : op.IsCall → ∀ key, ¬ s.leases.Held key op.token) :
    (lockContract routes).Secures (lockSystem routes work)
      ((lockSystem routes work).launch op) s := by
  cases op with
  | renewer acquired token rounds => exact (kept_renewLoop rounds).mono fun _ _ _ => False.elim
  | withLocks token ids fn =>
      have hkept : Kept routes work (.withLocks token ids fn) (withLocks token ids fn)
          (fun _ s => ∀ key, ¬ s.leases.Held key token) s :=
        kept_withLocks trivial rfl hroutes (hs trivial)
      exact hkept.mono fun _ _ h _ => h
  | withLock token sid fn =>
      cases sid with
      | some sid =>
          have hkept : Kept routes work (.withLock token (some sid) fn)
              (withLocks token [some sid] fn) (fun _ s => ∀ key, ¬ s.leases.Held key token) s :=
            kept_withLocks trivial rfl hroutes (hs trivial)
          exact hkept.mono fun _ _ h _ => h
      | none =>
          -- without a session there is nothing to hold
          have hfn := @kept_fn _ _ _ _ _ routes work (.withLock token none fn) s [] fn trivial
            (fun _ _ sid hsid => by simp [LockOp.ids] at hsid)
            fun key => ⟨fun h => absurd h (hs trivial key), fun h => absurd h List.not_mem_nil⟩
          refine Secure.bind (hfn.mono fun _ t ht _ key hheld => ?_)
          exact absurd ((ht key).1 hheld) List.not_mem_nil

end Rules

/-! ### The law -/

section Law

variable (routes : SessionId → Except RouteError Route) (work : (w : W) → D → V w × D)

/-- **Calls bring tokens of their own and ask for sessions that have a route**; no command of the
store fails, and no lease runs out. -/
def Admissible (cfg : LockConfig V E D R) : LockEvent V E R → Prop
  | .start op => op.IsCall ∧ (∀ p ∈ cfg.procs, p.op.token ≠ op.token) ∧
      ∀ sid, some sid ∈ op.ids → ∃ route, routes sid = .ok route
  | .advance _ _ => True
  | .fail _ _ => False
  | .env d => ∀ key lease, cfg.store.leases key = some lease → cfg.store.now + d < lease.expiresAt

/-- **A call is in its critical section**: it is about to go on with its function, or has just come to
the end of it. -/
def InSection (p : Pool.Process (LockOp V E R) (Sum.elim V LockCmd.Reply) E (Outcome R)) : Prop :=
  (∃ w, p.rest.next? = some (.inl w)) ∨ p.rest.next? = some (.inr (.stopRenewer p.op.token))

/-- A command prolongs a lease or gives a lock back. -/
def LockCmd.Compares : LockCmd → Prop
  | .renew _ _ => True
  | .unlock _ _ => True
  | _ => False

/-- **The locks exclude**: critical sections that share a session do not overlap, a call that was
answered `locked` holds no lock, and no renewal and no release changes the lock of another token. -/
structure Excludes (cfg : LockConfig V E D R) : Prop where
  exclusive : ∀ (i j : ℕ) p q, i ≠ j → cfg.procs[i]? = some p → cfg.procs[j]? = some q →
    InSection p → InSection q → ∀ sid, some sid ∈ p.op.ids → some sid ∉ q.op.ids
  lockedHoldsNone : ∀ p ∈ cfg.procs, p.op.IsCall → p.rest = .ret .locked →
    ∀ key, ¬ cfg.store.leases.Held key p.op.token
  sparesOthers : ∀ (i : ℕ) (op : LockOp V E R) (c : LockCmd) next (rounds : ℕ),
    cfg.procs[i]? = some ⟨op, .call (.inr c) next⟩ → c.Compares →
      Leases.Spares op.token cfg.store.leases (c.exec routes rounds cfg.store).2.leases

/-- What holds between the events of a run. -/
structure Orderly (cfg : LockConfig V E D R) : Prop where
  keeps : (lockContract routes).Keeps (lockSystem routes work) cfg
  distinct : (cfg.procs.map Pool.Process.op).Pairwise fun op op' =>
    op.IsCall → op'.IsCall → op.token ≠ op'.token
  known : ∀ key token, cfg.store.leases.Held key token →
    ∃ op ∈ cfg.procs.map Pool.Process.op, op.token = token

variable {routes work} {cfg cfg' : LockConfig V E D R}

/-- Calls of different places have different tokens. -/
theorem Orderly.token_ne (h : Orderly routes work cfg) {i j : ℕ}
    {p q : Pool.Process (LockOp V E R) (Sum.elim V LockCmd.Reply) E (Outcome R)} (hne : i ≠ j)
    (hp : cfg.procs[i]? = some p) (hq : cfg.procs[j]? = some q) (hcall : p.op.IsCall)
    (hcall' : q.op.IsCall) : p.op.token ≠ q.op.token := by
  have hget : ∀ {k : ℕ} {r}, cfg.procs[k]? = some r →
      (cfg.procs.map Pool.Process.op)[k]? = some r.op := by
    intro k r hr
    rw [List.getElem?_map, hr]
    rfl
  obtain ⟨hi, hop⟩ := List.getElem?_eq_some_iff.1 (hget hp)
  obtain ⟨hj, hop'⟩ := List.getElem?_eq_some_iff.1 (hget hq)
  rcases Nat.lt_or_gt_of_ne hne with hlt | hlt
  · have hpair := List.pairwise_iff_getElem.1 h.distinct i j hi hj hlt
    rw [hop, hop'] at hpair
    exact hpair hcall hcall'
  · have hpair := List.pairwise_iff_getElem.1 h.distinct j i hj hi hlt
    rw [hop, hop'] at hpair
    exact (hpair hcall' hcall).symm

/-- **A command of one call changes no hands for the others.** -/
theorem sameHolds_exec {op op' : LockOp V E R} {c : W ⊕ LockCmd} {s : LockStore D} {rounds : ℕ}
    (hguard : guard routes op c s) (hne : op.IsCall → op'.token ≠ op.token) :
    SameHolds op'.token s (exec routes work rounds c s).2 := by
  intro key
  rcases c with w | c
  · exact Iff.rfl
  · obtain ⟨htoken, hop, -⟩ := hguard
    cases c with
    | setNx key' token =>
        obtain rfl : token = op.token := by simpa [LockCmd.token?] using htoken
        have hother := hne (hop.resolve_right id)
        refine Leases.held_take.trans ⟨fun h => h.resolve_right ?_, .inl⟩
        exact fun h => hother h.2.2
    | unlock key' token =>
        obtain rfl : token = op.token := by simpa [LockCmd.token?] using htoken
        have hother := hne (hop.resolve_right id)
        exact Leases.held_giveBack.trans (and_iff_left fun h => hother h.2)
    | renew key' token => exact Leases.held_renew
    | _ => exact Iff.rfl

/-- A command gives locks to its own call only. -/
theorem held_exec {op : LockOp V E R} {c : W ⊕ LockCmd} {s : LockStore D} {rounds : ℕ}
    (hguard : guard routes op c s) {key : LockKey} {token : LockToken}
    (h : (exec routes work rounds c s).2.leases.Held key token) :
    s.leases.Held key token ∨ token = op.token := by
  rcases c with w | c
  · exact .inl h
  · cases c with
    | setNx key' token' =>
        obtain rfl : token' = op.token := by simpa [LockCmd.token?] using hguard.1
        exact (Leases.held_take.1 h).imp_right fun h => h.2.2
    | unlock key' token' => exact .inl (Leases.held_giveBack.1 h).1
    | renew key' token' => exact .inl (Leases.held_renew.1 h)
    | _ => exact .inl h

/-- What a command starts is a renewer of the call. -/
theorem startedBy_cases {c : W ⊕ LockCmd} {reply : Sum.elim V LockCmd.Reply c}
    {op : LockOp V E R} (h : op ∈ startedBy c reply) : ¬ op.IsCall ∧ op.ids = [] := by
  unfold startedBy at h
  split at h
  next =>
    obtain rfl := List.mem_singleton.1 h
    exact ⟨id, rfl⟩
  next => exact absurd h List.not_mem_nil

/-- **One event keeps the contracts.** -/
theorem Orderly.keeps_step (h : Orderly routes work cfg) {ev : LockEvent V E R}
    (hok : Admissible routes cfg ev) (hs : Pool.step (lockSystem routes work) cfg ev = some cfg') :
    (lockContract routes).Keeps (lockSystem routes work) cfg' := by
  have hrun : Run (Pool.step (lockSystem routes work))
      (fun cfg ev => Admissible routes cfg ev ∧ Orderly routes work cfg) cfg [ev] cfg' :=
    .single ⟨hok, h⟩ hs
  refine Pool.Contract.keeps_of_run (lawful_lockContract routes) ?_ ?_ ?_ ?_ h.keeps hrun
  · rintro cfg op - ⟨⟨-, hfresh, hroutes⟩, horderly⟩
    refine secures_launch hroutes fun _ key hheld => ?_
    obtain ⟨op', hop', htoken⟩ := horderly.known key op.token hheld
    obtain ⟨p, hp, rfl⟩ := List.mem_map.1 hop'
    exact hfresh p hp htoken
  · rintro cfg i rounds op c next - ⟨-, horderly⟩ hget hguard
    refine ⟨trivial, fun op' hop' => ?_, fun j p hne hp => .inl fun hcall => ?_⟩
    · obtain ⟨hcall, hids⟩ := startedBy_cases hop'
      exact secures_launch (by simp [hids]) fun h => absurd h hcall
    · exact sameHolds_exec hguard fun hop => horderly.token_ne hne hp hget hcall hop
  · rintro cfg d store - ⟨hlease, -⟩ htick
    obtain rfl := Option.some_inj.1 htick
    refine ⟨trivial, fun p _ => .inl fun _ key => ?_⟩
    rw [LockStore.tick, Leases.lapse_eq_self hlease]
  · exact fun cfg i e h => h.1

theorem Orderly.step (h : Orderly routes work cfg) {ev : LockEvent V E R}
    (hok : Admissible routes cfg ev) (hs : Pool.step (lockSystem routes work) cfg ev = some cfg') :
    Orderly routes work cfg' := by
  have hkeeps := h.keeps_step hok hs
  rcases Pool.step_cases hs with ⟨op, rfl, rfl⟩ | ⟨i, rounds, op, c, next, -, hget, rfl⟩ |
    ⟨i, e, op, c, next, rfl, -, -⟩ | ⟨d, store, rfl, htick, rfl⟩
  · refine ⟨hkeeps, ?_, fun key token hheld => ?_⟩
    · simp only [List.map_append, List.map_cons, List.map_nil, List.pairwise_append,
        List.mem_singleton]
      refine ⟨h.distinct, List.pairwise_singleton _ _, ?_⟩
      rintro op₁ hop₁ op₂ rfl - -
      obtain ⟨p, hp, rfl⟩ := List.mem_map.1 hop₁
      exact hok.2.1 p hp
    · obtain ⟨op', hop', htoken⟩ := h.known key token hheld
      rw [List.map_append]
      exact ⟨op', List.mem_append_left _ hop', htoken⟩
  · have hguard := h.keeps.guard (lawful_lockContract routes) hget
    refine ⟨hkeeps, ?_, fun key token hheld => ?_⟩
    · rw [Pool.map_op_advance hget, List.pairwise_append]
      refine ⟨h.distinct, ?_, fun _ _ op' hop' _ hcall => absurd hcall (startedBy_cases hop').1⟩
      exact List.pairwise_of_forall_mem_list fun op' hop' _ _ hcall =>
        absurd hcall (startedBy_cases hop').1
    · rw [Pool.map_op_advance hget]
      rcases held_exec hguard hheld with hheld | rfl
      · obtain ⟨op', hop', htoken⟩ := h.known key token hheld
        exact ⟨op', List.mem_append_left _ hop', htoken⟩
      · refine ⟨op, List.mem_append_left _ ?_, rfl⟩
        exact List.mem_map.2 ⟨_, Pool.mem_of_getElem? hget, rfl⟩
  · exact hok.elim
  · obtain rfl := Option.some_inj.1 htick
    refine ⟨hkeeps, h.distinct, fun key token hheld => h.known key token ?_⟩
    have hsame : cfg.store.leases.lapse (cfg.store.now + d) = cfg.store.leases :=
      Leases.lapse_eq_self hok
    rwa [LockStore.tick, hsame] at hheld

/-- A process in its critical section is a call that holds all of its locks. -/
theorem Orderly.holdsAll (h : Orderly routes work cfg) {i : ℕ}
    {p : Pool.Process (LockOp V E R) (Sum.elim V LockCmd.Reply) E (Outcome R)}
    (hget : cfg.procs[i]? = some p) (hp : InSection p) :
    p.op.IsCall ∧ HoldsAll routes p.op.token p.op.ids cfg.store := by
  obtain ⟨op, rest⟩ := p
  cases rest with
  | ret result => rcases hp with ⟨w, hw⟩ | hstop <;> contradiction
  | call c next =>
      have hguard := h.keeps.guard (lawful_lockContract routes) hget
      rcases hp with ⟨w, hw⟩ | hstop
      · obtain rfl := Option.some_inj.1 hw
        exact hguard
      · obtain rfl : c = .inr (.stopRenewer op.token) := Option.some_inj.1 hstop
        exact ⟨hguard.2.1.resolve_right id, hguard.2.2 rfl⟩

theorem Orderly.excludes (h : Orderly routes work cfg) : Excludes routes cfg where
  exclusive i j p q hne hp hq hsection hsection' sid hsid hsid' := by
    obtain ⟨hcall, hholds⟩ := h.holdsAll hp hsection
    obtain ⟨hcall', hholds'⟩ := h.holdsAll hq hsection'
    obtain ⟨route, hroute, hheld⟩ := hholds sid hsid
    obtain ⟨route', hroute', hheld'⟩ := hholds' sid hsid'
    obtain rfl : route = route' := Except.ok.inj (hroute.symm.trans hroute')
    exact h.token_ne hne hp hq hcall hcall' (Leases.held_unique hheld hheld')
  lockedHoldsNone p hp hcall hlocked := by
    have hsecure := h.keeps.2 p hp
    rw [Pool.Contract.Secures, hlocked] at hsecure
    exact hsecure hcall
  sparesOthers i op c next rounds hget hcompares := by
    have htoken := (h.keeps.guard (lawful_lockContract routes) hget).1
    cases c with
    | renew key token =>
        obtain rfl : token = op.token := by simpa [LockCmd.token?] using htoken
        exact Leases.spares_renew
    | unlock key token =>
        obtain rfl : token = op.token := by simpa [LockCmd.token?] using htoken
        exact Leases.spares_giveBack
    | _ => exact hcompares.elim

end Law

/-- **The locks exclude, in every run.** -/
theorem sections_exclude (routes : SessionId → Except RouteError Route)
    (work : (w : W) → D → V w × D) (now : ℕ) (stopped : LockToken → Bool) (data : D)
    {l : List (LockEvent V E R)} {cfg : LockConfig V E D R}
    (h : Run (Pool.step (lockSystem routes work)) (Admissible routes)
      (Pool.idle ⟨now, fun _ => none, stopped, data⟩) l cfg) : Excludes routes cfg := by
  refine (h.invariant (I := Orderly routes work) (fun _ _ _ hi hok hs => hi.step hok hs) ?_).excludes
  refine ⟨⟨trivial, fun p hp => absurd hp List.not_mem_nil⟩, List.Pairwise.nil, ?_⟩
  exact fun key token hheld => absurd hheld Leases.not_held_none

/-- In these runs time stands still, and every session has a route. -/
def contends (cfg : LockConfig (fun _ : Unit => Unit) Unit ℕ Unit) :
    LockEvent (fun _ : Unit => Unit) Unit Unit → Bool
  | .start (.renewer _ _ _) => false
  | .start op => cfg.procs.all fun p => p.op.token != op.token
  | .advance _ _ => true
  | .fail _ _ => false
  | .env _ => false

/-- Every session has the same route. -/
def textRoute (_ : SessionId) : Except RouteError Route := .ok ⟨"text", 4⟩

theorem admissible_of_contends {cfg : LockConfig (fun _ : Unit => Unit) Unit ℕ Unit}
    {ev : LockEvent (fun _ : Unit => Unit) Unit Unit} (h : contends cfg ev = true) :
    Admissible textRoute cfg ev := by
  cases ev with
  | start op =>
      have hfresh : op.IsCall ∧ ∀ p ∈ cfg.procs, p.op.token ≠ op.token := by
        cases op with
        | renewer acquired token rounds => cases h
        | _ => exact ⟨trivial, by simpa [contends] using h⟩
      exact ⟨hfresh.1, hfresh.2, fun _ _ => ⟨_, rfl⟩⟩
  | advance i rounds => trivial
  | fail i e => cases h
  | env d => cases h

/-- A call for two sessions, one of them named twice, is at work when a second call asks for one of
them; the renewer comes late. -/
def contention : List (LockEvent (fun _ : Unit => Unit) Unit Unit) :=
  .start (.withLocks "n1:1" [some "b", none, some "a", some "b"] (.call () fun _ => .ret ())) ::
    List.replicate 5 (.advance 0 1) ++
    .start (.withLock "n2:1" (some "b") (.call () fun _ => .ret ())) ::
      [.advance 2 0, .advance 2 0, .advance 1 0, .advance 0 0, .advance 0 0, .advance 1 0,
        .advance 0 0, .advance 0 0, .advance 1 0]

/-- The second call is turned away, and the locks exclude. -/
theorem sections_exclude_contention :
    ∃ cfg, Run (Pool.step (lockSystem textRoute fun _ n => ((), n + 1))) (Admissible textRoute)
        (Pool.idle ⟨0, fun _ => none, fun _ => false, 0⟩) contention cfg ∧
      (cfg.procs.any fun p => p.op.token == "n2:1" && p.rest.result? == some .locked) = true ∧
      Excludes textRoute cfg := by
  obtain ⟨cfg, hrun, hlocked⟩ :
      ∃ cfg, Run (Pool.step (lockSystem textRoute fun _ n => ((), n + 1)))
        (fun cfg ev => contends cfg ev = true)
        (Pool.idle ⟨0, fun _ => none, fun _ => false, 0⟩) contention cfg ∧
        (cfg.procs.any fun p => p.op.token == "n2:1" && p.rest.result? == some .locked) = true :=
    exists_run_of_execWhere (by decide +kernel)
  have hrun := hrun.mono fun _ _ => admissible_of_contends
  exact ⟨cfg, hrun, hlocked, sections_exclude textRoute _ 0 _ 0 hrun⟩

end Sessions.SessionLock
