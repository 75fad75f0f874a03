/-
**Tearing a connection down.**

Entries and owner keys are kept for a session at an instance, and not for a connection.  The handler
of a connection unregisters its session once, when it ends; a dispatch whose client cannot take a
signal unregisters the session too.  Whoever unregisters first removes the entry, and only then
deletes the owner key.  A later connection of the session may have come in between.

The claims that have succeeded are recorded, the latest first.  No step reads them.

Main definitions:

* `Signaling.Handler`, `Signaling.Call` — a connection, and a call that unregisters one;
* `Signaling.Hubs.step` — **connections that come and go, at any number of instances**;
* `Signaling.Isolated` — no other connection is unregistered, and no key of a newer one is deleted;
* `Signaling.Settled` — a session is claimed when the earlier connections at the instance are gone.

Main results:

* `Signaling.Sound.step` — the connection that may unregister a session was the last to claim it;
* `Signaling.isolated_of_settled` — **teardowns are isolated when claims find nothing left over**;
* `Signaling.reconnected_unregistered` — a connection unregisters the one that has come after it.
-/

import Mathlib.Logic.Function.Basic
import Pairline.Signaling.Hub
import Pairline.Transition

set_option relaxedAutoImplicit false
set_option autoImplicit false

namespace Signaling

open Matchmaker (SessionId)
open Transition

/-! ### Connections -/

/-- A session at an instance. -/
structure Place where
  hub : InstanceId
  sid : SessionId
  deriving DecidableEq

/-- How far the handler of a connection has got. -/
inductive HandlerPhase
  | claiming
  | claimed
  | serving
  | gone
  deriving DecidableEq

structure Handler where
  place : Place
  phase : HandlerPhase

/-- How far a call has got: a dispatch holds a client and may come to unregister it; the entry is
dropped, the owner key released, the ready key cleared. -/
inductive CallPhase
  | holding
  | dropping
  | releasing
  | clearing
  | done
  deriving DecidableEq

structure Call where
  conn : Conn
  phase : CallPhase

structure Claim where
  conn : Conn
  place : Place

structure Hubs (P : Type) where
  entries : Place → Option Entry
  keys : SessionId → Keys P
  handlers : List Handler
  calls : List Call
  closed : List Conn
  /-- The claims that have succeeded, the latest first. -/
  claims : List Claim

inductive HubEvent (P : Type)
  /-- A websocket is opened, and the session reserved unless it is owned. -/
  | connect (p : Place)
  | claim (c : Conn)
  /-- The store cannot be asked. -/
  | claimFails (c : Conn)
  | settle (c : Conn)
  /-- Ownership has been lost, or a write has failed. -/
  | close (c : Conn)
  /-- The handler unregisters its session, once. -/
  | leave (c : Conn)
  /-- A signal for a session is dispatched: its client is looked up. -/
  | dispatch (p : Place)
  /-- The client takes the signal, or it does not. -/
  | enqueue (k : ℕ) (ok : Bool)
  | drop (k : ℕ)
  | release (k : ℕ)
  | clear (k : ℕ)
  | sendOrQueue (p : Place) (subscribed : InstanceId → Bool) (payload : P)
  | markReady (sid : SessionId)
  /-- An owner key expires. -/
  | lapse (sid : SessionId)

namespace Hubs

variable {P : Type}

def start : Hubs P :=
  { entries := fun _ => none
    keys := fun _ => ⟨none, false, []⟩
    handlers := []
    calls := []
    closed := []
    claims := [] }

def setEntry (s : Hubs P) (p : Place) (entry : Option Entry) : Hubs P :=
  { s with entries := Function.update s.entries p entry }

def setKeys (s : Hubs P) (sid : SessionId) (k : Keys P) : Hubs P :=
  { s with keys := Function.update s.keys sid k }

def setPhase (s : Hubs P) (c : Conn) (p : Place) (phase : HandlerPhase) : Hubs P :=
  { s with handlers := s.handlers.set c ⟨p, phase⟩ }

def setCall (s : Hubs P) (k : ℕ) (call : Call) : Hubs P :=
  { s with calls := s.calls.set k call }

def call (s : Hubs P) (c : Conn) (phase : CallPhase) : Hubs P :=
  { s with calls := s.calls ++ [⟨c, phase⟩] }

@[simp] theorem entries_setEntry (s : Hubs P) (p : Place) (entry : Option Entry) :
    (s.setEntry p entry).entries = Function.update s.entries p entry := rfl

@[simp] theorem keys_setKeys (s : Hubs P) (sid : SessionId) (k : Keys P) :
    (s.setKeys sid k).keys = Function.update s.keys sid k := rfl

theorem handlers_setPhase_self {s : Hubs P} {c : Conn} {p : Place} {old phase : HandlerPhase}
    (hc : s.handlers[c]? = some ⟨p, old⟩) :
    (s.setPhase c p phase).handlers[c]? = some ⟨p, phase⟩ :=
  List.getElem?_set_self (List.getElem?_eq_some_iff.1 hc).1

theorem handlers_setPhase_of_ne {s : Hubs P} {c d : Conn} {p : Place} {phase : HandlerPhase}
    (hd : d ≠ c) : (s.setPhase c p phase).handlers[d]? = s.handlers[d]? := by
  simp [setPhase, hd.symm]

/-- The place of a connection that has reached a phase. -/
def placeAt (s : Hubs P) (c : Conn) (phase : HandlerPhase) : Option Place :=
  (s.handlers[c]?.filter fun h => h.phase = phase).map Handler.place

/-- The connection of a call that has reached a phase, with its place. -/
def callAt (s : Hubs P) (k : ℕ) (phase : CallPhase) : Option (Conn × Place) := do
  let call ← s.calls[k]?.filter fun call => call.phase = phase
  let h ← s.handlers[call.conn]?
  return (call.conn, h.place)

/-- **Connections that come and go**, and the calls that unregister them. -/
def step (s : Hubs P) : HubEvent P → Option (Hubs P)
  | .connect p =>
      match reserve (s.entries p) with
      | none => some s
      | some e => some { s.setEntry p (some e) with handlers := s.handlers ++ [⟨p, .claiming⟩] }
  | .claim c => do
      let p ← s.placeAt c .claiming
      match (s.keys p.sid).claimSession p.hub with
      | none => return (s.setEntry p (abandon (s.entries p))).setPhase c p .gone
      | some (_, k) =>
          return { (s.setKeys p.sid k).setPhase c p .claimed with claims := ⟨c, p⟩ :: s.claims }
  | .claimFails c => do
      let p ← s.placeAt c .claiming
      return (s.setEntry p (abandon (s.entries p))).setPhase c p .gone
  | .settle c => do
      let p ← s.placeAt c .claimed
      let (ok, entry) := settle c (s.entries p)
      return (s.setEntry p entry).setPhase c p (if ok then .serving else .gone)
  | .close c => do
      let _ ← s.placeAt c .serving
      return { s with closed := c :: s.closed }
  | .leave c => do
      let p ← s.placeAt c .serving
      return (s.setPhase c p .gone).call c .dropping
  | .dispatch p =>
      match registered (s.entries p) with
      | none => some s
      | some c => some (s.call c .holding)
  | .enqueue k ok => do
      let (c, _) ← s.callAt k .holding
      return s.setCall k ⟨c, if ok then .done else .dropping⟩
  | .drop k => do
      let (c, p) ← s.callAt k .dropping
      return { (s.setEntry p (unregister (s.entries p))).setCall k ⟨c, .releasing⟩ with
        closed := (registered (s.entries p)).toList ++ s.closed }
  | .release k => do
      let (c, p) ← s.callAt k .releasing
      return (s.setKeys p.sid ((s.keys p.sid).compareAndDelete p.hub)).setCall k ⟨c, .clearing⟩
  | .clear k => do
      let (c, p) ← s.callAt k .clearing
      return (s.setKeys p.sid (s.keys p.sid).delReady).setCall k ⟨c, .done⟩
  | .sendOrQueue p subscribed payload =>
      some (s.setKeys p.sid ((s.keys p.sid).sendOrQueue p.hub subscribed payload).2)
  | .markReady sid => some (s.setKeys sid (s.keys sid).markReady)
  | .lapse sid => some (s.setKeys sid { s.keys sid with owner := none })

end Hubs

/-! ### The law -/

variable {P : Type}

/-- **A connection is live** from its claim on until it is closed or unregisters. -/
def Live (s : Hubs P) (c : Conn) : Prop :=
  ((s.placeAt c .claimed).isSome ∨ (s.placeAt c .serving).isSome) ∧ c ∉ s.closed

instance (s : Hubs P) (c : Conn) : Decidable (Live s c) := by
  unfold Live
  infer_instance

/-- **Teardowns are isolated**: a call drops no client but its own, and deletes no owner key while a
newer connection of the session is live. -/
def Isolated (s : Hubs P) : HubEvent P → Prop
  | .drop k => ∀ x ∈ s.callAt k .dropping, ∀ d ∈ registered (s.entries x.2), d = x.1
  | .release k => ∀ x ∈ s.callAt k .releasing, (s.keys x.2.sid).owner = some x.2.hub →
      ∀ newer ∈ s.claims.takeWhile (·.conn ≠ x.1), newer.place.sid = x.2.sid →
        ¬ Live s newer.conn
  | _ => True

instance (s : Hubs P) (ev : HubEvent P) : Decidable (Isolated s ev) := by
  cases ev <;> unfold Isolated <;> infer_instance

/-- The entry, or the owner key, is still to be removed. -/
def CallPhase.pending : CallPhase → Bool
  | .holding | .dropping | .releasing => true
  | .clearing | .done => false

/-- **A connection is outstanding** while it may still come to unregister its session. -/
def Outstanding (s : Hubs P) (c : Conn) : Prop :=
  (s.placeAt c .claimed).isSome ∨ (s.placeAt c .serving).isSome ∨
    ∃ call ∈ s.calls, call.conn = c ∧ call.phase.pending = true

instance (s : Hubs P) (c : Conn) : Decidable (Outstanding s c) := by
  unfold Outstanding
  infer_instance

/-- **A session is claimed at an instance when no earlier connection there is outstanding.** -/
def Settled (s : Hubs P) : HubEvent P → Prop
  | .claim c => ∀ p ∈ s.placeAt c .claiming, ∀ d < s.handlers.length,
      (∀ h ∈ s.handlers[d]?, h.place = p) → d ≠ c → ¬ Outstanding s d
  | _ => True

instance (s : Hubs P) (ev : HubEvent P) : Decidable (Settled s ev) := by
  cases ev <;> unfold Settled <;> infer_instance

/-! ### The last to claim a session -/

/-- The last claim of a session at an instance. -/
def lastAt (s : Hubs P) (p : Place) : Option Claim := s.claims.find? (·.place = p)

/-- The last claim of a session. -/
def lastOf (s : Hubs P) (sid : SessionId) : Option Claim := s.claims.find? (·.place.sid = sid)

/-- The place of a connection. -/
def placeOf (s : Hubs P) (c : Conn) : Option Place := s.handlers[c]?.map Handler.place

/-- **Who may unregister a session was the last to claim it**, and the owner of a session is the
instance of its last claim. -/
structure Sound (s : Hubs P) : Prop where
  handler : ∀ c p phase, s.handlers[c]? = some ⟨p, phase⟩ → phase = .claimed ∨ phase = .serving →
    lastAt s p = some ⟨c, p⟩
  call : ∀ c phase, ⟨c, phase⟩ ∈ s.calls → phase.pending = true →
    ∃ p, placeOf s c = some p ∧ lastAt s p = some ⟨c, p⟩
  client : ∀ p c, registered (s.entries p) = some c →
    s.handlers[c]? = some ⟨p, .serving⟩ ∨ ⟨c, .dropping⟩ ∈ s.calls ∧ placeOf s c = some p
  owner : ∀ sid i, (s.keys sid).owner = some i → ∃ c, lastOf s sid = some ⟨c, i, sid⟩

/-- A list that is found before nothing of a kind holds nothing of it. -/
theorem not_mem_takeWhile_of_find? {α : Type*} {p q : α → Bool} {l : List α} {a : α}
    (h : l.find? p = some a) (hq : q a = false) : ∀ b ∈ l.takeWhile q, p b = false := by
  induction l with
  | nil =>
      intro b hb
      cases hb
  | cons x l ih =>
      intro b hb
      cases hx : p x with
      | true =>
          rw [List.find?_cons_of_pos hx, Option.some_inj] at h
          subst h
          simp only [List.takeWhile_cons, hq, Bool.false_eq_true, if_false, List.not_mem_nil] at hb
      | false =>
          rw [List.find?_cons_of_neg (by simp [hx])] at h
          rw [List.takeWhile_cons] at hb
          split at hb
          · rcases List.mem_cons.1 hb with rfl | hb
            · exact hx
            · exact ih h b hb
          · cases hb

theorem placeAt_eq_some {s : Hubs P} {c : Conn} {phase : HandlerPhase} {p : Place} :
    s.placeAt c phase = some p ↔ s.handlers[c]? = some ⟨p, phase⟩ := by
  unfold Hubs.placeAt
  constructor
  · intro h
    obtain ⟨⟨q, phase'⟩, hh, rfl⟩ := Option.map_eq_some_iff.1 h
    obtain ⟨hget, hphase⟩ := Option.filter_eq_some_iff.1 hh
    obtain rfl := of_decide_eq_true hphase
    exact hget
  · intro h
    rw [h]
    simp

theorem callAt_eq_some {s : Hubs P} {k : ℕ} {phase : CallPhase} {c : Conn} {p : Place} :
    s.callAt k phase = some (c, p) ↔ s.calls[k]? = some ⟨c, phase⟩ ∧ placeOf s c = some p := by
  unfold Hubs.callAt
  constructor
  · intro h
    simp only [Option.bind_eq_bind, Option.bind_eq_some_iff] at h
    obtain ⟨⟨c', phase'⟩, hcall, h', hget, hret⟩ := h
    obtain ⟨hk, hphase⟩ := Option.filter_eq_some_iff.1 hcall
    obtain rfl := of_decide_eq_true hphase
    obtain ⟨rfl, rfl⟩ := Prod.mk.inj (Option.some_inj.1 hret)
    exact ⟨hk, by rw [placeOf, hget]; rfl⟩
  · rintro ⟨hk, hp⟩
    obtain ⟨h', hget, rfl⟩ := Option.map_eq_some_iff.1 hp
    simp [hk, hget, Option.filter]

/-- The last to claim a session was the last to claim it at its instance. -/
theorem lastAt_of_lastOf {s : Hubs P} {c : Conn} {p : Place}
    (h : lastOf s p.sid = some ⟨c, p⟩) : lastAt s p = some ⟨c, p⟩ := by
  obtain ⟨-, as, bs, heq, has⟩ := List.find?_eq_some_iff_append.1 h
  refine List.find?_eq_some_iff_append.2 ⟨by simp, as, bs, heq, ?_⟩
  intro a ha
  have hsid := has a ha
  simp only [Bool.not_eq_true', decide_eq_false_iff_not] at hsid ⊢
  exact fun hp => hsid (congrArg Place.sid hp)

/-- An element that a call has left behind is still there. -/
theorem mem_set_of_mem {α : Type*} {l : List α} {k : ℕ} {a b x : α} (hk : l[k]? = some a)
    (hb : b ∈ l) (hne : b ≠ a) : b ∈ l.set k x := by
  obtain ⟨j, hj⟩ := List.mem_iff_getElem?.1 hb
  have hjk : k ≠ j := by
    rintro rfl
    rw [hk] at hj
    exact hne (Option.some_inj.1 hj).symm
  exact List.mem_iff_getElem?.2 ⟨j, by rw [List.getElem?_set_ne hjk, hj]⟩

namespace Sound

variable {s t : Hubs P}

theorem start : Sound (Hubs.start : Hubs P) where
  handler c p phase h := by
    simp [Hubs.start] at h
  call c phase h := by
    simp [Hubs.start] at h
  client p c h := by cases h
  owner sid i h := by cases h

/-- The client of a session was the last to claim it. -/
theorem lastAt_of_client (h : Sound s) {p : Place} {c : Conn}
    (hc : registered (s.entries p) = some c) : lastAt s p = some ⟨c, p⟩ := by
  rcases h.client p c hc with hserving | ⟨hcall, hp⟩
  · exact h.handler c p .serving hserving (.inr rfl)
  · obtain ⟨q, hq, hlast⟩ := h.call c .dropping hcall rfl
    obtain rfl := Option.some_inj.1 (hq.symm.trans hp)
    exact hlast

/-- … as was the connection of a call that still unregisters one. -/
theorem lastAt_of_callAt (h : Sound s) {k : ℕ} {phase : CallPhase} {c : Conn} {p : Place}
    (hk : s.callAt k phase = some (c, p)) (hphase : phase.pending = true) :
    lastAt s p = some ⟨c, p⟩ := by
  obtain ⟨hget, hp⟩ := callAt_eq_some.1 hk
  obtain ⟨q, hq, hlast⟩ := h.call c phase (List.mem_of_getElem? hget) hphase
  obtain rfl := Option.some_inj.1 (hq.symm.trans hp)
  exact hlast

/-- **What unregisters a session now unregisters its own connection.** -/
theorem isolated (h : Sound s) (ev : HubEvent P) : Isolated s ev := by
  cases ev with
  | drop k =>
      rintro ⟨c, p⟩ hk d hd
      have hc := h.lastAt_of_callAt hk rfl
      have hd' := h.lastAt_of_client hd
      rw [hc] at hd'
      cases hd'
      rfl
  | release k =>
      rintro ⟨c, p⟩ hk howner newer hnewer hsid _
      obtain ⟨d, hd⟩ := h.owner _ _ howner
      have hc := h.lastAt_of_callAt hk rfl
      have hd' := lastAt_of_lastOf (p := p) hd
      rw [hc] at hd'
      cases hd'
      have hnot := not_mem_takeWhile_of_find? hd (by simp) newer hnewer
      exact of_decide_eq_false hnot hsid
  | _ => trivial

/-- A step without a claim, that makes no connection outstanding. -/
theorem of_frame (h : Sound s) (hclaims : t.claims = s.claims)
    (hplace : ∀ c p, placeOf s c = some p → placeOf t c = some p)
    (hhandler : ∀ c p phase, t.handlers[c]? = some ⟨p, phase⟩ →
      phase = .claimed ∨ phase = .serving → lastAt s p = some ⟨c, p⟩)
    (hcall : ∀ c phase, ⟨c, phase⟩ ∈ t.calls → phase.pending = true →
      ∃ p, placeOf s c = some p ∧ lastAt s p = some ⟨c, p⟩)
    (hclient : ∀ p c, registered (t.entries p) = some c →
      t.handlers[c]? = some ⟨p, .serving⟩ ∨ ⟨c, .dropping⟩ ∈ t.calls ∧ placeOf t c = some p)
    (howner : ∀ sid i, (t.keys sid).owner = some i → (s.keys sid).owner = some i) : Sound t where
  handler c p phase hget hphase := by
    rw [lastAt, hclaims]
    exact hhandler c p phase hget hphase
  call c phase hmem hphase := by
    obtain ⟨p, hp, hlast⟩ := hcall c phase hmem hphase
    exact ⟨p, hplace c p hp, by rw [lastAt, hclaims]; exact hlast⟩
  client := hclient
  owner sid i hi := by
    rw [lastOf, hclaims]
    exact h.owner sid i (howner sid i hi)

/-- A step that only gives owner keys up. -/
theorem setKeys (h : Sound s) {sid : SessionId} {k : Keys P}
    (hk : ∀ i, k.owner = some i → (s.keys sid).owner = some i) : Sound (s.setKeys sid k) := by
  refine h.of_frame rfl (fun _ _ => id) h.handler h.call h.client ?_
  intro sid' i hi
  by_cases hsid : sid' = sid
  · subst hsid
    rw [Hubs.keys_setKeys, Function.update_self] at hi
    exact hk i hi
  · rwa [Hubs.keys_setKeys, Function.update_of_ne hsid] at hi

/-- A step that changes an entry, but not its client. -/
theorem setEntry (h : Sound s) {p : Place} {entry : Option Entry}
    (hentry : ∀ c, registered entry = some c → registered (s.entries p) = some c) :
    Sound (s.setEntry p entry) := by
  refine h.of_frame rfl (fun _ _ => id) h.handler h.call ?_ (fun _ _ => id)
  intro q c hc
  by_cases hq : q = p
  · subst hq
    rw [Hubs.entries_setEntry, Function.update_self] at hc
    exact h.client q c (hentry c hc)
  · rw [Hubs.entries_setEntry, Function.update_of_ne hq] at hc
    exact h.client q c hc

theorem placeOf_setPhase {c : Conn} {p : Place} {old phase : HandlerPhase}
    (hc : s.handlers[c]? = some ⟨p, old⟩) (d : Conn) :
    placeOf (s.setPhase c p phase) d = placeOf s d := by
  unfold placeOf
  by_cases hd : d = c
  · subst hd
    rw [Hubs.handlers_setPhase_self hc, hc]
    rfl
  · rw [Hubs.handlers_setPhase_of_ne hd]

/-- A connection that is unregistered, or was never registered, may be forgotten. -/
theorem setPhase_gone (h : Sound s) {c : Conn} {p : Place} {old : HandlerPhase}
    (hc : s.handlers[c]? = some ⟨p, old⟩) (hold : old ≠ .serving) :
    Sound (s.setPhase c p .gone) := by
  refine h.of_frame rfl (fun d q hd => (placeOf_setPhase hc d).trans hd) ?_ h.call ?_
    (fun _ _ => id)
  · intro d q phase hget hphase
    by_cases hd : d = c
    · subst hd
      rw [Hubs.handlers_setPhase_self hc] at hget
      cases hget
      rcases hphase with hphase | hphase <;> cases hphase
    · rw [Hubs.handlers_setPhase_of_ne hd] at hget
      exact h.handler d q phase hget hphase
  · intro q d hclient
    rcases h.client q d hclient with hserving | ⟨hcall, hplace⟩
    · have hd : d ≠ c := by
        rintro rfl
        rw [hc] at hserving
        cases hserving
        exact hold rfl
      exact .inl ((Hubs.handlers_setPhase_of_ne hd).trans hserving)
    · exact .inr ⟨hcall, (placeOf_setPhase hc d).trans hplace⟩

/-- A call whose entry has been dropped goes on, or one that need not drop it. -/
theorem setCall (h : Sound s) {k : ℕ} {c : Conn} {old phase : CallPhase}
    (hk : s.calls[k]? = some ⟨c, old⟩) (hold : phase.pending = true → old.pending = true)
    (hclient : ∀ p, registered (s.entries p) = some c → placeOf s c = some p →
      old ≠ .dropping) : Sound (s.setCall k ⟨c, phase⟩) := by
  refine h.of_frame rfl (fun _ _ => id) h.handler ?_ ?_ (fun _ _ => id)
  · intro d phase' hmem hphase
    rcases List.mem_or_eq_of_mem_set hmem with hmem | heq
    · exact h.call d phase' hmem hphase
    · cases heq
      exact h.call c old (List.mem_of_getElem? hk) (hold hphase)
  · intro p d hd
    rcases h.client p d hd with hserving | ⟨hcall, hplace⟩
    · exact .inl hserving
    · refine .inr ⟨mem_set_of_mem hk hcall ?_, hplace⟩
      rintro heq
      cases heq
      exact hclient p hd hplace rfl

/-- A new call for a connection that was the last to claim its session. -/
theorem newCall (h : Sound s) {c : Conn} {p : Place} {phase : CallPhase}
    (hp : placeOf s c = some p) (hlast : lastAt s p = some ⟨c, p⟩) : Sound (s.call c phase) := by
  refine h.of_frame rfl (fun _ _ => id) h.handler ?_ ?_ (fun _ _ => id)
  · intro d phase' hmem hphase
    rcases List.mem_append.1 hmem with hmem | hmem
    · exact h.call d phase' hmem hphase
    · cases List.mem_singleton.1 hmem
      exact ⟨p, hp, hlast⟩
  · intro q d hd
    rcases h.client q d hd with hserving | ⟨hcall, hplace⟩
    · exact .inl hserving
    · exact .inr ⟨List.mem_append_left _ hcall, hplace⟩

/-- **A connection opens.** -/
theorem connect (h : Sound s) {p : Place} {e : Entry} (he : reserve (s.entries p) = some e) :
    Sound { s.setEntry p (some e) with handlers := s.handlers ++ [⟨p, .claiming⟩] } := by
  have hentry : Sound (s.setEntry p (some e)) :=
    h.setEntry fun c hc => by rwa [registered_reserve he] at hc
  have hgrow : ∀ (c : Conn) (x : Handler), s.handlers[c]? = some x →
      (s.handlers ++ [⟨p, .claiming⟩])[c]? = some x := fun c x hx => by
    rwa [List.getElem?_append_left (List.getElem?_eq_some_iff.1 hx).1]
  have hplace : ∀ c q, placeOf (s.setEntry p (some e)) c = some q →
      placeOf { s.setEntry p (some e) with handlers := s.handlers ++ [⟨p, .claiming⟩] } c =
        some q := by
    intro c q hc
    obtain ⟨x, hx, rfl⟩ := Option.map_eq_some_iff.1 hc
    exact Option.map_eq_some_iff.2 ⟨x, hgrow c x hx, rfl⟩
  refine hentry.of_frame rfl hplace ?_ hentry.call ?_ (fun _ _ => id)
  · intro c q phase hget hphase
    have hget' : (s.handlers ++ [⟨p, .claiming⟩])[c]? = some ⟨q, phase⟩ := hget
    rw [List.getElem?_append] at hget'
    split at hget'
    · exact hentry.handler c q phase hget' hphase
    · cases List.mem_singleton.1 (List.mem_of_getElem? hget')
      rcases hphase with hphase | hphase <;> cases hphase
  · intro q c hc
    rcases hentry.client q c hc with hserving | ⟨hcall, hq⟩
    · exact .inl (hgrow c _ hserving)
    · exact .inr ⟨hcall, hplace c q hq⟩

theorem outstanding_of_handler {c : Conn} {p : Place} {phase : HandlerPhase}
    (hc : s.handlers[c]? = some ⟨p, phase⟩) (hphase : phase = .claimed ∨ phase = .serving) :
    Outstanding s c := by
  rcases hphase with rfl | rfl
  · exact .inl (by rw [placeAt_eq_some.2 hc]; rfl)
  · exact .inr (.inl (by rw [placeAt_eq_some.2 hc]; rfl))

theorem not_outstanding_of_settled {c d : Conn} {p : Place}
    (hc : s.handlers[c]? = some ⟨p, .claiming⟩) (hok : Settled s (.claim c)) (hd : d ≠ c)
    (hp : placeOf s d = some p) : ¬ Outstanding s d := by
  obtain ⟨x, hx, hxp⟩ := Option.map_eq_some_iff.1 hp
  refine hok p (placeAt_eq_some.2 hc) d (List.getElem?_eq_some_iff.1 hx).1 ?_ hd
  intro y hy
  obtain rfl := Option.some_inj.1 (hx.symm.trans hy)
  exact hxp

/-- **A session is claimed when nothing at the instance is outstanding.** -/
theorem claim (h : Sound s) {c : Conn} {p : Place} {k : Keys P} {pending : List P}
    (hc : s.handlers[c]? = some ⟨p, .claiming⟩) (hok : Settled s (.claim c))
    (hk : (s.keys p.sid).claimSession p.hub = some (pending, k)) :
    Sound { (s.setKeys p.sid k).setPhase c p .claimed with claims := ⟨c, p⟩ :: s.claims } := by
  have hlast : ∀ d q, (d ≠ c → q ≠ p) → (d = c → q = p) →
      (d ≠ c → lastAt s q = some ⟨d, q⟩) →
      (⟨c, p⟩ :: s.claims).find? (·.place = q) = some ⟨d, q⟩ := by
    intro d q hne heq hold
    by_cases hd : d = c
    · obtain rfl := hd
      obtain rfl := heq rfl
      exact List.find?_cons_of_pos (by simp)
    · rw [List.find?_cons_of_neg (by simpa using (hne hd).symm)]
      exact hold hd
  constructor
  case handler =>
    intro d q phase hget hphase
    by_cases hd : d = c
    · subst hd
      have hself : (s.setPhase d p .claimed).handlers[d]? = some ⟨p, .claimed⟩ :=
        Hubs.handlers_setPhase_self hc
      cases hself.symm.trans hget
      exact hlast d p (fun h => absurd rfl h) (fun _ => rfl) (fun h => absurd rfl h)
    · have hget' : s.handlers[d]? = some ⟨q, phase⟩ :=
        (Hubs.handlers_setPhase_of_ne (s := s) hd).symm.trans hget
      refine hlast d q ?_ (fun h => absurd h hd) fun _ => h.handler d q phase hget' hphase
      rintro - rfl
      exact not_outstanding_of_settled hc hok hd (by rw [placeOf, hget']; rfl)
        (outstanding_of_handler hget' hphase)
  case call =>
    intro d phase hmem hphase
    obtain ⟨q, hq, hold⟩ := h.call d phase hmem hphase
    refine ⟨q, (placeOf_setPhase (s := s) hc d).trans hq, hlast d q ?_ ?_ fun _ => hold⟩
    · rintro hd rfl
      exact not_outstanding_of_settled hc hok hd hq
        (.inr (.inr ⟨_, hmem, rfl, hphase⟩))
    · rintro rfl
      rw [placeOf, hc] at hq
      exact (Option.some_inj.1 hq).symm
  case client =>
    intro q d hclient
    rcases h.client q d hclient with hserving | ⟨hcall, hplace⟩
    · have hd : d ≠ c := by
        rintro rfl
        rw [hc] at hserving
        cases hserving
      exact .inl ((Hubs.handlers_setPhase_of_ne (s := s) hd).trans hserving)
    · exact .inr ⟨hcall, (placeOf_setPhase (s := s) hc d).trans hplace⟩
  case owner =>
    intro sid i hi
    obtain ⟨-, -, rfl⟩ := Keys.claimSession_eq_some hk
    by_cases hsid : sid = p.sid
    · subst hsid
      have howner : some p.hub = some i := by
        simpa [Hubs.setPhase] using hi
      obtain rfl := Option.some_inj.1 howner
      exact ⟨c, List.find?_cons_of_pos (by simp)⟩
    · have hold : (s.keys sid).owner = some i := by
        simpa [Hubs.setPhase, Function.update_of_ne hsid] using hi
      obtain ⟨d, hd⟩ := h.owner sid i hold
      exact ⟨d, (List.find?_cons_of_neg (by simpa using Ne.symm hsid)).trans hd⟩

/-- A list of closed connections is of no account. -/
theorem withClosed (h : Sound s) (closed : List Conn) : Sound { s with closed := closed } :=
  ⟨h.handler, h.call, h.client, h.owner⟩

/-- **A connection is registered.** -/
theorem settle (h : Sound s) {c : Conn} {p : Place} (hc : s.handlers[c]? = some ⟨p, .claimed⟩) :
    Sound ((s.setEntry p (Signaling.settle c (s.entries p)).2).setPhase c p
      (if (Signaling.settle c (s.entries p)).1 then .serving else .gone)) := by
  have hkeep : ∀ d q, registered (s.entries q) = some d →
      ((s.setEntry p (Signaling.settle c (s.entries p)).2).setPhase c p
        (if (Signaling.settle c (s.entries p)).1 then .serving else .gone)).handlers[d]? =
          some ⟨q, .serving⟩ ∨ ⟨d, .dropping⟩ ∈ s.calls ∧ placeOf s d = some q := by
    intro d q hclient
    rcases h.client q d hclient with hserving | hcall
    · have hd : d ≠ c := by
        rintro rfl
        rw [hc] at hserving
        cases hserving
      exact .inl ((Hubs.handlers_setPhase_of_ne hd).trans hserving)
    · exact .inr hcall
  have hplace : ∀ d, placeOf ((s.setEntry p (Signaling.settle c (s.entries p)).2).setPhase c p
      (if (Signaling.settle c (s.entries p)).1 then .serving else .gone)) d = placeOf s d :=
    placeOf_setPhase (s := s.setEntry p (Signaling.settle c (s.entries p)).2) hc
  refine h.of_frame rfl (fun d q hd => (hplace d).trans hd) ?_ h.call ?_ (fun _ _ => id)
  · intro d q phase hget hphase
    by_cases hd : d = c
    · subst hd
      rw [Hubs.handlers_setPhase_self (s := s.setEntry p _) hc] at hget
      cases hget
      exact h.handler d p .claimed hc (.inl rfl)
    · rw [Hubs.handlers_setPhase_of_ne hd] at hget
      exact h.handler d q phase hget hphase
  · intro q d hclient
    by_cases hq : q = p
    · subst hq
      have hclient' : registered (Signaling.settle c (s.entries q)).2 = some d := by
        simpa [Hubs.setPhase] using hclient
      rcases registered_settle c (s.entries q) with hsame | ⟨hok, hnew⟩
      · rw [hsame] at hclient'
        exact (hkeep d q hclient').imp id fun hd => ⟨hd.1, (hplace d).trans hd.2⟩
      · rw [hnew] at hclient'
        obtain rfl := Option.some_inj.1 hclient'
        rw [if_pos hok]
        exact .inl (Hubs.handlers_setPhase_self (s := s.setEntry q _) hc)
    · have hclient' : registered (s.entries q) = some d := by
        simpa [Hubs.setPhase, Function.update_of_ne hq] using hclient
      exact (hkeep d q hclient').imp id fun hd => ⟨hd.1, (hplace d).trans hd.2⟩

/-- **A handler unregisters its session.** -/
theorem leave (h : Sound s) {c : Conn} {p : Place} (hc : s.handlers[c]? = some ⟨p, .serving⟩) :
    Sound ((s.setPhase c p .gone).call c .dropping) := by
  have hplace : ∀ d, placeOf (s.setPhase c p .gone) d = placeOf s d := placeOf_setPhase hc
  refine h.of_frame rfl (fun d q hd => (hplace d).trans hd) ?_ ?_ ?_ (fun _ _ => id)
  · intro d q phase hget hphase
    have hget' : (s.setPhase c p .gone).handlers[d]? = some ⟨q, phase⟩ := hget
    by_cases hd : d = c
    · subst hd
      rw [Hubs.handlers_setPhase_self hc] at hget'
      cases hget'
      rcases hphase with hphase | hphase <;> cases hphase
    · rw [Hubs.handlers_setPhase_of_ne hd] at hget'
      exact h.handler d q phase hget' hphase
  · intro d phase hmem hphase
    rcases List.mem_append.1 hmem with hmem | hmem
    · exact h.call d phase hmem hphase
    · cases List.mem_singleton.1 hmem
      exact ⟨p, by rw [placeOf, hc]; rfl, h.handler c p .serving hc (.inr rfl)⟩
  · intro q d hclient
    rcases h.client q d hclient with hserving | ⟨hcall, hq⟩
    · by_cases hd : d = c
      · subst hd
        rw [hc] at hserving
        cases hserving
        refine .inr ⟨List.mem_append_right _ (List.mem_singleton_self _), (hplace d).trans ?_⟩
        rw [placeOf, hc]
        rfl
      · exact .inl ((Hubs.handlers_setPhase_of_ne (s := s) hd).trans hserving)
    · exact .inr ⟨List.mem_append_left _ hcall, (hplace d).trans hq⟩

/-- **An entry is dropped.** -/
theorem drop (h : Sound s) {k : ℕ} {c : Conn} {p : Place}
    (hk : s.callAt k .dropping = some (c, p)) :
    Sound { (s.setEntry p (unregister (s.entries p))).setCall k ⟨c, .releasing⟩ with
      closed := (registered (s.entries p)).toList ++ s.closed } := by
  obtain ⟨hget, hp⟩ := callAt_eq_some.1 hk
  have hentry : Sound (s.setEntry p (unregister (s.entries p))) := by
    refine h.setEntry fun d hd => ?_
    rw [registered_unregister] at hd
    cases hd
  refine withClosed (hentry.setCall hget (fun _ => rfl) ?_) _
  intro q hclient hq
  -- the entry has no client now
  obtain rfl := Option.some_inj.1 (hp.symm.trans hq)
  rw [Hubs.entries_setEntry, Function.update_self, registered_unregister] at hclient
  cases hclient

/-- **One step keeps what unregisters a session the last to have claimed it.** -/
theorem step (h : Sound s) {ev : HubEvent P} (hok : Settled s ev) (hs : s.step ev = some t) :
    Sound t := by
  cases ev with
  | connect p =>
      simp only [Hubs.step] at hs
      split at hs
      case h_1 =>
        cases hs
        exact h
      case h_2 e he =>
        cases hs
        exact h.connect he
  | claim c =>
      simp only [Hubs.step, Option.bind_eq_bind, Option.bind_eq_some_iff] at hs
      obtain ⟨p, hp, hs⟩ := hs
      have hc := placeAt_eq_some.1 hp
      split at hs
      case h_1 =>
        cases hs
        refine Sound.setPhase_gone (h.setEntry ?_) (s := s.setEntry p _) hc (by simp)
        intro d hd
        rwa [registered_abandon] at hd
      case h_2 pending k hk =>
        cases hs
        exact h.claim hc hok hk
  | claimFails c =>
      simp only [Hubs.step, Option.bind_eq_bind, Option.bind_eq_some_iff] at hs
      obtain ⟨p, hp, hs⟩ := hs
      cases hs
      refine Sound.setPhase_gone (h.setEntry ?_) (s := s.setEntry p _) (placeAt_eq_some.1 hp)
        (by simp)
      intro d hd
      rwa [registered_abandon] at hd
  | settle c =>
      simp only [Hubs.step, Option.bind_eq_bind, Option.bind_eq_some_iff] at hs
      obtain ⟨p, hp, hs⟩ := hs
      cases hs
      exact h.settle (placeAt_eq_some.1 hp)
  | close c =>
      simp only [Hubs.step, Option.bind_eq_bind, Option.bind_eq_some_iff] at hs
      obtain ⟨p, -, hs⟩ := hs
      cases hs
      exact h.withClosed _
  | leave c =>
      simp only [Hubs.step, Option.bind_eq_bind, Option.bind_eq_some_iff] at hs
      obtain ⟨p, hp, hs⟩ := hs
      cases hs
      exact h.leave (placeAt_eq_some.1 hp)
  | dispatch p =>
      simp only [Hubs.step] at hs
      split at hs
      case h_1 =>
        cases hs
        exact h
      case h_2 c hc =>
        cases hs
        refine h.newCall ?_ (h.lastAt_of_client hc)
        rcases h.client p c hc with hserving | ⟨-, hp⟩
        · rw [placeOf, hserving]
          rfl
        · exact hp
  | enqueue k ok =>
      simp only [Hubs.step, Option.bind_eq_bind, Option.bind_eq_some_iff, Prod.exists] at hs
      obtain ⟨c, p, hk, hs⟩ := hs
      cases hs
      exact h.setCall (callAt_eq_some.1 hk).1 (fun _ => rfl) (by simp)
  | drop k =>
      simp only [Hubs.step, Option.bind_eq_bind, Option.bind_eq_some_iff, Prod.exists] at hs
      obtain ⟨c, p, hk, hs⟩ := hs
      cases hs
      exact h.drop hk
  | release k =>
      simp only [Hubs.step, Option.bind_eq_bind, Option.bind_eq_some_iff, Prod.exists] at hs
      obtain ⟨c, p, hk, hs⟩ := hs
      cases hs
      refine Sound.setCall (h.setKeys fun i => Keys.owner_compareAndDelete)
        (callAt_eq_some.1 hk).1 (fun _ => rfl) ?_
      simp
  | clear k =>
      simp only [Hubs.step, Option.bind_eq_bind, Option.bind_eq_some_iff, Prod.exists] at hs
      obtain ⟨c, p, hk, hs⟩ := hs
      cases hs
      have hkeys : Sound (s.setKeys p.sid (s.keys p.sid).delReady) := h.setKeys fun i => id
      refine hkeys.setCall (callAt_eq_some.1 hk).1 ?_ ?_
      · intro hpending
        cases hpending
      · simp
  | sendOrQueue p subscribed payload =>
      cases hs
      exact h.setKeys fun i hi => by rwa [Keys.owner_sendOrQueue] at hi
  | markReady sid =>
      cases hs
      exact h.setKeys fun i => id
  | lapse sid =>
      cases hs
      exact h.setKeys fun i => nofun

end Sound

/-- **Teardowns are isolated in every run in which a session is claimed at an instance only when no
earlier connection there is outstanding.** -/
theorem isolated_of_settled {s : Hubs P} {l : List (HubEvent P)}
    (h : Run Hubs.step Settled Hubs.start l s) : Run Hubs.step Isolated Hubs.start l s :=
  h.exchange (I := Sound) (fun _ ev _ hs hok hstep => ⟨hs.isolated ev, hs.step hok hstep⟩)
    Sound.start

/-- A dispatch fails, the connection is unregistered, and it comes to its own end before the session
reconnects. -/
def reconnectsLater : List (HubEvent String) :=
  let p : Place := ⟨0, "a"⟩
  [.connect p, .claim 0, .settle 0, .dispatch p, .enqueue 0 false, .drop 0, .release 0, .clear 0,
    .leave 0, .drop 1, .release 1, .clear 1, .connect p, .claim 1, .settle 1, .leave 1, .drop 2,
    .release 2, .clear 2]

theorem reconnectsLater_isolated : ∃ s, Run Hubs.step Settled Hubs.start reconnectsLater s ∧
    Run Hubs.step Isolated Hubs.start reconnectsLater s := by
  have hrun : (execWhere Hubs.step Settled Hubs.start reconnectsLater).any
      (fun _ => true) = true := by
    decide +kernel
  obtain ⟨s, hs, -⟩ := exists_run_of_execWhere hrun
  exact ⟨s, hs, isolated_of_settled hs⟩

/-- A dispatch fails, the connection is unregistered, and the session reconnects before the old
handler comes to its end. -/
def reconnectsSooner : List (HubEvent String) :=
  let p : Place := ⟨0, "a"⟩
  [.connect p, .claim 0, .settle 0, .dispatch p, .enqueue 0 false, .drop 0, .release 0, .clear 0,
    .connect p, .claim 1, .settle 1, .leave 0, .drop 1]

/-- **The connection that comes to its end unregisters the one that has come after it.** -/
theorem reconnected_unregistered : ¬ ∀ (l : List (HubEvent String)) (s : Hubs String),
    Run Hubs.step Always Hubs.start l s → Run Hubs.step Isolated Hubs.start l s := by
  intro h
  have hrun : (execWhere Hubs.step Always Hubs.start reconnectsSooner).any
      (fun _ => true) = true := by
    decide +kernel
  obtain ⟨s, hs, -⟩ := exists_run_of_execWhere hrun
  have hnone : (execWhere Hubs.step Isolated Hubs.start reconnectsSooner).isSome = false := by
    decide +kernel
  rw [execWhere_of_run (h _ s hs)] at hnone
  cases hnone

/-- The owner key of the newer connection goes as well, when the entry has been removed already. -/
example : (execWhere Hubs.step Isolated (Hubs.start : Hubs String)
    [.connect ⟨0, "a"⟩, .claim 0, .settle 0, .leave 0, .drop 0, .connect ⟨0, "a"⟩, .claim 1,
      .settle 1, .release 0]).isSome = false := by
  decide +kernel

end Signaling
