/-
**Signals on their way to a session.**

A signal is handed to the client of its target if the instance of the sender has one; otherwise it is
published to the instance that owns the target, or kept until somebody claims the target.  Who
claims the target takes what has been kept, becomes visible as its client a little later, and then
replays what it has taken.  In between, signals still find their own way.

One target is looked at, and one sender, which may send from one instance after another.

Main definitions:

* `Signaling.Transit` — signals accepted, delivered, and on their way;
* `Signaling.Transit.step` — **the sender, the subscribers and the registration, one step at a
  time**;
* `Signaling.Delivered` — what has been delivered was accepted, in order, and nothing is lost;
* `Signaling.HandedOver` — signals are kept only before the target is claimed, and handed to a client
  only after the replay.

Main results:

* `Signaling.Ordered.step` — where the accepted signals are, in their order;
* `Signaling.delivered_of_handedOver` — **signals that are handed over outside the window are all
  delivered**;
* `Signaling.signal_isLost` — a signal that is kept after the claim is lost.
-/

import Mathlib.Data.Option.Basic
import Mathlib.Logic.Function.Basic
import Pairline.Signaling.Hub
import Pairline.Transition

set_option relaxedAutoImplicit false
set_option autoImplicit false

namespace Signaling

open Transition

/-! ### The way of a signal -/

/-- How far the registration of the target has got: the connection is claiming the session, has
claimed it, or is its client. -/
inductive Registration
  | absent
  | claiming (hub : InstanceId)
  | claimed (hub : InstanceId)
  | serving (hub : InstanceId)
  deriving DecidableEq

/-- Whether the target has been claimed. -/
def Registration.isClaimed : Registration → Bool
  | .absent | .claiming _ => false
  | .claimed _ | .serving _ => true

/-- What the sender is about: `SendOrQueue` looks for a client, and then asks the store. -/
inductive Sending (P : Type)
  | idle
  | dispatching (hub : InstanceId) (payload : P)
  | storing (hub : InstanceId) (payload : P)

/-- What a subscriber still does with a signal that has found no client. -/
inductive Miss
  | checkingOwner
  | retrying
  | pushing
  deriving DecidableEq

/-- The subscriber of an instance: a signal in its hands, and those published to it. -/
structure Line (P : Type) where
  hand : Option (P × Miss)
  published : List P

def Line.signals {P : Type} (line : Line P) : List P :=
  (line.hand.map Prod.fst).toList ++ line.published

@[simp] theorem Line.signals_none {P : Type} (published : List P) :
    (⟨none, published⟩ : Line P).signals = published := rfl

@[simp] theorem Line.signals_some {P : Type} (payload : P) (miss : Miss) (published : List P) :
    (⟨some (payload, miss), published⟩ : Line P).signals = payload :: published := rfl

structure Transit (P : Type) where
  entries : InstanceId → Option Entry
  keys : Keys P
  registration : Registration
  /-- What the registration has taken and not replayed yet. -/
  replay : List P
  sending : Sending P
  lines : InstanceId → Line P
  accepted : List P
  delivered : List P

inductive SignalEvent (P : Type)
  | connect (hub : InstanceId)
  | claim
  | settle
  /-- The client takes the next pending signal. -/
  | replay
  | send (hub : InstanceId) (payload : P)
  /-- The sender looks for a client, and hands the signal to it. -/
  | dispatch
  | store (subscribed : InstanceId → Bool)
  /-- A subscriber receives a signal, and looks for a client. -/
  | receive (hub : InstanceId)
  | checkOwner (hub : InstanceId)
  | retry (hub : InstanceId)
  | push (hub : InstanceId)
  /-- The owner key of an earlier connection goes. -/
  | lapse

namespace Transit

variable {P : Type}

/-- Nobody serves the target, whose owner key may still be that of an earlier connection. -/
def start (owner : Option InstanceId) : Transit P :=
  { entries := fun _ => none
    keys := ⟨owner, false, []⟩
    registration := .absent
    replay := []
    sending := .idle
    lines := fun _ => ⟨none, []⟩
    accepted := []
    delivered := [] }

/-- The client of the target at an instance takes a signal. -/
def deliver (s : Transit P) (payload : P) : Transit P :=
  { s with delivered := s.delivered ++ [payload] }

/-- `SendOrQueue` has returned without an error. -/
def accept (s : Transit P) (payload : P) : Transit P :=
  { s with accepted := s.accepted ++ [payload], sending := .idle }

def setLine (s : Transit P) (hub : InstanceId) (line : Line P) : Transit P :=
  { s with lines := Function.update s.lines hub line }

def setEntry (s : Transit P) (hub : InstanceId) (entry : Option Entry) : Transit P :=
  { s with entries := Function.update s.entries hub entry }

@[simp] theorem lines_setLine (s : Transit P) (hub : InstanceId) (line : Line P) :
    (s.setLine hub line).lines = Function.update s.lines hub line := rfl

@[simp] theorem entries_setEntry (s : Transit P) (hub : InstanceId) (entry : Option Entry) :
    (s.setEntry hub entry).entries = Function.update s.entries hub entry := rfl

/-- The instance has a client for the target. -/
def hasClient (s : Transit P) (hub : InstanceId) : Bool := (registered (s.entries hub)).isSome

/-- **The sender, the subscribers and the registration**, one step at a time.  A client that an
instance has stays its client, so that looking for it and handing it a signal are one step. -/
def step (s : Transit P) : SignalEvent P → Option (Transit P)
  | .connect hub => do
      guard (s.registration = .absent)
      let e ← reserve (s.entries hub)
      return { s.setEntry hub (some e) with registration := .claiming hub }
  | .claim =>
      match s.registration with
      | .claiming hub =>
          match s.keys.claimSession hub with
          | none => some { s.setEntry hub (abandon (s.entries hub)) with registration := .absent }
          | some (pending, k) =>
              some { s with keys := k, replay := pending, registration := .claimed hub }
      | _ => none
  | .settle =>
      match s.registration with
      | .claimed hub => do
          let (ok, entry) := settle 0 (s.entries hub)
          -- nobody else registers for the target
          guard ok
          return { s.setEntry hub entry with registration := .serving hub }
      | _ => none
  | .replay =>
      match s.registration, s.replay with
      | .serving _, payload :: rest => some { s.deliver payload with replay := rest }
      | _, _ => none
  | .send hub payload => do
      guard (s.sending matches .idle)
      return { s with sending := .dispatching hub payload }
  | .dispatch =>
      match s.sending with
      | .dispatching hub payload =>
          if s.hasClient hub then some ((s.deliver payload).accept payload)
          else some { s with sending := .storing hub payload }
      | _ => none
  | .store subscribed =>
      match s.sending with
      | .storing hub payload =>
          match s.keys.sendOrQueue hub subscribed payload with
          | (some owner, k) =>
              let line := s.lines owner
              some (({ s with keys := k }.setLine owner
                { line with published := line.published ++ [payload] }).accept payload)
          | (none, k) => some ({ s with keys := k }.accept payload)
      | _ => none
  | .receive hub =>
      match s.lines hub with
      | ⟨none, payload :: rest⟩ =>
          if s.hasClient hub then some ((s.deliver payload).setLine hub ⟨none, rest⟩)
          else some (s.setLine hub ⟨some (payload, .checkingOwner), rest⟩)
      | _ => none
  | .checkOwner hub =>
      match s.lines hub with
      | ⟨some (payload, .checkingOwner), rest⟩ =>
          if s.keys.owner = some hub then
            some (s.setLine hub ⟨some (payload, .retrying), rest⟩)
          else some (s.setLine hub ⟨none, rest⟩)
      | _ => none
  | .retry hub =>
      match s.lines hub with
      | ⟨some (payload, .retrying), rest⟩ =>
          if s.hasClient hub then some ((s.deliver payload).setLine hub ⟨none, rest⟩)
          else some (s.setLine hub ⟨some (payload, .pushing), rest⟩)
      | _ => none
  | .push hub =>
      match s.lines hub with
      | ⟨some (payload, .pushing), rest⟩ =>
          some ({ s with keys := s.keys.enqueuePending payload }.setLine hub ⟨none, rest⟩)
      | _ => none
  | .lapse => do
      guard (!s.registration.isClaimed)
      return { s with keys := { s.keys with owner := none } }

end Transit

/-! ### The law -/

variable {P : Type}

/-- **Nothing is on its way**: the target is served, everything is replayed, and neither the sender
nor a subscriber is about anything. -/
def Quiet (s : Transit P) : Prop :=
  (∃ hub, s.registration = .serving hub) ∧ s.replay = [] ∧ s.sending = .idle ∧
    ∀ hub, (s.lines hub).signals = []

/-- **What has been delivered was accepted, once and in the order in which it was accepted, and
nothing is missing once nothing is on its way.** -/
def Delivered (s : Transit P) : Prop :=
  s.delivered <+: s.accepted ∧ (Quiet s → s.delivered = s.accepted)

/-- Nothing has been published to an instance, but perhaps to the one given. -/
def NoneOnTheWay (s : Transit P) (except : Option InstanceId) : Prop :=
  ∀ hub, some hub ≠ except → (s.lines hub).signals = []

/-- **A signal is handed over** to a client after the replay, and by the sender only when none is on
its way; it is kept only before the target is claimed; it is published only when none is on its way
to another instance; and an instance to which one is on its way owns the target. -/
def HandedOver (s : Transit P) : SignalEvent P → Prop
  | .dispatch => ∀ hub payload, s.sending = .dispatching hub payload → s.hasClient hub = true →
      s.replay = [] ∧ NoneOnTheWay s none
  | .store subscribed => ∀ hub payload, s.sending = .storing hub payload →
      match (s.keys.sendOrQueue hub subscribed payload).1 with
      | some owner => NoneOnTheWay s (some owner)
      | none => s.registration.isClaimed = false ∧ NoneOnTheWay s none
  | .receive hub => s.hasClient hub = true → s.replay = []
  | .checkOwner hub => s.keys.owner = some hub
  | .retry hub => s.hasClient hub = true → s.replay = []
  | .push _ => s.registration.isClaimed = false
  | _ => True

/-! ### Where the signals are -/

/-- **The accepted signals, in their order**: delivered, taken, kept, and on their way to one
instance. -/
structure Ordered (s : Transit P) : Prop where
  order : ∃ hub, NoneOnTheWay s (some hub) ∧
    s.accepted = s.delivered ++ (s.replay ++ (s.keys.pending ++ (s.lines hub).signals))
  unclaimed : s.registration.isClaimed = false → s.replay = []
  claimed : s.registration.isClaimed = true → s.keys.pending = []
  client : ∀ hub, s.hasClient hub = true → s.registration = .serving hub

namespace Ordered

variable {s t : Transit P}

theorem start (owner : Option InstanceId) : Ordered (Transit.start owner : Transit P) where
  order := ⟨0, fun _ _ => rfl, rfl⟩
  unclaimed _ := rfl
  claimed h := by cases h
  client hub h := by cases h

/-- **Ordered signals are delivered.** -/
theorem delivered (h : Ordered s) : Delivered s := by
  obtain ⟨hub, -, horder⟩ := h.order
  refine ⟨⟨_, horder.symm⟩, ?_⟩
  rintro ⟨⟨served, hserved⟩, hreplay, -, hlines⟩
  have hpending : s.keys.pending = [] := h.claimed (by rw [hserved]; rfl)
  rw [horder, hreplay, hpending, hlines hub]
  simp

/-- A signal on its way shows where signals are on their way. -/
theorem hub_eq {hub hub' : InstanceId} (h : NoneOnTheWay s (some hub))
    (hne : (s.lines hub').signals ≠ []) : hub' = hub := by
  by_contra hhub
  exact hne (h hub' fun heq => hhub (Option.some_inj.1 heq))

theorem noneOnTheWay_setLine {hub : InstanceId} {line : Line P}
    (h : NoneOnTheWay s (some hub)) : NoneOnTheWay (s.setLine hub line) (some hub) := by
  intro hub' hne
  have hhub : hub' ≠ hub := fun heq => hne (congrArg some heq)
  rw [Transit.lines_setLine, Function.update_of_ne hhub]
  exact h hub' hne

/-- Where nothing is on its way, it may be said to be on its way to any instance. -/
theorem order_of_none (h : Ordered s) (hnone : NoneOnTheWay s none) :
    s.accepted = s.delivered ++ (s.replay ++ s.keys.pending) := by
  obtain ⟨hub, -, horder⟩ := h.order
  rw [horder, hnone hub (by simp), List.append_nil]

/-- A client takes signals only after the target has been claimed. -/
theorem isClaimed_of_client (h : Ordered s) {hub : InstanceId} (hclient : s.hasClient hub = true) :
    s.registration.isClaimed = true := by
  rw [h.client hub hclient]
  rfl

/-- A subscriber goes on with a signal that stays where it is. -/
theorem setLine_same (h : Ordered s) {hub : InstanceId} {line : Line P}
    (hline : line.signals = (s.lines hub).signals) : Ordered (s.setLine hub line) where
  order := by
    obtain ⟨hub', hnone, horder⟩ := h.order
    have hsame : ∀ i, ((s.setLine hub line).lines i).signals = (s.lines i).signals := by
      intro i
      by_cases hi : i = hub
      · subst hi
        rw [Transit.lines_setLine, Function.update_self, hline]
      · rw [Transit.lines_setLine, Function.update_of_ne hi]
    refine ⟨hub', fun i hi => (hsame i).trans (hnone i hi), ?_⟩
    rw [hsame]
    exact horder
  unclaimed := h.unclaimed
  claimed := h.claimed
  client := h.client

/-- **A subscriber hands a signal to the client.** -/
theorem deliver_line (h : Ordered s) {hub : InstanceId} {payload : P} {rest : List P}
    (hsignals : (s.lines hub).signals = payload :: rest) (hclient : s.hasClient hub = true)
    (hreplay : s.replay = []) : Ordered ((s.deliver payload).setLine hub ⟨none, rest⟩) where
  order := by
    obtain ⟨hub', hnone, horder⟩ := h.order
    have hne : (s.lines hub).signals ≠ [] := by simp [hsignals]
    obtain rfl := hub_eq hnone hne
    have hpending : s.keys.pending = [] := h.claimed (h.isClaimed_of_client hclient)
    refine ⟨hub, noneOnTheWay_setLine (s := s.deliver payload) hnone, ?_⟩
    have horder' : s.accepted = s.delivered ++ payload :: rest := by
      rw [horder, hreplay, hpending, hsignals]
      rfl
    rw [Transit.lines_setLine, Function.update_self, Line.signals_none]
    simp [Transit.setLine, Transit.deliver, horder', hreplay, hpending]
  unclaimed := h.unclaimed
  claimed := h.claimed
  client := h.client

/-- **A subscriber keeps a signal for a target that has not been claimed.** -/
theorem push_line (h : Ordered s) {hub : InstanceId} {payload : P} {rest : List P}
    (hsignals : (s.lines hub).signals = payload :: rest)
    (hclaimed : s.registration.isClaimed = false) (hlen : s.accepted.length ≤ maxPendingMsgs) :
    Ordered ({ s with keys := s.keys.enqueuePending payload }.setLine hub ⟨none, rest⟩) where
  order := by
    obtain ⟨hub', hnone, horder⟩ := h.order
    have hne : (s.lines hub).signals ≠ [] := by simp [hsignals]
    obtain rfl := hub_eq hnone hne
    rw [hsignals] at horder
    have hpending : s.keys.pending.length < maxPendingMsgs := by
      have hlength := congrArg List.length horder
      simp only [List.length_append, List.length_cons] at hlength
      omega
    refine ⟨hub, noneOnTheWay_setLine (s := { s with keys := _ }) hnone, ?_⟩
    rw [Transit.lines_setLine, Function.update_self, Line.signals_none]
    simp [Transit.setLine, Keys.pending_enqueuePending hpending, horder]
  unclaimed := h.unclaimed
  claimed hc := absurd (hclaimed.symm.trans hc) (by simp)
  client := h.client

/-- **The sender hands a signal to the client.** -/
theorem dispatch (h : Ordered s) {hub : InstanceId} (payload : P)
    (hclient : s.hasClient hub = true) (hreplay : s.replay = []) (hnone : NoneOnTheWay s none) :
    Ordered ((s.deliver payload).accept payload) where
  order := by
    have hpending : s.keys.pending = [] := h.claimed (h.isClaimed_of_client hclient)
    have horder := h.order_of_none hnone
    refine ⟨hub, fun i _ => hnone i (by simp), ?_⟩
    have hhub : (s.lines hub).signals = [] := hnone hub (by simp)
    simp [Transit.deliver, Transit.accept, horder, hreplay, hpending, hhub]
  unclaimed := h.unclaimed
  claimed := h.claimed
  client := h.client

/-- **The sender publishes a signal.** -/
theorem publish (h : Ordered s) {hub : InstanceId} (payload : P)
    (hnone : NoneOnTheWay s (some hub)) :
    Ordered ((s.setLine hub { s.lines hub with
      published := (s.lines hub).published ++ [payload] }).accept payload) where
  order := by
    obtain ⟨hub', hnone', horder⟩ := h.order
    refine ⟨hub, noneOnTheWay_setLine hnone, ?_⟩
    have hsignals : (s.lines hub').signals = (s.lines hub).signals := by
      by_cases hhub : hub' = hub
      · rw [hhub]
      · rw [hnone hub' (by simpa using hhub), hnone' hub (by simpa using Ne.symm hhub)]
    rw [hsignals] at horder
    simp [Transit.accept, Transit.setLine, horder, Line.signals]
  unclaimed := h.unclaimed
  claimed := h.claimed
  client := h.client

/-- **The sender keeps a signal for a target that has not been claimed.** -/
theorem keep (h : Ordered s) (payload : P) (hclaimed : s.registration.isClaimed = false)
    (hnone : NoneOnTheWay s none) (hlen : s.accepted.length < maxPendingMsgs) :
    Ordered ({ s with keys := s.keys.enqueuePending payload }.accept payload) where
  order := by
    have horder := h.order_of_none hnone
    have hpending : s.keys.pending.length < maxPendingMsgs := by
      have hlength := congrArg List.length horder
      simp only [List.length_append] at hlength
      omega
    refine ⟨0, fun i _ => hnone i (by simp), ?_⟩
    have hhub : (s.lines 0).signals = [] := hnone 0 (by simp)
    simp [Transit.accept, Keys.pending_enqueuePending hpending, horder, hhub]
  unclaimed := h.unclaimed
  claimed hc := absurd (hclaimed.symm.trans hc) (by simp)
  client := h.client

/-- **A claim takes what has been kept.** -/
theorem claim (h : Ordered s) {hub : InstanceId} {k : Keys P} {pending : List P}
    (hreg : s.registration = .claiming hub) (hlen : s.accepted.length ≤ maxPendingMsgs)
    (hk : s.keys.claimSession hub = some (pending, k)) :
    Ordered { s with keys := k, replay := pending, registration := .claimed hub } where
  order := by
    obtain ⟨hub', hnone, horder⟩ := h.order
    obtain ⟨-, rfl, rfl⟩ := Keys.claimSession_eq_some hk
    have hpending : s.keys.pending.length ≤ maxPendingMsgs := by
      have hlength := congrArg List.length horder
      simp only [List.length_append] at hlength
      omega
    have hreplay : s.replay = [] := h.unclaimed (by rw [hreg]; rfl)
    refine ⟨hub', hnone, ?_⟩
    simp [horder, hreplay, List.take_of_length_le hpending]
  unclaimed hc := by cases hc
  claimed _ := by
    obtain ⟨-, -, rfl⟩ := Keys.claimSession_eq_some hk
    rfl
  client i hi := by
    have hserving : s.registration = .serving i := h.client i hi
    rw [hreg] at hserving
    cases hserving

/-- **The client takes the next pending signal.** -/
theorem replay (h : Ordered s) {payload : P} {rest : List P} (hreplay : s.replay = payload :: rest)
    (hclaimed : s.registration.isClaimed = true) :
    Ordered { s.deliver payload with replay := rest } where
  order := by
    obtain ⟨hub, hnone, horder⟩ := h.order
    refine ⟨hub, hnone, ?_⟩
    simp [Transit.deliver, horder, hreplay]
  unclaimed hc := absurd (hc.symm.trans hclaimed) (by simp)
  claimed := h.claimed
  client := h.client

/-- **The registration goes on**, and the client of no instance is lost. -/
theorem setEntry (h : Ordered s) {hub : InstanceId} {entry : Option Entry} {reg : Registration}
    (hreg : reg.isClaimed = s.registration.isClaimed)
    (hentry : (registered entry).isSome = true → reg = .serving hub)
    (hother : ∀ i, s.registration = .serving i → reg = .serving i) :
    Ordered { s.setEntry hub entry with registration := reg } where
  order := h.order
  unclaimed hc := h.unclaimed (hreg.symm.trans hc)
  claimed hc := h.claimed (hreg.symm.trans hc)
  client i hi := by
    by_cases hhub : i = hub
    · subst hhub
      refine hentry ?_
      simpa [Transit.hasClient, Transit.setEntry] using hi
    · refine hother i (h.client i ?_)
      simpa [Transit.hasClient, Transit.setEntry, Function.update_of_ne hhub] using hi

theorem not_hasClient (h : Ordered s) (hreg : ∀ hub, s.registration ≠ .serving hub)
    (hub : InstanceId) : (registered (s.entries hub)).isSome = false := by
  cases hclient : (registered (s.entries hub)).isSome with
  | false => rfl
  | true => exact absurd (h.client hub hclient) (hreg hub)

/-- **Every signal that is handed over keeps the accepted signals in their order.** -/
theorem step (h : Ordered s) {ev : SignalEvent P} (hok : HandedOver s ev)
    (hs : s.step ev = some t) (hlen : t.accepted.length ≤ maxPendingMsgs) : Ordered t := by
  cases ev with
  | connect hub =>
      simp only [Transit.step, Option.bind_eq_bind, Option.bind_eq_some_iff] at hs
      obtain ⟨_, hguard, e, he, hs⟩ := hs
      cases hs
      have hreg : s.registration = .absent := by
        by_contra hne
        simp [guard, hne] at hguard
      have hnone := h.not_hasClient (by simp [hreg]) hub
      refine h.setEntry (by rw [hreg]; rfl) ?_ (by simp [hreg])
      intro hsome
      rw [registered_reserve he, hnone] at hsome
      cases hsome
  | claim =>
      simp only [Transit.step] at hs
      split at hs
      case h_1 hub hreg =>
        split at hs
        case h_1 =>
          cases hs
          have hnone := h.not_hasClient (by simp [hreg]) hub
          refine h.setEntry (by rw [hreg]; rfl) ?_ (by simp [hreg])
          intro hsome
          rw [registered_abandon, hnone] at hsome
          cases hsome
        case h_2 pending k hk =>
          cases hs
          exact h.claim hreg hlen hk
      case h_2 => cases hs
  | settle =>
      simp only [Transit.step] at hs
      split at hs
      case h_1 hub hreg =>
        simp only [Option.bind_eq_bind, Option.bind_eq_some_iff] at hs
        obtain ⟨-, -, hs⟩ := hs
        cases hs
        exact h.setEntry (by rw [hreg]; rfl) (fun _ => rfl) (by simp [hreg])
      case h_2 => cases hs
  | replay =>
      simp only [Transit.step] at hs
      split at hs
      case h_1 hub payload rest hreg hreplay =>
        cases hs
        exact h.replay hreplay (by rw [hreg]; rfl)
      case h_2 => cases hs
  | send hub payload =>
      simp only [Transit.step, Option.bind_eq_bind, Option.bind_eq_some_iff] at hs
      obtain ⟨-, -, hs⟩ := hs
      cases hs
      exact ⟨h.order, h.unclaimed, h.claimed, h.client⟩
  | dispatch =>
      simp only [Transit.step] at hs
      split at hs
      case h_1 hub payload hsending =>
        split at hs
        case isTrue hclient =>
          cases hs
          obtain ⟨hreplay, hnone⟩ := hok hub payload hsending hclient
          exact h.dispatch payload hclient hreplay hnone
        case isFalse =>
          cases hs
          exact ⟨h.order, h.unclaimed, h.claimed, h.client⟩
      case h_2 => cases hs
  | store subscribed =>
      simp only [Transit.step] at hs
      split at hs
      case h_1 hub payload hsending =>
        have hover := hok hub payload hsending
        have hkeys := Keys.snd_sendOrQueue hub subscribed payload s.keys
        split at hs
        case h_1 owner k hstore =>
          simp only [hstore] at hover hkeys
          cases hs
          obtain rfl := hkeys
          exact h.publish payload hover
        case h_2 k hstore =>
          simp only [hstore] at hover hkeys
          cases hs
          obtain rfl := hkeys
          have hlen' : s.accepted.length < maxPendingMsgs := by
            simp only [Transit.accept, List.length_append, List.length_singleton] at hlen
            omega
          exact h.keep payload hover.1 hover.2 hlen'
      case h_2 => cases hs
  | receive hub =>
      simp only [Transit.step] at hs
      split at hs
      case h_1 payload rest hline =>
        have hsignals : (s.lines hub).signals = payload :: rest := by rw [hline, Line.signals_none]
        split at hs
        case isTrue hclient =>
          cases hs
          exact h.deliver_line hsignals hclient (hok hclient)
        case isFalse =>
          cases hs
          exact h.setLine_same (by rw [hsignals, Line.signals_some])
      case h_2 => cases hs
  | checkOwner hub =>
      simp only [Transit.step] at hs
      split at hs
      case h_1 payload rest hline =>
        rw [if_pos (show s.keys.owner = some hub from hok)] at hs
        cases hs
        exact h.setLine_same (by rw [hline, Line.signals_some, Line.signals_some])
      case h_2 => cases hs
  | retry hub =>
      simp only [Transit.step] at hs
      split at hs
      case h_1 payload rest hline =>
        have hsignals : (s.lines hub).signals = payload :: rest := by rw [hline, Line.signals_some]
        split at hs
        case isTrue hclient =>
          cases hs
          exact h.deliver_line hsignals hclient (hok hclient)
        case isFalse =>
          cases hs
          exact h.setLine_same (by rw [hsignals, Line.signals_some])
      case h_2 => cases hs
  | push hub =>
      simp only [Transit.step] at hs
      split at hs
      case h_1 payload rest hline =>
        cases hs
        exact h.push_line (by rw [hline, Line.signals_some]) hok hlen
      case h_2 => cases hs
  | lapse =>
      simp only [Transit.step, Option.bind_eq_bind, Option.bind_eq_some_iff] at hs
      obtain ⟨-, -, hs⟩ := hs
      cases hs
      exact ⟨h.order, h.unclaimed, h.claimed, h.client⟩

end Ordered

/-- Nothing that has been accepted is forgotten. -/
theorem accepted_le {s t : Transit P} {ev : SignalEvent P} (hs : s.step ev = some t) :
    s.accepted.length ≤ t.accepted.length := by
  cases ev <;> simp only [Transit.step, Option.bind_eq_bind] at hs <;>
    grind [Transit.accept, Transit.deliver, Transit.setLine, Transit.setEntry,
      Option.bind_eq_some_iff, Option.pure_def]

/-- **What is handed over as it should be is delivered**: in every run in which each signal is handed
over so, and at most `maxPendingMsgs` are accepted. -/
theorem delivered_of_handedOver {owner : Option InstanceId} {l : List (SignalEvent P)}
    {s : Transit P} (h : Run Transit.step HandedOver (Transit.start owner) l s)
    (hlen : s.accepted.length ≤ maxPendingMsgs) : Delivered s := by
  have hordered : s.accepted.length ≤ maxPendingMsgs → Ordered s := by
    refine h.invariant (I := fun s => s.accepted.length ≤ maxPendingMsgs → Ordered s) ?_
      (fun _ => Ordered.start owner)
    intro s ev t hs hok hstep hlen
    exact (hs ((accepted_le hstep).trans hlen)).step hok hstep hlen
  exact (hordered hlen).delivered

/-- An offer is kept and replayed, and a candidate published to the instance that serves the
target. -/
def keptThenPublished : List (SignalEvent String) :=
  [.send 1 "offer", .dispatch, .store fun _ => true, .connect 0, .claim, .settle, .replay,
    .send 1 "candidate", .dispatch, .store fun _ => true, .receive 0]

theorem keptThenPublished_delivered : ∃ s : Transit String,
    Run Transit.step Always (Transit.start none) keptThenPublished s ∧
      s.accepted = ["offer", "candidate"] ∧ Delivered s := by
  have hrun : ∃ s : Transit String,
      Run Transit.step HandedOver (Transit.start none) keptThenPublished s ∧
        s.accepted = ["offer", "candidate"] := by
    refine ⟨_, .head trivial rfl <| .head ?_ rfl <| .head ?_ rfl <| .head trivial rfl <|
      .head trivial rfl <| .head trivial rfl <| .head trivial rfl <| .head trivial rfl <|
      .head ?_ rfl <| .head ?_ rfl <| .head ?_ rfl <| .refl _, rfl⟩
    · rintro hub payload - hclient
      cases hclient
    · rintro hub payload hsending
      cases hsending
      exact ⟨rfl, fun _ _ => rfl⟩
    · rintro hub payload hsending hclient
      cases hsending
      cases hclient
    · rintro hub payload hsending
      cases hsending
      exact fun _ _ => rfl
    · exact fun _ => rfl
  obtain ⟨s, hs, haccepted⟩ := hrun
  exact ⟨s, hs.always, haccepted,
    delivered_of_handedOver hs (by rw [haccepted]; decide)⟩

/-- The target claims its session, an answer is sent to it at the same instance, and only then is its
client registered. -/
def answeredMeanwhile : List (SignalEvent String) :=
  [.connect 0, .claim, .send 0 "answer", .dispatch, .store fun _ => true, .settle]

/-- **A signal that is accepted while the target registers is lost.** -/
theorem signal_isLost : ¬ ∀ (owner : Option InstanceId) (l : List (SignalEvent String))
    (s : Transit String), Run Transit.step Always (Transit.start owner) l s →
      s.accepted.length ≤ maxPendingMsgs → Delivered s := by
  intro h
  obtain ⟨s, hs, hquiet, haccepted, hdelivered⟩ : ∃ s : Transit String,
      exec Transit.step (Transit.start none) answeredMeanwhile = some s ∧ Quiet s ∧
        s.accepted = ["answer"] ∧ s.delivered = [] :=
    ⟨_, rfl, ⟨⟨0, rfl⟩, rfl, rfl, fun _ => rfl⟩, rfl, rfl⟩
  have hall := h none answeredMeanwhile s (run_of_exec hs) (by rw [haccepted]; decide)
  have hlost := hall.2 hquiet
  rw [haccepted, hdelivered] at hlost
  cases hlost

end Signaling
