/-
**Reports against a former partner.**

Who was whose partner is kept in two entries of a session, the match and the recent match; that the
reporter is who it says it is, in the session's token; and where both are, in the locator or, once
the session has been deleted, in the report locator.  The entries are written, refreshed and dropped
by different operations, each with its own time to live, and read together when a report comes in.

Main definitions:

* `Reports.Kept` — an entry with the second at which the store lets go of it;
* `Reports.Evidence` — the entries of one session that a report rests on;
* `Reports.State.step` — **the operations on sessions, time, and reports**;
* `Reports.validateReport` — what the report handler makes of the entries;
* `Reports.Admitted` — for a while after a match either partner can report the other;
* `Reports.InGoodTime` — sessions are refreshed, and the report comes in while the recent match is
  still kept.

Main results:

* `Reports.Sound.step` — what is kept of a session, and until when;
* `Reports.admitted_of_inGoodTime` — **reports in good time are admitted**;
* `Reports.longChat_isRefused` — after a long chat the report is refused.
-/

import Mathlib.Logic.Function.Basic
import Pairline.Sessions.Record
import Pairline.Transition

set_option relaxedAutoImplicit false
set_option autoImplicit false

namespace Reports

open Matchmaker (SessionId)
open Sessions (Route)
open Transition

/-! ### Entries with a time to live -/

/-- A value, and the second from which the store answers as if it were not there. -/
structure Kept (α : Type) where
  value : α
  expiresAt : ℕ
  deriving DecidableEq

section Entries

variable {α : Type} (now ttl : ℕ) (entry : Option (Kept α))

/-- `GET`. -/
def get : Option α :=
  entry.bind fun kept => if now < kept.expiresAt then some kept.value else none

/-- `SETEX`. -/
def setex (value : α) : Option (Kept α) := some ⟨value, now + ttl⟩

/-- `EXPIRE`, of a key that exists. -/
def expire : Option (Kept α) :=
  if (get now entry).isSome then entry.map fun kept => { kept with expiresAt := now + ttl } else entry

/-- The entry holds a value, and keeps it at least until some second. -/
def Lasts (entry : Option (Kept α)) (value : α) (until' : ℕ) : Prop :=
  ∃ t, entry = some ⟨value, t⟩ ∧ until' ≤ t

variable {now ttl entry} {value : α} {until' : ℕ}

theorem lasts_setex : Lasts (setex now ttl value) value (now + ttl) := ⟨_, rfl, le_rfl⟩

theorem Lasts.mono (h : Lasts entry value until') {m : ℕ} (hm : m ≤ until') :
    Lasts entry value m := by
  obtain ⟨t, ht, hle⟩ := h
  exact ⟨t, ht, hm.trans hle⟩

theorem Lasts.get (h : Lasts entry value until') (hnow : now < until') :
    get now entry = some value := by
  obtain ⟨t, rfl, hle⟩ := h
  simp only [Reports.get, Option.bind_some]
  exact if_pos (by omega)

theorem Lasts.expire (h : Lasts entry value until') (hnow : now < until') :
    Lasts (expire now ttl entry) value (now + ttl) := by
  have hget := h.get hnow
  obtain ⟨t, rfl, -⟩ := h
  exact ⟨now + ttl, by simp [Reports.expire, hget], le_rfl⟩

end Entries

/-! ### Sessions -/

/-- The SHA-256 digest of a token, in hexadecimal. -/
structure Digest where
  hex : String → String
  hex_ne_empty : ∀ token, hex token ≠ ""

/-- **What is kept of a session**, at its route; and its history. -/
structure Evidence where
  token : String
  route : Route
  /-- The partner in the session's record. -/
  record : Option (Kept (Option SessionId))
  hashedToken : Option (Kept String)
  locator : Option (Kept Route)
  reportLocator : Option (Kept Route)
  matchKey : Option (Kept SessionId)
  recentMatch : Option (Kept SessionId)
  refreshedAt : ℕ
  pairedAt : ℕ
  deletedAt : Option ℕ
  /-- The last match that has ended, unless there was one with somebody else since. -/
  ended : Option (SessionId × ℕ)

namespace Evidence

def partner (x : Evidence) : Option SessionId := x.record.bind (·.value)

def alive (x : Evidence) : Bool := x.deletedAt.isNone

theorem alive_iff (x : Evidence) : x.alive = true ↔ x.deletedAt = none := Option.isNone_iff_eq_none

end Evidence

/-- Times to live, in seconds. -/
structure Config where
  sessionTtl : ℕ
  reportGrace : ℕ

variable (cfg : Config) (digest : Digest)

/-- `create_session`, which persists the session. -/
def created (now : ℕ) (token : String) (route : Route) : Evidence where
  token := token
  route := route
  record := setex now cfg.sessionTtl none
  hashedToken := setex now cfg.sessionTtl (digest.hex token)
  locator := setex now cfg.sessionTtl route
  reportLocator := none
  matchKey := none
  recentMatch := none
  refreshedAt := now
  pairedAt := now
  deletedAt := none
  ended := none

/-- `@touch_session_script` and the refresh of the locators; an update in place does the same. -/
def touched (now : ℕ) (x : Evidence) : Evidence :=
  { x with
    record := setex now cfg.sessionTtl x.partner
    hashedToken := expire now cfg.sessionTtl x.hashedToken
    locator := setex now cfg.sessionTtl x.route
    matchKey := expire now cfg.sessionTtl x.matchKey
    refreshedAt := now }

/-- `@persist_script` and the locators: an update that is not made in place. -/
def persisted (now : ℕ) (x : Evidence) : Evidence :=
  { x with
    record := setex now cfg.sessionTtl x.partner
    hashedToken := setex now cfg.sessionTtl (digest.hex x.token)
    locator := setex now cfg.sessionTtl x.route }

/-- `@pair_script`, for one of the two sessions. -/
def paired (now : ℕ) (partnerId : SessionId) (x : Evidence) : Evidence :=
  { x with
    record := setex now cfg.sessionTtl (some partnerId)
    hashedToken := setex now cfg.sessionTtl (digest.hex x.token)
    matchKey := setex now cfg.sessionTtl partnerId
    recentMatch := setex now cfg.reportGrace partnerId
    pairedAt := now
    ended := x.ended.filter fun e => e.1 = partnerId }

/-- `@reset_pair_script`, for one of the two sessions. -/
def reset (now : ℕ) (x : Evidence) : Evidence :=
  { x with
    record := setex now cfg.sessionTtl none
    hashedToken := setex now cfg.sessionTtl (digest.hex x.token)
    matchKey := none }

/-- `@emergency_disconnect_script` and `@disconnect_partner_script`; a ban does the same to these
entries. -/
def disconnected (now : ℕ) (x : Evidence) : Evidence :=
  { x with
    record := setex now cfg.sessionTtl none
    matchKey := none }

/-- `@delete_script` and the locators for the grace period. -/
def deleted (now : ℕ) (x : Evidence) : Evidence :=
  { x with
    record := none
    hashedToken := expire now cfg.reportGrace x.hashedToken
    locator := none
    reportLocator := setex now cfg.reportGrace x.route
    matchKey := none
    recentMatch := expire now cfg.reportGrace x.recentMatch
    deletedAt := some now }

/-- `cleanup_unrouted_orphaned_session`. -/
def cleanedUp (x : Evidence) : Evidence := { x with locator := none, reportLocator := none }

/-! ### Validating a report -/

/-- `resolveReportRoute`. -/
def resolveReportRoute (primary fallback : Option Route) : Option Route :=
  primary.or fallback

/-- **`validateReportPipelined`**: whether the token is the reporter's, and whether the reported
session is its partner, or was of late. -/
def validateReport (now : ℕ) (reporter : Option Evidence) (reportedId : SessionId)
    (reporterToken : String) : Bool × Bool :=
  match reporter with
  | none => (false, false)
  | some x =>
      match resolveReportRoute (get now x.locator) (get now x.reportLocator) with
      | none => (false, false)
      | some route =>
          -- the keys of a session at a route that is not its own do not exist
          let at_ {α : Type} (entry : Option (Kept α)) : Option α :=
            if route = x.route then get now entry else none
          let expectedToken := (at_ x.hashedToken).getD ""
          (decide (expectedToken ≠ "") && decide (expectedToken = digest.hex reporterToken),
            decide (at_ x.matchKey = some reportedId) ||
              decide (at_ x.recentMatch = some reportedId))

/-! ### Runs -/

structure State where
  now : ℕ
  sessions : SessionId → Option Evidence

inductive Event
  | wait (seconds : ℕ)
  | create (sid : SessionId) (token : String) (route : Route)
  | touch (sid : SessionId)
  | persist (sid : SessionId)
  | pair (sid partnerId : SessionId)
  /-- The partners part: by a skip, a stop, or the first half of closing a session. -/
  | part (sid : SessionId)
  /-- An administrator disconnects or bans a session. -/
  | emergency (sid : SessionId)
  | delete (sid : SessionId)
  | report (reporterId reportedId : SessionId) (reporterToken : String)

namespace State

def start (now : ℕ) : State := ⟨now, fun _ => none⟩

def put (s : State) (sid : SessionId) (x : Evidence) : State :=
  { s with sessions := Function.update s.sessions sid (some x) }

/-- The record of a session, as `get_session` reads it. -/
def read (s : State) (sid : SessionId) : Option Evidence :=
  (s.sessions sid).bind fun x => if (get s.now x.record).isSome then some x else none

def alive (s : State) (sid : SessionId) : Bool := (s.sessions sid).any Evidence.alive

/-- The match of a session ends, unless it has ended when the partner was deleted. -/
def ending (s : State) (x : Evidence) : Option (SessionId × ℕ) :=
  match x.partner with
  | some partnerId => if s.alive partnerId then some (partnerId, s.now) else x.ended
  | none => x.ended

/-- … and with the deletion of a session also the match of its partner. -/
def endFor (s : State) (sid : SessionId) : Option SessionId → State
  | none => s
  | some partnerId =>
      match s.sessions partnerId with
      | some y =>
          if y.alive ∧ y.partner = some sid then s.put partnerId { y with ended := some (sid, s.now) }
          else s
      | none => s

/-- **The operations on sessions, time, and reports**, one event at a time. -/
def step (s : State) : Event → Option State
  | .wait seconds => some { s with now := s.now + seconds }
  | .create sid token route => do
      guard (s.sessions sid).isNone
      return s.put sid (created cfg digest s.now token route)
  | .touch sid => do
      let x ← s.read sid
      return s.put sid (touched cfg s.now x)
  | .persist sid => do
      let x ← s.read sid
      return s.put sid (persisted cfg digest s.now x)
  | .pair sid partnerId => do
      guard (sid ≠ partnerId)
      let x ← s.read sid
      let y ← s.read partnerId
      guard (x.partner = none ∧ y.partner = none ∧ x.route = y.route)
      return (s.put sid (paired cfg digest s.now partnerId x)).put partnerId
        (paired cfg digest s.now sid y)
  | .part sid => do
      let x ← s.read sid
      let partnerId ← x.partner
      let y ← s.read partnerId
      guard (sid ≠ partnerId)
      return (s.put sid { reset cfg digest s.now x with ended := s.ending x }).put partnerId
        { reset cfg digest s.now y with ended := s.ending y }
  | .emergency sid => do
      let x ← s.read sid
      let s' := s.put sid { disconnected cfg s.now x with ended := s.ending x }
      -- the partner is disconnected if its record still names the session
      match x.partner.bind fun partnerId => (s'.read partnerId).map (partnerId, ·) with
      | some (partnerId, y) =>
          if y.partner = some sid then
            return s'.put partnerId { disconnected cfg s.now y with ended := s.ending y }
          else return s'
      | none => return s'
  | .delete sid => do
      let x ← s.sessions sid
      match s.read sid with
      | some _ =>
          return (s.put sid { deleted cfg s.now x with ended := s.ending x }).endFor sid x.partner
      -- nothing leads to the session any more
      | none => return s.put sid (cleanedUp x)
  | .report _ _ _ => some s

end State

/-! ### The law -/

/-- **For a while after a match either partner can report the other.** -/
def Admitted (s : State) : Event → Prop
  | .report reporterId reportedId reporterToken => ∀ x ∈ s.sessions reporterId,
      x.token = reporterToken → ∀ e ∈ x.ended, e.1 = reportedId → s.now < e.2 + cfg.reportGrace →
        validateReport digest s.now (s.sessions reporterId) reportedId reporterToken = (true, true)
  | _ => True

/-- The session has been refreshed within its time to live. -/
def Fresh (now : ℕ) (x : Evidence) : Prop := now < x.refreshedAt + cfg.sessionTtl

/-- The recent match is still kept: the match, not its end, was not long ago, or the session was
deleted while that was so; or the session's record still names its partner. -/
def Recent (now : ℕ) (reportedId : SessionId) (x : Evidence) : Prop :=
  match x.deletedAt with
  | none => Fresh cfg now x ∧ (x.partner = some reportedId ∨ now < x.pairedAt + cfg.reportGrace)
  | some d => d < x.pairedAt + cfg.reportGrace

/-- **Sessions are refreshed, a deleted session is not deleted again before it can no longer be
reported, and the report comes in while the recent match is still kept.** -/
def InGoodTime (s : State) : Event → Prop
  | .touch sid => ∀ x ∈ s.sessions sid, Fresh cfg s.now x
  | .delete sid => ∀ x ∈ s.sessions sid,
      if x.alive then Fresh cfg s.now x else ∀ e ∈ x.ended, e.2 + cfg.reportGrace ≤ s.now
  | .report reporterId reportedId _ => ∀ x ∈ s.sessions reporterId, ∀ e ∈ x.ended,
      e.1 = reportedId → s.now < e.2 + cfg.reportGrace → Recent cfg s.now reportedId x
  | _ => True

instance (now : ℕ) (x : Evidence) : Decidable (Fresh cfg now x) :=
  inferInstanceAs (Decidable (_ < _))

instance (now : ℕ) (reportedId : SessionId) (x : Evidence) :
    Decidable (Recent cfg now reportedId x) := by
  unfold Recent; cases x.deletedAt <;> infer_instance

instance (s : State) (ev : Event) : Decidable (Admitted cfg digest s ev) := by
  cases ev <;> unfold Admitted <;> infer_instance

instance (s : State) (ev : Event) : Decidable (InGoodTime cfg s ev) := by
  cases ev <;> unfold InGoodTime <;> infer_instance

/-! ### What is kept, and until when -/

/-- The entries of a session that has not been deleted. -/
structure Live (x : Evidence) : Prop where
  record : Lasts x.record x.partner (x.refreshedAt + cfg.sessionTtl)
  locator : Lasts x.locator x.route (x.refreshedAt + cfg.sessionTtl)
  hashedToken : Lasts x.hashedToken (digest.hex x.token) (x.refreshedAt + cfg.sessionTtl)
  matchKey : ∀ partnerId, x.partner = some partnerId →
    Lasts x.matchKey partnerId (x.refreshedAt + cfg.sessionTtl)
  recentMatch : ∀ partnerId, x.partner = some partnerId ∨ (∃ e ∈ x.ended, e.1 = partnerId) →
    Lasts x.recentMatch partnerId (x.pairedAt + cfg.reportGrace)

/-- The entries of a session deleted at `d`. -/
structure Gone (now d : ℕ) (x : Evidence) : Prop where
  record : x.record = none
  locator : x.locator = none
  ended_le : ∀ e ∈ x.ended, e.2 ≤ d
  kept : ∀ e ∈ x.ended, now < e.2 + cfg.reportGrace →
    Lasts x.reportLocator x.route (d + cfg.reportGrace) ∧
      Lasts x.hashedToken (digest.hex x.token) (d + cfg.reportGrace) ∧
      (d < x.pairedAt + cfg.reportGrace → Lasts x.recentMatch e.1 (d + cfg.reportGrace))

structure Sound (now : ℕ) (x : Evidence) : Prop where
  refreshedAt_le : x.refreshedAt ≤ now
  ended_le : ∀ e ∈ x.ended, e.2 ≤ now
  live : x.deletedAt = none → Live cfg digest x
  gone : ∀ d, x.deletedAt = some d → Gone cfg digest now d x

variable {cfg digest} {now : ℕ} {x : Evidence}

theorem Sound.mono (h : Sound cfg digest now x) {later : ℕ} (hle : now ≤ later) :
    Sound cfg digest later x where
  refreshedAt_le := h.refreshedAt_le.trans hle
  ended_le e he := (h.ended_le e he).trans hle
  live := h.live
  gone d hd :=
    { record := (h.gone d hd).record
      locator := (h.gone d hd).locator
      ended_le := (h.gone d hd).ended_le
      kept := fun e he hlt => (h.gone d hd).kept e he (by omega) }

theorem sound_created (token : String) (route : Route) :
    Sound cfg digest now (created cfg digest now token route) where
  refreshedAt_le := le_rfl
  ended_le _ he := by cases he
  live _ :=
    { record := lasts_setex
      locator := lasts_setex
      hashedToken := lasts_setex
      matchKey := fun _ hp => by cases hp
      recentMatch := by
        rintro _ (hp | ⟨e, he, -⟩)
        · cases hp
        · cases he }
  gone _ hd := by cases hd

section Operations

variable (h : Sound cfg digest now x) (hx : x.deletedAt = none)
include h hx

theorem Sound.touched (hfresh : Fresh cfg now x) : Sound cfg digest now (touched cfg now x) where
  refreshedAt_le := le_rfl
  ended_le := h.ended_le
  live _ :=
    { record := lasts_setex
      locator := lasts_setex
      hashedToken := (h.live hx).hashedToken.expire hfresh
      matchKey := fun partnerId hp => ((h.live hx).matchKey partnerId hp).expire hfresh
      recentMatch := (h.live hx).recentMatch }
  gone d hd := by cases hx.symm.trans hd

theorem Sound.persisted : Sound cfg digest now (persisted cfg digest now x) where
  refreshedAt_le := h.refreshedAt_le
  ended_le := h.ended_le
  live _ := by
    have hle := Nat.add_le_add_right h.refreshedAt_le cfg.sessionTtl
    exact
      { record := lasts_setex.mono hle
        locator := lasts_setex.mono hle
        hashedToken := lasts_setex.mono hle
        matchKey := (h.live hx).matchKey
        recentMatch := (h.live hx).recentMatch }
  gone d hd := by cases hx.symm.trans hd

theorem Sound.paired (partnerId : SessionId) :
    Sound cfg digest now (paired cfg digest now partnerId x) where
  refreshedAt_le := h.refreshedAt_le
  ended_le e he := h.ended_le e (Option.mem_filter_iff.1 he).1
  live _ := by
    have hle := Nat.add_le_add_right h.refreshedAt_le cfg.sessionTtl
    refine
      { record := lasts_setex.mono hle
        locator := (h.live hx).locator
        hashedToken := lasts_setex.mono hle
        matchKey := ?_
        recentMatch := ?_ }
    · rintro _ ⟨⟩
      exact lasts_setex.mono hle
    · -- a match that has ended is remembered only if it was with the same partner
      rintro _ (⟨⟨⟩⟩ | ⟨e, he, rfl⟩)
      · exact lasts_setex
      · have hsame : e.1 = partnerId := by simpa using (Option.mem_filter_iff.1 he).2
        rw [hsame]
        exact lasts_setex
  gone d hd := by cases hx.symm.trans hd

/-- What a match is remembered by when it ends: it was with the partner, or had ended before. -/
def Remembers (now : ℕ) (x : Evidence) (ended : Option (SessionId × ℕ)) : Prop :=
  ∀ e ∈ ended, (x.partner = some e.1 ∧ e.2 = now) ∨ e ∈ x.ended

variable {ended : Option (SessionId × ℕ)} (hended : Remembers now x ended)
include hended

omit hx in
theorem Sound.ended_le_of_remembers : ∀ e ∈ ended, e.2 ≤ now := by
  intro e he
  rcases hended e he with ⟨-, hnow⟩ | hbefore
  · exact hnow.le
  · exact h.ended_le e hbefore

theorem Sound.recentMatch_of_remembers : ∀ e ∈ ended,
    Lasts x.recentMatch e.1 (x.pairedAt + cfg.reportGrace) := by
  intro e he
  rcases hended e he with ⟨hp, -⟩ | hbefore
  · exact (h.live hx).recentMatch e.1 (.inl hp)
  · exact (h.live hx).recentMatch e.1 (.inr ⟨e, hbefore, rfl⟩)

/-- A match ends: the record names no partner, and the match key is dropped. -/
theorem Sound.parted {hashedToken : Option (Kept String)}
    (htoken : Lasts hashedToken (digest.hex x.token) (x.refreshedAt + cfg.sessionTtl)) :
    Sound cfg digest now
      { x with
        record := setex now cfg.sessionTtl none
        hashedToken := hashedToken
        matchKey := none
        ended := ended } where
  refreshedAt_le := h.refreshedAt_le
  ended_le := h.ended_le_of_remembers hended
  live _ :=
    { record := lasts_setex.mono (Nat.add_le_add_right h.refreshedAt_le cfg.sessionTtl)
      locator := (h.live hx).locator
      hashedToken := htoken
      matchKey := fun _ hp => by cases hp
      recentMatch := by
        rintro _ (hp | ⟨e, he, rfl⟩)
        · cases hp
        · exact h.recentMatch_of_remembers hx hended e he }
  gone d hd := by cases hx.symm.trans hd

theorem Sound.reset : Sound cfg digest now { reset cfg digest now x with ended := ended } :=
  h.parted hx hended (lasts_setex.mono (Nat.add_le_add_right h.refreshedAt_le cfg.sessionTtl))

theorem Sound.disconnected : Sound cfg digest now { disconnected cfg now x with ended := ended } :=
  h.parted hx hended (h.live hx).hashedToken

/-- The match of a session ends when its partner is deleted: nothing of the session is changed. -/
theorem Sound.bereaved : Sound cfg digest now { x with ended := ended } where
  refreshedAt_le := h.refreshedAt_le
  ended_le := h.ended_le_of_remembers hended
  live _ :=
    { record := (h.live hx).record
      locator := (h.live hx).locator
      hashedToken := (h.live hx).hashedToken
      matchKey := (h.live hx).matchKey
      recentMatch := by
        rintro partnerId (hp | ⟨e, he, rfl⟩)
        · exact (h.live hx).recentMatch partnerId (.inl hp)
        · exact h.recentMatch_of_remembers hx hended e he }
  gone d hd := by cases hx.symm.trans hd

theorem Sound.deleted (hfresh : Fresh cfg now x) :
    Sound cfg digest now { deleted cfg now x with ended := ended } where
  refreshedAt_le := h.refreshedAt_le
  ended_le := h.ended_le_of_remembers hended
  live hd := by cases hd
  gone d hd := by
    obtain rfl : now = d := Option.some.inj hd
    refine
      { record := rfl
        locator := rfl
        ended_le := h.ended_le_of_remembers hended
        kept := fun e he _ => ⟨lasts_setex, (h.live hx).hashedToken.expire hfresh, fun hlt => ?_⟩ }
    exact (h.recentMatch_of_remembers hx hended e he).expire hlt

end Operations

/-- A clean-up does not touch a deleted session that can still be reported. -/
theorem Sound.cleanedUp (h : Sound cfg digest now x) (hdead : x.deletedAt ≠ none)
    (hover : ∀ e ∈ x.ended, e.2 + cfg.reportGrace ≤ now) : Sound cfg digest now (cleanedUp x) where
  refreshedAt_le := h.refreshedAt_le
  ended_le := h.ended_le
  live hd := absurd hd hdead
  gone d hd :=
    { record := (h.gone d hd).record
      locator := rfl
      ended_le := (h.gone d hd).ended_le
      kept := fun e he hlt => by
        have hle := hover e he
        omega }

/-- **A report in good time is admitted.** -/
theorem Sound.admits (h : Sound cfg digest now x) {e : SessionId × ℕ} (he : e ∈ x.ended)
    (hlt : now < e.2 + cfg.reportGrace) (hrecent : Recent cfg now e.1 x) :
    validateReport digest now (some x) e.1 x.token = (true, true) := by
  cases hd : x.deletedAt with
  | none =>
      obtain ⟨hfresh, hpeer⟩ : Fresh cfg now x ∧
          (x.partner = some e.1 ∨ now < x.pairedAt + cfg.reportGrace) := by
        simpa [Recent, hd] using hrecent
      have hlive := h.live hd
      have hlocator := hlive.locator.get hfresh
      have htoken := hlive.hashedToken.get hfresh
      have hmatch : get now x.matchKey = some e.1 ∨ get now x.recentMatch = some e.1 := by
        rcases hpeer with hp | hlate
        · exact .inl ((hlive.matchKey e.1 hp).get hfresh)
        · exact .inr ((hlive.recentMatch e.1 (.inr ⟨e, he, rfl⟩)).get hlate)
      simp [validateReport, resolveReportRoute, hlocator, htoken, digest.hex_ne_empty, hmatch]
  | some d =>
      have hlate : d < x.pairedAt + cfg.reportGrace := by simpa [Recent, hd] using hrecent
      have hgone := h.gone d hd
      obtain ⟨hlocator, htoken, hmatch⟩ := hgone.kept e he hlt
      have hin : now < d + cfg.reportGrace := by
        have hle := hgone.ended_le e he
        omega
      have hnone : get now x.locator = none := by simp [Reports.get, hgone.locator]
      simp [validateReport, resolveReportRoute, hnone, hlocator.get hin, htoken.get hin,
        (hmatch hlate).get hin, digest.hex_ne_empty]

/-! ### Runs in good time -/

def State.Sound (cfg : Config) (digest : Digest) (s : State) : Prop :=
  ∀ sid x, s.sessions sid = some x → Reports.Sound cfg digest s.now x

namespace State

variable {s s' : State} {sid : SessionId}

theorem sound_start (now : ℕ) : (start now).Sound cfg digest := fun _ _ hx => by cases hx

variable (sid) in
theorem Sound.put (h : s.Sound cfg digest) (hx : Reports.Sound cfg digest s.now x) :
    (s.put sid x).Sound cfg digest := by
  intro other y hy
  by_cases heq : other = sid
  · subst heq
    obtain rfl : x = y := by simpa [State.put] using hy
    exact hx
  · exact h other y (by simpa [State.put, heq] using hy)

/-- A session whose record is read has not been deleted. -/
theorem Sound.of_read (h : s.Sound cfg digest) (hread : s.read sid = some x) :
    s.sessions sid = some x ∧ Reports.Sound cfg digest s.now x ∧ x.deletedAt = none := by
  obtain ⟨y, hy, hite⟩ := Option.bind_eq_some_iff.1 hread
  by_cases hsome : (get s.now y.record).isSome
  · rw [if_pos hsome] at hite
    cases hite
    refine ⟨hy, h sid x hy, ?_⟩
    by_contra hne
    obtain ⟨d, hd⟩ := Option.ne_none_iff_exists'.1 hne
    simp [Reports.get, ((h sid x hy).gone d hd).record] at hsome
  · rw [if_neg hsome] at hite
    cases hite

theorem remembers_ending (s : State) (x : Evidence) : Remembers s.now x (s.ending x) := by
  intro e he
  unfold ending at he
  cases hp : x.partner with
  | none => exact .inr (by simpa [hp] using he)
  | some partnerId =>
      by_cases halive : s.alive partnerId
      · obtain rfl : (partnerId, s.now) = e := by simpa [hp, halive] using he
        exact .inl ⟨rfl, rfl⟩
      · exact .inr (by simpa [hp, halive] using he)

theorem Sound.endFor (h : s.Sound cfg digest) (sid : SessionId) (partner : Option SessionId) :
    (s.endFor sid partner).Sound cfg digest := by
  cases partner with
  | none => exact h
  | some partnerId =>
      simp only [State.endFor]
      cases hy : s.sessions partnerId with
      | none => exact h
      | some y =>
          by_cases hboth : y.alive ∧ y.partner = some sid
          · simp only [hboth, and_self, if_true]
            have hdead : y.deletedAt = none := y.alive_iff.1 hboth.1
            refine h.put _ ((h partnerId y hy).bereaved hdead ?_)
            rintro e ⟨⟩
            exact .inl ⟨hboth.2, rfl⟩
          · simpa only [if_neg hboth] using h

theorem Sound.touch (h : s.Sound cfg digest) (hok : InGoodTime cfg s (.touch sid))
    (hs : s.step cfg digest (.touch sid) = some s') : s'.Sound cfg digest := by
  simp only [step, Option.bind_eq_bind, Option.bind_eq_some_iff] at hs
  obtain ⟨x, hread, ⟨⟩⟩ := hs
  obtain ⟨hx, hsound, hlive⟩ := h.of_read hread
  exact h.put _ (hsound.touched hlive (hok x hx))

theorem Sound.persist (h : s.Sound cfg digest)
    (hs : s.step cfg digest (.persist sid) = some s') : s'.Sound cfg digest := by
  simp only [step, Option.bind_eq_bind, Option.bind_eq_some_iff] at hs
  obtain ⟨x, hread, ⟨⟩⟩ := hs
  obtain ⟨-, hsound, hlive⟩ := h.of_read hread
  exact h.put _ (hsound.persisted hlive)

theorem Sound.pair (h : s.Sound cfg digest) {partnerId : SessionId}
    (hs : s.step cfg digest (.pair sid partnerId) = some s') : s'.Sound cfg digest := by
  simp only [step, Option.bind_eq_bind, Option.bind_eq_some_iff] at hs
  obtain ⟨_, -, x, hx, y, hy, _, -, ⟨⟩⟩ := hs
  obtain ⟨-, hsx, hlx⟩ := h.of_read hx
  obtain ⟨-, hsy, hly⟩ := h.of_read hy
  exact (h.put _ (hsx.paired hlx partnerId)).put _ (hsy.paired hly sid)

theorem Sound.part (h : s.Sound cfg digest)
    (hs : s.step cfg digest (.part sid) = some s') : s'.Sound cfg digest := by
  simp only [step, Option.bind_eq_bind, Option.bind_eq_some_iff] at hs
  obtain ⟨x, hx, partnerId, -, y, hy, _, -, ⟨⟩⟩ := hs
  obtain ⟨-, hsx, hlx⟩ := h.of_read hx
  obtain ⟨-, hsy, hly⟩ := h.of_read hy
  exact (h.put _ (hsx.reset hlx (s.remembers_ending x))).put _ (hsy.reset hly (s.remembers_ending y))

theorem Sound.emergency (h : s.Sound cfg digest)
    (hs : s.step cfg digest (.emergency sid) = some s') : s'.Sound cfg digest := by
  simp only [step, Option.bind_eq_bind, Option.bind_eq_some_iff] at hs
  obtain ⟨x, hx, hs⟩ := hs
  obtain ⟨-, hsx, hlx⟩ := h.of_read hx
  have hput := h.put sid (hsx.disconnected hlx (s.remembers_ending x))
  split at hs
  · rename_i partnerId y hfound
    obtain ⟨p, -, hmap⟩ := Option.bind_eq_some_iff.1 hfound
    obtain ⟨z, hz, heq⟩ := Option.map_eq_some_iff.1 hmap
    obtain ⟨rfl, rfl⟩ := Prod.mk.inj heq
    obtain ⟨-, hsy, hly⟩ := hput.of_read hz
    by_cases hnames : z.partner = some sid
    · rw [if_pos hnames] at hs
      cases hs
      exact hput.put _ (hsy.disconnected hly (s.remembers_ending z))
    · rw [if_neg hnames] at hs
      cases hs
      exact hput
  · cases hs
    exact hput

theorem Sound.delete (h : s.Sound cfg digest) (hok : InGoodTime cfg s (.delete sid))
    (hs : s.step cfg digest (.delete sid) = some s') : s'.Sound cfg digest := by
  simp only [step, Option.bind_eq_bind, Option.bind_eq_some_iff] at hs
  obtain ⟨x, hx, hs⟩ := hs
  have hok : if x.alive then Fresh cfg s.now x else ∀ e ∈ x.ended, e.2 + cfg.reportGrace ≤ s.now :=
    hok x hx
  have hsound := h sid x hx
  cases hread : s.read sid with
  | some y =>
      obtain ⟨hy, -, hlive⟩ := h.of_read hread
      obtain rfl : x = y := Option.some.inj (hx.symm.trans hy)
      rw [if_pos (x.alive_iff.2 hlive)] at hok
      simp only [hread] at hs
      cases hs
      exact (h.put _ (hsound.deleted hlive (s.remembers_ending x) hok)).endFor sid x.partner
  | none =>
      simp only [hread] at hs
      cases hs
      -- a session that has been refreshed in time is found by its record
      by_cases hlive : x.deletedAt = none
      · rw [if_pos (x.alive_iff.2 hlive)] at hok
        have hget := (hsound.live hlive).record.get hok
        simp [State.read, hx, hget] at hread
      · rw [if_neg fun halive => hlive (x.alive_iff.1 halive)] at hok
        exact h.put _ (hsound.cleanedUp hlive hok)

/-- **What is kept of the sessions, step by step.** -/
theorem Sound.step (h : s.Sound cfg digest) {ev : Event} (hok : InGoodTime cfg s ev)
    (hs : s.step cfg digest ev = some s') : s'.Sound cfg digest := by
  cases ev with
  | wait seconds =>
      cases hs
      exact fun sid x hx => (h sid x hx).mono (Nat.le_add_right _ _)
  | create sid token route =>
      simp only [State.step, Option.bind_eq_bind, Option.bind_eq_some_iff] at hs
      obtain ⟨_, -, ⟨⟩⟩ := hs
      exact h.put _ (sound_created token route)
  | touch sid => exact h.touch hok hs
  | persist sid => exact h.persist hs
  | pair sid partnerId => exact h.pair hs
  | part sid => exact h.part hs
  | emergency sid => exact h.emergency hs
  | delete sid => exact h.delete hok hs
  | report => cases hs; exact h

theorem Sound.admitted (h : s.Sound cfg digest) {ev : Event} (hok : InGoodTime cfg s ev) :
    Admitted cfg digest s ev := by
  cases ev with
  | report reporterId reportedId reporterToken =>
      intro x hx htoken e he hreported hlt
      obtain rfl := hreported
      obtain rfl := htoken
      have hsome : s.sessions reporterId = some x := hx
      rw [hsome]
      exact (h reporterId x hsome).admits he hlt (hok x hx e he rfl hlt)
  | _ => trivial

end State

/-- **Reports in good time are admitted.** -/
theorem admitted_of_inGoodTime (cfg : Config) (digest : Digest) (now : ℕ) {l : List Event}
    {s : State} (h : Run (State.step cfg digest) (InGoodTime cfg) (.start now) l s) :
    Run (State.step cfg digest) (Admitted cfg digest) (.start now) l s := by
  refine h.exchange (I := State.Sound cfg digest) ?_ (State.sound_start now)
  intro s ev s' hsound hok hs
  exact ⟨hsound.admitted hok, hsound.step hok hs⟩

section Chats

/-- The times to live of a deployment without settings of its own. -/
def defaults : Config := ⟨3600, 900⟩

/-- A digest that is never empty. -/
def marked : Digest := ⟨fun token => "#" ++ token, fun token h => by
  have hlen := congrArg String.length h
  simp [String.length_append] at hlen⟩

def place : Route := ⟨"text", 0⟩

/-- Two sessions chat for some time; one skips, and the other leaves and reports it. -/
def chat (seconds : ℕ) : List Event :=
  [.create "a" "secret" place, .create "b" "hidden" place, .pair "a" "b", .wait seconds,
    .touch "a", .touch "b", .part "b", .wait 60, .delete "a", .wait 300, .report "a" "b" "secret"]

theorem shortChat_isAdmitted : ∃ s,
    Run (State.step defaults marked) (Admitted defaults marked) (.start 0) (chat 600) s := by
  have hrun : (execWhere (State.step defaults marked) (InGoodTime defaults) (.start 0)
      (chat 600)).any (fun _ => true) = true := by decide +kernel
  obtain ⟨s, hs, -⟩ := exists_run_of_execWhere hrun
  exact ⟨s, admitted_of_inGoodTime defaults marked 0 hs⟩

/-- After a chat of twenty minutes the recent match has expired. -/
theorem longChat_isRefused : ¬ ∀ (cfg : Config) (digest : Digest) (now : ℕ) (l : List Event)
    (s : State), Run (State.step cfg digest) Always (.start now) l s →
      Run (State.step cfg digest) (Admitted cfg digest) (.start now) l s := by
  intro h
  have hrun : (execWhere (State.step defaults marked) Always (.start 0) (chat 1200)).any
      (fun _ => true) = true := by decide +kernel
  obtain ⟨s, hs, -⟩ := exists_run_of_execWhere hrun
  have hnone : (execWhere (State.step defaults marked) (Admitted defaults marked) (.start 0)
      (chat 1200)).isSome = false := by decide +kernel
  rw [execWhere_of_run (h defaults marked 0 _ s hs)] at hnone
  cases hnone

end Chats

end Reports
