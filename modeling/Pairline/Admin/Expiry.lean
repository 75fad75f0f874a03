/-
**The expiry of temporary bans of addresses.**

The Go server sets the key of a banned address with a time to live and publishes the ban; the handler
of the Phoenix server sets the same key once more, without one.  A plain `SET` takes the time to live
away, so from then on the key does not expire.  And a time to live that is computed before the
command is sent counts from when the command runs.

Main definitions:

* `Admin.TemporaryIpBan` — a ban of an address with an expiry;
* `Admin.Servers`, `Admin.Servers.step` — **its propagations and its handlers side by side**;
* `Admin.ExpiresInTime` — the key expires no later than the ban;
* `Admin.InTime` — a step that is no `SET` of a handler, nor one with a time to live that is too long.

Main results:

* `Admin.live_of_expiresInTime` — the address is not banned after the expiry;
* `Admin.banExpiry_iff` — **the key expires in time in exactly those runs whose steps are in time**;
* `Admin.redisBanTTL_inTime_iff` — when a time to live is not too long;
* `Admin.handledBan_stays` — the handler makes a temporary ban permanent.
-/

import Pairline.Admin.Published
import Pairline.Pool

set_option relaxedAutoImplicit false
set_option autoImplicit false

namespace Admin

open Transition
open Bans (Ban Instr propagateBan)

/-! ### Both servers -/

/-- A ban of an address, with an expiry. -/
structure TemporaryIpBan where
  ban : Ban
  expiresAt : ℤ
  temporary : ban.expiresAt = some expiresAt
  address : ban.ipAddress ≠ ""

/-- The action that is published for the address. -/
def TemporaryIpBan.action (b : TemporaryIpBan) : Bans.AdminAction :=
  .banIP b.ban.ipAddress b.ban.reason

/-- **The propagations of a ban, each with the time to live that it has computed, and the handlers of
its entry.** -/
structure Servers where
  now : ℤ
  shared : Shared
  propagations : List (Option ℤ × List Instr)
  handlers : List (AdminProg (Outcome Unit))

inductive ServerEvent
  | propagate
  | send (i : ℕ)
  | deliver
  | handle (i : ℕ)
  | fail (i : ℕ)
  | tick (d : ℕ)

namespace Servers

/-- A handler goes on to what is left of it. -/
def setHandler (s : Servers) (i : ℕ) (handler : AdminProg (Outcome Unit)) : Servers :=
  { s with handlers := s.handlers.set i handler }

/-- **One event**: the ban is propagated, also again, or a propagation goes on; the entry is delivered,
also again, or a handler goes on, or a command of it fails; or time passes. -/
def step (reader : Reader) (b : TemporaryIpBan) (s : Servers) : ServerEvent → Option Servers
  | .propagate => some { s with propagations := s.propagations ++ [(none, propagateBan b.ban)] }
  | .send i =>
      match s.propagations[i]? with
      | some (ttl, instr :: instrs) => some { s with
          shared := { s.shared with redis := (s.shared.redis.exec s.now ttl instr).1 }
          propagations :=
            s.propagations.set i ((s.shared.redis.exec s.now ttl instr).2, instrs) }
      | _ => none
  | .deliver =>
      if b.action ∈ s.shared.redis.stream then
        some { s with handlers := s.handlers ++ [handlePublished reader b.action] }
      else none
  | .handle i =>
      match s.handlers[i]? with
      | some (.call c next) =>
          let answer := s.shared.exec ⟨s.now, []⟩ c
          some ({ s with shared := answer.2 }.setHandler i (next (.ok answer.1)))
      | _ => none
  | .fail i =>
      match s.handlers[i]? with
      | some (.call _ next) => some (s.setHandler i (next (.error ())))
      | _ => none
  | .tick d => some { s with now := s.now + d }

end Servers

/-! ### The law -/

variable {reader : Reader} {b : TemporaryIpBan} {s s' : Servers}

/-- **The key of the address expires no later than the ban.** -/
def ExpiresInTime (b : TemporaryIpBan) (s : Servers) : Prop :=
  ∀ value ∈ s.shared.redis.key (.ip b.ban.ipAddress), ∃ t ∈ value.expiresAt, t ≤ b.expiresAt

/-- A step after which it does. -/
def KeepsExpiry (reader : Reader) (b : TemporaryIpBan) (s : Servers) (ev : ServerEvent) : Prop :=
  ∀ s', s.step reader b ev = some s' → ExpiresInTime b s'

/-- A command that sets the key of an address, in one server and in the other. -/
def setsKey (ip : String) : Instr → Bool
  | .set target _ => target = .ip ip
  | _ => false

def AdminOp.setsKey (ip : String) : AdminOp → Bool
  | .setIpBan other _ => other = ip
  | _ => false

/-- **A step in time**: the Go server sets the key for no longer than until the expiry, and a handler
does not set it. -/
def InTime (b : TemporaryIpBan) (s : Servers) : ServerEvent → Prop
  | .send i => ∀ propagation ∈ s.propagations[i]?, ∀ instr ∈ propagation.2.head?,
      setsKey b.ban.ipAddress instr = true → ∃ ttl ∈ propagation.1, s.now + ttl ≤ b.expiresAt
  | .handle i => ∀ handler ∈ s.handlers[i]?, ∀ c ∈ handler.next?, c.setsKey b.ban.ipAddress = false
  | _ => True

/-- **The address is not banned after the expiry.** -/
theorem live_of_expiresInTime (h : ExpiresInTime b s) {value : Bans.KeyValue}
    (hvalue : value ∈ s.shared.redis.key (.ip b.ban.ipAddress)) (hlive : value.live s.now = true) :
    s.now < b.expiresAt := by
  obtain ⟨t, ht, hle⟩ := h value hvalue
  have hexpires : value.expiresAt = some t := ht
  simp only [Bans.KeyValue.live, hexpires, decide_eq_true_eq] at hlive
  exact lt_of_lt_of_le hlive hle

/-- **A time to live is not too long** when it is used at once, and the ban has not expired. -/
theorem redisBanTTL_inTime_iff {now now' : ℤ} (hle : now ≤ now') :
    (∃ ttl ∈ Bans.redisBanTTL b.ban now, now' + ttl ≤ b.expiresAt) ↔
      now' = now ∧ now < b.expiresAt := by
  simp only [Bans.redisBanTTL, b.temporary, Option.map_some, Option.mem_some_iff, exists_eq_left']
  split
  next hexpired =>
      have hexpired : b.expiresAt - now ≤ 0 := hexpired
      omega
  next hleft =>
      have hleft : ¬ b.expiresAt - now ≤ 0 := hleft
      have hsum : now' + (b.expiresAt - now) ≤ b.expiresAt ↔ now' ≤ now := by omega
      rw [hsum]
      omega

/-! ### One step -/

/-- A command of a propagation. -/
theorem expires_send_iff (h : ExpiresInTime b s) {ttl : Option ℤ} {instr : Instr} :
    (∀ value ∈ (s.shared.redis.exec s.now ttl instr).1.key (.ip b.ban.ipAddress),
        ∃ t ∈ value.expiresAt, t ≤ b.expiresAt) ↔
      (setsKey b.ban.ipAddress instr = true → ∃ t ∈ ttl, s.now + t ≤ b.expiresAt) := by
  cases instr with
  | set target ban =>
      by_cases htarget : target = .ip b.ban.ipAddress
      · subst htarget
        cases ttl <;> simp [Bans.Redis.exec, setsKey]
      · have hne : Bans.Target.ip b.ban.ipAddress ≠ target := fun heq => htarget heq.symm
        have hkeep : ∀ value ∈ s.shared.redis.key (.ip b.ban.ipAddress),
            ∃ t ∈ value.expiresAt, t ≤ b.expiresAt := h
        simpa [Bans.Redis.exec, hne, htarget, setsKey] using hkeep
  | del target =>
      have hkeep : ∀ value ∈ s.shared.redis.key (.ip b.ban.ipAddress),
          ∃ t ∈ value.expiresAt, t ≤ b.expiresAt := h
      by_cases htarget : target = .ip b.ban.ipAddress
      · subst htarget
        simp [Bans.Redis.exec, setsKey]
      · have hne : Bans.Target.ip b.ban.ipAddress ≠ target := fun heq => htarget heq.symm
        simpa [Bans.Redis.exec, hne, setsKey] using hkeep
  | redisBanTTL _ => exact ⟨fun _ => nofun, fun _ => h⟩
  | sadd _ => exact ⟨fun _ => nofun, fun _ => h⟩
  | srem _ => exact ⟨fun _ => nofun, fun _ => h⟩
  | publish _ => exact ⟨fun _ => nofun, fun _ => h⟩

/-- A command of a handler. -/
theorem expires_handle_iff (h : ExpiresInTime b s) {x : World} {c : AdminOp} :
    (∀ value ∈ (s.shared.exec x c).2.redis.key (.ip b.ban.ipAddress),
        ∃ t ∈ value.expiresAt, t ≤ b.expiresAt) ↔
      c.setsKey b.ban.ipAddress = false := by
  by_cases hchanges : c.changesIpBan b.ban.ipAddress
  · rcases hchanges with ⟨reason, rfl⟩ | rfl
    · simp [Shared.key_exec_ip, exec, AdminOp.setsKey]
    · simp [Shared.key_exec_ip, exec, AdminOp.setsKey]
  · rw [Shared.key_exec hchanges]
    refine ⟨fun _ => ?_, fun _ => h⟩
    cases c with
    | setIpBan other reason =>
        have hne : other ≠ b.ban.ipAddress := by
          rintro rfl
          exact hchanges (.inl ⟨reason, rfl⟩)
        simpa [AdminOp.setsKey] using hne
    | _ => rfl

/-- **While the key expires in time, it still does after a step iff that is in time.** -/
theorem expires_step_iff (h : ExpiresInTime b s) {ev : ServerEvent}
    (hs : s.step reader b ev = some s') : ExpiresInTime b s' ↔ InTime b s ev := by
  cases ev with
  | propagate =>
      obtain rfl := Option.some_inj.1 hs
      exact ⟨fun _ => trivial, fun _ => h⟩
  | send i =>
      simp only [Servers.step] at hs
      split at hs
      next ttl instr instrs hget =>
          obtain rfl := Option.some_inj.1 hs
          simpa [ExpiresInTime, InTime, hget] using expires_send_iff h
      next => cases hs
  | deliver =>
      simp only [Servers.step] at hs
      split at hs
      next =>
          obtain rfl := Option.some_inj.1 hs
          exact ⟨fun _ => trivial, fun _ => h⟩
      next => cases hs
  | handle i =>
      simp only [Servers.step] at hs
      split at hs
      next c next hget =>
          obtain rfl := Option.some_inj.1 hs
          simpa [ExpiresInTime, InTime, hget, Servers.setHandler] using
            expires_handle_iff h (x := ⟨s.now, []⟩) (c := c)
      next => cases hs
  | fail i =>
      simp only [Servers.step] at hs
      split at hs
      next c next hget =>
          obtain rfl := Option.some_inj.1 hs
          exact ⟨fun _ => trivial, fun _ => h⟩
      next => cases hs
  | tick d =>
      obtain rfl := Option.some_inj.1 hs
      exact ⟨fun _ => trivial, fun _ => h⟩

/-! ### Runs -/

section Runs

variable {s₀ : Servers} {l : List ServerEvent}

theorem inTime_of_keepsExpiry (h₀ : ExpiresInTime b s₀)
    (h : Run (Servers.step reader b) (KeepsExpiry reader b) s₀ l s) :
    Run (Servers.step reader b) (InTime b) s₀ l s := by
  have hstep : ∀ (s : Servers) (ev : ServerEvent) (s' : Servers), ExpiresInTime b s →
      KeepsExpiry reader b s ev → s.step reader b ev = some s' → InTime b s ev ∧ ExpiresInTime b s' :=
    fun _ _ _ h hok hs => ⟨(expires_step_iff h hs).1 (hok _ hs), hok _ hs⟩
  exact h.exchange hstep h₀

theorem keepsExpiry_of_inTime (h₀ : ExpiresInTime b s₀)
    (h : Run (Servers.step reader b) (InTime b) s₀ l s) :
    Run (Servers.step reader b) (KeepsExpiry reader b) s₀ l s := by
  have hstep : ∀ (s : Servers) (ev : ServerEvent) (s' : Servers), ExpiresInTime b s →
      InTime b s ev → s.step reader b ev = some s' →
        KeepsExpiry reader b s ev ∧ ExpiresInTime b s' := by
    intro s ev s' h hok hs
    have hexpires := (expires_step_iff h hs).2 hok
    refine ⟨fun s'' hs'' => ?_, hexpires⟩
    obtain rfl := Option.some_inj.1 (hs.symm.trans hs'')
    exact hexpires
  exact h.exchange hstep h₀

/-- **The key expires in time after every step of exactly those runs whose steps are in time.** -/
theorem banExpiry_iff (h₀ : ExpiresInTime b s₀) :
    Run (Servers.step reader b) (KeepsExpiry reader b) s₀ l s ↔
      Run (Servers.step reader b) (InTime b) s₀ l s :=
  ⟨inTime_of_keepsExpiry h₀, keepsExpiry_of_inTime h₀⟩

end Runs

/-! ### A ban of an hour -/

section Example

instance (b : TemporaryIpBan) (s : Servers) (ev : ServerEvent) : Decidable (InTime b s ev) := by
  cases ev <;> unfold InTime <;> infer_instance

def hourBan : TemporaryIpBan where
  ban := ⟨"1", "", "203.0.113.7", "spam", 0, some 3600000, true⟩
  expiresAt := 3600000
  temporary := rfl
  address := by decide

/-- A reader of addresses. -/
def addressReader : Reader where
  decode _ := none
  validIp ip := ip = "203.0.113.7"

/-- No keys, no sessions and no entries. -/
def beforeHourBan : Servers where
  now := 0
  shared := ⟨⟨fun _ => none, fun _ => false, []⟩, ⟨fun _ => none, fun _ => [], [], fun _ => [],
    fun _ => none, []⟩⟩
  propagations := []
  handlers := []

theorem expiresInTime_beforeHourBan : ExpiresInTime hourBan beforeHourBan := fun _ hvalue => by
  cases hvalue

/-- The ban is propagated, in no time. -/
def propagated : List ServerEvent := .propagate :: List.replicate 4 (.send 0)

/-- **The key of the hour is set for an hour.** -/
theorem propagated_keepsExpiry : ∃ s, Run (Servers.step addressReader hourBan)
    (KeepsExpiry addressReader hourBan) beforeHourBan propagated s := by
  obtain ⟨s, hrun, -⟩ : ∃ s, Run (Servers.step addressReader hourBan) (InTime hourBan)
      beforeHourBan propagated s ∧ true = true := exists_run_of_execWhere (by decide +kernel)
  exact ⟨s, (banExpiry_iff expiresInTime_beforeHourBan).2 hrun⟩

/-- **The handler makes a temporary ban permanent.** -/
theorem handledBan_stays : ¬ ∀ (reader : Reader) (b : TemporaryIpBan) (s₀ s : Servers)
    (l : List ServerEvent), ExpiresInTime b s₀ → Run (Servers.step reader b) Always s₀ l s →
      Run (Servers.step reader b) (KeepsExpiry reader b) s₀ l s := by
  intro h
  obtain ⟨s, hrun, -⟩ : ∃ s, Run (Servers.step addressReader hourBan) Always
      beforeHourBan (propagated ++ [.deliver, .handle 0, .handle 0, .handle 0]) s ∧
      decide (s.shared.redis.key (.ip "203.0.113.7") = some ⟨"spam", none⟩) = true :=
    exists_run_of_execWhere (by decide +kernel)
  have hintime := inTime_of_keepsExpiry expiresInTime_beforeHourBan
    (h addressReader hourBan beforeHourBan s _ expiresInTime_beforeHourBan hrun)
  have hnone : (execWhere (Servers.step addressReader hourBan) (InTime hourBan) beforeHourBan
      (propagated ++ [.deliver, .handle 0, .handle 0, .handle 0])).isSome = false := by
    decide +kernel
  simp [execWhere_of_run hintime] at hnone

end Example

end Admin
