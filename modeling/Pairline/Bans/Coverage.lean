/-
**What a ban covers once it has been asked for.**

`CreateOrRefreshBan` looks for an active ban that matches the request by its session or by its
address.  If there is one, it is the answer, and it stays as it is: it may be for one of the two
targets only, and it may expire sooner than was asked for.  A private address is dropped when a
session is named beside it.

Main definitions:

* `Bans.createOrRefreshBan` — the call, alone on the rows of the database;
* `Bans.Covered` — an active ban covers a target as long as was asked for;
* `Bans.BanCoverage` — **all that was named is covered once the call has succeeded**.

Main results:

* `Bans.addressBan_is_enough` — the ban of the address is taken for that of the session;
* `Bans.banCoverage_iff` — when a call covers what it names.
-/

import Pairline.Bans.Store

set_option relaxedAutoImplicit false
set_option autoImplicit false

namespace Bans

open Whitespace (trim)

/-! ### The call, alone -/

/-- The transaction: the ban that is the answer, whether it was there already, and the rows. -/
def createOrRefresh (rows : List Ban) (request : Request) (id : String) (now : Time) :
    Ban × Bool × List Ban :=
  match newest (activeBanLookup rows request now) with
  | some ban => (ban, true, rows)
  | none => (newBan request id now, false, rows ++ [newBan request id now])

/-- `CreateOrRefreshBan`. -/
def createOrRefreshBan (addresses : Addresses) (rows : List Ban) (params : CreateBanParams)
    (id : String) (now : Time) : Except BanError (Ban × Bool × List Ban) :=
  (addresses.request params).map fun request => createOrRefresh rows request id now

/-- What a request names: a session, and an address if the text is one. -/
def CreateBanParams.named (addresses : Addresses) (params : CreateBanParams) : List Target :=
  targets (trim params.sessionId) (addresses.normalizeIP params.ipAddress)

/-- An expiry that is not earlier than another; no expiry is the latest. -/
def notEarlier (expiresAt requested : Option Time) : Bool :=
  match expiresAt, requested with
  | none, _ => true
  | some _, none => false
  | some expiresAt, some requested => requested ≤ expiresAt

theorem notEarlier_refl (expiresAt : Option Time) : notEarlier expiresAt expiresAt = true := by
  cases expiresAt <;> simp [notEarlier]

/-- **An active ban covers the target**, and does not expire earlier than was asked for. -/
def Covered (rows : List Ban) (target : Target) (requested : Option Time) : Prop :=
  ∃ ban ∈ rows, ban.isActive = true ∧ ban.covers target = true ∧
    notEarlier ban.expiresAt requested = true

instance (rows : List Ban) (target : Target) (requested : Option Time) :
    Decidable (Covered rows target requested) :=
  inferInstanceAs (Decidable (∃ _ ∈ _, _))

/-- **What was named is covered once the call has succeeded.** -/
def BanCoverage (addresses : Addresses) (rows : List Ban) (params : CreateBanParams) (id : String)
    (now : Time) : Prop :=
  ∀ answer, createOrRefreshBan addresses rows params id now = .ok answer →
    ∀ target ∈ params.named addresses, Covered answer.2.2 target params.expiresAt

/-! ### When it is -/

variable {addresses : Addresses} {rows : List Ban} {params : CreateBanParams} {request : Request}
  {target : Target}

theorem expiresAt_of_request (h : addresses.request params = .ok request) :
    request.expiresAt = params.expiresAt := by
  unfold Addresses.request at h
  simp only at h
  split at h
  · split at h <;> cases h
  · obtain rfl := Except.ok.inj h
    rfl

theorem Covered.append {more : List Ban} {requested : Option Time}
    (h : Covered rows target requested) : Covered (rows ++ more) target requested := by
  obtain ⟨ban, hban, hcovers⟩ := h
  exact ⟨ban, List.mem_append_left _ hban, hcovers⟩

/-- A target of a request is a target of the ban that is created for it. -/
theorem covers_newBan {id : String} {now : Time} (h : target ∈ request.targets) :
    (newBan request id now).covers target = true :=
  (mem_targets_iff_covers.1 h).1

/-- **When a call covers what it names**: each named target has an active ban that lasts as long
already, or it is a target of the request, which is not the case of a private address beside a
session, and no active ban matches the request. -/
theorem banCoverage_iff (addresses : Addresses) (rows : List Ban) (params : CreateBanParams)
    (id : String) (now : Time) :
    BanCoverage addresses rows params id now ↔
      ∀ request, addresses.request params = .ok request → ∀ target ∈ params.named addresses,
        Covered rows target params.expiresAt ∨
          (target ∈ request.targets ∧ activeBanLookup rows request now = []) := by
  unfold BanCoverage createOrRefreshBan
  cases hrequest : addresses.request params with
  | error e => simp [Except.map]
  | ok request =>
      simp only [Except.map, Except.ok.injEq, forall_eq']
      have hexpires := expiresAt_of_request hrequest
      refine forall₂_congr fun target htarget => ?_
      unfold createOrRefresh
      cases hnewest : newest (activeBanLookup rows request now) with
      | some ban =>
          -- the ban that was there is the answer, and the rows stay as they are
          have hne : activeBanLookup rows request now ≠ [] := by
            intro hnil
            rw [hnil] at hnewest
            cases hnewest
          simp [hne]
      | none =>
          simp only [newest_eq_none.1 hnewest, and_true]
          constructor
          · rintro ⟨ban, hban, hactive, hcovers, hlasts⟩
            rcases List.mem_append.1 hban with hban | hban
            · exact .inl ⟨ban, hban, hactive, hcovers, hlasts⟩
            · obtain rfl := List.mem_singleton.1 hban
              exact .inr (mem_targets_iff_covers.2 ⟨hcovers, ne_of_mem_targets htarget⟩)
          · rintro (hcovered | hmem)
            · exact hcovered.append
            · refine ⟨_, List.mem_append_right _ (List.mem_singleton_self _), rfl,
                covers_newBan hmem, ?_⟩
              rw [← hexpires]
              exact notEarlier_refl _

/-! ### One ban for both -/

section Example

/-- A parser of addresses that takes any text for one, none of them private. -/
def anyAddress : Addresses := ⟨some, fun _ => false⟩

/-- The address is banned. -/
def addressBan : Ban where
  id := "1"
  sessionId := ""
  ipAddress := "203.0.113.7"
  reason := "spam"
  createdAt := 0
  expiresAt := some 1000
  isActive := true

/-- A session and its address are to be banned for good. -/
def bothBanned : CreateBanParams := ⟨"a", "203.0.113.7", "abuse", none⟩

/-- **The ban of the address is taken for that of the session**, and for a ban for good. -/
theorem addressBan_is_enough :
    ¬ ∀ addresses rows params id now, BanCoverage addresses rows params id now := by
  intro h
  have hcovered := h anyAddress [addressBan] bothBanned "2" 10 (addressBan, true, [addressBan])
    (by decide +kernel) (.session "a") (by decide +kernel)
  exact absurd hcovered (by decide +kernel)

end Example

end Bans
