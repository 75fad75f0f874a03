/-
**What the two servers share.**

The Go server writes the ban keys and publishes actions on the admin stream; the consumer of the
Phoenix server carries them out.  Both know the ban key of an address by the same name.  An action is
published as an object whose members the handlers read; its timestamp, which none reads, and the JSON
text of the object are left out.

Main definitions:

* `Admin.published`, `Admin.handlePublished` — what is published for an action, and its handler;
* `Admin.Shared`, `Admin.Shared.exec` — **one Redis for both**.

Main results:

* `Admin.Shared.key_exec` — the commands of a handler that leave a ban key as it is.
-/

import Pairline.Admin.Actions
import Pairline.Bans.Store

set_option relaxedAutoImplicit false
set_option autoImplicit false

namespace Admin

open Bans (AdminAction KeyValue)

/-! ### Actions -/

/-- `PublishBanAction`, `PublishBanIPAction`, `PublishUnbanAction` and `PublishUnbanIPAction`: the
name of the action, and the members. -/
def published : AdminAction → String × List (String × Json)
  | .ban sessionId ipAddress reason =>
      ("emergency_ban", [("action", .string "emergency_ban"), ("session_id", .string sessionId),
        ("ip", .string ipAddress), ("reason", .string reason)])
  | .banIP ipAddress reason =>
      ("emergency_ban_ip", [("action", .string "emergency_ban_ip"), ("ip", .string ipAddress),
        ("reason", .string reason)])
  | .unban sessionId ipAddress =>
      ("emergency_unban", [("action", .string "emergency_unban"), ("session_id", .string sessionId),
        ("ip", .string ipAddress)])
  | .unbanIP ipAddress =>
      ("emergency_unban_ip", [("action", .string "emergency_unban_ip"), ("ip", .string ipAddress)])

/-- The handler of a published action. -/
def handlePublished (reader : Reader) (action : AdminAction) : AdminProg (Outcome Unit) :=
  handleAdminAction reader (.string (published action).1) (published action).2

/-! ### Redis -/

/-- Redis: the ban keys and the stream, and what else the Phoenix server keeps. -/
structure Shared where
  redis : Bans.Redis
  store : AdminStore

namespace Shared

variable (d : Shared)

/-- What the Phoenix server sees. -/
def view : AdminStore :=
  { d.store with
    ipBan := fun ip => (d.redis.key (.ip ip)).map fun value => ⟨value.reason, value.expiresAt⟩ }

/-- Redis after the Phoenix server has changed what it sees. -/
def put (store : AdminStore) : Shared where
  redis := { d.redis with
    key := fun target => match target with
      | .session sid => d.redis.key (.session sid)
      | .ip ip => (store.ipBan ip).map fun ipBan => ⟨ipBan.reason, ipBan.expiresAt⟩ }
  store := store

/-- A command of the Phoenix server. -/
def exec (x : World) (c : AdminOp) : c.Reply × Shared :=
  ((Admin.exec x c d.view).1, d.put (Admin.exec x c d.view).2)

variable {d}

/-- The ban key of an address after a command. -/
theorem key_exec_ip (x : World) (c : AdminOp) (ip : String) :
    (d.exec x c).2.redis.key (.ip ip) =
      ((Admin.exec x c d.view).2.ipBan ip).map fun ipBan => ⟨ipBan.reason, ipBan.expiresAt⟩ := rfl

/-- What the Phoenix server sees of a ban key is the key. -/
theorem map_view_ipBan (ip : String) :
    ((d.view.ipBan ip).map fun ipBan => (⟨ipBan.reason, ipBan.expiresAt⟩ : KeyValue)) =
      d.redis.key (.ip ip) := by
  simp only [view, Option.map_map, Function.comp_def, Option.map_id']

end Shared

/-- The commands that change the ban key of an address. -/
def AdminOp.changesIpBan (c : AdminOp) (ip : String) : Prop :=
  (∃ reason, c = .setIpBan ip reason) ∨ c = .delIpBan ip

theorem ipBan_exec {x : World} {c : AdminOp} {s : AdminStore} {ip : String}
    (h : ¬ c.changesIpBan ip) : (exec x c s).2.ipBan ip = s.ipBan ip := by
  cases c with
  | setIpBan other reason =>
      have hne : ip ≠ other := by
        rintro rfl
        exact h (.inl ⟨reason, rfl⟩)
      exact Function.update_of_ne hne _ _
  | delIpBan other =>
      have hne : ip ≠ other := by
        rintro rfl
        exact h (.inr rfl)
      exact Function.update_of_ne hne _ _
  | atomicEmergencyBan sid reason =>
      simp only [exec]
      cases s.records sid with
      | none => rfl
      | some session => cases hbanned : session.banStatus <;> simp [hbanned, AdminStore.setRecord]
  | atomicEmergencyDisconnect sid =>
      simp only [exec]
      cases s.records sid <;> rfl
  | atomicDisconnectPartner partnerId expectedPeerId =>
      simp only [exec]
      cases s.records partnerId with
      | none => rfl
      | some session =>
          dsimp only
          split <;> rfl
  | updateSession sid updates =>
      simp only [exec]
      cases s.records sid <;> rfl
  | _ => rfl

/-- **A command that changes no ban key of an address leaves it as it is.** -/
theorem Shared.key_exec {d : Shared} {x : World} {c : AdminOp} {ip : String}
    (h : ¬ c.changesIpBan ip) : (d.exec x c).2.redis.key (.ip ip) = d.redis.key (.ip ip) := by
  rw [key_exec_ip, ipBan_exec h, map_view_ipBan]

end Admin
