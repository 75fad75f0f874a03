/-
**The accounts of administrators.**

An administrator's request is authenticated by the name in its token: the account of that name is
read, and from then on the request goes by the role that was read.  A root may create and delete
accounts of every role, an admin those of moderators only.  Nobody deletes the own account.  The
account to delete is read first, for its role, and deleted by its id afterwards; the requester's
account is not looked at again.

Main definitions:

* `Accounts.Database` — accounts, with distinct ids and names;
* `Accounts.createAdmin`, `Accounts.deleteAdmin` — the two handlers, with the authentication in
  `Accounts.Service.program`;
* `Accounts.Database.HasRoot` — there is an active root account;
* `Accounts.ByRoot` — a step of the request of a root;
* `Accounts.Present` — whoever deletes an active root is still there when it happens.

Main results:

* `Accounts.amid_program` — **a request acts only as the role allows that its account had**;
* `Accounts.survival` — **only roots add or remove privileged accounts, and while every requester is
  present at its deletions, a root survives**;
* `Accounts.mutualDeletion_leavesNoRoot` — two roots delete each other.
-/

import Mathlib.Data.List.Nodup
import Mathlib.Order.Nat
import Pairline.Pool

set_option relaxedAutoImplicit false
set_option autoImplicit false

namespace Accounts

open Program Pool Transition

/-! ### Accounts -/

inductive Role
  | moderator
  | admin
  | root
  deriving DecidableEq

structure AdminAccount where
  id : ℕ
  username : String
  passwordHash : String
  role : Role
  createdByUsername : String
  isActive : Bool
  deriving DecidableEq

def AdminAccount.isRoot (account : AdminAccount) : Bool := account.role = .root && account.isActive

theorem nodup_map_concat {α β : Type} {f : α → β} {l : List α} {a : α} (h : (l.map f).Nodup)
    (ha : f a ∉ l.map f) : ((l ++ [a]).map f).Nodup := by
  rw [List.map_append]
  refine List.nodup_append.2 ⟨h, List.nodup_singleton _, fun b hb c hc hbc => ha ?_⟩
  rwa [← List.mem_singleton.1 hc, ← hbc]

/-- **The table of accounts**: ids are given once, and names are unique. -/
structure Database where
  accounts : List AdminAccount
  nextID : ℕ
  ids_lt : ∀ account ∈ accounts, account.id < nextID
  ids_nodup : (accounts.map AdminAccount.id).Nodup
  usernames_nodup : (accounts.map AdminAccount.username).Nodup

namespace Database

variable (db : Database)

def find (username : String) : Option AdminAccount :=
  db.accounts.find? fun account => account.username = username

def findActive (username : String) : Option AdminAccount :=
  db.accounts.find? fun account => account.username = username && account.isActive

/-- A new row, unless its name is taken. -/
def create (username passwordHash : String) (role : Role) (createdBy : String) : Bool × Database :=
  if h : username ∈ db.accounts.map AdminAccount.username then (false, db)
  else (true,
    { accounts := db.accounts ++ [⟨db.nextID, username, passwordHash, role, createdBy, true⟩]
      nextID := db.nextID + 1
      ids_lt := by
        intro account haccount
        rcases List.mem_append.1 haccount with hold | hnew
        · exact Nat.lt_succ_of_lt (db.ids_lt account hold)
        · rw [List.mem_singleton.1 hnew]
          exact Nat.lt_succ_self _
      ids_nodup := by
        refine nodup_map_concat db.ids_nodup fun hmem => ?_
        obtain ⟨account, haccount, hid⟩ := List.mem_map.1 hmem
        exact absurd (db.ids_lt account haccount) (by simp only [hid, Nat.lt_irrefl, not_false_iff])
      usernames_nodup := nodup_map_concat db.usernames_nodup h })

/-- The row with an id is deleted. -/
def delete (id : ℕ) : Database where
  accounts := db.accounts.filter fun account => account.id ≠ id
  nextID := db.nextID
  ids_lt account haccount := db.ids_lt account (List.mem_of_mem_filter haccount)
  ids_nodup := (List.filter_sublist.map _).nodup db.ids_nodup
  usernames_nodup := (List.filter_sublist.map _).nodup db.usernames_nodup

end Database

/-! ### Requests -/

inductive Cmd
  | findActive (username : String)
  | find (username : String)
  /-- On behalf of the account `current`, as it was read; of it, only its name reaches the row. -/
  | create (current : AdminAccount) (username passwordHash : String) (role : Role)
  /-- The deletion of `target` by its id, on behalf of `current`. -/
  | delete (current target : AdminAccount)

abbrev Cmd.Reply : Cmd → Type
  | .findActive _ | .find _ => Option AdminAccount
  -- whether the name was free
  | .create _ _ _ _ => Bool
  | .delete _ _ => Unit

/-- The account on whose behalf a command changes the table. -/
def Cmd.requester? : Cmd → Option AdminAccount
  | .create current _ _ _ | .delete current _ => some current
  | _ => none

abbrev Prog := Program Cmd.Reply Unit

def exec (c : Cmd) (db : Database) : c.Reply × Database :=
  match c with
  | .findActive username => (db.findActive username, db)
  | .find username => (db.find username, db)
  | .create current username passwordHash role =>
      db.create username passwordHash role current.username
  | .delete _ target => ((), db.delete target.id)

structure Response where
  code : ℕ
  text : String

structure CreateRequest where
  contentLength : ℕ
  username : String
  password : String
  role : String

inductive Request
  | create (token : String) (req : CreateRequest)
  | delete (token username : String)

/-- Signed tokens and password hashes. -/
structure Service where
  /-- The name in a valid token. -/
  verifyJWT : String → Option String
  hashPassword : String → Option String

def usernameRe (username : String) : Bool :=
  3 ≤ username.length && username.length ≤ 50 &&
    username.toList.all fun c => c.isAlphanum || c = '_' || c = '-'

/-- `oneof=admin root moderator`. -/
def parseRole : String → Option Role
  | "admin" => some .admin
  | "root" => some .root
  | "moderator" => some .moderator
  | _ => none

def canCreateAdminRole (currentRole targetRole : Role) : Bool :=
  match currentRole with
  | .root => true
  | .admin => targetRole = .moderator
  | .moderator => false

/-- The role of a request that passes the validation of its fields. -/
def CreateRequest.bind (req : CreateRequest) : Option Role :=
  if req.username ≠ "" ∧ req.username.length ≤ 50 ∧ 8 ≤ req.password.length ∧
      req.password.length ≤ 128 then
    parseRole req.role
  else none

def invalidUsername : Response where
  code := 400
  text := "Username must be 3-50 characters and contain only letters, numbers, " ++
    "hyphens, or underscores"

namespace Service

variable (svc : Service)

def afterCreate : Except Unit Bool → Prog Response
  | .error _ => .ret ⟨500, "Failed to create admin"⟩
  | .ok false => .ret ⟨409, "Admin already exists"⟩
  | .ok true => .ret ⟨200, "created"⟩

def afterExisting (req : CreateRequest) (role : Role) (current : AdminAccount) :
    Except Unit (Option AdminAccount) → Prog Response
  | .error _ => .ret ⟨500, "Failed to check existing admin"⟩
  | .ok (some _) => .ret ⟨409, "Admin already exists"⟩
  | .ok none =>
      match svc.hashPassword req.password with
      | none => .ret ⟨500, "Failed to securely hash password"⟩
      | some hash => .call (.create current req.username hash role) afterCreate

/-- `CreateAdminHandlerGin`; a name that passes `usernameRe` holds nothing that `stripHTML` strips. -/
def createAdmin (req : CreateRequest) (current : AdminAccount) : Prog Response :=
  if 4096 < req.contentLength then .ret ⟨413, "Request too large"⟩
  else match req.bind with
  | none => .ret ⟨400, "Invalid request parameters"⟩
  | some role =>
      if ¬ usernameRe req.username then .ret invalidUsername
      else if current.username = "" then .ret ⟨401, "Unauthorized"⟩
      else if ¬ canCreateAdminRole current.role role then
        .ret ⟨403, "Insufficient privileges to assign this role"⟩
      else .call (.find req.username) (svc.afterExisting req role current)

def afterDelete : Except Unit Unit → Prog Response
  | .error _ => .ret ⟨500, "Failed to delete admin account"⟩
  | .ok _ => .ret ⟨200, "deleted"⟩

def afterTarget (current : AdminAccount) : Except Unit (Option AdminAccount) → Prog Response
  | .error _ | .ok none => .ret ⟨404, "Admin account not found"⟩
  | .ok (some target) =>
      if current.role ≠ .root ∧ (target.role = .root ∨ target.role = .admin) then
        .ret ⟨403, "Insufficient privileges to delete this admin account"⟩
      else .call (.delete current target) afterDelete

/-- `DeleteAdminHandlerGin`. -/
def deleteAdmin (username : String) (current : AdminAccount) : Prog Response :=
  if ¬ usernameRe username then .ret ⟨400, "Invalid username format"⟩
  else if current.username = "" then .ret ⟨401, "Unauthorized"⟩
  else if username = current.username then .ret ⟨400, "Cannot delete your own account"⟩
  else .call (.find username) (afterTarget current)

/-- `RoleAuthMiddleware` for admins and roots. -/
def roleAuth (handler : AdminAccount → Prog Response) (current : AdminAccount) : Prog Response :=
  if current.role = .admin ∨ current.role = .root then handler current
  else .ret ⟨403, "Insufficient permissions"⟩

def afterAccount (handler : AdminAccount → Prog Response) :
    Except Unit (Option AdminAccount) → Prog Response
  | .error _ | .ok none => .ret ⟨401, "Invalid token"⟩
  | .ok (some current) => roleAuth handler current

def bearer (token : String) : String :=
  if 7 < token.length ∧ "Bearer ".toList <+: token.toList then String.ofList (token.toList.drop 7)
  else token

/-- `JWTAuthMiddleware`. -/
def authenticate (token : String) (handler : AdminAccount → Prog Response) : Prog Response :=
  if token = "" then .ret ⟨401, "Authorization token required"⟩
  else match svc.verifyJWT (bearer token) with
  | none => .ret ⟨401, "Invalid token"⟩
  | some username => .call (.findActive username) (afterAccount handler)

/-- **A request**: it is authenticated, and handled with the role of its account. -/
def program : Request → Prog Response
  | .create token req => svc.authenticate token (svc.createAdmin req)
  | .delete token username => svc.authenticate token (deleteAdmin username)

/-- **Requests side by side over the table of accounts.**  A deletion whose answer is lost differs
from one that is answered in its response only. -/
def system : System Request Unit Empty Cmd.Reply Unit Database Response where
  program := svc.program
  exec _ := exec
  spawns _ _ := []
  env := nofun

/-- The name that a request is authenticated by. -/
def username : Request → Option String
  | .create token _ | .delete token _ => svc.verifyJWT (bearer token)

end Service

/-! ### The laws -/

/-- **There is an active root account.** -/
def Database.HasRoot (db : Database) : Prop := ∃ account ∈ db.accounts, account.isRoot = true

instance (db : Database) : Decidable db.HasRoot := by unfold Database.HasRoot; infer_instance

/-- The accounts with the role of an admin or a root. -/
def Database.privileged (db : Database) : List AdminAccount :=
  db.accounts.filter fun account => account.role ≠ .moderator

/-- The account was read once, and an account with its id is still the same. -/
def Seen (db : Database) (account : AdminAccount) : Prop :=
  account.id < db.nextID ∧ ∀ b ∈ db.accounts, b.id = account.id → b = account

abbrev Accounts := Config Request Cmd.Reply Unit Database Response

/-- **A step of the request of a root**, by the role that the account was read with. -/
def ByRoot (svc : Service) (cfg : Accounts) (ev : Event Request Unit Empty Unit) : Prop :=
  ∃ i op c next current, ev = .advance i () ∧ cfg.procs[i]? = some ⟨op, .call c next⟩ ∧
    c.requester? = some current ∧ svc.username op = some current.username ∧
    Seen cfg.store current ∧ current.role = .root

/-- Whoever deletes an active root has an account. -/
def Standing (db : Database) : Cmd → Prop
  | .delete current target =>
      target ∈ db.accounts → target.isRoot = true → current ∈ db.accounts
  | _ => True

instance (db : Database) (c : Cmd) : Decidable (Standing db c) := by
  cases c <;> (unfold Standing; infer_instance)

/-- **Whoever deletes an active root is still there when it happens.** -/
def Present (cfg : Accounts) : Event Request Unit Empty Unit → Prop
  | .advance i _ => ∀ p ∈ cfg.procs[i]?, ∀ c ∈ p.rest.next?, Standing cfg.store c
  | _ => True

/-! ### Accounts that were read -/

/-- **What may become of the table**: accounts are added under new ids, and deleted. -/
def rely (s t : Database) : Prop :=
  s.nextID ≤ t.nextID ∧ ∀ account ∈ t.accounts, account.id < s.nextID → account ∈ s.accounts

section Rely

variable {s t : Database} {account : AdminAccount}

theorem rely_refl (s : Database) : rely s s := ⟨le_rfl, fun _ h _ => h⟩

theorem rely_trans (s t u : Database) (hst : rely s t) (htu : rely t u) : rely s u := by
  refine ⟨hst.1.trans htu.1, fun account haccount hid => ?_⟩
  exact hst.2 account (htu.2 account haccount (lt_of_lt_of_le hid hst.1)) hid

theorem seen_of_mem (h : account ∈ s.accounts) : Seen s account :=
  ⟨s.ids_lt account h, fun _ hb hid => List.inj_on_of_nodup_map s.ids_nodup hb h hid⟩

theorem Seen.stable (h : Seen s account) (hst : rely s t) : Seen t account := by
  refine ⟨lt_of_lt_of_le h.1 hst.1, fun b hb hid => h.2 b (hst.2 b hb ?_) hid⟩
  rw [hid]
  exact h.1

theorem mem_of_find {username : String} (h : s.find username = some account) :
    account ∈ s.accounts ∧ account.username = username :=
  ⟨List.mem_of_find?_eq_some h, by simpa using List.find?_some h⟩

theorem mem_of_findActive {username : String} (h : s.findActive username = some account) :
    account ∈ s.accounts ∧ account.username = username ∧ account.isActive = true :=
  ⟨List.mem_of_find?_eq_some h, by simpa using List.find?_some h⟩

theorem rely_create (username passwordHash : String) (role : Role) (createdBy : String) :
    rely s (s.create username passwordHash role createdBy).2 := by
  unfold Database.create
  split_ifs
  · exact rely_refl s
  · refine ⟨Nat.le_succ _, fun account haccount hid => ?_⟩
    rcases List.mem_append.1 haccount with hold | hnew
    · exact hold
    · rw [List.mem_singleton.1 hnew] at hid
      exact absurd hid (Nat.lt_irrefl _)

theorem rely_delete (id : ℕ) : rely s (s.delete id) :=
  ⟨le_rfl, fun _ haccount _ => List.mem_of_mem_filter haccount⟩

theorem rely_exec (c : Cmd) : rely s (exec c s).2 := by
  cases c with
  | findActive username => exact rely_refl s
  | find username => exact rely_refl s
  | create current username passwordHash role => exact rely_create _ _ _ _
  | delete current target => exact rely_delete _

end Rely

/-! ### What a request may do -/

/-- **A request acts only as the role allows that its account had.** -/
def guard : Cmd → Database → Prop
  | .create current _ _ role, db =>
      Seen db current ∧ current.isActive = true ∧ canCreateAdminRole current.role role = true
  | .delete current target, db =>
      Seen db current ∧ current.isActive = true ∧ Seen db target ∧ current.id ≠ target.id ∧
        (current.role = .root ∨ target.role = .moderator)
  | _, _ => True

section Amid

variable {svc : Service} {hazards : Hazards Cmd Unit Database} {db : Database}
  {current : AdminAccount}

/-- Programs of requests, amid whatever may happen to their commands. -/
abbrev Acts (hazards : Hazards Cmd Unit Database) (p : Prog Response) (db : Database) : Prop :=
  p.Amid (fun _ : Unit => exec) rely guard hazards (fun _ _ => True) db

theorem acts_createAdmin (req : CreateRequest) (hcurrent : Seen db current)
    (hactive : current.isActive = true) : Acts hazards (svc.createAdmin req current) db := by
  unfold Service.createAdmin
  split
  · trivial
  · split
    · trivial
    · split_ifs with hname hunauthorized hrole
      · trivial
      · intro s' hs'
        refine ⟨trivial, fun x _ => ?_, fun e _ => trivial⟩
        -- what is done with the reply
        cases hfind : s'.find req.username with
        | some existing =>
            simp only [exec, hfind]
            trivial
        | none =>
            simp only [exec, hfind, Service.afterExisting]
            split
            · trivial
            · refine fun t ht => ⟨⟨(hcurrent.stable hs').stable ht, hactive, hrole⟩,
                fun x _ => ?_, fun e _ => trivial⟩
              generalize (exec _ t).1 = created
              cases created <;> trivial
      · trivial
      · trivial

theorem acts_deleteAdmin (username : String) (hcurrent : Seen db current)
    (hactive : current.isActive = true) : Acts hazards (Service.deleteAdmin username current) db := by
  unfold Service.deleteAdmin
  split_ifs with hname hunauthorized hself
  · trivial
  · trivial
  · intro s' hs'
    refine ⟨trivial, fun x _ => ?_, fun e _ => trivial⟩
    have hcurrent' := hcurrent.stable hs'
    cases hfind : s'.find username with
    | none =>
        simp only [exec, hfind]
        trivial
    | some target =>
        obtain ⟨hmem, htarget⟩ := mem_of_find hfind
        simp only [exec, hfind, Service.afterTarget]
        split_ifs with hforbidden
        · trivial
        · -- the two names differ, and so do the accounts
          have hne : current.id ≠ target.id := fun hid =>
            hself (htarget.symm.trans (congrArg _ (hcurrent'.2 target hmem hid.symm)))
          have hrole : current.role = .root ∨ target.role = .moderator := by
            cases hcase : target.role <;> simp_all
          exact fun t ht => ⟨⟨hcurrent'.stable ht, hactive, (seen_of_mem hmem).stable ht, hne, hrole⟩,
            fun x _ => trivial, fun e _ => trivial⟩
  · trivial

theorem acts_authenticate (token : String) {handler : AdminAccount → Prog Response}
    (hhandler : ∀ {t : Database} {current : AdminAccount}, Seen t current → current.isActive = true →
      Acts hazards (handler current) t) : Acts hazards (svc.authenticate token handler) db := by
  unfold Service.authenticate
  split_ifs
  · trivial
  · split
    · trivial
    · rename_i username _
      refine fun t ht => ⟨trivial, fun x _ => ?_, fun e _ => trivial⟩
      cases hfind : t.findActive username with
      | none =>
          simp only [exec, hfind]
          trivial
      | some current =>
          obtain ⟨hmem, -, hactive⟩ := mem_of_findActive hfind
          simp only [exec, hfind, Service.afterAccount, Service.roleAuth]
          split_ifs
          · exact hhandler (seen_of_mem hmem) hactive
          · trivial

/-- **A request acts only as the role allows that its account had.** -/
theorem amid_program (req : Request) : Acts hazards (svc.program req) db := by
  cases req with
  | create token req => exact acts_authenticate token fun h hactive => acts_createAdmin req h hactive
  | delete token username =>
      exact acts_authenticate token fun h hactive => acts_deleteAdmin username h hactive

end Amid

/-! ### What a command does to the privileged accounts, and to the roots -/

section Effects

variable {db : Database}

theorem privileged_create (username passwordHash createdBy : String) :
    (db.create username passwordHash .moderator createdBy).2.privileged = db.privileged := by
  unfold Database.create
  split_ifs
  · rfl
  · simp [Database.privileged]

theorem privileged_delete {target : AdminAccount} (htarget : Seen db target)
    (hrole : target.role = .moderator) : (db.delete target.id).privileged = db.privileged := by
  simp only [Database.privileged, Database.delete, List.filter_filter]
  refine List.filter_congr fun account haccount => ?_
  -- an account with the id of the target is the target
  by_cases hid : account.id = target.id
  · rw [htarget.2 account haccount hid]
    simp [hrole]
  · simp [hid]

/-- **Without the role of a root, no privileged account comes or goes.** -/
theorem privileged_exec {c : Cmd} (hguard : guard c db)
    (hrole : ∀ current ∈ c.requester?, current.role ≠ .root) :
    (exec c db).2.privileged = db.privileged := by
  cases c with
  | findActive username => rfl
  | find username => rfl
  | create current username passwordHash role =>
      obtain ⟨-, -, hcan⟩ := hguard
      have hmoderator : role = .moderator := by
        cases hcase : current.role <;> simp_all [canCreateAdminRole, Cmd.requester?]
      rw [hmoderator]
      exact privileged_create _ _ _
  | delete current target =>
      obtain ⟨-, -, htarget, -, hroot | hmoderator⟩ := hguard
      · exact absurd hroot (hrole current rfl)
      · exact privileged_delete htarget hmoderator

theorem hasRoot_create (username passwordHash : String) (role : Role) (createdBy : String)
    (h : db.HasRoot) : (db.create username passwordHash role createdBy).2.HasRoot := by
  unfold Database.create
  split_ifs
  · exact h
  · obtain ⟨account, haccount, hroot⟩ := h
    exact ⟨account, List.mem_append_left _ haccount, hroot⟩

theorem mem_delete {account : AdminAccount} {id : ℕ} (h : account ∈ db.accounts)
    (hid : account.id ≠ id) : account ∈ (db.delete id).accounts :=
  List.mem_filter.2 ⟨h, decide_eq_true hid⟩

/-- **While whoever deletes an active root is there, a root remains**: if none else, the requester. -/
theorem hasRoot_exec {c : Cmd} (hguard : guard c db) (hstanding : Standing db c) (h : db.HasRoot) :
    (exec c db).2.HasRoot := by
  cases c with
  | findActive username => exact h
  | find username => exact h
  | create current username passwordHash role => exact hasRoot_create _ _ _ _ h
  | delete current target =>
      obtain ⟨-, hactive, htarget, hne, hrole⟩ := hguard
      obtain ⟨account, haccount, hroot⟩ := h
      by_cases hid : account.id = target.id
      · obtain rfl := htarget.2 account haccount hid
        have htargetRoot : account.role = .root := by
          simp only [AdminAccount.isRoot, Bool.and_eq_true, decide_eq_true_eq] at hroot
          exact hroot.1
        have hcurrentRoot : current.role = .root := by
          rcases hrole with hrole | hrole
          · exact hrole
          · rw [htargetRoot] at hrole
            cases hrole
        refine ⟨current, mem_delete (hstanding haccount hroot) hne, ?_⟩
        simp [AdminAccount.isRoot, hcurrentRoot, hactive]
      · exact ⟨account, mem_delete haccount hid, hroot⟩

end Effects

/-! ### Runs -/

section Runs

variable {svc : Service}

/-- What a request is answered about an account is about the name it asked for. -/
def Named : (c : Cmd) → Except Unit c.Reply → Prop
  | .findActive username, .ok (some account) => account.username = username
  | _, _ => True

/-- Every command on behalf of an account is of a request that is authenticated by its name. -/
def Authentic (svc : Service) (req : Request) (p : Prog Response) : Prop :=
  ∀ c ∈ p.next?, ∀ current ∈ c.requester?, svc.username req = some current.username

theorem named_exec (c : Cmd) (db : Database) : Named c (.ok (exec c db).1) := by
  cases c with
  | findActive username =>
      simp only [exec]
      cases hfind : db.findActive username with
      | none => trivial
      | some account => exact (mem_of_findActive hfind).2.1
  | _ => trivial

theorem authentic_ret {req : Request} (response : Response) :
    Authentic svc req (.ret response) := nofun

theorem authentic_call {req : Request} {c : Cmd} {next : Except Unit c.Reply → Prog Response}
    (h : ∀ current ∈ c.requester?, svc.username req = some current.username) :
    Authentic svc req (.call c next) := by
  intro d hd
  obtain rfl := Option.some_inj.1 hd
  exact h

theorem everywhere_createAdmin {request : Request} {req : CreateRequest} {current : AdminAccount}
    (h : svc.username request = some current.username) :
    (svc.createAdmin req current).Everywhere Named (Authentic svc request) := by
  unfold Service.createAdmin
  split
  · exact authentic_ret _
  · split
    · exact authentic_ret _
    · split_ifs
      · exact authentic_ret _
      · refine ⟨authentic_call nofun, fun reply _ => ?_⟩
        match reply with
        | .error _ => exact authentic_ret _
        | .ok (some _) => exact authentic_ret _
        | .ok none =>
            simp only [Service.afterExisting]
            split
            · exact authentic_ret _
            · refine ⟨authentic_call fun b hb => ?_, fun created _ => ?_⟩
              · obtain rfl := Option.some_inj.1 hb
                exact h
              · match created with
                | .error _ => exact authentic_ret _
                | .ok false => exact authentic_ret _
                | .ok true => exact authentic_ret _
      · exact authentic_ret _
      · exact authentic_ret _

theorem everywhere_deleteAdmin {request : Request} {username : String} {current : AdminAccount}
    (h : svc.username request = some current.username) :
    (Service.deleteAdmin username current).Everywhere Named (Authentic svc request) := by
  unfold Service.deleteAdmin
  split_ifs
  · exact authentic_ret _
  · exact authentic_ret _
  · refine ⟨authentic_call nofun, fun reply _ => ?_⟩
    match reply with
    | .error _ => exact authentic_ret _
    | .ok none => exact authentic_ret _
    | .ok (some target) =>
        simp only [Service.afterTarget]
        split_ifs
        · exact authentic_ret _
        · refine ⟨authentic_call fun b hb => ?_, fun deleted _ => ?_⟩
          · obtain rfl := Option.some_inj.1 hb
            exact h
          · cases deleted <;> exact authentic_ret _
  · exact authentic_ret _

theorem everywhere_authenticate {request : Request} {token : String}
    {handler : AdminAccount → Prog Response}
    (htoken : svc.username request = svc.verifyJWT (Service.bearer token))
    (h : ∀ current : AdminAccount, svc.username request = some current.username →
      (handler current).Everywhere Named (Authentic svc request)) :
    (svc.authenticate token handler).Everywhere Named (Authentic svc request) := by
  unfold Service.authenticate
  split
  · exact authentic_ret _
  · split
    · exact authentic_ret _
    · rename_i username hverify
      refine ⟨authentic_call nofun, fun reply hreply => ?_⟩
      match reply with
      | .error _ => exact authentic_ret _
      | .ok none => exact authentic_ret _
      | .ok (some current) =>
          have hname : current.username = username := hreply
          simp only [Service.afterAccount, Service.roleAuth]
          split_ifs
          · exact h current (by rw [htoken, hverify, hname])
          · exact authentic_ret _

/-- **Whoever a request acts for is the account that its token names.** -/
theorem everywhere_program (request : Request) :
    (svc.program request).Everywhere Named (Authentic svc request) := by
  cases request with
  | create token req => exact everywhere_authenticate rfl fun _ h => everywhere_createAdmin h
  | delete token username => exact everywhere_authenticate rfl fun _ h => everywhere_deleteAdmin h

variable {db : Database} {cfg : Accounts} {l : List (Event Request Unit Empty Unit)}

/-- Any command may take effect, or fail. -/
def anyHazard : Hazards Cmd Unit Database := ⟨fun _ _ => True, fun _ _ _ => True⟩

/-- A command takes effect where whoever deletes an active root is there. -/
def standingHazard : Hazards Cmd Unit Database := ⟨fun c db => Standing db c, fun _ _ _ => True⟩

/-- What every reached command keeps to. -/
theorem guard_of_run (hrun : Run (step svc.system) Always (idle db) l cfg) {i : ℕ} {op : Request}
    {c : Cmd} {next : Except Unit c.Reply → Prog Response}
    (hget : cfg.procs[i]? = some ⟨op, .call c next⟩) : guard c cfg.store := by
  have hamid : True ∧ ∀ p ∈ cfg.procs, Acts anyHazard p.rest cfg.store :=
    amid_of_run (I := fun _ => True) rely_trans (fun s _ => rely_refl s)
      (fun op _ _ => amid_program op) (fun _ _ => rfl)
      (fun _ c _ _ _ _ => ⟨trivial, rely_exec c⟩) nofun
      (fun _ _ _ _ _ _ _ _ => trivial) (fun _ _ _ _ _ _ _ _ => trivial) trivial hrun
  exact (hamid.2 _ (mem_of_getElem? hget) _ (rely_refl _)).1

/-- **Only the request of a root adds or removes a privileged account.** -/
theorem byRoot_of_privileged_ne (hrun : Run (step svc.system) Always (idle db) l cfg)
    {ev : Event Request Unit Empty Unit} {cfg' : Accounts}
    (hs : step svc.system cfg ev = some cfg')
    (hne : cfg'.store.privileged ≠ cfg.store.privileged) : ByRoot svc cfg ev := by
  rcases step_cases hs with ⟨op, -, rfl⟩ | ⟨i, x, op, c, next, rfl, hget, rfl⟩ |
    ⟨i, e, op, c, next, -, -, rfl⟩ | ⟨n, store, -, hstore, -⟩
  · exact absurd rfl hne
  · have hguard := guard_of_run hrun hget
    by_cases hrole : ∀ current ∈ c.requester?, current.role ≠ .root
    · exact absurd (privileged_exec hguard hrole) hne
    · push Not at hrole
      obtain ⟨current, hcurrent, hroot⟩ := hrole
      have hauthentic := (everywhere_of_run (fun _ => named_exec) (fun c e => by cases c <;> trivial)
        everywhere_program hrun _ (mem_of_getElem? hget)).here c rfl current hcurrent
      refine ⟨i, op, c, next, current, rfl, hget, hcurrent, hauthentic, ?_, hroot⟩
      cases c with
      | findActive username => cases hcurrent
      | find username => cases hcurrent
      | create b username passwordHash role =>
          obtain rfl := Option.some_inj.1 hcurrent
          exact hguard.1
      | delete b target =>
          obtain rfl := Option.some_inj.1 hcurrent
          exact hguard.1
  · exact absurd rfl hne
  · cases n

/-- **A root survives every run in which whoever deletes an active root is there.** -/
theorem hasRoot_of_present (hroot : db.HasRoot)
    (hrun : Run (step svc.system) Present (idle db) l cfg) : cfg.store.HasRoot := by
  have hamid : cfg.store.HasRoot ∧ ∀ p ∈ cfg.procs, Acts standingHazard p.rest cfg.store :=
    amid_of_run (I := Database.HasRoot) rely_trans (fun s _ => rely_refl s)
      (fun op _ _ => amid_program op) (fun _ _ => rfl)
      (fun _ c _ h hguard hstanding => ⟨hasRoot_exec hguard hstanding h, rely_exec c⟩) nofun
      (fun _ _ _ _ _ _ hok hget => hok _ hget _ rfl) (fun _ _ _ _ _ _ _ _ => trivial) hroot hrun
  exact hamid.1

/-- **Only roots add or remove privileged accounts, and while every requester is present at its
deletions, a root survives.** -/
theorem survival (hroot : db.HasRoot) (hrun : Run (step svc.system) Present (idle db) l cfg) :
    cfg.store.HasRoot ∧ ∀ ev cfg', step svc.system cfg ev = some cfg' →
      cfg'.store.privileged ≠ cfg.store.privileged → ByRoot svc cfg ev :=
  ⟨hasRoot_of_present hroot hrun, fun _ _ hs hne => byRoot_of_privileged_ne hrun.always hs hne⟩

end Runs

/-- **An active root exists in every state that is reached, and no request of another role adds or
removes a privileged account**, in the runs whose steps meet a condition. -/
def RootSurvival (svc : Service) (ok : Accounts → Event Request Unit Empty Unit → Prop) : Prop :=
  ∀ (db : Database) (l : List (Event Request Unit Empty Unit)) (cfg : Accounts), db.HasRoot →
    Run (step svc.system) ok (idle db) l cfg →
      cfg.store.HasRoot ∧ ∀ ev cfg', step svc.system cfg ev = some cfg' →
        cfg'.store.privileged ≠ cfg.store.privileged → ByRoot svc cfg ev

/-! ### Two roots -/

section Example

/-- Tokens that are the names they stand for. -/
def plainTokens : Service := ⟨some, some⟩

def rootAccount (id : ℕ) (username : String) : AdminAccount := ⟨id, username, "", .root, "", true⟩

def twoRoots : Database where
  accounts := [rootAccount 0 "alice", rootAccount 1 "bob"]
  nextID := 2
  ids_lt := by decide
  ids_nodup := by decide
  usernames_nodup := by decide

instance (cfg : Accounts) (ev : Event Request Unit Empty Unit) : Decidable (Present cfg ev) := by
  cases ev <;> (unfold Present; infer_instance)

/-- One root deletes the other. -/
def deletion : List (Event Request Unit Empty Unit) :=
  [.start (.delete "alice" "bob"), .advance 0 (), .advance 0 (), .advance 0 ()]

/-- **The root that deletes the other stays.** -/
theorem deletion_leavesRoot : ∃ cfg,
    Run (step plainTokens.system) Present (idle twoRoots) deletion cfg ∧
      cfg.store.privileged = [rootAccount 0 "alice"] ∧ cfg.store.HasRoot := by
  obtain ⟨cfg, hrun, hcfg⟩ : ∃ cfg,
      Run (step plainTokens.system) Present (idle twoRoots) deletion cfg ∧
        decide (cfg.store.privileged = [rootAccount 0 "alice"]) = true :=
    exists_run_of_execWhere (by decide +kernel)
  rw [decide_eq_true_eq] at hcfg
  exact ⟨cfg, hrun, hcfg, (survival (by decide) hrun).1⟩

/-- Both are authenticated before either deletes the other. -/
def mutualDeletion : List (Event Request Unit Empty Unit) :=
  [.start (.delete "alice" "bob"), .start (.delete "bob" "alice"), .advance 0 (), .advance 1 (),
    .advance 0 (), .advance 1 (), .advance 0 (), .advance 1 ()]

/-- **Two roots delete each other.** -/
theorem mutualDeletion_leavesNoRoot : ¬ RootSurvival plainTokens Always := by
  intro h
  obtain ⟨cfg, hrun, hcfg⟩ : ∃ cfg,
      Run (step plainTokens.system) Always (idle twoRoots) mutualDeletion cfg ∧
        (!decide cfg.store.HasRoot) = true := exists_run_of_execWhere (by decide +kernel)
  rw [Bool.not_eq_true', decide_eq_false_iff_not] at hcfg
  exact hcfg (h twoRoots mutualDeletion cfg (by decide) hrun).1

end Example

end Accounts
