/-
**The snapshots of the bot settings and definitions.**

A request of an admin writes to the database and then publishes what is in it: the settings are read,
the active definitions are read, and both together overwrite one key and then another.  Nothing orders
two requests that publish at the same time, so what was read first may be written last.

Reads are numbered by the writes that they have seen.  The numbers are part of no payload.

Main definitions:

* `Bots.Board`, `Bots.Request`, `Bots.Board.step` — the database, the two keys and the requests;
* `Bots.SnapshotAgreement` — the law, in all schedules whose steps meet a condition;
* `Bots.InOrder` — no snapshot is overwritten by one that was read before it.

Main results:

* `Bots.Board.fresh_step` — what the keys are still to be told, they will be told;
* `Bots.snapshot_overwritten` — an old snapshot comes last;
* `Bots.snapshotAgreement_of_inOrder` — **otherwise both keys agree with the database in the end**.
-/

import Mathlib.Data.List.Sort
import Pairline.Bots.Slots
import Pairline.Transition
import Pairline.Whitespace

set_option relaxedAutoImplicit false
set_option autoImplicit false

namespace Bots

open Transition

/-! ### The settings -/

/-- A letter in lower case.  Outside ASCII, two runes have an ASCII letter for lower case. -/
def toLowerRune (c : Char) : Char :=
  if c.toNat = 0x130 then 'i' else if c.toNat = 0x212A then 'k' else c.toLower

/-- `parseBoolSetting`; the names that it looks for are ASCII. -/
def parseBoolSetting (value : String) (defaultValue : Bool) : Bool :=
  let lowered := Whitespace.trim (String.ofList (value.toList.map toLowerRune))
  if lowered = "" then defaultValue
  else if lowered ∈ ["0", "false", "off", "no", "disabled"] then false
  else true

def parseConfiguredInt (value : String) (defaultValue : ℤ) : ℤ :=
  match integerParse (Whitespace.trim value) with
  | some (parsed, []) => parsed
  | _ => defaultValue

structure SettingsResponse where
  enabled : Bool
  engagementEnabled : Bool
  aiEnabled : Bool
  rolloutPercent : ℤ
  maxConcurrentRuns : ℤ
  engagementPriority : ℤ
  aiPriority : ℤ
  emergencyStop : Bool
  enabledConfigured : Bool
  aiConfigured : Bool
  emergencyConfigured : Bool

/-- The admin settings of the database, by their keys. -/
abbrev AdminSettings := String → Option String

/-- `LoadSettings`: one query for all the settings of the bots. -/
def loadSettings (values : AdminSettings) : SettingsResponse :=
  let value := fun key => (values key).getD ""
  { enabled := parseBoolSetting (value "bots.enabled") true
    engagementEnabled := parseBoolSetting (value "bots.engagement.enabled") true
    aiEnabled := parseBoolSetting (value "bots.ai.enabled") true
    rolloutPercent := parseConfiguredInt (value "bots.match.rollout_percent") 0
    maxConcurrentRuns := parseConfiguredInt (value "bots.max_concurrent_runs") 100
    engagementPriority := parseConfiguredInt (value "bots.engagement.priority") 100
    aiPriority := parseConfiguredInt (value "bots.ai.priority") 100
    emergencyStop := parseBoolSetting (value "bots.emergency_stop") false
    enabledConfigured := (values "bots.enabled").isSome
    aiConfigured := (values "bots.ai.enabled").isSome
    emergencyConfigured := (values "bots.emergency_stop").isSome }

/-! ### The database -/

/-- A row of the bot definitions; `body` are the columns that nothing here looks at. -/
structure DefinitionRow (β : Type) where
  id : String
  slug : String
  isActive : Bool
  updatedAt : ℕ
  body : β

variable {β : Type}

/-- The active definitions, the latest first. -/
def activeDefinitions (definitions : List (DefinitionRow β)) : List (DefinitionRow β) :=
  (definitions.filter DefinitionRow.isActive).insertionSort fun d d' => d'.updatedAt ≤ d.updatedAt

/-- The two halves of the database, and of a snapshot. -/
inductive Half
  | settings
  | definitions
  deriving DecidableEq

/-- What a request is to change; the snapshot may also be published without a change. -/
inductive Change (β : Type)
  | publish
  | settings (updates : AdminSettings)
  | create (definition : DefinitionRow β)
  | update (id : String) (edit : DefinitionRow β → DefinitionRow β)
  | setActive (id : String) (active : Bool)
  | delete (id : String)

/-- `SnapshotPayload`, and how many writes its two reads have seen. -/
structure Snapshot (β : Type) where
  settings : SettingsResponse
  definitions : List (DefinitionRow β)
  seen : Half → ℕ

/-- How far a request has come. -/
inductive RequestPhase (β : Type)
  | received
  | found
  | refused
  | written
  | loadedSettings (settings : SettingsResponse) (seen : ℕ)
  | loaded (snapshot : Snapshot β)
  | setDefinitions (snapshot : Snapshot β)
  | done

structure Request (β : Type) where
  change : Change β
  phase : RequestPhase β

inductive SnapshotKey
  | definitionsSnapshot
  | settingsSnapshot
  deriving DecidableEq

/-- The database, with the number of writes to either half. -/
structure Database (β : Type) where
  values : AdminSettings
  definitions : List (DefinitionRow β)
  writes : Half → ℕ

/-- The database, the keys as far as the requests have set them, and the requests. -/
structure Board (β : Type) where
  db : Database β
  keys : SnapshotKey → Option (Snapshot β)
  requests : List (Request β)

/-- No request has come in. -/
def quietBoard (values : AdminSettings) (definitions : List (DefinitionRow β)) : Board β where
  db := { values := values, definitions := definitions, writes := fun _ => 0 }
  keys _ := none
  requests := []

inductive BoardEvent (β : Type)
  | request (change : Change β)
  /-- The request takes its next step, at a time. -/
  | advance (i : ℕ) (now : ℕ)

/-! ### Requests -/

/-- The handlers that look for the definition first. -/
def Change.looksUp : Change β → Option String
  | .update id _ => some id
  | .delete id => some id
  | _ => none

namespace Database

variable (db : Database β)

/-- A half of the database has been written. -/
def wrote (half : Half) : Database β :=
  { db with writes := Function.update db.writes half (db.writes half + 1) }

def writeRows (definitions : List (DefinitionRow β)) : Database β :=
  { db with definitions := definitions }.wrote .definitions

/-- The rows after an update of one of them. -/
def edited (id : String) (now : ℕ) (edit : DefinitionRow β → DefinitionRow β) :
    List (DefinitionRow β) :=
  db.definitions.map fun d => if d.id = id then { edit d with id := d.id, updatedAt := now } else d

/-- **The write of a request**, or nothing when the database refuses it: slugs are unique. -/
def write (now : ℕ) : Change β → Option (Database β)
  | .publish => some db
  | .settings updates =>
      some ({ db with values := fun key => (updates key).or (db.values key) }.wrote .settings)
  | .create definition =>
      if definition.slug ∈ db.definitions.map DefinitionRow.slug then none
      else some (db.writeRows ({ definition with updatedAt := now } :: db.definitions))
  | .update id edit =>
      if ((db.edited id now edit).map DefinitionRow.slug).Nodup then
        some (db.writeRows (db.edited id now edit))
      else none
  | .setActive id active =>
      if id ∈ db.definitions.map DefinitionRow.id then
        some (db.writeRows (db.edited id now fun d => { d with isActive := active }))
      else none
  | .delete id => some (db.writeRows (db.definitions.filter fun d => d.id ≠ id))

end Database

namespace Board

variable (b : Board β)

def setPhase (i : ℕ) (request : Request β) (phase : RequestPhase β) : Board β :=
  { b with requests := b.requests.set i { request with phase := phase } }

/-- `Set` of one of the two keys. -/
def setKey (key : SnapshotKey) (snapshot : Snapshot β) : Board β :=
  { b with keys := Function.update b.keys key (some snapshot) }

/-- **One step of a request**: the handler up to its write, and then `Sync`. -/
def advance (i now : ℕ) (request : Request β) : Option (Board β) :=
  match request.phase with
  | .received =>
      match request.change.looksUp with
      | none => some (b.setPhase i request .found)
      | some id =>
          if id ∈ b.db.definitions.map DefinitionRow.id then some (b.setPhase i request .found)
          else some (b.setPhase i request .refused)
  | .found =>
      match b.db.write now request.change with
      | none => some (b.setPhase i request .refused)
      | some db => some ({ b with db := db }.setPhase i request .written)
  | .written =>
      some (b.setPhase i request (.loadedSettings (loadSettings b.db.values) (b.db.writes .settings)))
  | .loadedSettings settings seen =>
      some (b.setPhase i request (.loaded
        { settings := settings
          definitions := activeDefinitions b.db.definitions
          seen := fun
            | .settings => seen
            | .definitions => b.db.writes .definitions }))
  | .loaded snapshot =>
      some ((b.setKey .definitionsSnapshot snapshot).setPhase i request (.setDefinitions snapshot))
  | .setDefinitions snapshot =>
      some ((b.setKey .settingsSnapshot snapshot).setPhase i request .done)
  | .refused => none
  | .done => none

/-- **One event.** -/
def step : BoardEvent β → Option (Board β)
  | .request change => some { b with requests := b.requests ++ [⟨change, .received⟩] }
  | .advance i now =>
      match b.requests[i]? with
      | some request => b.advance i now request
      | none => none

end Board

/-! ### The law -/

/-- The payload is what the database holds. -/
def Snapshot.Agrees (snapshot : Snapshot β) (db : Database β) : Prop :=
  snapshot.settings = loadSettings db.values ∧ snapshot.definitions = activeDefinitions db.definitions

/-- The request has completed; one that was refused has published nothing. -/
def RequestPhase.completed : RequestPhase β → Bool
  | .done => true
  | .refused => true
  | _ => false

def RequestPhase.published : RequestPhase β → Bool
  | .done => true
  | _ => false

/-- **Snapshot agreement**, in the schedules whose steps meet `ok`: when all requests have completed, and
one of them has published, both keys hold what is in the database. -/
def SnapshotAgreement (β : Type) (ok : Board β → BoardEvent β → Prop) : Prop :=
  ∀ values definitions events b, Run Board.step ok (quietBoard values definitions) events b →
    (∀ request ∈ b.requests, request.phase.completed = true) →
    (∃ request ∈ b.requests, request.phase.published = true) →
      ∀ key, ∃ snapshot, b.keys key = some snapshot ∧ snapshot.Agrees b.db

/-- The key that a request is to set next, and what with. -/
def RequestPhase.sets : RequestPhase β → Option (SnapshotKey × Snapshot β)
  | .loaded snapshot => some (.definitionsSnapshot, snapshot)
  | .setDefinitions snapshot => some (.settingsSnapshot, snapshot)
  | _ => none

/-- **No snapshot is overwritten by one that was read before it.** -/
def InOrder (b : Board β) : BoardEvent β → Prop
  | .advance i _ => ∀ request ∈ b.requests[i]?, ∀ setting ∈ request.phase.sets,
      ∀ old ∈ b.keys setting.1, old.seen .settings ≤ setting.2.seen .settings ∧
        old.seen .definitions ≤ setting.2.seen .definitions
  | .request _ => True

instance (b : Board β) (ev : BoardEvent β) : Decidable (InOrder b ev) := by
  cases ev <;> unfold InOrder <;> infer_instance

/-! ### What the keys are still to be told -/

/-- A snapshot that has seen all writes to a half holds that half. -/
structure Snapshot.Sound (snapshot : Snapshot β) (db : Database β) : Prop where
  le : ∀ half, snapshot.seen half ≤ db.writes half
  settings : snapshot.seen .settings = db.writes .settings → snapshot.settings = loadSettings db.values
  definitions : snapshot.seen .definitions = db.writes .definitions →
    snapshot.definitions = activeDefinitions db.definitions

/-- What a request has read is sound. -/
def RequestPhase.Sound (phase : RequestPhase β) (db : Database β) : Prop :=
  match phase with
  | .loadedSettings settings seen => seen ≤ db.writes .settings ∧
      (seen = db.writes .settings → settings = loadSettings db.values)
  | .loaded snapshot => snapshot.Sound db
  | .setDefinitions snapshot => snapshot.Sound db
  | _ => True

/-- **A request will set a key to a snapshot that has seen all writes to a half.** -/
def RequestPhase.Owes (phase : RequestPhase β) (db : Database β) (key : SnapshotKey) (half : Half) :
    Prop :=
  match phase with
  | .written => True
  | .loadedSettings _ seen => half = .settings → seen = db.writes .settings
  | .loaded snapshot => snapshot.seen half = db.writes half
  | .setDefinitions snapshot => key = .settingsSnapshot ∧ snapshot.seen half = db.writes half
  | _ => False

/-- The request has not written. -/
def RequestPhase.Early : RequestPhase β → Prop
  | .received => True
  | .found => True
  | .refused => True
  | _ => False

/-- The key has seen all writes to a half. -/
def Board.Told (b : Board β) (key : SnapshotKey) (half : Half) : Prop :=
  ∃ snapshot, b.keys key = some snapshot ∧ snapshot.seen half = b.db.writes half

/-- **The invariant**: what was read is sound; and once a request has written, each key has been told of each
half of the database, or will be. -/
structure Board.Fresh (b : Board β) : Prop where
  phases : ∀ request ∈ b.requests, request.phase.Sound b.db
  keys : ∀ key snapshot, b.keys key = some snapshot → snapshot.Sound b.db
  told : (∀ request ∈ b.requests, request.phase.Early) ∨ ∀ key half, b.Told key half ∨
    ∃ request ∈ b.requests, request.phase.Owes b.db key half

namespace Board

variable {b b' : Board β} {i now : ℕ} {request : Request β}

theorem fresh_quietBoard (values : AdminSettings) (definitions : List (DefinitionRow β)) :
    (quietBoard values definitions).Fresh where
  phases request h := absurd h List.not_mem_nil
  keys key snapshot h := by cases h
  told := .inl fun request h => absurd h List.not_mem_nil

/-- Other requests after one of them took a step. -/
theorem mem_setPhase {phase : RequestPhase β} {other : Request β}
    (h : other ∈ (b.setPhase i request phase).requests) :
    other = { request with phase := phase } ∨ other ∈ b.requests :=
  (List.mem_or_eq_of_mem_set h).symm

theorem mem_setPhase_self (hget : b.requests[i]? = some request) (phase : RequestPhase β) :
    { request with phase := phase } ∈ (b.setPhase i request phase).requests :=
  List.mem_set (List.getElem?_eq_some_iff.1 hget).1 _

/-- A request that owes nothing, or whose debt is taken over, may take its step. -/
theorem exists_owes_setPhase (hget : b.requests[i]? = some request) {phase : RequestPhase β}
    {key : SnapshotKey} {half : Half} (h : ∃ request ∈ b.requests, request.phase.Owes b.db key half)
    (hthis : request.phase.Owes b.db key half → phase.Owes b.db key half) :
    ∃ other ∈ (b.setPhase i request phase).requests, other.phase.Owes b.db key half := by
  obtain ⟨other, hmem, howes⟩ := h
  obtain ⟨j, hj⟩ := List.mem_iff_getElem?.1 hmem
  by_cases hij : j = i
  · subst hij
    obtain rfl := Option.some_inj.1 (hget.symm.trans hj)
    exact ⟨_, mem_setPhase_self hget phase, hthis howes⟩
  · refine ⟨other, List.mem_of_getElem? (i := j) ?_, howes⟩
    exact (List.getElem?_set_ne (Ne.symm hij)).trans hj

/-- **A step that neither writes the database nor sets a key.** -/
theorem Fresh.setPhase (h : b.Fresh) (hget : b.requests[i]? = some request) {phase : RequestPhase β}
    (hsound : phase.Sound b.db) (hearly : request.phase.Early → phase.Early)
    (howes : ∀ key half, request.phase.Owes b.db key half → phase.Owes b.db key half) :
    (b.setPhase i request phase).Fresh where
  phases other hother := by
    rcases mem_setPhase hother with rfl | hmem
    · exact hsound
    · exact h.phases other hmem
  keys := h.keys
  told := by
    refine h.told.imp (fun hall other hother => ?_) fun hall key half => ?_
    · rcases mem_setPhase hother with rfl | hmem
      · exact hearly (hall request (List.mem_of_getElem? hget))
      · exact hall other hmem
    · exact (hall key half).imp id fun howed => exists_owes_setPhase hget howed (howes key half)

theorem fresh_request (h : b.Fresh) (change : Change β) :
    ({ b with requests := b.requests ++ [⟨change, .received⟩] } : Board β).Fresh where
  phases request hrequest := by
    rcases List.mem_append.1 hrequest with hmem | hmem
    · exact h.phases request hmem
    · obtain rfl := List.mem_singleton.1 hmem
      trivial
  keys := h.keys
  told := by
    refine h.told.imp (fun hall request hrequest => ?_) fun hall key half => ?_
    · rcases List.mem_append.1 hrequest with hmem | hmem
      · exact hall request hmem
      · obtain rfl := List.mem_singleton.1 hmem
        trivial
    · refine (hall key half).imp id ?_
      rintro ⟨request, hmem, howes⟩
      exact ⟨request, List.mem_append_left _ hmem, howes⟩

end Board

/-! ### Writes to the database -/

/-- A later database: a half that was not written is as it was. -/
structure Database.Later (db db' : Database β) : Prop where
  le : ∀ half, db.writes half ≤ db'.writes half
  values : db'.writes .settings = db.writes .settings → db'.values = db.values
  definitions : db'.writes .definitions = db.writes .definitions → db'.definitions = db.definitions

theorem Database.later_settings (db : Database β) (values : AdminSettings) :
    db.Later ({ db with values := values }.wrote .settings) := by
  refine ⟨fun half => ?_, fun h => ?_, fun _ => rfl⟩
  · cases half with
    | settings => simp [wrote]
    | definitions => simp [wrote]
  · simp [wrote] at h

theorem Database.later_writeRows (db : Database β) (definitions : List (DefinitionRow β)) :
    db.Later (db.writeRows definitions) := by
  refine ⟨fun half => ?_, fun _ => rfl, fun h => ?_⟩
  · cases half with
    | settings => simp [writeRows, wrote]
    | definitions => simp [writeRows, wrote]
  · simp [writeRows, wrote] at h

theorem Database.later_write {db db' : Database β} {now : ℕ} {change : Change β}
    (h : db.write now change = some db') : db.Later db' := by
  cases change with
  | publish =>
      obtain rfl := Option.some_inj.1 h
      exact ⟨fun _ => le_rfl, fun _ => rfl, fun _ => rfl⟩
  | settings updates =>
      obtain rfl := Option.some_inj.1 h
      exact db.later_settings _
  | create definition =>
      obtain ⟨-, h⟩ := Option.ite_none_left_eq_some.1 h
      obtain rfl := Option.some_inj.1 h
      exact db.later_writeRows _
  | update id edit =>
      obtain ⟨-, h⟩ := Option.ite_none_right_eq_some.1 h
      obtain rfl := Option.some_inj.1 h
      exact db.later_writeRows _
  | setActive id active =>
      obtain ⟨-, h⟩ := Option.ite_none_right_eq_some.1 h
      obtain rfl := Option.some_inj.1 h
      exact db.later_writeRows _
  | delete id =>
      obtain rfl := Option.some_inj.1 h
      exact db.later_writeRows _

/-- What was read before stays sound: it has not seen the new write. -/
theorem Snapshot.Sound.later {snapshot : Snapshot β} {db db' : Database β} (h : snapshot.Sound db)
    (hlater : db.Later db') : snapshot.Sound db' where
  le half := (h.le half).trans (hlater.le half)
  settings hseen := by
    have hsame := le_antisymm (hseen ▸ h.le .settings) (hlater.le .settings)
    rw [hlater.values hsame]
    exact h.settings (hseen.trans hsame)
  definitions hseen := by
    have hsame := le_antisymm (hseen ▸ h.le .definitions) (hlater.le .definitions)
    rw [hlater.definitions hsame]
    exact h.definitions (hseen.trans hsame)

theorem RequestPhase.Sound.later {phase : RequestPhase β} {db db' : Database β} (h : phase.Sound db)
    (hlater : db.Later db') : phase.Sound db' := by
  cases phase with
  | loadedSettings settings seen =>
      refine ⟨h.1.trans (hlater.le .settings), fun hseen => ?_⟩
      have hsame := le_antisymm (hseen ▸ h.1) (hlater.le .settings)
      rw [hlater.values hsame]
      exact h.2 (hseen.trans hsame)
  | loaded snapshot => exact Snapshot.Sound.later h hlater
  | setDefinitions snapshot => exact Snapshot.Sound.later h hlater
  | received => trivial
  | found => trivial
  | refused => trivial
  | written => trivial
  | done => trivial

namespace Board

variable {b b' : Board β} {i now : ℕ} {request : Request β}

/-- **Whoever has written will tell both keys of both halves.** -/
theorem Fresh.write (h : b.Fresh) (hget : b.requests[i]? = some request) {db : Database β}
    (hlater : b.db.Later db) : ({ b with db := db }.setPhase i request .written : Board β).Fresh where
  phases other hother := by
    rcases mem_setPhase hother with rfl | hmem
    · trivial
    · exact (h.phases other hmem).later hlater
  keys key snapshot hkey := (h.keys key snapshot hkey).later hlater
  told := .inr fun _ _ => .inr ⟨_, mem_setPhase_self hget .written, trivial⟩

/-- The keys after one of them is set. -/
theorem setKey_cases {key key' : SnapshotKey} {snapshot found : Snapshot β}
    (h : (b.setKey key snapshot).keys key' = some found) :
    (key' = key ∧ found = snapshot) ∨ (key' ≠ key ∧ b.keys key' = some found) := by
  by_cases heq : key' = key
  · subst heq
    simp only [Board.setKey, Function.update_self] at h
    exact .inl ⟨rfl, (Option.some_inj.1 h).symm⟩
  · simp only [Board.setKey, Function.update_of_ne heq] at h
    exact .inr ⟨heq, h⟩

/-- **A key is set in order**: whoever owed it this snapshot has told it, and it has forgotten nothing. -/
theorem Fresh.setKey (h : b.Fresh) (hget : b.requests[i]? = some request) {key : SnapshotKey}
    {snapshot : Snapshot β} {phase : RequestPhase β}
    (hsets : request.phase.sets = some (key, snapshot)) (hsound : phase.Sound b.db)
    (horder : ∀ old ∈ b.keys key, ∀ half, old.seen half ≤ snapshot.seen half)
    (howes : ∀ key' half, key' ≠ key → request.phase.Owes b.db key' half → phase.Owes b.db key' half) :
    ((b.setKey key snapshot).setPhase i request phase).Fresh := by
  have hthis : snapshot.Sound b.db := by
    have hphase := h.phases request (List.mem_of_getElem? hget)
    cases hrequest : request.phase with
    | loaded found =>
        rw [hrequest] at hphase hsets
        obtain ⟨-, rfl⟩ := Prod.mk.inj (Option.some_inj.1 hsets)
        exact hphase
    | setDefinitions found =>
        rw [hrequest] at hphase hsets
        obtain ⟨-, rfl⟩ := Prod.mk.inj (Option.some_inj.1 hsets)
        exact hphase
    | _ =>
        rw [hrequest] at hsets
        cases hsets
  -- a debt of this request towards this key is what the snapshot has seen
  have hpaid : ∀ half, request.phase.Owes b.db key half → snapshot.seen half = b.db.writes half := by
    intro half hdebt
    cases hrequest : request.phase with
    | loaded found =>
        rw [hrequest] at hdebt hsets
        obtain ⟨-, rfl⟩ := Prod.mk.inj (Option.some_inj.1 hsets)
        exact hdebt
    | setDefinitions found =>
        rw [hrequest] at hdebt hsets
        obtain ⟨-, rfl⟩ := Prod.mk.inj (Option.some_inj.1 hsets)
        exact hdebt.2
    | _ =>
        rw [hrequest] at hsets
        cases hsets
  refine ⟨fun other hother => ?_, fun key' found hfound => ?_, .inr fun key' half => ?_⟩
  · rcases mem_setPhase hother with rfl | hmem
    · exact hsound
    · exact h.phases other hmem
  · rcases setKey_cases hfound with ⟨-, rfl⟩ | ⟨-, hold⟩
    · exact hthis
    · exact h.keys key' found hold
  · have hall := h.told.resolve_left fun hearly => by
      have hnot := hearly request (List.mem_of_getElem? hget)
      cases hrequest : request.phase with
      | loaded found => rw [hrequest] at hnot; exact hnot
      | setDefinitions found => rw [hrequest] at hnot; exact hnot
      | _ =>
          rw [hrequest] at hsets
          cases hsets
    by_cases heq : key' = key
    · subst heq
      have hkey : (b.setKey key' snapshot).keys key' = some snapshot := Function.update_self _ _ _
      rcases hall key' half with ⟨old, hold, hseen⟩ | ⟨other, hmem, hdebt⟩
      · refine .inl ⟨snapshot, hkey, le_antisymm (hthis.le half) ?_⟩
        exact hseen.symm.le.trans (horder old hold half)
      · obtain ⟨j, hj⟩ := List.mem_iff_getElem?.1 hmem
        by_cases hij : j = i
        · subst hij
          obtain rfl := Option.some_inj.1 (hget.symm.trans hj)
          exact .inl ⟨snapshot, hkey, hpaid half hdebt⟩
        · refine .inr ⟨other, List.mem_of_getElem? (i := j) ?_, hdebt⟩
          exact (List.getElem?_set_ne (Ne.symm hij)).trans hj
    · refine (hall key' half).imp ?_ fun howed => ?_
      · rintro ⟨old, hold, hseen⟩
        exact ⟨old, (Function.update_of_ne heq _ _).trans hold, hseen⟩
      · exact @exists_owes_setPhase β (b.setKey key snapshot) i request hget phase key' half howed
          (howes key' half heq)

/-- **What the keys are still to be told, they will be told.** -/
theorem fresh_step {ev : BoardEvent β} (h : b.Fresh) (hok : InOrder b ev) (hs : b.step ev = some b') :
    b'.Fresh := by
  cases ev with
  | request change =>
      obtain rfl := Option.some_inj.1 hs
      exact fresh_request h change
  | advance i now =>
      simp only [step] at hs
      split at hs
      next request hget =>
          have hphase := h.phases request (List.mem_of_getElem? hget)
          have horder : ∀ key snapshot, request.phase.sets = some (key, snapshot) →
              ∀ old ∈ b.keys key, ∀ half, old.seen half ≤ snapshot.seen half := by
            intro key snapshot hsets old hold half
            obtain ⟨hsettings, hdefinitions⟩ := hok request hget (key, snapshot) hsets old hold
            cases half with
            | settings => exact hsettings
            | definitions => exact hdefinitions
          unfold advance at hs
          cases hrequest : request.phase with
          | received =>
              simp only [hrequest] at hs
              have hfound : (b.setPhase i request .found).Fresh :=
                h.setPhase hget trivial (fun _ => trivial) (by rw [hrequest]; exact fun _ _ => False.elim)
              split at hs
              next =>
                  obtain rfl := Option.some_inj.1 hs
                  exact hfound
              next =>
                  split_ifs at hs
                  · obtain rfl := Option.some_inj.1 hs
                    exact hfound
                  · obtain rfl := Option.some_inj.1 hs
                    exact h.setPhase hget trivial (fun _ => trivial)
                      (by rw [hrequest]; exact fun _ _ => False.elim)
          | found =>
              simp only [hrequest] at hs
              split at hs
              next =>
                  obtain rfl := Option.some_inj.1 hs
                  exact h.setPhase hget trivial (fun _ => trivial)
                    (by rw [hrequest]; exact fun _ _ => False.elim)
              next db hwrite =>
                  obtain rfl := Option.some_inj.1 hs
                  exact h.write hget (Database.later_write hwrite)
          | written =>
              simp only [hrequest] at hs
              obtain rfl := Option.some_inj.1 hs
              exact h.setPhase hget ⟨le_rfl, fun _ => rfl⟩ (by rw [hrequest]; exact False.elim)
                fun _ _ _ _ => rfl
          | loadedSettings settings seen =>
              simp only [hrequest] at hs
              obtain rfl := Option.some_inj.1 hs
              rw [hrequest] at hphase
              refine h.setPhase hget ⟨fun half => ?_, hphase.2, fun _ => rfl⟩
                (by rw [hrequest]; exact False.elim) ?_
              · cases half with
                | settings => exact hphase.1
                | definitions => exact le_rfl
              · rw [hrequest]
                intro key half hdebt
                cases half with
                | settings => exact hdebt rfl
                | definitions => exact rfl
          | loaded snapshot =>
              simp only [hrequest] at hs
              obtain rfl := Option.some_inj.1 hs
              have hsets : request.phase.sets = some (.definitionsSnapshot, snapshot) := by rw [hrequest]; rfl
              refine h.setKey hget hsets (by rw [hrequest] at hphase; exact hphase)
                (horder _ _ hsets) ?_
              rw [hrequest]
              intro key' half hne hdebt
              cases key' with
              | definitionsSnapshot => exact absurd rfl hne
              | settingsSnapshot => exact ⟨rfl, hdebt⟩
          | setDefinitions snapshot =>
              simp only [hrequest] at hs
              obtain rfl := Option.some_inj.1 hs
              have hsets : request.phase.sets = some (.settingsSnapshot, snapshot) := by rw [hrequest]; rfl
              refine h.setKey hget hsets trivial (horder _ _ hsets) ?_
              rw [hrequest]
              exact fun key' half hne hdebt => absurd hdebt.1 hne
          | refused => simp only [hrequest, reduceCtorEq] at hs
          | done => simp only [hrequest, reduceCtorEq] at hs
      next => cases hs

end Board

/-! ### The exception and the law -/

/-- **When no snapshot is overwritten by an older one, both keys agree with the database in the end.** -/
theorem snapshotAgreement_of_inOrder : SnapshotAgreement β InOrder := by
  intro values definitions events b hrun hcompleted hdone key
  have hfresh : b.Fresh := hrun.invariant (fun _ _ _ h hok hs => Board.fresh_step h hok hs)
    (Board.fresh_quietBoard values definitions)
  obtain ⟨published, hpublished, hphase⟩ := hdone
  have htold : ∀ half, b.Told key half := by
    intro half
    rcases hfresh.told with hearly | hall
    · have hnot := hearly published hpublished
      cases hcase : published.phase <;>
        simp [hcase, RequestPhase.Early, RequestPhase.published] at hnot hphase
    · refine (hall key half).resolve_right ?_
      rintro ⟨request, hmem, hdebt⟩
      have hended := hcompleted request hmem
      cases hcase : request.phase <;>
        simp [hcase, RequestPhase.Owes, RequestPhase.completed] at hdebt hended
  obtain ⟨snapshot, hkey, hsettings⟩ := htold .settings
  obtain ⟨snapshot', hkey', hdefinitions⟩ := htold .definitions
  obtain rfl := Option.some_inj.1 (hkey.symm.trans hkey')
  have hsound := hfresh.keys key snapshot hkey
  exact ⟨snapshot, hkey, hsound.settings hsettings, hsound.definitions hdefinitions⟩

/-- Two admins switch the bots off and on again; the first one reads in between. -/
def crossedRequests : List (BoardEvent Unit) :=
  let switch : String → Change Unit := fun value =>
    .settings fun key => if key = "bots.enabled" then some value else none
  [.request (switch "false"), .request (switch "true")] ++
    List.replicate 4 (.advance 0 1) ++ List.replicate 6 (.advance 1 2) ++
    List.replicate 2 (.advance 0 3)

/-- **An old snapshot comes last**: the database says that the bots are on, and the keys say that they are
off. -/
theorem snapshot_overwritten : ¬ SnapshotAgreement Unit Always := by
  intro h
  have hlast : (exec Board.step (quietBoard (fun _ => none) []) crossedRequests).any (fun b =>
      (b.requests.all fun request => request.phase.published) && b.requests.length = 2 &&
        (loadSettings b.db.values).enabled &&
        (b.keys .settingsSnapshot).any fun snapshot => !snapshot.settings.enabled) = true := by
    decide +kernel
  obtain ⟨b, hexec, hb⟩ := Option.any_eq_true _ _ |>.1 hlast
  simp only [Bool.and_eq_true, decide_eq_true_eq, List.all_eq_true] at hb
  obtain ⟨⟨⟨hdone, hlength⟩, henabled⟩, hkey⟩ := hb
  obtain ⟨request, hmem⟩ := List.exists_mem_of_length_pos (l := b.requests) (by omega)
  have hcompleted : ∀ request ∈ b.requests, request.phase.completed = true := by
    intro other hother
    have hthis := hdone other hother
    cases hcase : other.phase <;>
      simp [hcase, RequestPhase.published, RequestPhase.completed] at hthis ⊢
  obtain ⟨snapshot, hset, hagrees, -⟩ := h _ _ _ b (run_of_exec hexec) hcompleted
    ⟨request, hmem, hdone request hmem⟩ .settingsSnapshot
  rw [hset, Option.any_some, hagrees, henabled] at hkey
  cases hkey

/-- The same requests, one after the other. -/
def orderedRequests : List (BoardEvent Unit) :=
  [.request (.create ⟨"1", "ada", true, 0, ()⟩), .request (.setActive "1" false)] ++
    List.replicate 6 (.advance 0 1) ++ List.replicate 6 (.advance 1 2)

/-- The second request finds what the first one has published, and the definition is not active any
more. -/
theorem orderedRequests_agree : ∃ b, Run Board.step InOrder (quietBoard (fun _ => none) [])
    orderedRequests b ∧ ∀ key, ∃ snapshot, b.keys key = some snapshot ∧ snapshot.definitions = [] := by
  have hall : (execWhere Board.step InOrder (quietBoard (fun _ => none) []) orderedRequests).any (fun b =>
      (b.requests.all fun request => request.phase.completed) &&
        (b.requests.any fun request => request.phase.published) &&
        (activeDefinitions b.db.definitions = [])) = true := by
    decide +kernel
  obtain ⟨b, hrun, hb⟩ := exists_run_of_execWhere hall
  simp only [Bool.and_eq_true, decide_eq_true_eq, List.all_eq_true, List.any_eq_true] at hb
  obtain ⟨⟨hcompleted, hpublished⟩, hnone⟩ := hb
  refine ⟨b, hrun, fun key => ?_⟩
  obtain ⟨snapshot, hkey, -, hagrees⟩ :=
    snapshotAgreement_of_inOrder _ _ _ b hrun hcompleted hpublished key
  exact ⟨snapshot, hkey, hagrees.trans hnone⟩

end Bots
