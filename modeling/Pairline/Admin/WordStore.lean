/-
**Banned words in the database and in Redis.**

The database holds the banned words and the setting that enables them; Redis holds the set of words
and a flag that the nodes load.  A request changes the database first and Redis second.  Where the
second write fails, the creation of a word takes its row back and a change of the setting writes the
value that was read before; a deletion leaves it at that.  Nothing keeps requests apart.

Main definitions:

* `WordStore.Database`, `WordStore.Store` — rows with distinct ids and words, and what Redis has;
* `WordStore.createBannedWord`, `WordStore.deleteBannedWord`, `WordStore.updateSettings` — the three
  handlers;
* `WordStore.Agree` — **Redis has the words and the flag of the database**;
* `WordStore.RedisFails` — only commands of Redis fail;
* `WordStore.Lands`, `WordStore.Forgoes`, `WordStore.Settling` — no step leaves a difference behind
  that no request is about to settle;
* `WordStore.Covered` — every difference is about to be settled.

Main results:

* `WordStore.covered_of_run` — what settling steps keep;
* `WordStore.agree_of_settling` — **at rest the two agree, while every step settles**;
* `WordStore.failedDeletion_disagrees` — a deletion that Redis does not take.
-/

import Mathlib.Data.Finset.Basic
import Mathlib.Data.List.Nodup
import Pairline.Admin.Phrases
import Pairline.Pool

set_option relaxedAutoImplicit false
set_option autoImplicit false

namespace WordStore

open Program Pool Transition

/-! ### The database and Redis -/

structure Row where
  id : ℕ
  word : String
  normalizedWord : String
  createdByUsername : String

/-- **The table of banned words and the setting**: ids are given once, and normalised words are
unique. -/
structure Database where
  rows : List Row
  nextID : ℕ
  setting : Option Bool
  ids_lt : ∀ row ∈ rows, row.id < nextID
  ids_nodup : (rows.map Row.id).Nodup
  words_nodup : (rows.map Row.normalizedWord).Nodup

namespace Database

variable (db : Database)

/-- `BannedWordsEnabledSetting`: without a row, words are enforced. -/
def enabled : Bool := db.setting.getD true

/-- The word has a row. -/
def Stored (word : String) : Prop := word ∈ db.rows.map Row.normalizedWord

instance (word : String) : Decidable (db.Stored word) := by unfold Stored; infer_instance

/-- A row under a new id, unless its normalised word is taken. -/
def insert (word normalizedWord username : String) : Option ℕ × Database :=
  if h : normalizedWord ∈ db.rows.map Row.normalizedWord then (none, db)
  else (some db.nextID,
    { rows := db.rows ++ [⟨db.nextID, word, normalizedWord, username⟩]
      nextID := db.nextID + 1
      setting := db.setting
      ids_lt := by
        intro row hrow
        rcases List.mem_append.1 hrow with hold | hnew
        · exact Nat.lt_succ_of_lt (db.ids_lt row hold)
        · rw [List.mem_singleton.1 hnew]
          exact Nat.lt_succ_self _
      ids_nodup := by
        rw [List.map_append]
        refine List.Nodup.append db.ids_nodup (List.nodup_singleton _)
          (List.disjoint_singleton.2 fun hmem => ?_)
        obtain ⟨row, hrow, hid⟩ := List.mem_map.1 hmem
        exact absurd (db.ids_lt row hrow) (by simp only [hid, Nat.lt_irrefl, not_false_iff])
      words_nodup := by
        rw [List.map_append]
        exact List.Nodup.append db.words_nodup (List.nodup_singleton _)
          (List.disjoint_singleton.2 h) })

/-- The row with an id is deleted. -/
def delete (id : ℕ) : Database where
  rows := db.rows.filter fun row => row.id ≠ id
  nextID := db.nextID
  setting := db.setting
  ids_lt row hrow := db.ids_lt row (List.mem_of_mem_filter hrow)
  ids_nodup := (List.filter_sublist.map _).nodup db.ids_nodup
  words_nodup := (List.filter_sublist.map _).nodup db.words_nodup

def upsert (enabled : Bool) : Database := { db with setting := some enabled }

end Database

/-- The database, and the set and the flag in Redis. -/
structure Store where
  db : Database
  words : Finset String
  flag : Option Bool

/-! ### Requests -/

inductive Cmd
  | insert (word normalizedWord username : String)
  /-- `First` after a duplicate key. -/
  | first (normalizedWord : String)
  | find (id : ℕ)
  /-- The deletion of a row by its id; its word was read before. -/
  | deleteRow (id : ℕ) (normalizedWord : String)
  | rollbackRow (id : ℕ)
  | readSetting
  | upsert (enabled : Bool)
  | rollbackSetting (enabled : Bool)
  /-- `SAdd`, after a row was inserted under an id, or for a word that has one. -/
  | sAdd (normalizedWord : String) (own : Option ℕ)
  | sRem (normalizedWord : String)
  | set (enabled : Bool)
  | publish

abbrev Cmd.Reply : Cmd → Type
  -- the id of the row, unless the word is a duplicate
  | .insert _ _ _ => Option ℕ
  | .first _ | .readSetting => Bool
  -- the normalised word of the row
  | .find _ => Option String
  | _ => Unit

/-- The commands of Redis. -/
def Cmd.isRedis : Cmd → Bool
  | .sAdd _ _ | .sRem _ | .set _ | .publish => true
  | _ => false

abbrev Prog := Program Cmd.Reply Unit

def exec (c : Cmd) (s : Store) : c.Reply × Store :=
  match c with
  | .insert word normalizedWord username =>
      let inserted := s.db.insert word normalizedWord username
      (inserted.1, { s with db := inserted.2 })
  | .first normalizedWord => (decide (s.db.Stored normalizedWord), s)
  | .find id => ((s.db.rows.find? fun row => row.id = id).map Row.normalizedWord, s)
  | .deleteRow id _ | .rollbackRow id => ((), { s with db := s.db.delete id })
  | .readSetting => (s.db.enabled, s)
  | .upsert enabled | .rollbackSetting enabled => ((), { s with db := s.db.upsert enabled })
  | .sAdd normalizedWord _ => ((), { s with words := insert normalizedWord s.words })
  | .sRem normalizedWord => ((), { s with words := s.words.erase normalizedWord })
  | .set enabled => ((), { s with flag := some enabled })
  | .publish => ((), s)

structure Response where
  code : ℕ
  text : String

/-- A request, as far as its handler can read it: without a user it is not authenticated. -/
inductive Request
  | create (username : Option String) (word : String)
  | delete (id : Option ℕ)
  | settings (username : Option String) (enabled : Option Bool)

/-- The nodes are told to load again; when that fails, they are not. -/
def published (response : Response) : Prog Response := .call .publish fun _ => .ret response

def afterFirst (normalizedWord : String) : Except Unit Bool → Prog Response
  | .ok true => .call (.sAdd normalizedWord none) fun _ => published ⟨200, "exists"⟩
  | _ => .ret ⟨500, "Failed to create banned word"⟩

def afterAdd (id : ℕ) : Except Unit Unit → Prog Response
  | .ok _ => published ⟨200, "created"⟩
  | .error _ =>
      .call (.rollbackRow id) fun _ => .ret ⟨502, "Word saved, but Redis propagation failed"⟩

def afterInsert (normalizedWord : String) : Except Unit (Option ℕ) → Prog Response
  | .ok (some id) => .call (.sAdd normalizedWord (some id)) (afterAdd id)
  | .ok none => .call (.first normalizedWord) (afterFirst normalizedWord)
  | .error _ => .ret ⟨500, "Failed to create banned word"⟩

/-- The displayed and the normalised word of a request, or what is wrong with it. -/
def bind (t : BannedWords.Tables) (raw : String) : Except Response (String × String) :=
  let word := BannedWords.displayWord raw
  let normalizedWord := BannedWords.normalizeBannedWord t word
  if raw = "" ∨ 128 < raw.length then .error ⟨400, "Invalid request properties"⟩
  else if normalizedWord = "" then .error ⟨400, "Banned word cannot be empty"⟩
  else .ok (word, normalizedWord)

/-- `CreateBannedWordHandlerGin`. -/
def createBannedWord (t : BannedWords.Tables) (username : Option String) (raw : String) :
    Prog Response :=
  match bind t raw, username with
  | .error response, _ => .ret response
  | .ok _, none => .ret ⟨401, "Unauthorized"⟩
  | .ok (word, normalizedWord), some username =>
      .call (.insert word normalizedWord username) (afterInsert normalizedWord)

def afterRemove : Except Unit Unit → Prog Response
  | .ok _ => published ⟨200, "deleted"⟩
  | .error _ => .ret ⟨502, "Word deleted, but Redis propagation failed"⟩

def afterDelete (normalizedWord : String) : Except Unit Unit → Prog Response
  | .ok _ => .call (.sRem normalizedWord) afterRemove
  | .error _ => .ret ⟨500, "Failed to delete banned word"⟩

def afterFind (id : ℕ) : Except Unit (Option String) → Prog Response
  | .ok (some normalizedWord) => .call (.deleteRow id normalizedWord) (afterDelete normalizedWord)
  | .ok none => .ret ⟨404, "Banned word not found"⟩
  | .error _ => .ret ⟨500, "Failed to delete banned word"⟩

/-- `DeleteBannedWordHandlerGin`. -/
def deleteBannedWord : Option ℕ → Prog Response
  | none => .ret ⟨400, "Invalid banned word identifier format"⟩
  | some id => .call (.find id) (afterFind id)

def boolToAdminSettingValue (enabled : Bool) : String := if enabled then "true" else "false"

def afterSet (enabled previousEnabled : Bool) : Except Unit Unit → Prog Response
  | .ok _ => published ⟨200, boolToAdminSettingValue enabled⟩
  | .error _ => .call (.rollbackSetting previousEnabled) fun _ =>
      .ret ⟨502, "Setting saved, but Redis propagation failed"⟩

def afterUpsert (enabled previousEnabled : Bool) : Except Unit Unit → Prog Response
  | .ok _ => .call (.set enabled) (afterSet enabled previousEnabled)
  | .error _ => .ret ⟨500, "Failed to update banned words settings"⟩

def afterRead (enabled : Bool) : Except Unit Bool → Prog Response
  | .ok previousEnabled => .call (.upsert enabled) (afterUpsert enabled previousEnabled)
  | .error _ => .ret ⟨500, "Failed to load banned words settings"⟩

/-- `UpdateBannedWordsSettingsHandlerGin`. -/
def updateSettings : Option String → Option Bool → Prog Response
  | _, none => .ret ⟨400, "Invalid request properties"⟩
  | none, some _ => .ret ⟨401, "Unauthorized"⟩
  | some _, some enabled => .call .readSetting (afterRead enabled)

def program (t : BannedWords.Tables) : Request → Prog Response
  | .create username word => createBannedWord t username word
  | .delete id => deleteBannedWord id
  | .settings username enabled => updateSettings username enabled

/-- **Requests side by side over the database and Redis.** -/
def system (t : BannedWords.Tables) :
    System Request Unit Empty Cmd.Reply Unit Store Response where
  program := program t
  exec _ := exec
  spawns _ _ := []
  env := nofun

abbrev Requests := Config Request Cmd.Reply Unit Store Response

/-! ### The laws -/

/-- **Redis has the words and the flag of the database.** -/
def Agree (s : Store) : Prop :=
  (∀ word, word ∈ s.words ↔ s.db.Stored word) ∧ ∀ flag ∈ s.flag, flag = s.db.enabled

/-- No request is in progress. -/
def AtRest (cfg : Requests) : Prop := ∀ p ∈ cfg.procs, p.rest.next? = none

/-- **Only commands of Redis fail.** -/
def RedisFails (cfg : Requests) : Event Request Unit Empty Unit → Prop
  | .fail i _ => ∀ p ∈ cfg.procs[i]?, ∀ c ∈ p.rest.next?, c.isRedis = true
  | _ => True

/-- What settles that a stored word is missing in Redis: it is added, or its row is taken back. -/
def SettlesMissing (db : Database) (word : String) : Cmd → Prop
  | .sAdd normalizedWord _ => normalizedWord = word
  | .rollbackRow id => ∃ row ∈ db.rows, row.id = id ∧ row.normalizedWord = word
  | _ => False

/-- What settles that a word without a row is in Redis. -/
def SettlesStale (word : String) : Cmd → Prop
  | .sRem normalizedWord => normalizedWord = word
  | _ => False

/-- What settles that the flag is not the setting. -/
def SettlesFlag : Cmd → Prop
  | .set _ | .rollbackSetting _ => True
  | _ => False

/-- Another process than `i` is about to issue such a command. -/
def Pending (cfg : Requests) (i : ℕ) (P : Cmd → Prop) : Prop :=
  ∃ p ∈ cfg.procs.eraseIdx i, ∃ c ∈ p.rest.next?, P c

/-- **The command of the process `i` leaves no difference behind when it takes effect**, except one
that another process is about to settle. -/
def Lands (cfg : Requests) (i : ℕ) : Cmd → Prop
  | .sAdd word _ => cfg.store.db.Stored word ∨ Pending cfg i (SettlesStale word)
  | .sRem word => ¬ cfg.store.db.Stored word ∨ Pending cfg i (SettlesMissing cfg.store.db word)
  | .rollbackRow id => ∀ row ∈ cfg.store.db.rows, row.id = id →
      row.normalizedWord ∉ cfg.store.words ∨ Pending cfg i (SettlesStale row.normalizedWord)
  | .set enabled => enabled = cfg.store.db.enabled ∨ Pending cfg i SettlesFlag
  | .rollbackSetting enabled => (∀ flag ∈ cfg.store.flag, flag = enabled) ∨ Pending cfg i SettlesFlag
  | _ => True

/-- **… and when it fails**: a word that was to be added is there or has its row taken back, and one
that was to be removed is not there, or has a row again. -/
def Forgoes (cfg : Requests) (i : ℕ) : Cmd → Prop
  | .sAdd word own => cfg.store.db.Stored word → word ∈ cfg.store.words ∨
      (∃ row ∈ cfg.store.db.rows, own = some row.id ∧ row.normalizedWord = word) ∨
      Pending cfg i (SettlesMissing cfg.store.db word)
  | .sRem word => word ∈ cfg.store.words →
      cfg.store.db.Stored word ∨ Pending cfg i (SettlesStale word)
  | _ => True

/-- **No step leaves a difference behind that no request is about to settle.** -/
def Settling (cfg : Requests) : Event Request Unit Empty Unit → Prop
  | .advance i _ => ∀ p ∈ cfg.procs[i]?, ∀ c ∈ p.rest.next?, Lands cfg i c
  | .fail i _ => ∀ p ∈ cfg.procs[i]?, ∀ c ∈ p.rest.next?, Forgoes cfg i c
  | _ => True

/-! ### What comes after a command -/

/-- What a handler goes on with after the writes of the database, and after a failure of Redis. -/
def Continues : (c : Cmd) → (Except Unit c.Reply → Prog Response) → Prop
  | .insert _ normalizedWord _, next =>
      ∀ id, (next (.ok (some id))).next? = some (.sAdd normalizedWord (some id))
  | .sAdd _ (some id), next => (next (.error ())).next? = some (.rollbackRow id)
  | .deleteRow _ normalizedWord, next => (next (.ok ())).next? = some (.sRem normalizedWord)
  | .upsert enabled, next => (next (.ok ())).next? = some (.set enabled)
  | .set _, next => ∃ enabled, (next (.error ())).next? = some (.rollbackSetting enabled)
  | _, _ => True

def Follows : Prog Response → Prop
  | .ret _ => True
  | .call c next => Continues c next

section Everywhere

/-- Every reply is possible. -/
def anyReply : (c : Cmd) → Except Unit c.Reply → Prop := fun _ _ => True

abbrev Sound (p : Prog Response) : Prop := p.Everywhere anyReply Follows

theorem sound_published (response : Response) : Sound (published response) :=
  ⟨trivial, fun _ _ => trivial⟩

theorem sound_afterInsert (normalizedWord : String) (reply : Except Unit (Option ℕ)) :
    Sound (afterInsert normalizedWord reply) := by
  match reply with
  | .error _ => trivial
  | .ok (some id) =>
      refine ⟨rfl, fun added _ => ?_⟩
      match added with
      | .ok _ => exact sound_published _
      | .error _ => exact ⟨trivial, fun _ _ => trivial⟩
  | .ok none =>
      refine ⟨trivial, fun found _ => ?_⟩
      match found with
      | .error _ => trivial
      | .ok false => trivial
      | .ok true => exact ⟨trivial, fun _ _ => sound_published _⟩

theorem sound_createBannedWord (t : BannedWords.Tables) (username : Option String) (raw : String) :
    Sound (createBannedWord t username raw) := by
  unfold createBannedWord
  split
  · trivial
  · trivial
  · exact ⟨fun _ => rfl, fun reply _ => sound_afterInsert _ reply⟩

theorem sound_deleteBannedWord (id : Option ℕ) : Sound (deleteBannedWord id) := by
  match id with
  | none => trivial
  | some id =>
      refine ⟨trivial, fun found _ => ?_⟩
      match found with
      | .error _ => trivial
      | .ok none => trivial
      | .ok (some normalizedWord) =>
          refine ⟨rfl, fun deleted _ => ?_⟩
          match deleted with
          | .error _ => trivial
          | .ok _ =>
              refine ⟨trivial, fun removed _ => ?_⟩
              match removed with
              | .error _ => trivial
              | .ok _ => exact sound_published _

theorem sound_updateSettings (username : Option String) (enabled : Option Bool) :
    Sound (updateSettings username enabled) := by
  match username, enabled with
  | _, none => cases username <;> trivial
  | none, some _ => trivial
  | some _, some enabled =>
      refine ⟨trivial, fun read _ => ?_⟩
      match read with
      | .error _ => trivial
      | .ok previousEnabled =>
          refine ⟨rfl, fun upserted _ => ?_⟩
          match upserted with
          | .error _ => trivial
          | .ok _ =>
              refine ⟨⟨previousEnabled, rfl⟩, fun written _ => ?_⟩
              match written with
              | .ok _ => exact sound_published _
              | .error _ => exact ⟨trivial, fun _ _ => trivial⟩

theorem sound_program (t : BannedWords.Tables) (req : Request) : Sound (program t req) := by
  cases req with
  | create username word => exact sound_createBannedWord t username word
  | delete id => exact sound_deleteBannedWord id
  | settings username enabled => exact sound_updateSettings username enabled

end Everywhere

/-! ### Rows that were read -/

/-- **What may become of the table**: rows are added under new ids, and deleted. -/
def rely (s t : Store) : Prop :=
  s.db.nextID ≤ t.db.nextID ∧ ∀ row ∈ t.db.rows, row.id < s.db.nextID → row ∈ s.db.rows

/-- A row is deleted under the word that it has. -/
def guard : Cmd → Store → Prop
  | .deleteRow id normalizedWord, s =>
      id < s.db.nextID ∧ ∀ row ∈ s.db.rows, row.id = id → row.normalizedWord = normalizedWord
  | _, _ => True

section Rely

theorem rely_refl (s : Store) : rely s s := ⟨le_rfl, fun _ h _ => h⟩

theorem rely_trans (s t u : Store) (hst : rely s t) (htu : rely t u) : rely s u := by
  refine ⟨hst.1.trans htu.1, fun row hrow hid => ?_⟩
  exact hst.2 row (htu.2 row hrow (lt_of_lt_of_le hid hst.1)) hid

theorem rely_exec (c : Cmd) (s : Store) : rely s (exec c s).2 := by
  cases c with
  | insert word normalizedWord username =>
      simp only [exec, Database.insert]
      split_ifs
      · exact rely_refl s
      · refine ⟨Nat.le_succ _, fun row hrow hid => ?_⟩
        rcases List.mem_append.1 hrow with hold | hnew
        · exact hold
        · rw [List.mem_singleton.1 hnew] at hid
          exact absurd hid (Nat.lt_irrefl _)
  | deleteRow id normalizedWord => exact ⟨le_rfl, fun _ hrow _ => List.mem_of_mem_filter hrow⟩
  | rollbackRow id => exact ⟨le_rfl, fun _ hrow _ => List.mem_of_mem_filter hrow⟩
  | first normalizedWord => exact rely_refl s
  | find id => exact rely_refl s
  | readSetting => exact rely_refl s
  | upsert enabled => exact rely_refl s
  | rollbackSetting enabled => exact rely_refl s
  | sAdd normalizedWord own => exact rely_refl s
  | sRem normalizedWord => exact rely_refl s
  | set enabled => exact rely_refl s
  | publish => exact rely_refl s

/-- Any command may take effect, or fail. -/
def anyHazard : Hazards Cmd Unit Store := ⟨fun _ _ => True, fun _ _ _ => True⟩

abbrev Acts (p : Prog Response) (s : Store) : Prop :=
  p.Amid (fun _ : Unit => exec) rely guard anyHazard (fun _ _ => True) s

/-- A program without deletions keeps to its guard. -/
theorem acts_of_all {p : Prog Response} (h : p.All fun c => ∀ s, guard c s) (s : Store) :
    Acts p s := by
  induction p generalizing s with
  | ret a => trivial
  | call c next ih =>
      exact fun t _ => ⟨h.1 t, fun _ _ => ih _ (h.2 _) _, fun e _ => ih _ (h.2 _) _⟩

theorem all_createBannedWord (t : BannedWords.Tables) (username : Option String) (raw : String) :
    (createBannedWord t username raw).All fun c => ∀ s, guard c s := by
  unfold createBannedWord
  split
  · trivial
  · trivial
  · refine ⟨fun _ => trivial, fun reply => ?_⟩
    match reply with
    | .error _ => trivial
    | .ok (some id) =>
        refine ⟨fun _ => trivial, fun added => ?_⟩
        cases added <;> exact ⟨fun _ => trivial, fun _ => trivial⟩
    | .ok none =>
        refine ⟨fun _ => trivial, fun found => ?_⟩
        match found with
        | .error _ => trivial
        | .ok false => trivial
        | .ok true => exact ⟨fun _ => trivial, fun _ => ⟨fun _ => trivial, fun _ => trivial⟩⟩

theorem all_updateSettings (username : Option String) (enabled : Option Bool) :
    (updateSettings username enabled).All fun c => ∀ s, guard c s := by
  match username, enabled with
  | _, none => cases username <;> trivial
  | none, some _ => trivial
  | some _, some enabled =>
      refine ⟨fun _ => trivial, fun read => ?_⟩
      match read with
      | .error _ => trivial
      | .ok previousEnabled =>
          refine ⟨fun _ => trivial, fun upserted => ?_⟩
          match upserted with
          | .error _ => trivial
          | .ok _ =>
              refine ⟨fun _ => trivial, fun written => ?_⟩
              cases written <;> exact ⟨fun _ => trivial, fun _ => trivial⟩

theorem all_afterDelete (normalizedWord : String) (reply : Except Unit Unit) :
    (afterDelete normalizedWord reply).All fun c => ∀ s, guard c s := by
  match reply with
  | .error _ => trivial
  | .ok _ =>
      refine ⟨fun _ => trivial, fun removed => ?_⟩
      match removed with
      | .error _ => trivial
      | .ok _ => exact ⟨fun _ => trivial, fun _ => trivial⟩

/-- The row that a deletion found keeps its word while it is there. -/
theorem acts_deleteBannedWord (id : Option ℕ) (s : Store) : Acts (deleteBannedWord id) s := by
  match id with
  | none => trivial
  | some id =>
      refine fun t _ => ⟨trivial, fun _ _ => ?_, fun _ _ => trivial⟩
      cases hfind : t.db.rows.find? fun row => row.id = id with
      | none =>
          simp only [exec, hfind]
          trivial
      | some row =>
          have hmem := List.mem_of_find?_eq_some hfind
          have hid : row.id = id := by simpa using List.find?_some hfind
          simp only [exec, hfind, Option.map_some, afterFind]
          refine fun u hu => ⟨⟨?_, fun other hother hother_id => ?_⟩, fun _ _ =>
            acts_of_all (all_afterDelete _ _) _, fun _ _ => trivial⟩
          · rw [← hid]
            exact lt_of_lt_of_le (t.db.ids_lt row hmem) hu.1
          · -- no other row was given the id
            have hold := hu.2 other hother (by rw [hother_id, ← hid]; exact t.db.ids_lt row hmem)
            exact congrArg Row.normalizedWord
              (List.inj_on_of_nodup_map t.db.ids_nodup hold hmem (hother_id.trans hid.symm))

theorem acts_program (t : BannedWords.Tables) (req : Request) (s : Store) :
    Acts (program t req) s := by
  cases req with
  | create username word => exact acts_of_all (all_createBannedWord t username word) s
  | delete id => exact acts_deleteBannedWord id s
  | settings username enabled => exact acts_of_all (all_updateSettings username enabled) s

end Rely

/-! ### Differences that are about to be settled -/

abbrev Procs := List (Process Request Cmd.Reply Unit Response)

/-- A process is about to issue such a command. -/
def Awaits (procs : Procs) (P : Cmd → Prop) : Prop := ∃ p ∈ procs, ∃ c ∈ p.rest.next?, P c

/-- **Every difference between the database and Redis is about to be settled.** -/
structure Covered (s : Store) (procs : Procs) : Prop where
  missing : ∀ word, s.db.Stored word → word ∉ s.words → Awaits procs (SettlesMissing s.db word)
  stale : ∀ word ∈ s.words, ¬ s.db.Stored word → Awaits procs (SettlesStale word)
  flag : ∀ flag ∈ s.flag, flag ≠ s.db.enabled → Awaits procs SettlesFlag

section Awaits

variable {procs : Procs} {P Q : Cmd → Prop} {i : ℕ} {op : Request} {c : Cmd}
  {next : Except Unit c.Reply → Prog Response} {q : Process Request Cmd.Reply Unit Response}

theorem Awaits.mono (h : Awaits procs P) (hPQ : ∀ c, P c → Q c) : Awaits procs Q := by
  obtain ⟨p, hp, d, hd, hP⟩ := h
  exact ⟨p, hp, d, hd, hPQ d hP⟩

/-- Whoever comes next after a step of the process `i` is that process, or was there before. -/
theorem awaits_set (hget : procs[i]? = some ⟨op, .call c next⟩) (h : Awaits procs P) (hc : ¬ P c) :
    Awaits (procs.set i q) P := by
  obtain ⟨p, hp, d, hd, hP⟩ := h
  obtain ⟨j, hj⟩ := List.mem_iff_getElem?.1 hp
  have hne : i ≠ j := by
    rintro rfl
    obtain rfl := Option.some_inj.1 (hget.symm.trans hj)
    obtain rfl := Option.some_inj.1 hd
    exact hc hP
  refine ⟨p, List.mem_of_getElem? (i := j) ?_, d, hd, hP⟩
  rw [List.getElem?_set_ne hne, hj]

theorem awaits_of_pending {s : Store} (h : Pending ⟨s, procs⟩ i P) : Awaits (procs.set i q) P := by
  obtain ⟨p, hp, d, hd, hP⟩ := h
  obtain ⟨j, hne, hj⟩ := List.mem_eraseIdx_iff_getElem?.1 hp
  refine ⟨p, List.mem_of_getElem? (i := j) ?_, d, hd, hP⟩
  rw [List.getElem?_set_ne hne.symm, hj]

/-- The process itself comes next. -/
theorem awaits_self (hget : procs[i]? = some ⟨op, .call c next⟩) {d : Cmd}
    (hd : q.rest.next? = some d) (hP : P d) : Awaits (procs.set i q) P :=
  ⟨q, List.mem_set (List.getElem?_eq_some_iff.1 hget).1 q, d, hd, hP⟩

end Awaits

/-! ### What the commands do to the rows -/

section Rows

variable {db : Database} {id : ℕ} {word other : String}

theorem stored_iff : db.Stored word ↔ ∃ row ∈ db.rows, row.normalizedWord = word := List.mem_map

theorem stored_insert (normalizedWord username : String) :
    (db.insert word normalizedWord username).2.Stored other ↔
      db.Stored other ∨ other = normalizedWord := by
  unfold Database.insert
  split_ifs with htaken
  · exact ⟨.inl, fun h => h.elim id fun heq => heq ▸ htaken⟩
  · simp [Database.Stored]

theorem stored_delete :
    (db.delete id).Stored word ↔ ∃ row ∈ db.rows, row.normalizedWord = word ∧ row.id ≠ id := by
  simp only [stored_iff, Database.delete, List.mem_filter, decide_eq_true_eq]
  exact ⟨fun ⟨row, ⟨hrow, hid⟩, hword⟩ => ⟨row, hrow, hword, hid⟩,
    fun ⟨row, hrow, hword, hid⟩ => ⟨row, ⟨hrow, hid⟩, hword⟩⟩

theorem stored_of_delete (h : (db.delete id).Stored word) : db.Stored word := by
  obtain ⟨row, hrow, hword, -⟩ := stored_delete.1 h
  exact stored_iff.2 ⟨row, hrow, hword⟩

/-- What settles that a word is missing settles it after the deletion of another row. -/
theorem settlesMissing_delete {c : Cmd} (h : SettlesMissing db word c)
    (hword : (db.delete id).Stored word) : SettlesMissing (db.delete id) word c := by
  cases c with
  | rollbackRow n =>
      obtain ⟨row, hrow, hid, hrow_word⟩ := h
      obtain ⟨row', hrow', hword', hid'⟩ := stored_delete.1 hword
      -- a word has one row
      obtain rfl := List.inj_on_of_nodup_map db.words_nodup hrow hrow' (hrow_word.trans hword'.symm)
      exact ⟨row, List.mem_filter.2 ⟨hrow, decide_eq_true hid'⟩, hid, hrow_word⟩
  | _ => exact h

theorem settlesMissing_insert {c : Cmd} {normalizedWord username : String}
    (h : SettlesMissing db word c) :
    SettlesMissing (db.insert other normalizedWord username).2 word c := by
  cases c with
  | rollbackRow n =>
      obtain ⟨row, hrow, hid, hword⟩ := h
      refine ⟨row, ?_, hid, hword⟩
      unfold Database.insert
      split_ifs
      · exact hrow
      · exact List.mem_append_left _ hrow
  | _ => exact h

theorem settlesMissing_upsert {c : Cmd} {enabled : Bool} :
    SettlesMissing (db.upsert enabled) word c ↔ SettlesMissing db word c := by
  cases c <;> exact Iff.rfl

end Rows

/-! ### Steps -/

section Steps

variable {s : Store} {procs : Procs} {i : ℕ} {op : Request} {c : Cmd}
  {next : Except Unit c.Reply → Prog Response} {q : Process Request Cmd.Reply Unit Response}

/-- A command that settles nothing, and leaves the store as it is. -/
theorem Covered.of_idle (h : Covered s procs) (hget : procs[i]? = some ⟨op, .call c next⟩)
    (hmissing : ∀ word, ¬ SettlesMissing s.db word c) (hstale : ∀ word, ¬ SettlesStale word c)
    (hflag : ¬ SettlesFlag c) : Covered s (procs.set i q) where
  missing word hstored hword := awaits_set hget (h.missing word hstored hword) (hmissing word)
  stale word hword hstored := awaits_set hget (h.stale word hword hstored) (hstale word)
  flag flag hmem hne := awaits_set hget (h.flag flag hmem hne) hflag

theorem Covered.insert {word normalizedWord username : String}
    {next : Except Unit (Option ℕ) → Prog Response} (h : Covered s procs)
    (hget : procs[i]? = some ⟨op, .call (.insert word normalizedWord username) next⟩)
    (hcont : Continues (.insert word normalizedWord username) next) :
    Covered { s with db := (s.db.insert word normalizedWord username).2 }
      (procs.set i ⟨op, next (.ok (s.db.insert word normalizedWord username).1)⟩) where
  missing other hstored hother := by
    by_cases hold : s.db.Stored other
    · exact (awaits_set hget (h.missing other hold hother) id).mono fun _ => settlesMissing_insert
    · -- the new row is this one: its word is added next
      obtain rfl := ((stored_insert _ _).1 hstored).resolve_left hold
      have hid : (s.db.insert word other username).1 = some s.db.nextID := by
        unfold Database.insert
        exact congrArg Prod.fst (dif_neg hold)
      refine awaits_self (d := .sAdd other (some s.db.nextID)) hget ?_ rfl
      rw [hid]
      exact hcont s.db.nextID
  stale other hother hstored :=
    awaits_set hget (h.stale other hother fun hold => hstored ((stored_insert _ _).2 (.inl hold))) id
  flag flag hmem hne := by
    refine awaits_set hget (h.flag flag hmem fun heq => hne ?_) id
    rw [heq]
    unfold Database.insert
    split_ifs <;> rfl

theorem Covered.deleteRow {id : ℕ} {normalizedWord : String}
    {next : Except Unit Unit → Prog Response} (h : Covered s procs)
    (hget : procs[i]? = some ⟨op, .call (.deleteRow id normalizedWord) next⟩)
    (hguard : guard (.deleteRow id normalizedWord) s)
    (hcont : Continues (.deleteRow id normalizedWord) next) :
    Covered { s with db := s.db.delete id } (procs.set i ⟨op, next (.ok ())⟩) where
  missing word hstored hword :=
    (awaits_set hget (h.missing word (stored_of_delete hstored) hword) fun hc => hc).mono
      fun _ hc => settlesMissing_delete hc hstored
  stale word hword hstored := by
    by_cases hold : s.db.Stored word
    · -- its row is the deleted one: the word is removed next
      obtain ⟨row, hrow, rfl⟩ := stored_iff.1 hold
      have hid : row.id = id := by
        by_contra hne
        exact hstored (stored_delete.2 ⟨row, hrow, rfl, hne⟩)
      exact awaits_self hget hcont (hguard.2 row hrow hid).symm
    · exact awaits_set hget (h.stale word hword hold) fun hc => hc
  flag flag hmem hne := awaits_set hget (h.flag flag hmem hne) fun hc => hc

theorem Covered.rollbackRow {id : ℕ} {next : Except Unit Unit → Prog Response}
    (h : Covered s procs) (hget : procs[i]? = some ⟨op, .call (.rollbackRow id) next⟩)
    (hlands : Lands ⟨s, procs⟩ i (.rollbackRow id)) :
    Covered { s with db := s.db.delete id } (procs.set i q) where
  missing word hstored hword := by
    refine (awaits_set hget (h.missing word (stored_of_delete hstored) hword) ?_).mono
      fun _ hc => settlesMissing_delete hc hstored
    -- the word still has its row, which is not the one that was taken back
    rintro ⟨row, hrow, hid, hrow_word⟩
    obtain ⟨row', hrow', hword', hid'⟩ := stored_delete.1 hstored
    obtain rfl := List.inj_on_of_nodup_map s.db.words_nodup hrow hrow' (hrow_word.trans hword'.symm)
    exact hid' hid
  stale word hword hstored := by
    by_cases hold : s.db.Stored word
    · obtain ⟨row, hrow, rfl⟩ := stored_iff.1 hold
      have hid : row.id = id := by
        by_contra hne
        exact hstored (stored_delete.2 ⟨row, hrow, rfl, hne⟩)
      exact awaits_of_pending ((hlands row hrow hid).resolve_left fun hnot => hnot hword)
    · exact awaits_set hget (h.stale word hword hold) fun hc => hc
  flag flag hmem hne := awaits_set hget (h.flag flag hmem hne) fun hc => hc

theorem Covered.sAdd {word : String} {own : Option ℕ} {next : Except Unit Unit → Prog Response}
    (h : Covered s procs) (hget : procs[i]? = some ⟨op, .call (.sAdd word own) next⟩)
    (hlands : Lands ⟨s, procs⟩ i (.sAdd word own)) :
    Covered { s with words := Insert.insert word s.words } (procs.set i q) where
  missing other hstored hother := by
    rw [Finset.mem_insert, not_or] at hother
    exact awaits_set hget (h.missing other hstored hother.2) fun hc => hother.1 hc.symm
  stale other hother hstored := by
    rcases Finset.mem_insert.1 hother with rfl | hother
    · exact awaits_of_pending (hlands.resolve_left hstored)
    · exact awaits_set hget (h.stale other hother hstored) fun hc => hc
  flag flag hmem hne := awaits_set hget (h.flag flag hmem hne) fun hc => hc

theorem Covered.sRem {word : String} {next : Except Unit Unit → Prog Response}
    (h : Covered s procs) (hget : procs[i]? = some ⟨op, .call (.sRem word) next⟩)
    (hlands : Lands ⟨s, procs⟩ i (.sRem word)) :
    Covered { s with words := s.words.erase word } (procs.set i q) where
  missing other hstored hother := by
    by_cases heq : other = word
    · subst heq
      exact awaits_of_pending (hlands.resolve_left fun hnot => hnot hstored)
    · refine awaits_set hget (h.missing other hstored fun hold => ?_) fun hc => hc
      exact hother (Finset.mem_erase.2 ⟨heq, hold⟩)
  stale other hother hstored := by
    obtain ⟨hne, hold⟩ := Finset.mem_erase.1 hother
    exact awaits_set hget (h.stale other hold hstored) fun hc => hne hc.symm
  flag flag hmem hne := awaits_set hget (h.flag flag hmem hne) fun hc => hc

/-- **A command that takes effect leaves every difference about to be settled.** -/
theorem Covered.advance (h : Covered s procs) (hget : procs[i]? = some ⟨op, .call c next⟩)
    (hlands : Lands ⟨s, procs⟩ i c) (hguard : guard c s) (hcont : Continues c next) :
    Covered (exec c s).2 (procs.set i ⟨op, next (.ok (exec c s).1)⟩) := by
  cases c with
  | insert word normalizedWord username => exact h.insert hget hcont
  | first normalizedWord => exact h.of_idle hget (fun _ => id) (fun _ => id) id
  | find id => exact h.of_idle hget (fun _ hc => hc) (fun _ hc => hc) fun hc => hc
  | deleteRow id normalizedWord => exact h.deleteRow hget hguard hcont
  | rollbackRow id => exact h.rollbackRow hget hlands
  | readSetting => exact h.of_idle hget (fun _ => id) (fun _ => id) id
  | upsert enabled =>
      refine ⟨fun word hstored hword => ?_, fun word hword hstored => ?_, fun flag hmem hne => ?_⟩
      · exact (awaits_set hget (h.missing word hstored hword) id).mono
          fun _ => settlesMissing_upsert.2
      · exact awaits_set hget (h.stale word hword hstored) id
      · exact awaits_self hget hcont trivial
  | rollbackSetting enabled =>
      refine ⟨fun word hstored hword => ?_, fun word hword hstored => ?_, fun flag hmem hne => ?_⟩
      · exact (awaits_set hget (h.missing word hstored hword) id).mono
          fun _ => settlesMissing_upsert.2
      · exact awaits_set hget (h.stale word hword hstored) id
      · exact awaits_of_pending (hlands.resolve_left fun hall => hne (hall flag hmem))
  | sAdd word own => exact h.sAdd hget hlands
  | sRem word => exact h.sRem hget hlands
  | set enabled =>
      refine ⟨fun word hstored hword => ?_, fun word hword hstored => ?_, fun flag hmem hne => ?_⟩
      · exact awaits_set hget (h.missing word hstored hword) id
      · exact awaits_set hget (h.stale word hword hstored) id
      · obtain rfl := Option.some_inj.1 hmem
        exact awaits_of_pending (hlands.resolve_left hne)
  | publish => exact h.of_idle hget (fun _ => id) (fun _ => id) id

/-- **… and so does one of Redis that fails.** -/
theorem Covered.failed (h : Covered s procs) (hget : procs[i]? = some ⟨op, .call c next⟩)
    (hredis : c.isRedis = true) (hforgoes : Forgoes ⟨s, procs⟩ i c) (hcont : Continues c next)
    (e : Unit) : Covered s (procs.set i ⟨op, next (.error e)⟩) := by
  cases c with
  | sAdd word own =>
      refine ⟨fun other hstored hother => ?_, fun other hother hstored => ?_,
        fun flag hmem hne => ?_⟩
      · by_cases heq : word = other
        · subst heq
          rcases hforgoes hstored with hmem | ⟨row, hrow, rfl, hword⟩ | hpending
          · exact absurd hmem hother
          · exact awaits_self hget hcont ⟨row, hrow, rfl, hword⟩
          · exact awaits_of_pending hpending
        · exact awaits_set hget (h.missing other hstored hother) heq
      · exact awaits_set hget (h.stale other hother hstored) id
      · exact awaits_set hget (h.flag flag hmem hne) id
  | sRem word =>
      refine ⟨fun other hstored hother => ?_, fun other hother hstored => ?_,
        fun flag hmem hne => ?_⟩
      · exact awaits_set hget (h.missing other hstored hother) id
      · by_cases heq : word = other
        · subst heq
          exact awaits_of_pending ((hforgoes hother).resolve_left hstored)
        · exact awaits_set hget (h.stale other hother hstored) heq
      · exact awaits_set hget (h.flag flag hmem hne) id
  | set enabled =>
      obtain ⟨previousEnabled, hprevious⟩ := hcont
      refine ⟨fun word hstored hword => ?_, fun word hword hstored => ?_, fun flag hmem hne => ?_⟩
      · exact awaits_set hget (h.missing word hstored hword) id
      · exact awaits_set hget (h.stale word hword hstored) id
      · exact awaits_self hget hprevious trivial
  | publish => exact h.of_idle hget (fun _ => id) (fun _ => id) id
  | _ => cases hredis

/-- A request that begins settles nothing yet. -/
theorem Covered.started (h : Covered s procs) : Covered s (procs ++ [q]) := by
  have happend : ∀ P, Awaits procs P → Awaits (procs ++ [q]) P := by
    rintro P ⟨p, hp, hc⟩
    exact ⟨p, List.mem_append_left _ hp, hc⟩
  exact ⟨fun word hstored hword => happend _ (h.missing word hstored hword),
    fun word hword hstored => happend _ (h.stale word hword hstored),
    fun flag hmem hne => happend _ (h.flag flag hmem hne)⟩

end Steps

/-! ### Runs -/

section Runs

variable {t : BannedWords.Tables} {s : Store} {cfg : Requests}
  {l : List (Event Request Unit Empty Unit)}

theorem guard_of_run {ok : Requests → Event Request Unit Empty Unit → Prop}
    (hrun : Run (step (system t)) ok (idle s) l cfg) {i : ℕ} {op : Request} {c : Cmd}
    {next : Except Unit c.Reply → Prog Response} (hget : cfg.procs[i]? = some ⟨op, .call c next⟩) :
    guard c cfg.store := by
  have hamid : True ∧ ∀ p ∈ cfg.procs, Acts p.rest cfg.store :=
    amid_of_run (I := fun _ => True) rely_trans (fun s _ => rely_refl s)
      (fun op s _ => acts_program t op s) (fun _ _ => rfl) (fun _ c s _ _ _ => ⟨trivial, rely_exec c s⟩)
      nofun (fun _ _ _ _ _ _ _ _ => trivial) (fun _ _ _ _ _ _ _ _ => trivial) trivial hrun
  exact (hamid.2 _ (mem_of_getElem? hget) _ (rely_refl _)).1

theorem continues_of_run {ok : Requests → Event Request Unit Empty Unit → Prop}
    (hrun : Run (step (system t)) ok (idle s) l cfg) {i : ℕ} {op : Request} {c : Cmd}
    {next : Except Unit c.Reply → Prog Response} (hget : cfg.procs[i]? = some ⟨op, .call c next⟩) :
    Continues c next :=
  (everywhere_of_run (Q := fun _ => Follows) (fun _ _ _ => trivial) (fun _ _ => trivial)
    (sound_program t) hrun _ (mem_of_getElem? hget)).here

theorem covered_of_agree (h : Agree s) : Covered s [] where
  missing word hstored hword := absurd ((h.1 word).2 hstored) hword
  stale word hword hstored := absurd ((h.1 word).1 hword) hstored
  flag flag hmem hne := absurd (h.2 flag hmem) hne

/-- **What settling steps keep**: every difference is about to be settled. -/
theorem covered_of_run (h : Agree s)
    (hrun : Run (step (system t)) (fun cfg ev => RedisFails cfg ev ∧ Settling cfg ev) (idle s) l
      cfg) : Covered cfg.store cfg.procs := by
  refine hrun.invariant_of_reached (I := fun cfg => Covered cfg.store cfg.procs) ?_
    (covered_of_agree h)
  rintro cfg ev cfg' l hreached hcovered ⟨hredis, hsettling⟩ hs
  rcases step_cases hs with ⟨op, rfl, rfl⟩ | ⟨i, x, op, c, next, rfl, hget, rfl⟩ |
    ⟨i, e, op, c, next, rfl, hget, rfl⟩ | ⟨n, store, rfl, -, -⟩
  · exact hcovered.started
  · have hstep := hcovered.advance hget (hsettling _ hget c rfl) (guard_of_run hreached hget)
      (continues_of_run hreached hget)
    simpa only [System.advance, system, List.map_nil, List.append_nil] using hstep
  · exact hcovered.failed hget (hredis _ hget c rfl) (hsettling _ hget c rfl)
      (continues_of_run hreached hget) e
  · cases n

theorem not_awaits_of_atRest (h : AtRest cfg) (P : Cmd → Prop) : ¬ Awaits cfg.procs P := by
  rintro ⟨p, hp, c, hc, -⟩
  rw [h p hp] at hc
  cases hc

/-- **Whenever no request is in progress, Redis has the words and the flag of the database**, in the
runs whose steps all settle. -/
theorem agree_of_settling (h : Agree s)
    (hrun : Run (step (system t)) (fun cfg ev => RedisFails cfg ev ∧ Settling cfg ev) (idle s) l cfg)
    (hrest : AtRest cfg) : Agree cfg.store := by
  have hcovered := covered_of_run h hrun
  refine ⟨fun word => ⟨fun hword => ?_, fun hstored => ?_⟩, fun flag hmem => ?_⟩
  · by_contra hstored
    exact not_awaits_of_atRest hrest _ (hcovered.stale word hword hstored)
  · by_contra hword
    exact not_awaits_of_atRest hrest _ (hcovered.missing word hstored hword)
  · by_contra hne
    exact not_awaits_of_atRest hrest _ (hcovered.flag flag hmem hne)

end Runs

/-- **Whenever no request is in progress, Redis has the words and the flag of the database**, in the
runs whose steps meet a condition. -/
def StoreAgreement (t : BannedWords.Tables)
    (ok : Requests → Event Request Unit Empty Unit → Prop) : Prop :=
  ∀ (s : Store) (l : List (Event Request Unit Empty Unit)) (cfg : Requests), Agree s →
    Run (step (system t)) ok (idle s) l cfg → AtRest cfg → Agree cfg.store

/-! ### Two runs -/

section Example

instance (cfg : Requests) (ev : Event Request Unit Empty Unit) : Decidable (RedisFails cfg ev) := by
  cases ev <;> (unfold RedisFails; infer_instance)

instance (db : Database) (word : String) (c : Cmd) : Decidable (SettlesMissing db word c) := by
  cases c <;> (unfold SettlesMissing; infer_instance)

instance (word : String) (c : Cmd) : Decidable (SettlesStale word c) := by
  cases c <;> (unfold SettlesStale; infer_instance)

instance (c : Cmd) : Decidable (SettlesFlag c) := by
  cases c <;> (unfold SettlesFlag; infer_instance)

instance (cfg : Requests) (i : ℕ) (P : Cmd → Prop) [DecidablePred P] :
    Decidable (Pending cfg i P) := by unfold Pending; infer_instance

instance (cfg : Requests) (i : ℕ) (c : Cmd) : Decidable (Lands cfg i c) := by
  cases c <;> (unfold Lands; infer_instance)

instance (cfg : Requests) (i : ℕ) (c : Cmd) : Decidable (Forgoes cfg i c) := by
  cases c <;> (unfold Forgoes; infer_instance)

instance (cfg : Requests) (ev : Event Request Unit Empty Unit) : Decidable (Settling cfg ev) := by
  cases ev <;> (unfold Settling; infer_instance)

instance (cfg : Requests) : Decidable (AtRest cfg) := by unfold AtRest; infer_instance

/-- Neither words nor a flag. -/
def noWords : Store where
  db := ⟨[], 0, none, nofun, List.nodup_nil, List.nodup_nil⟩
  words := ∅
  flag := none

theorem agree_noWords : Agree noWords :=
  ⟨fun _ => ⟨fun h => absurd h (Finset.notMem_empty _), fun h => absurd h List.not_mem_nil⟩, nofun⟩

/-- A word that Redis takes at the second try. -/
def secondTry : List (Event Request Unit Empty Unit) :=
  [.start (.create (some "alice") "Spam!"), .advance 0 (), .fail 0 (), .advance 0 (),
    .start (.create (some "alice") "Spam!"), .advance 1 (), .advance 1 (), .fail 1 ()]

/-- **The word is in the database and in Redis.** -/
theorem secondTry_agrees : ∃ cfg,
    Run (step (system BannedWords.asciiTables))
      (fun cfg ev => RedisFails cfg ev ∧ Settling cfg ev) (idle noWords) secondTry cfg ∧
      cfg.store.words = {"spam"} ∧ Agree cfg.store := by
  obtain ⟨cfg, hrun, hcfg⟩ : ∃ cfg, Run (step (system BannedWords.asciiTables))
      (fun cfg ev => RedisFails cfg ev ∧ Settling cfg ev) (idle noWords) secondTry cfg ∧
      decide (cfg.store.words = {"spam"} ∧ AtRest cfg) = true :=
    exists_run_of_execWhere (by decide +kernel)
  rw [decide_eq_true_eq] at hcfg
  exact ⟨cfg, hrun, hcfg.1, agree_of_settling agree_noWords hrun hcfg.2⟩

/-- One word, in the database and in Redis. -/
def oneWord : Store where
  db := ⟨[⟨0, "spam", "spam", "alice"⟩], 1, none, by decide, by decide, by decide⟩
  words := {"spam"}
  flag := none

theorem agree_oneWord : Agree oneWord := by
  refine ⟨fun word => ?_, nofun⟩
  simp [oneWord, Database.Stored]

/-- The row of the word is deleted, and Redis fails. -/
def failedDeletion : List (Event Request Unit Empty Unit) :=
  [.start (.delete (some 0)), .advance 0 (), .advance 0 (), .fail 0 ()]

/-- **A deletion that Redis does not take leaves the word there.** -/
theorem failedDeletion_disagrees : ¬ StoreAgreement BannedWords.asciiTables RedisFails := by
  intro h
  obtain ⟨cfg, hrun, hcfg⟩ : ∃ cfg, Run (step (system BannedWords.asciiTables)) RedisFails
      (idle oneWord) failedDeletion cfg ∧
      decide (AtRest cfg ∧ "spam" ∈ cfg.store.words ∧ ¬ cfg.store.db.Stored "spam") = true :=
    exists_run_of_execWhere (by decide +kernel)
  rw [decide_eq_true_eq] at hcfg
  obtain ⟨hrest, hword, hstored⟩ := hcfg
  exact hstored (((h oneWord failedDeletion cfg agree_oneWord hrun hrest).1 "spam").1 hword)

end Example

end WordStore
