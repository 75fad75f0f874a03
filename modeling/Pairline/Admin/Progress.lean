/-
**The consumers of the streams go on.**

A consumer that raises starts anew and reads the same entries again, as none of its batch has been
acknowledged.  A batch of the admin stream raises for an entry without fields, for an action that is
no text and for a ban with such a reason; a batch of the matchmaking stream raises for an entry
without fields.  All other batches are finished and acknowledged, whatever the store answers.

Main definitions:

* `Admin.processMatchEntries` — a batch of the matchmaking stream;
* `Admin.Progress` — a batch is finished without raising, and acknowledged;
* `Admin.Digestible` — nothing in an entry of the admin stream raises.

Main results:

* `Admin.calm_handleAdminAction` — which actions raise;
* `Admin.progress_iff` — **the consumers make progress with a batch iff all of its entries are
  digestible**.
-/

import Pairline.Admin.Actions
import Pairline.Pool

set_option relaxedAutoImplicit false
set_option autoImplicit false

namespace Admin

open Matchmaker (SessionId)

/-! ### The stream of the matchmaker -/

inductive MatchStreamOp
  | readGroup (streamId : String)
  | scheduleLocalMatchAttempts (queueKeys : List String)
  | xack (ids : List EntryId)

def MatchStreamOp.Reply : MatchStreamOp → Type
  | .readGroup _ => List StreamEntry
  | _ => Unit

abbrev MatchStreamProg := Program MatchStreamOp.Reply Unit

def matchStream (c : MatchStreamOp) : MatchStreamProg (Except Unit c.Reply) := Program.command c

/-- The texts among some values. -/
def texts (values : List Json) : List String :=
  values.filterMap fun
    | .string s => some s
    | _ => none

/-- `handle_stream_entry` of the matchmaker: the queue keys of an entry, or nothing for one without
fields, which has no clause. -/
def handleMatchEntry (reader : Reader) (entry : StreamEntry) : Option (List String) :=
  entry.fields.map fun fields =>
    match (field fields "queue_keys").bind reader.decode with
    | some (.array keys) => (texts keys).eraseDups
    | _ => []

/-- The queue keys of a batch; those of later entries come first. -/
def handleMatchEntries (reader : Reader) : List StreamEntry → List String → Option (List String)
  | [], keys => some keys
  | entry :: entries, keys => do
      handleMatchEntries reader entries ((← handleMatchEntry reader entry) ++ keys)

/-- The match attempts of a batch, if there are any. -/
def scheduleLocalMatchAttempts : List String → MatchStreamProg Unit
  | [] => .ret ()
  | key :: keys => do
      let _ ← matchStream (.scheduleLocalMatchAttempts (key :: keys))
      return ()

/-- `process_stream_entries`: the match attempts are scheduled, then the batch is acknowledged. -/
def processMatchEntries (reader : Reader) (entries : List StreamEntry) :
    MatchStreamProg (Outcome (Except StoreError (List String))) :=
  match entries with
  | [] => .ret (.ended (.ok []))
  | entries =>
      match handleMatchEntries reader entries [] with
      | none => .ret .raised
      | some processedQueueKeys => do
          scheduleLocalMatchAttempts processedQueueKeys.eraseDups
          match ← matchStream (.xack (entries.map StreamEntry.id)) with
          | .ok _ => return .ended (.ok processedQueueKeys)
          | .error _ => return .ended (.error .store)

/-! ### Progress -/

/-- **A batch is finished without raising, and all of it is acknowledged**, whatever the store
answers. -/
structure Progress {C α : Type} {V : C → Type} (acknowledges : EntryId → C → Prop)
    (entries : List StreamEntry) (p : Program V Unit (Outcome α)) : Prop where
  calm : p.Ends (· ≠ .raised)
  acks : ∀ entry ∈ entries, p.Must (acknowledges entry.id)

/-- The command acknowledges an entry. -/
def AdminOp.Acks (id : EntryId) : AdminOp → Prop
  | .xack ids => id ∈ ids
  | _ => False

def MatchStreamOp.Acks (id : EntryId) : MatchStreamOp → Prop
  | .xack ids => id ∈ ids
  | _ => False

/-- **Both consumers make progress with every batch.** -/
def ConsumersProgress : Prop :=
  ∀ (reader : Reader) (entries : List StreamEntry),
    Progress AdminOp.Acks entries (processEntries reader entries) ∧
      Progress MatchStreamOp.Acks entries (processMatchEntries reader entries)

/-! ### What raises -/

/-- Nothing in an action raises: its name is a text, and so is the reason of a ban that is carried
out. -/
def digestibleAction (reader : Reader) (action : Json) (data : List (String × Json)) : Bool :=
  match action with
  | .string "emergency_ban" => (sessionTarget data).isNone || (reasonOf data).printable
  | .string "emergency_ban_ip" => (ipTarget reader data).isNone || (reasonOf data).printable
  | action => action.printable

/-- **Nothing in an entry raises.** -/
def digestible (reader : Reader) (entry : StreamEntry) : Bool :=
  match entry.fields with
  | none => false
  | some fields =>
      match payload reader fields with
      | none => true
      | some (action, data) => digestibleAction reader action data

/-- The program never raises. -/
def Calm {C α : Type} {V : C → Type} (p : Program V Unit (Outcome α)) : Prop :=
  p.Ends (· ≠ .raised)

section Calm

variable {C α β : Type} {V : C → Type}

@[simp] theorem calm_ended (a : α) : Calm (.ret (.ended a) : Program V Unit (Outcome α)) :=
  nofun

@[simp] theorem not_calm_raised : ¬ Calm (.ret .raised : Program V Unit (Outcome α)) :=
  fun h => h rfl

theorem calm_call {c : C} {next : Except Unit (V c) → Program V Unit (Outcome α)} :
    Calm (.call c next) ↔ ∀ reply, Calm (next reply) := Iff.rfl

theorem calm_bind {γ : Type} {p : Program V Unit γ} {f : γ → Program V Unit (Outcome α)} :
    Calm (p.bind f) ↔ p.Ends fun a => Calm (f a) := Program.ends_bind

/-- What comes after a program that always ends well, whatever it ends with. -/
theorem calm_bind_of_forall {γ : Type} {p : Program V Unit γ} {f : γ → Program V Unit (Outcome α)}
    (h : ∀ a, Calm (f a)) : Calm (p.bind f) :=
  calm_bind.2 (Program.ends_of_forall h p)

theorem andThen_eq (p : Program V Unit (Outcome α)) (f : α → Program V Unit (Outcome β)) :
    andThen p f = p.bind fun
      | .ended a => f a
      | .raised => .ret .raised := rfl

/-- Two handlers, the second of which does not depend on the first. -/
theorem calm_andThen_const {p : Program V Unit (Outcome α)} {q : Program V Unit (Outcome β)} :
    Calm (andThen p fun _ => q) ↔ Calm p ∧ Calm q := by
  have hiff : (p.Ends fun a => a ≠ .raised ∧ Calm q) ↔ Calm p ∧ Calm q := by
    rw [Program.ends_and, Program.ends_const ()]
    rfl
  rw [← hiff, andThen_eq, calm_bind]
  constructor
  · intro h
    refine h.mono fun a ha => ?_
    cases a with
    | ended a => exact ⟨nofun, ha⟩
    | raised => exact absurd ha not_calm_raised
  · intro h
    refine h.mono fun a ha => ?_
    cases a with
    | ended a => exact ha.2
    | raised => exact absurd rfl ha.1

theorem calm_andThen {p : Program V Unit (Outcome α)} {f : α → Program V Unit (Outcome β)}
    (hp : Calm p) (hf : ∀ a, Calm (f a)) : Calm (andThen p f) := by
  rw [andThen_eq, calm_bind]
  refine hp.mono fun a ha => ?_
  cases a with
  | ended a => exact hf a
  | raised => exact absurd rfl ha

end Calm

variable {reader : Reader}

theorem calm_logged {value : Json} : Calm (logged value) ↔ value.printable := by
  unfold logged
  split <;> simp [*]

theorem calm_ending {α : Type} (p : AdminProg α) : Calm (ending p) :=
  calm_bind_of_forall fun _ => calm_ended _

/-- **A ban raises iff its reason is no text.** -/
theorem calm_emergencyBan {sid : SessionId} {reason : Json} :
    Calm (emergencyBan sid reason) ↔ reason.printable := by
  unfold emergencyBan Json.printable
  split
  next htext => simp [htext]
  next text htext =>
      simp only [htext, Option.isSome_some, iff_true]
      refine calm_bind_of_forall fun reply => ?_
      match reply with
      | .ok .notFound => exact calm_ended _
      | .ok .alreadyBanned => exact calm_ended _
      | .ok (.parted _) => exact calm_bind_of_forall fun _ => calm_ended _
      | .error _ => exact calm_ended _

theorem calm_emergencyBanAll {reason : Json} (h : reason.printable) (sids : List SessionId) :
    Calm (emergencyBanAll reason sids) := by
  induction sids with
  | nil => exact calm_ended _
  | cons sid sids ih =>
      exact calm_andThen (calm_emergencyBan.2 h) fun _ => calm_andThen ih fun _ => calm_ended _

/-- **… and so does the ban of an address**, when its sessions can be listed. -/
theorem calm_emergencyBanIp {ip : String} {reason : Json} :
    Calm (emergencyBanIp ip reason) ↔ reason.printable := by
  constructor
  · intro h
    -- the store finds no session of the address, and the key is to be written
    have hkey := h (.ok []) (.ok [])
    unfold Json.printable
    cases htext : reason.toText with
    | none =>
        rw [htext] at hkey
        exact absurd hkey not_calm_raised
    | some text => rfl
  · intro h
    refine calm_bind_of_forall fun answer => ?_
    match answer with
    | .error _ => exact calm_ended _
    | .ok sids =>
        refine calm_andThen (calm_emergencyBanAll h sids) fun banned => ?_
        obtain ⟨text, htext⟩ := Option.isSome_iff_exists.1 h
        rw [htext]
        refine calm_bind_of_forall fun reply => ?_
        match reply with
        | .ok _ => exact calm_ended _
        | .error _ => exact calm_ended _

theorem digestibleAction_of_ne {action : String} {data : List (String × Json)}
    (hban : action ≠ "emergency_ban") (hbanIp : action ≠ "emergency_ban_ip") :
    digestibleAction reader (.string action) data = true := by
  unfold digestibleAction
  split
  next heq => exact absurd (Json.string.inj heq) hban
  next heq => exact absurd (Json.string.inj heq) hbanIp
  next => rfl

/-- **Which actions raise.** -/
theorem calm_handleAdminAction {action : Json} {data : List (String × Json)} :
    Calm (handleAdminAction reader action data) ↔ digestibleAction reader action data := by
  unfold handleAdminAction
  split
  case h_1 =>
      simp only [digestibleAction]
      cases sessionTarget data with
      | none => simp
      | some sid => simp [calm_andThen_const, calm_emergencyBan, calm_logged]
  case h_2 =>
      simp only [digestibleAction]
      cases ipTarget reader data with
      | none => simp
      | some ip =>
          simp only [Option.isNone_some, Bool.false_or]
          constructor
          · intro h
            rw [andThen_eq, calm_bind] at h
            have hban : Calm (emergencyBanIp ip (reasonOf data)) := by
              refine h.mono fun a ha => ?_
              rintro rfl
              exact not_calm_raised ha
            exact calm_emergencyBanIp.1 hban
          · intro h
            refine calm_andThen (calm_emergencyBanIp.2 h) fun answer => ?_
            match answer with
            | .ok _ => exact calm_logged.2 h
            | .error _ => exact calm_ended _
  case h_9 =>
      rw [calm_logged]
      simp_all [digestibleAction]
  -- the other actions are texts, and none of them converts anything
  all_goals
    rw [digestibleAction_of_ne (by decide) (by decide)]
    simp only [iff_true]
    repeat' split
    all_goals first | exact calm_ended _ | exact calm_ending _

theorem calm_handleStreamEntry {entry : StreamEntry} :
    Calm (handleStreamEntry reader entry) ↔ digestible reader entry := by
  unfold handleStreamEntry digestible
  cases entry.fields with
  | none => simp
  | some fields =>
      simp only
      cases payload reader fields with
      | none => simp
      | some command => exact calm_handleAdminAction

theorem calm_handleStreamEntries {entries : List StreamEntry} :
    Calm (handleStreamEntries reader entries) ↔ ∀ entry ∈ entries, digestible reader entry := by
  induction entries with
  | nil => simp [handleStreamEntries]
  | cons entry entries ih =>
      rw [handleStreamEntries, calm_andThen_const, calm_handleStreamEntry, ih, List.forall_mem_cons]

/-! ### Batches -/

theorem must_ackStreamEntries {entries : List StreamEntry} {entry : StreamEntry}
    (h : entry ∈ entries) : (ackStreamEntries entries).Must (AdminOp.Acks entry.id) := by
  cases entries with
  | nil => exact absurd h List.not_mem_nil
  | cons first rest => exact .inl (List.mem_map_of_mem h)

theorem progress_processEntries_iff {entries : List StreamEntry} :
    Progress AdminOp.Acks entries (processEntries reader entries) ↔
      ∀ entry ∈ entries, digestible reader entry := by
  have hends : Calm (processEntries reader entries) ↔ ∀ entry ∈ entries, digestible reader entry := by
    rw [processEntries, calm_andThen_const, calm_handleStreamEntries]
    exact and_iff_left (calm_bind_of_forall fun _ => calm_ended _)
  refine ⟨fun h => hends.1 h.calm, fun h => ⟨hends.2 h, fun entry hentry => ?_⟩⟩
  refine Program.Ends.must ((calm_handleStreamEntries.2 h).mono fun a ha => ?_)
  cases a with
  | ended _ => exact (must_ackStreamEntries hentry).bind _
  | raised => exact absurd rfl ha

theorem handleMatchEntries_isSome {entries : List StreamEntry} {keys : List String} :
    (handleMatchEntries reader entries keys).isSome ↔ ∀ entry ∈ entries, entry.fields.isSome := by
  induction entries generalizing keys with
  | nil => simp [handleMatchEntries]
  | cons entry entries ih =>
      rw [List.forall_mem_cons]
      cases hfields : entry.fields with
      | none => simp [handleMatchEntries, handleMatchEntry, hfields]
      | some fields => simp [handleMatchEntries, handleMatchEntry, hfields, ih]

theorem progress_processMatchEntries_iff {entries : List StreamEntry} :
    Progress MatchStreamOp.Acks entries (processMatchEntries reader entries) ↔
      ∀ entry ∈ entries, entry.fields.isSome := by
  cases entries with
  | nil => exact ⟨fun _ => nofun, fun _ => ⟨calm_ended _, nofun⟩⟩
  | cons first rest =>
      have hsome : (handleMatchEntries reader (first :: rest) []).isSome ↔
          ∀ entry ∈ first :: rest, entry.fields.isSome := handleMatchEntries_isSome
      rw [← hsome]
      simp only [processMatchEntries]
      cases handleMatchEntries reader (first :: rest) [] with
      | none => exact ⟨fun h => absurd h.calm not_calm_raised, nofun⟩
      | some keys =>
          refine ⟨fun _ => rfl, fun _ => ⟨?_, fun entry hentry => ?_⟩⟩
          · refine calm_bind_of_forall fun _ => calm_bind_of_forall fun reply => ?_
            match reply with
            | .ok _ => exact calm_ended _
            | .error _ => exact calm_ended _
          · have hack : entry.id ∈ (first :: rest).map StreamEntry.id := List.mem_map_of_mem hentry
            exact Program.Ends.must (Program.ends_of_forall (fun _ => .inl hack) _)

/-- **The consumers make progress with a batch iff all of its entries are digestible**: those of the
admin stream, and those of the matchmaking stream when they have their fields. -/
theorem progress_iff (reader : Reader) (entries : List StreamEntry) :
    (Progress AdminOp.Acks entries (processEntries reader entries) ↔
      ∀ entry ∈ entries, digestible reader entry) ∧
    (Progress MatchStreamOp.Acks entries (processMatchEntries reader entries) ↔
      ∀ entry ∈ entries, entry.fields.isSome) :=
  ⟨progress_processEntries_iff, progress_processMatchEntries_iff⟩

/-- An entry that was trimmed off the stream while it was pending. -/
def trimmedEntry : StreamEntry := ⟨"1-0", none⟩

/-- **A pending entry that was trimmed raises.** -/
theorem trimmed_entry_raises : ¬ ConsumersProgress := by
  intro h
  have hcalm := (h ⟨fun _ => none, fun _ => false⟩ [trimmedEntry]).1.calm
  exact hcalm rfl

end Admin
