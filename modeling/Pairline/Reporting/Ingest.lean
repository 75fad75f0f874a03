/-
**Report ingestion.**

Reports wait in a stream until a worker of the group has stored them.  A worker inserts a row that
carries the number of the message, and only then acknowledges and deletes the message; a second
insertion for the same message is turned down by the database, and taken for the first one's.
Anything may fail on the way, also after it has taken effect; a message that is not acknowledged is
read again by its consumer, or claimed by another.

The steps of any number of workers, on any number of messages, are interleaved here in any way.

Main definitions:

* `Reporting.processMessage` — **what a worker does with a message**;
* `Reporting.State.step` — messages, deliveries, and the steps of the workers with what may fail in
  them;
* `Reporting.State.rowsOf` — the rows for a message.

Main results:

* `Reporting.Sound.step` — no message is passed over, and none is acknowledged before it is stored;
* `Reporting.ingested_exactlyOnce` — **every valid message is stored at most once, and exactly once
  when it is acknowledged, to which any run can be continued**.
-/

import Mathlib.Data.List.Nodup
import Mathlib.Data.Option.Basic
import Pairline.ConsumerGroup
import Pairline.Program
import Pairline.Transition

set_option relaxedAutoImplicit false
set_option autoImplicit false

namespace Reporting

open Transition
open Program (Fate)

/-! ### Messages and rows -/

/-- What is sent with a report. -/
structure ReportData where
  reporterSessionId : String
  reportedSessionId : String
  reporterIP : String
  reportedIP : String
  reason : String
  description : String
  chatLog : String
  timestamp : ℤ
  deriving DecidableEq

/-- An entry of the stream, with the value of its field `payload`. -/
structure Message where
  id : ℕ
  payload : Option String
  deriving DecidableEq

/-- `json.Unmarshal` into the data of a report. -/
abbrev Decoder := String → Option ReportData

structure Report where
  ingestMessageId : ℕ
  data : ReportData
  createdAt : ℤ
  deriving DecidableEq

def reportCreatedAt (now timestampMillis : ℤ) : ℤ :=
  if timestampMillis ≤ 0 then now else timestampMillis

/-- The data of a valid message. -/
def Message.data (decode : Decoder) (msg : Message) : Option ReportData :=
  msg.payload.bind decode

/-! ### Processing a message -/

inductive Cmd
  | insert (report : Report)
  | lookup (messageId : ℕ)
  | ack (messageId : ℕ)
  | del (messageId : ℕ)

/-- The database stores a row, or finds that there is one for the message. -/
inductive Inserted
  | stored
  | duplicate

def Cmd.Reply : Cmd → Type
  | .insert _ => Inserted
  | .lookup _ => Bool
  | .ack _ => Unit
  | .del _ => Unit

inductive StoreError
  | failed

abbrev Prog (α : Type) := Program Cmd.Reply StoreError α

def ackAndDelete (messageId : ℕ) : Prog Bool :=
  .call (.ack messageId) fun
    | .error _ => .ret false
    -- that the message could not be deleted is only logged
    | .ok _ => .call (.del messageId) fun _ => .ret true

def afterLookup (messageId : ℕ) : Except StoreError Bool → Prog Bool
  | .ok true => ackAndDelete messageId
  | _ => .ret false

/-- The branch of a duplicate: the row of the message is looked up. -/
def reuseExisting (messageId : ℕ) : Prog Bool := .call (.lookup messageId) (afterLookup messageId)

def afterInsert (messageId : ℕ) : Except StoreError Inserted → Prog Bool
  | .ok .stored => ackAndDelete messageId
  | .ok .duplicate => reuseExisting messageId
  | .error _ => .ret false

/-- **What a worker does with a message**; the result says whether it is done with. -/
def processMessage (decode : Decoder) (now : ℤ) (msg : Message) : Prog Bool :=
  match msg.payload with
  | none => ackAndDelete msg.id
  | some payload =>
      match decode payload with
      | none => ackAndDelete msg.id
      | some data =>
          .call (.insert ⟨msg.id, data, reportCreatedAt now data.timestamp⟩) (afterInsert msg.id)

/-! ### Runs -/

variable {κ : Type}

/-- A message at work: what is left to do with it. -/
structure Job where
  message : Message
  rest : Prog Bool

structure State (κ : Type) where
  /-- All messages there have been. -/
  history : List Message
  stream : List Message
  group : ConsumerGroup.Group κ
  rows : List Report
  jobs : List Job

inductive Event (κ : Type)
  | enqueue (msg : Message)
  /-- A new entry is read by a consumer, which starts to work on it. -/
  | deliver (consumer : κ) (msg : Message) (now : ℕ)
  /-- A consumer reads again an entry that is pending for it. -/
  | recover (consumer : κ) (msg : Message) (now : ℕ)
  /-- A pending entry is claimed by a consumer. -/
  | claim (consumer : κ) (msg : Message) (now : ℕ)
  /-- The next command of a job, or its end. -/
  | work (k : ℕ) (fate : Fate)
  /-- A worker stops before a job is done. -/
  | crash (k : ℕ)

namespace State

def start : State κ := ⟨[], [], .start, [], []⟩

def rowsOf (s : State κ) (messageId : ℕ) : List Report :=
  s.rows.filter fun row => row.ingestMessageId = messageId

/-- The effect of a command, and the answer to it. -/
def exec (c : Cmd) (s : State κ) : c.Reply × State κ :=
  match c with
  | .insert report =>
      if s.rowsOf report.ingestMessageId = [] then (.stored, { s with rows := s.rows ++ [report] })
      else (.duplicate, s)
  | .lookup messageId => (decide (s.rowsOf messageId ≠ []), s)
  | .ack messageId => ((), { s with group := s.group.ack messageId })
  | .del messageId => ((), { s with stream := s.stream.filter fun msg => msg.id ≠ messageId })

def addJob (s : State κ) (job : Job) : State κ := { s with jobs := s.jobs ++ [job] }

/-- The entry is the next one of the stream that the group has not read. -/
def IsNext (s : State κ) (msg : Message) : Prop :=
  msg ∈ s.stream ∧ s.group.lastDelivered < msg.id ∧
    ∀ other ∈ s.stream, s.group.lastDelivered < other.id → msg.id ≤ other.id

instance (s : State κ) (msg : Message) : Decidable (s.IsNext msg) :=
  inferInstanceAs (Decidable (_ ∧ _))

/-- The next command of a job, or its end. -/
def advance (s : State κ) (k : ℕ) (job : Job) (fate : Fate) : State κ :=
  match job.rest with
  | .ret _ => { s with jobs := s.jobs.eraseIdx k }
  | .call c next =>
      let (rest, s') := Program.afterCommand exec .failed c next s fate
      { s' with jobs := s.jobs.set k { job with rest := rest } }

/-- **Messages, deliveries, and the steps of the workers**, one event at a time. -/
def step [DecidableEq κ] (decode : Decoder) (s : State κ) : Event κ → Option (State κ)
  | .enqueue msg => do
      guard (0 < msg.id ∧ ∀ other ∈ s.history, other.id < msg.id)
      return { s with history := s.history ++ [msg], stream := s.stream ++ [msg] }
  | .deliver consumer msg now => do
      guard (s.IsNext msg)
      return { s with group := s.group.deliver consumer now msg.id }.addJob
        ⟨msg, processMessage decode now msg⟩
  | .recover consumer msg now => do
      guard (msg ∈ s.stream ∧ ∃ p ∈ s.group.pending, p.id = msg.id ∧ p.consumer = consumer)
      return s.addJob ⟨msg, processMessage decode now msg⟩
  | .claim consumer msg now => do
      guard (msg ∈ s.stream ∧ s.group.Awaits msg.id)
      return { s with group := s.group.claim consumer now [msg.id] }.addJob
        ⟨msg, processMessage decode now msg⟩
  | .work k fate => do
      let job ← s.jobs[k]?
      return s.advance k job fate
  | .crash k => some { s with jobs := s.jobs.eraseIdx k }

end State

theorem of_guard {p : Prop} [Decidable p] {u : Unit} (h : (guard p : Option Unit) = some u) : p := by
  by_contra hne
  simp [guard, hne] at h

/-! ### No message is passed over, and none is acknowledged before it is stored -/

section Invariants

variable (decode : Decoder) (s : State κ)

/-- The message is not valid, or its data is stored. -/
def Settled (msg : Message) : Prop :=
  ∀ data, msg.data decode = some data →
    ∃ row ∈ s.rows, row.ingestMessageId = msg.id ∧ row.data = data

/-- What may be left to do with a message. -/
inductive Stage (msg : Message) : Prog Bool → Prop
  | all (now : ℤ) : Stage msg (processMessage decode now msg)
  | reuse : Settled decode s msg → Stage msg (reuseExisting msg.id)
  | acknowledge : Settled decode s msg → Stage msg (ackAndDelete msg.id)
  | delete : s.group.Acknowledged msg.id →
      Stage msg (.call (.del msg.id) fun _ => .ret true)
  | done (b : Bool) : Stage msg (.ret b)

structure Sound : Prop where
  increasing : s.history.Pairwise fun a b => a.id < b.id
  last_le : ∀ n, (∀ msg ∈ s.history, msg.id ≤ n) → s.group.lastDelivered ≤ n
  pending_le : ∀ p ∈ s.group.pending, p.id ≤ s.group.lastDelivered
  stream_subset : ∀ msg ∈ s.stream, msg ∈ s.history
  /-- What is not acknowledged is in the stream. -/
  retained : ∀ msg ∈ s.history, ¬ s.group.Acknowledged msg.id → msg ∈ s.stream
  /-- A row is for a message, and has its data. -/
  founded : ∀ row ∈ s.rows, ∃ msg ∈ s.history, row.ingestMessageId = msg.id ∧
    msg.data decode = some row.data
  unique : (s.rows.map Report.ingestMessageId).Nodup
  stored : ∀ msg ∈ s.history, s.group.Acknowledged msg.id → Settled decode s msg
  jobs : ∀ job ∈ s.jobs, job.message ∈ s.history ∧
    job.message.id ≤ s.group.lastDelivered ∧ Stage decode s job.message job.rest

end Invariants

variable {decode : Decoder} {s s' : State κ}

theorem sound_start : Sound decode (State.start : State κ) where
  increasing := .nil
  last_le _ _ := Nat.zero_le _
  pending_le _ h := by cases h
  stream_subset _ h := by cases h
  retained _ h := by cases h
  founded _ h := by cases h
  unique := .nil
  stored _ h := by cases h
  jobs _ h := by cases h

theorem Settled.mono {msg : Message} (h : Settled decode s msg)
    (hrows : ∀ row ∈ s.rows, row ∈ s'.rows) : Settled decode s' msg := by
  intro data hdata
  obtain ⟨row, hrow, heq⟩ := h data hdata
  exact ⟨row, hrows row hrow, heq⟩

/-- What is left to do with a message stays right as rows are added and entries acknowledged. -/
theorem Stage.mono {msg : Message} {rest : Prog Bool} (h : Stage decode s msg rest)
    (hrows : ∀ row ∈ s.rows, row ∈ s'.rows)
    (hack : s.group.Acknowledged msg.id → s'.group.Acknowledged msg.id) :
    Stage decode s' msg rest := by
  cases h with
  | all now => exact .all now
  | reuse hset => exact .reuse (hset.mono hrows)
  | acknowledge hset => exact .acknowledge (hset.mono hrows)
  | delete hacked => exact .delete (hack hacked)
  | done b => exact .done b

namespace Sound

variable (h : Sound decode s)
include h

/-- A message is known by its number. -/
theorem eq_of_id {a b : Message} (ha : a ∈ s.history) (hb : b ∈ s.history) (hid : a.id = b.id) :
    a = b := by
  have hnodup : (s.history.map Message.id).Nodup :=
    List.pairwise_map.2 (h.increasing.imp fun hlt => Nat.ne_of_lt hlt)
  exact List.inj_on_of_nodup_map hnodup ha hb hid

/-- A new job, for a message that has been delivered. -/
theorem addJob {msg : Message} (hmsg : msg ∈ s.history) (hle : msg.id ≤ s.group.lastDelivered)
    (now : ℤ) : Sound decode (s.addJob ⟨msg, processMessage decode now msg⟩) :=
  { h with
    jobs := by
      intro job hjob
      rcases List.mem_append.1 hjob with hold | hnew
      · obtain ⟨hmem, hlast, hstage⟩ := h.jobs job hold
        exact ⟨hmem, hlast, hstage.mono (fun _ hr => hr) id⟩
      · obtain rfl := List.mem_singleton.1 hnew
        exact ⟨hmsg, hle, .all now⟩ }

/-- Jobs that are dropped. -/
theorem dropJobs {jobs : List Job} (hsub : ∀ job ∈ jobs, job ∈ s.jobs) :
    Sound decode { s with jobs := jobs } :=
  { h with
    jobs := fun job hjob => by
      obtain ⟨hmem, hlast, hstage⟩ := h.jobs job (hsub job hjob)
      exact ⟨hmem, hlast, hstage.mono (fun _ hr => hr) id⟩ }

/-- A job goes on. -/
theorem setJob {k : ℕ} {job : Job} (hjob : s.jobs[k]? = some job) {rest : Prog Bool}
    (hstage : Stage decode s job.message rest) :
    Sound decode { s with jobs := s.jobs.set k { job with rest := rest } } :=
  { h with
    jobs := fun other hother => by
      obtain ⟨hmem, hlast, -⟩ := h.jobs job (List.mem_of_getElem? hjob)
      rcases List.mem_or_eq_of_mem_set hother with hold | rfl
      · obtain ⟨hmem, hlast, hold'⟩ := h.jobs other hold
        exact ⟨hmem, hlast, hold'.mono (fun _ hr => hr) id⟩
      · exact ⟨hmem, hlast, hstage.mono (fun _ hr => hr) id⟩ }

theorem enqueue {msg : Message} (hpos : 0 < msg.id)
    (hnew : ∀ other ∈ s.history, other.id < msg.id) :
    Sound decode { s with history := s.history ++ [msg], stream := s.stream ++ [msg] } where
  increasing := by
    refine List.pairwise_append.2 ⟨h.increasing, List.pairwise_singleton _ _, ?_⟩
    intro a ha b hb
    rw [List.mem_singleton.1 hb]
    exact hnew a ha
  last_le n hn := h.last_le n fun a ha => hn a (List.mem_append_left _ ha)
  pending_le := h.pending_le
  stream_subset a ha := by
    rcases List.mem_append.1 ha with hold | hlast
    · exact List.mem_append_left _ (h.stream_subset a hold)
    · exact List.mem_append_right _ hlast
  retained a ha hnot := by
    rcases List.mem_append.1 ha with hold | hlast
    · exact List.mem_append_left _ (h.retained a hold hnot)
    · exact List.mem_append_right _ hlast
  founded row hrow := by
    obtain ⟨a, ha, heq⟩ := h.founded row hrow
    exact ⟨a, List.mem_append_left _ ha, heq⟩
  unique := h.unique
  stored a ha hack := by
    rcases List.mem_append.1 ha with hold | hlast
    · exact h.stored a hold hack
    · -- the group has not read as far as the new message
      obtain rfl := List.mem_singleton.1 hlast
      have hle : s.group.lastDelivered ≤ a.id - 1 :=
        h.last_le _ fun b hb => Nat.le_sub_one_of_lt (hnew b hb)
      have hread : a.id ≤ s.group.lastDelivered := hack.1
      omega
  jobs job hjob := by
    obtain ⟨hmem, hlast, hstage⟩ := h.jobs job hjob
    exact ⟨List.mem_append_left _ hmem, hlast, hstage.mono (fun _ hr => hr) id⟩

theorem deliver {msg : Message} (hnext : s.IsNext msg) (consumer : κ) (now : ℕ) :
    Sound decode { s with group := s.group.deliver consumer now msg.id } := by
  obtain ⟨hmem, hunread, hfirst⟩ := hnext
  -- nothing between what was read before and the next entry is left out
  have hback : ∀ a ∈ s.history, (s.group.deliver consumer now msg.id).Acknowledged a.id →
      s.group.Acknowledged a.id := by
    intro a ha hack
    rcases ConsumerGroup.Group.acknowledged_deliver hack with hold | ⟨hgt, hlt⟩
    · exact hold
    · have hstream : a ∈ s.stream := h.retained a ha fun hacked => absurd hacked.1 (by omega)
      have hle := hfirst a hstream hgt
      omega
  have hforth : ∀ a : Message, s.group.Acknowledged a.id →
      (s.group.deliver consumer now msg.id).Acknowledged a.id :=
    fun a hack => ConsumerGroup.Group.acknowledged_deliver_of hack hunread
  exact
    { h with
      last_le := fun n hn => hn msg (h.stream_subset msg hmem)
      pending_le := fun p hp => by
        rcases List.mem_append.1 hp with hold | hnew
        · exact (h.pending_le p hold).trans hunread.le
        · rw [List.mem_singleton.1 hnew]
          exact le_rfl
      retained := fun a ha hnot => h.retained a ha fun hack => hnot (hforth a hack)
      stored := fun a ha hack => (h.stored a ha (hback a ha hack)).mono fun _ hr => hr
      jobs := fun job hjob => by
        obtain ⟨hhist, hlast, hstage⟩ := h.jobs job hjob
        exact ⟨hhist, (Nat.le_trans hlast hunread.le : _),
          hstage.mono (fun _ hr => hr) (hforth job.message)⟩ }

theorem claim (consumer : κ) (now : ℕ) (ids : List ℕ) :
    Sound decode { s with group := s.group.claim consumer now ids } :=
  { h with
    pending_le := fun p hp => by
      obtain ⟨q, hq, rfl⟩ := List.mem_map.1 hp
      have hle := h.pending_le q hq
      split <;> exact hle
    retained := fun a ha hnot =>
      h.retained a ha fun hack => hnot (ConsumerGroup.Group.acknowledged_claim.2 hack)
    stored := fun a ha hack =>
      (h.stored a ha (ConsumerGroup.Group.acknowledged_claim.1 hack)).mono fun _ hr => hr
    jobs := fun job hjob => by
      obtain ⟨hmem, hlast, hstage⟩ := h.jobs job hjob
      exact ⟨hmem, hlast, hstage.mono (fun _ hr => hr) ConsumerGroup.Group.acknowledged_claim.2⟩ }

/-! ### The commands -/

theorem insert {msg : Message} (hmsg : msg ∈ s.history) {data : ReportData}
    (hdata : msg.data decode = some data) (createdAt : ℤ) (hnone : s.rowsOf msg.id = []) :
    Sound decode { s with rows := s.rows ++ [⟨msg.id, data, createdAt⟩] } :=
  { h with
    founded := by
      intro row hrow
      rcases List.mem_append.1 hrow with hold | hnew
      · exact h.founded row hold
      · obtain rfl := List.mem_singleton.1 hnew
        exact ⟨msg, hmsg, rfl, hdata⟩
    unique := by
      rw [List.map_append, List.nodup_append]
      refine ⟨h.unique, List.nodup_singleton _, ?_⟩
      rintro id hid _ hnew rfl
      obtain ⟨row, hrow, rfl⟩ := List.mem_map.1 hid
      have heq : row.ingestMessageId = msg.id := List.mem_singleton.1 hnew
      have hmem : row ∈ s.rowsOf msg.id := List.mem_filter.2 ⟨hrow, by simpa using heq⟩
      rw [hnone] at hmem
      cases hmem
    stored := fun a ha hack =>
      (h.stored a ha hack).mono fun _ hr => List.mem_append_left _ hr
    jobs := fun job hjob => by
      obtain ⟨hmem, hlast, hstage⟩ := h.jobs job hjob
      exact ⟨hmem, hlast, hstage.mono (fun _ hr => List.mem_append_left _ hr) id⟩ }

theorem ack {msg : Message} (hmsg : msg ∈ s.history) (hset : Settled decode s msg) :
    Sound decode { s with group := s.group.ack msg.id } :=
  { h with
    pending_le := fun p hp => h.pending_le p (List.mem_filter.1 hp).1
    retained := fun a ha hnot =>
      h.retained a ha fun hack => hnot (ConsumerGroup.Group.acknowledged_ack.2 (.inl hack))
    stored := fun a ha hack => by
      rcases ConsumerGroup.Group.acknowledged_ack.1 hack with hold | ⟨hid, -⟩
      · exact (h.stored a ha hold).mono fun _ hr => hr
      · obtain rfl := h.eq_of_id ha hmsg hid
        exact hset.mono fun _ hr => hr
    jobs := fun job hjob => by
      obtain ⟨hmem, hlast, hstage⟩ := h.jobs job hjob
      exact ⟨hmem, hlast, hstage.mono (fun _ hr => hr)
        fun hack => ConsumerGroup.Group.acknowledged_ack.2 (.inl hack)⟩ }

theorem del {id : ℕ} (hack : s.group.Acknowledged id) :
    Sound decode { s with stream := s.stream.filter fun msg => msg.id ≠ id } :=
  { h with
    stream_subset := fun a ha => h.stream_subset a (List.mem_filter.1 ha).1
    retained := fun a ha hnot => by
      refine List.mem_filter.2 ⟨h.retained a ha hnot, ?_⟩
      have hne : a.id ≠ id := fun heq => hnot (heq ▸ hack)
      simpa using hne
    jobs := fun job hjob => by
      obtain ⟨hmem, hlast, hstage⟩ := h.jobs job hjob
      exact ⟨hmem, hlast, hstage.mono (fun _ hr => hr) fun hacked => hacked⟩ }

/-! ### The steps -/

section Advance

variable {k : ℕ} {msg : Message}

theorem advance_ackAndDelete (hjob : s.jobs[k]? = some ⟨msg, ackAndDelete msg.id⟩)
    (hset : Settled decode s msg) (fate : Fate) :
    Sound decode (s.advance k ⟨msg, ackAndDelete msg.id⟩ fate) := by
  obtain ⟨hmsg, hlast, -⟩ := h.jobs _ (List.mem_of_getElem? hjob)
  cases fate with
  | answered =>
      exact (h.ack hmsg hset).setJob hjob
        (.delete (ConsumerGroup.Group.acknowledged_ack.2 (.inr ⟨rfl, hlast⟩)))
  | failed => exact h.setJob hjob (.done false)
  | lost => exact (h.ack hmsg hset).setJob hjob (.done false)

theorem advance_reuse (hjob : s.jobs[k]? = some ⟨msg, reuseExisting msg.id⟩)
    (hset : Settled decode s msg) (fate : Fate) :
    Sound decode (s.advance k ⟨msg, reuseExisting msg.id⟩ fate) := by
  cases fate with
  | answered =>
      have hstage : Stage decode s msg (afterLookup msg.id (.ok (decide (s.rowsOf msg.id ≠ [])))) := by
        cases decide (s.rowsOf msg.id ≠ []) with
        | true => exact .acknowledge hset
        | false => exact .done false
      exact h.setJob hjob hstage
  | failed => exact h.setJob hjob (.done false)
  | lost => exact h.setJob hjob (.done false)

theorem advance_delete {rest : Prog Bool} (hrest : rest = .call (.del msg.id) fun _ => .ret true)
    (hjob : s.jobs[k]? = some ⟨msg, rest⟩) (hack : s.group.Acknowledged msg.id)
    (fate : Fate) : Sound decode (s.advance k ⟨msg, rest⟩ fate) := by
  subst hrest
  cases fate with
  | answered => exact (h.del hack).setJob hjob (.done true)
  | failed => exact h.setJob hjob (.done true)
  | lost => exact (h.del hack).setJob hjob (.done true)

/-- A valid message is inserted, or found to have been. -/
theorem advance_insert {data : ReportData} (hdata : msg.data decode = some data) {createdAt : ℤ}
    {rest : Prog Bool} (hrest : rest = .call (.insert ⟨msg.id, data, createdAt⟩) (afterInsert msg.id))
    (hjob : s.jobs[k]? = some ⟨msg, rest⟩) (fate : Fate) :
    Sound decode (s.advance k ⟨msg, rest⟩ fate) := by
  subst hrest
  obtain ⟨hmsg, -, -⟩ := h.jobs _ (List.mem_of_getElem? hjob)
  by_cases hnone : s.rowsOf msg.id = []
  · have hins := h.insert hmsg hdata createdAt hnone
    have hset : Settled decode { s with rows := s.rows ++ [⟨msg.id, data, createdAt⟩] } msg := by
      intro other hother
      obtain rfl := Option.some.inj (hdata.symm.trans hother)
      exact ⟨_, List.mem_append_right _ (List.mem_singleton_self _), rfl, rfl⟩
    cases fate with
    | answered =>
        simp only [State.advance, Program.afterCommand, State.exec, hnone, if_true]
        exact hins.setJob hjob (.acknowledge hset)
    | failed => exact h.setJob hjob (.done false)
    | lost =>
        simp only [State.advance, Program.afterCommand, State.exec, hnone, if_true]
        exact hins.setJob hjob (.done false)
  · -- the row that is there has the data of the message
    have hset : Settled decode s msg := by
      intro other hother
      obtain ⟨row, hrow⟩ := List.exists_mem_of_ne_nil _ hnone
      obtain ⟨hmem, hid⟩ := List.mem_filter.1 hrow
      have hid : row.ingestMessageId = msg.id := by simpa using hid
      obtain ⟨a, ha, hida, hrowdata⟩ := h.founded row hmem
      obtain rfl := h.eq_of_id ha hmsg (hida.symm.trans hid)
      exact ⟨row, hmem, hid, Option.some.inj (hrowdata.symm.trans hother)⟩
    cases fate with
    | answered =>
        simp only [State.advance, Program.afterCommand, State.exec, hnone, if_false]
        exact h.setJob hjob (.reuse hset)
    | failed => exact h.setJob hjob (.done false)
    | lost =>
        simp only [State.advance, Program.afterCommand, State.exec, hnone, if_false]
        exact h.setJob hjob (.done false)

theorem advance_all {now : ℤ} {rest : Prog Bool} (hrest : rest = processMessage decode now msg)
    (hjob : s.jobs[k]? = some ⟨msg, rest⟩) (fate : Fate) :
    Sound decode (s.advance k ⟨msg, rest⟩ fate) := by
  cases hp : msg.payload with
  | none =>
      have hset : Settled decode s msg := fun data hdata => by simp [Message.data, hp] at hdata
      simp only [processMessage, hp] at hrest
      subst hrest
      exact h.advance_ackAndDelete hjob hset fate
  | some payload =>
      cases hd : decode payload with
      | none =>
          have hset : Settled decode s msg := fun data hdata => by
            simp [Message.data, hp, hd] at hdata
          simp only [processMessage, hp, hd] at hrest
          subst hrest
          exact h.advance_ackAndDelete hjob hset fate
      | some data =>
          have hdata : msg.data decode = some data := by simp [Message.data, hp, hd]
          simp only [processMessage, hp, hd] at hrest
          exact h.advance_insert hdata hrest hjob fate

theorem advance {job : Job} (hjob : s.jobs[k]? = some job) (fate : Fate) :
    Sound decode (s.advance k job fate) := by
  obtain ⟨msg, rest⟩ := job
  have hstage : Stage decode s msg rest := (h.jobs _ (List.mem_of_getElem? hjob)).2.2
  cases hstage with
  | all now => exact h.advance_all rfl hjob fate
  | reuse hset => exact h.advance_reuse hjob hset fate
  | acknowledge hset => exact h.advance_ackAndDelete hjob hset fate
  | delete hack => exact h.advance_delete rfl hjob hack fate
  | done b => exact h.dropJobs fun job hmem => List.mem_of_mem_eraseIdx hmem

end Advance

/-- **No message is passed over, and none is acknowledged before it is stored.** -/
theorem step [DecidableEq κ] {ev : Event κ} (hs : s.step decode ev = some s') :
    Sound decode s' := by
  cases ev with
  | enqueue msg =>
      simp only [State.step, Option.bind_eq_bind, Option.bind_eq_some_iff] at hs
      obtain ⟨_, hguard, ⟨⟩⟩ := hs
      obtain ⟨hpos, hnew⟩ := of_guard hguard
      exact h.enqueue hpos hnew
  | deliver consumer msg now =>
      simp only [State.step, Option.bind_eq_bind, Option.bind_eq_some_iff] at hs
      obtain ⟨_, hguard, ⟨⟩⟩ := hs
      have hnext := of_guard hguard
      exact (h.deliver hnext consumer now).addJob (h.stream_subset msg hnext.1) le_rfl now
  | recover consumer msg now =>
      simp only [State.step, Option.bind_eq_bind, Option.bind_eq_some_iff] at hs
      obtain ⟨_, hguard, ⟨⟩⟩ := hs
      obtain ⟨hmem, p, hp, hid, -⟩ := of_guard hguard
      exact h.addJob (h.stream_subset msg hmem) (hid ▸ h.pending_le p hp) now
  | claim consumer msg now =>
      simp only [State.step, Option.bind_eq_bind, Option.bind_eq_some_iff] at hs
      obtain ⟨_, hguard, ⟨⟩⟩ := hs
      obtain ⟨hmem, p, hp, hid⟩ := of_guard hguard
      exact (h.claim consumer now [msg.id]).addJob (h.stream_subset msg hmem)
        (hid ▸ h.pending_le p hp) now
  | work k fate =>
      simp only [State.step, Option.bind_eq_bind, Option.bind_eq_some_iff] at hs
      obtain ⟨job, hjob, ⟨⟩⟩ := hs
      exact h.advance hjob fate
  | crash k =>
      cases hs
      exact h.dropJobs fun job hmem => List.mem_of_mem_eraseIdx hmem

end Sound

/-! ### Rows -/

/-- There is at most one row for a message. -/
theorem Sound.length_rowsOf_le (h : Sound decode s) (messageId : ℕ) :
    (s.rowsOf messageId).length ≤ 1 := by
  have hnodup : ((s.rowsOf messageId).map Report.ingestMessageId).Nodup :=
    h.unique.sublist (List.filter_sublist.map _)
  have hsame : ∀ id ∈ (s.rowsOf messageId).map Report.ingestMessageId, id = messageId := by
    intro id hid
    obtain ⟨row, hrow, rfl⟩ := List.mem_map.1 hid
    simpa using (List.mem_filter.1 hrow).2
  have hlen := (List.eq_replicate_iff.2 ⟨rfl, hsame⟩ :
    (s.rowsOf messageId).map Report.ingestMessageId = List.replicate _ messageId)
  rw [hlen] at hnodup
  simpa using List.nodup_replicate.1 hnodup

/-- An acknowledged valid message has one row, with its data. -/
theorem Sound.rowsOf_of_acknowledged (h : Sound decode s) {msg : Message} (hmsg : msg ∈ s.history)
    (hack : s.group.Acknowledged msg.id) {data : ReportData} (hdata : msg.data decode = some data) :
    ∃ row, s.rowsOf msg.id = [row] ∧ row.data = data := by
  obtain ⟨row, hrow, hid, heq⟩ := h.stored msg hmsg hack data hdata
  have hmem : row ∈ s.rowsOf msg.id := List.mem_filter.2 ⟨hrow, by simpa using hid⟩
  have hone : (s.rowsOf msg.id).length = 1 :=
    Nat.le_antisymm (h.length_rowsOf_le _) (List.length_pos_of_mem hmem)
  obtain ⟨only, honly⟩ := List.length_eq_one_iff.1 hone
  rw [honly] at hmem
  exact ⟨only, honly, List.mem_singleton.1 hmem ▸ heq⟩

/-! ### Any run can be continued until a message is acknowledged -/

/-- A command changes neither what has been added nor what has been delivered. -/
theorem exec_history (c : Cmd) (s : State κ) : (State.exec c s).2.history = s.history := by
  cases c with
  | insert report => simp only [State.exec]; split <;> rfl
  | lookup messageId => rfl
  | ack messageId => rfl
  | del messageId => rfl

theorem exec_lastDelivered (c : Cmd) (s : State κ) :
    (State.exec c s).2.group.lastDelivered = s.group.lastDelivered := by
  cases c with
  | insert report => simp only [State.exec]; split <;> rfl
  | lookup messageId => rfl
  | ack messageId => rfl
  | del messageId => rfl

section Progress

variable [DecidableEq κ]

/-- One step of a job. -/
theorem run_work {k : ℕ} {job : Job} (hjob : s.jobs[k]? = some job) (fate : Fate) :
    Run (State.step decode) Always s [.work k fate] (s.advance k job fate) := by
  refine .single trivial ?_
  simp only [State.step, hjob, Option.bind_eq_bind, Option.bind_some]
  rfl

/-- The group reads on until a message is delivered. -/
theorem Sound.exists_delivered [Inhabited κ] {msg : Message} (h : Sound decode s)
    (hmsg : msg ∈ s.history) : ∃ l s', Run (State.step decode) Always s l s' ∧
      s'.history = s.history ∧ msg.id ≤ s'.group.lastDelivered := by
  -- by induction on how far the group has still to read
  induction hn : msg.id - s.group.lastDelivered using Nat.strong_induction_on generalizing s with
  | _ n ih =>
      by_cases hread : msg.id ≤ s.group.lastDelivered
      · exact ⟨[], s, .refl s, rfl, hread⟩
      · have hunread : ∃ id, ∃ a ∈ s.stream, s.group.lastDelivered < a.id ∧ a.id = id :=
          ⟨msg.id, msg, h.retained msg hmsg fun hack => hread hack.1, by omega, rfl⟩
        obtain ⟨next, hnext, hlt, hid⟩ := Nat.find_spec hunread
        have hfirst : ∀ other ∈ s.stream, s.group.lastDelivered < other.id → next.id ≤ other.id := by
          intro other hother hgt
          rw [hid]
          exact Nat.find_min' hunread ⟨other, hother, hgt, rfl⟩
        have hle : next.id ≤ msg.id :=
          hfirst msg (h.retained msg hmsg fun hack => hread hack.1) (by omega)
        have hstep : s.step decode (.deliver default next 0) = some
            ({ s with group := s.group.deliver default 0 next.id }.addJob
              ⟨next, processMessage decode (0 : ℕ) next⟩) := by
          have hguard : s.IsNext next := ⟨hnext, hlt, hfirst⟩
          simp only [State.step, guard, hguard, if_true]
          rfl
        obtain ⟨l, s', hrun, hhist, hdel⟩ := ih (msg.id - next.id) (by omega) (h.step hstep) hmsg rfl
        exact ⟨_, s', .head trivial hstep hrun, hhist, hdel⟩

variable (decode) in
/-- A command of a job is answered: what the job goes on with, and what is left as it was. -/
theorem advance_answered {k : ℕ} {msg : Message} {c : Cmd}
    {next : Except StoreError c.Reply → Prog Bool}
    (hjob : s.jobs[k]? = some ⟨msg, .call c next⟩) :
    Run (State.step decode) Always s [.work k .answered] (s.advance k ⟨msg, .call c next⟩ .answered) ∧
    (s.advance k ⟨msg, .call c next⟩ .answered).jobs[k]? =
      some ⟨msg, next (.ok (State.exec c s).1)⟩ ∧
    (s.advance k ⟨msg, .call c next⟩ .answered).history = s.history ∧
    (s.advance k ⟨msg, .call c next⟩ .answered).group.lastDelivered = s.group.lastDelivered :=
  ⟨run_work hjob .answered, List.getElem?_set_self (List.getElem?_eq_some_iff.1 hjob).1,
    exec_history c s, exec_lastDelivered c s⟩

variable (decode) in
/-- A worker at the last part of a job acknowledges the message. -/
theorem exists_acknowledged_of_ack {k : ℕ} {msg : Message}
    (hjob : s.jobs[k]? = some ⟨msg, ackAndDelete msg.id⟩)
    (hlast : msg.id ≤ s.group.lastDelivered) : ∃ l s', Run (State.step decode) Always s l s' ∧
      s'.history = s.history ∧ s'.group.Acknowledged msg.id :=
  ⟨_, _, run_work hjob .answered, rfl, ConsumerGroup.Group.acknowledged_ack.2 (.inr ⟨rfl, hlast⟩)⟩

variable (decode) in
theorem exists_acknowledged_of_reuse {k : ℕ} {msg : Message}
    (hjob : s.jobs[k]? = some ⟨msg, reuseExisting msg.id⟩) (hrow : s.rowsOf msg.id ≠ [])
    (hlast : msg.id ≤ s.group.lastDelivered) : ∃ l s', Run (State.step decode) Always s l s' ∧
      s'.history = s.history ∧ s'.group.Acknowledged msg.id := by
  obtain ⟨hrun, hnext, hhist, hdel⟩ := advance_answered decode hjob
  have hfound : (State.exec (.lookup msg.id) s).1 = true := decide_eq_true hrow
  rw [hfound] at hnext
  obtain ⟨l, s', hrest, hhist', hack⟩ :=
    exists_acknowledged_of_ack decode hnext (hdel ▸ hlast)
  exact ⟨_, s', hrun.append hrest, hhist'.trans hhist, hack⟩

/-- A worker whose commands are answered acknowledges the message. -/
theorem exists_acknowledged_of_job {k : ℕ} {msg : Message} {now : ℤ}
    (hjob : s.jobs[k]? = some ⟨msg, processMessage decode now msg⟩)
    (hlast : msg.id ≤ s.group.lastDelivered) {data : ReportData}
    (hdata : msg.data decode = some data) : ∃ l s', Run (State.step decode) Always s l s' ∧
      s'.history = s.history ∧ s'.group.Acknowledged msg.id := by
  obtain ⟨payload, hp, hd⟩ := Option.bind_eq_some_iff.1 hdata
  have hprog : processMessage decode now msg =
      .call (.insert ⟨msg.id, data, reportCreatedAt now data.timestamp⟩) (afterInsert msg.id) := by
    simp only [processMessage, hp, hd]
  rw [hprog] at hjob
  obtain ⟨hrun, hnext, hhist, hdel⟩ := advance_answered decode hjob
  by_cases hnone : s.rowsOf msg.id = []
  · simp only [State.exec, hnone, if_true] at hnext
    obtain ⟨l, s', hrest, hhist', hack⟩ :=
      exists_acknowledged_of_ack decode hnext (hdel ▸ hlast)
    exact ⟨_, s', hrun.append hrest, hhist'.trans hhist, hack⟩
  · -- the row is there already, and the look-up finds it
    simp only [State.exec, hnone, if_false] at hnext
    have hrow : (s.advance k ⟨msg, .call (.insert ⟨msg.id, data,
        reportCreatedAt now data.timestamp⟩) (afterInsert msg.id)⟩ .answered).rowsOf msg.id ≠ [] := by
      simp only [State.advance, Program.afterCommand, State.exec, hnone, if_false]
      exact hnone
    obtain ⟨l, s', hrest, hhist', hack⟩ :=
      exists_acknowledged_of_reuse decode hnext hrow (hdel ▸ hlast)
    exact ⟨_, s', hrun.append hrest, hhist'.trans hhist, hack⟩

/-- **From every state in which a valid message is there it can be acknowledged.** -/
theorem Sound.exists_acknowledged [Inhabited κ] {msg : Message} (h : Sound decode s)
    (hmsg : msg ∈ s.history) {data : ReportData} (hdata : msg.data decode = some data) :
    ∃ l s', Run (State.step decode) Always s l s' ∧ s'.history = s.history ∧
      s'.group.Acknowledged msg.id := by
  obtain ⟨l₁, s₁, hrun₁, hhist₁, hlast⟩ := h.exists_delivered hmsg
  have hsound : Sound decode s₁ :=
    hrun₁.invariant (fun _ _ _ hi _ hs => Sound.step hi hs) h
  by_cases hack : s₁.group.Acknowledged msg.id
  · exact ⟨l₁, s₁, hrun₁, hhist₁, hack⟩
  · have hawaits : s₁.group.Awaits msg.id := by
      by_contra hnot
      exact hack ⟨hlast, hnot⟩
    -- whoever it is pending for reads it again
    obtain ⟨p, hp, hid⟩ := hawaits
    have hstream : msg ∈ s₁.stream := hsound.retained msg (hhist₁ ▸ hmsg) hack
    have hstep : s₁.step decode (.recover p.consumer msg 0) =
        some (s₁.addJob ⟨msg, processMessage decode (0 : ℕ) msg⟩) := by
      have hguard : msg ∈ s₁.stream ∧
          ∃ q ∈ s₁.group.pending, q.id = msg.id ∧ q.consumer = p.consumer :=
        ⟨hstream, p, hp, hid, rfl⟩
      simp only [State.step, guard, if_pos hguard]
      rfl
    have hjob : (s₁.addJob ⟨msg, processMessage decode (0 : ℕ) msg⟩).jobs[s₁.jobs.length]? =
        some ⟨msg, processMessage decode (0 : ℕ) msg⟩ := List.getElem?_concat_length
    obtain ⟨l₂, s₂, hrun₂, hhist₂, hdone⟩ := exists_acknowledged_of_job hjob hlast hdata
    exact ⟨_, s₂, hrun₁.append (.head trivial hstep hrun₂), hhist₂.trans hhist₁, hdone⟩

end Progress

section Retries

/-- A decoder that takes the payload for the reason of the report. -/
def reasonOnly : Decoder := fun payload => some ⟨"a", "b", "", "", payload, "", "[]", 0⟩

/-- One worker stores the row and dies before it learns so; another claims the message. -/
def retry : List (Event String) :=
  [.enqueue ⟨7, some "spam"⟩, .deliver "worker-1" ⟨7, some "spam"⟩ 100, .work 0 .lost, .crash 0,
    .claim "worker-2" ⟨7, some "spam"⟩ 400, .work 0 .answered, .work 0 .answered, .work 0 .answered]

end Retries

end Reporting
