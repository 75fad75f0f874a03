/-
**Recovery of pending reports.**

Before a worker reads new messages it processes those that are pending for it, page by page.  Each
round reads the first page of what is pending then, and the loop ends when there is nothing left; it
waits after a round with a failure, and tries again.

Main definitions:

* `Reporting.Inbox` — the messages that are pending for a worker, and the rows;
* `Reporting.process` — a message is processed, where the storage of some messages always fails;
* `Reporting.recoverPending` — **the loop**;
* `Reporting.Recovers` — the loop returns, and everything that can be stored has been.

Main results:

* `Reporting.process_of_not_stuck`, `Reporting.process_of_stuck` — what processing a message does;
* `Reporting.recovers_iff` — **the loop returns only when nothing fails for good**;
* `Reporting.recovery_isStuck` — one message that cannot be stored keeps the worker from all others.
-/

import Pairline.Reporting.Ingest

set_option relaxedAutoImplicit false
set_option autoImplicit false

namespace Reporting

/-! ### Pending messages -/

/-- The messages that are pending for a worker, in their order, and the rows of the database. -/
structure Inbox where
  pending : List Message
  rows : List Report
  distinct : (pending.map Message.id).Nodup

namespace Inbox

def rowsOf (s : Inbox) (messageId : ℕ) : List Report :=
  s.rows.filter fun row => row.ingestMessageId = messageId

def remove (s : Inbox) (messageId : ℕ) : Inbox where
  pending := s.pending.filter fun msg => msg.id ≠ messageId
  rows := s.rows
  distinct := s.distinct.sublist (List.filter_sublist.map _)

def exec (c : Cmd) (s : Inbox) : c.Reply × Inbox :=
  match c with
  | .insert report =>
      if s.rowsOf report.ingestMessageId = [] then (.stored, { s with rows := s.rows ++ [report] })
      else (.duplicate, s)
  | .lookup messageId => (decide (s.rowsOf messageId ≠ []), s)
  | .ack messageId => ((), s.remove messageId)
  -- a message that is deleted from the stream is pending no more
  | .del _ => ((), s)

end Inbox

/-- The messages whose storage fails, whenever it is tried. -/
abbrev Failing := ℕ → Bool

def Cmd.fails (failing : Failing) : Cmd → Bool
  | .insert report => failing report.ingestMessageId
  | _ => false

/-- A run of a program in which the storage of some messages fails. -/
def runFailing {α : Type} (failing : Failing) : Prog α → Inbox → α × Inbox
  | .ret a, s => (a, s)
  | .call c next, s =>
      if c.fails failing then runFailing failing (next (.error .failed)) s
      else runFailing failing (next (.ok (s.exec c).1)) (s.exec c).2

variable (decode : Decoder) (now : ℤ) (failing : Failing)

def process (msg : Message) (s : Inbox) : Bool × Inbox :=
  runFailing failing (processMessage decode now msg) s

def processAll (page : List Message) (s : Inbox) : Inbox :=
  page.foldl (fun s msg => (process decode now failing msg s).2) s

/-- **`recoverPending`**, for a number of rounds.  A failure only makes it wait before the next
round. -/
def recoverPending : ℕ → Inbox → Option Inbox
  | 0, _ => none
  | rounds + 1, s =>
      let page := s.pending.take 10
      if page = [] then some s else recoverPending rounds (processAll decode now failing page s)

/-! ### The law -/

/-- The message is valid, and cannot be stored. -/
def Stuck (msg : Message) : Prop := (∃ data, msg.data decode = some data) ∧ failing msg.id = true

/-- **The loop returns, and every valid message that can be stored has been stored and
acknowledged.** -/
def Recovers (s : Inbox) : Prop :=
  ∃ rounds s', recoverPending decode now failing rounds s = some s' ∧
    ∀ msg ∈ s.pending, (∃ data, msg.data decode = some data) → failing msg.id = false →
      s'.rowsOf msg.id ≠ [] ∧ msg ∉ s'.pending

/-! ### Processing a message -/

variable {decode now failing} {s : Inbox} {msg : Message}

theorem runFailing_ackAndDelete :
    runFailing failing (ackAndDelete msg.id) s = (true, s.remove msg.id) := rfl

/-- A message that cannot be stored is left as it is. -/
theorem process_of_stuck (h : Stuck decode failing msg) :
    process decode now failing msg s = (false, s) := by
  obtain ⟨⟨data, hdata⟩, hfail⟩ := h
  obtain ⟨payload, hp, hd⟩ := Option.bind_eq_some_iff.1 hdata
  simp only [process, processMessage, hp, hd, runFailing, Cmd.fails, hfail, if_true, afterInsert]

/-- An invalid message is acknowledged. -/
theorem process_of_invalid (h : msg.data decode = none) :
    process decode now failing msg s = (true, s.remove msg.id) := by
  cases hp : msg.payload with
  | none => simp only [process, processMessage, hp, runFailing_ackAndDelete]
  | some payload =>
      have hd : decode payload = none := by simpa [Message.data, hp] using h
      simp only [process, processMessage, hp, hd, runFailing_ackAndDelete]

def Inbox.insert (s : Inbox) (row : Report) : Inbox := { s with rows := s.rows ++ [row] }

theorem Inbox.rowsOf_insert (s : Inbox) (row : Report) :
    (s.insert row).rowsOf row.ingestMessageId ≠ [] := by
  have hmem : row ∈ (s.insert row).rowsOf row.ingestMessageId :=
    List.mem_filter.2 ⟨List.mem_append_right _ (List.mem_singleton_self _), by simp⟩
  exact List.ne_nil_of_mem hmem

theorem runFailing_reuseExisting (h : s.rowsOf msg.id ≠ []) :
    runFailing failing (reuseExisting msg.id) s = (true, s.remove msg.id) := by
  have hfound : (s.exec (.lookup msg.id)).1 = true := decide_eq_true h
  simp only [reuseExisting, runFailing, Cmd.fails, hfound]
  exact runFailing_ackAndDelete

variable (now) in
/-- A message that can be stored is stored, if it has not been, and acknowledged. -/
theorem process_of_storable {data : ReportData} (hdata : msg.data decode = some data)
    (hok : failing msg.id = false) : ∃ t : Inbox, process decode now failing msg s =
      (true, t.remove msg.id) ∧ t.pending = s.pending ∧ (∀ row ∈ s.rows, row ∈ t.rows) ∧
      t.rowsOf msg.id ≠ [] := by
  obtain ⟨payload, hp, hd⟩ := Option.bind_eq_some_iff.1 hdata
  by_cases hnone : s.rowsOf msg.id = []
  · refine ⟨s.insert ⟨msg.id, data, reportCreatedAt now data.timestamp⟩, ?_, rfl,
      fun _ hr => List.mem_append_left _ hr, Inbox.rowsOf_insert _ _⟩
    simp only [process, processMessage, hp, hd, runFailing, Cmd.fails, hok, Inbox.exec, hnone,
      if_true, afterInsert, Bool.false_eq_true, if_false]
    exact runFailing_ackAndDelete
  · refine ⟨s, ?_, rfl, fun _ hr => hr, hnone⟩
    simp only [process, processMessage, hp, hd, runFailing, Cmd.fails, hok, Inbox.exec, hnone,
      if_false, afterInsert, Bool.false_eq_true]
    exact runFailing_reuseExisting hnone

variable (now) in
/-- **What processing does with a message that is not stuck**: it is acknowledged, and stored if it
is valid. -/
theorem process_of_not_stuck (h : ¬ Stuck decode failing msg) :
    (process decode now failing msg s).2.pending = s.pending.filter (fun m => m.id ≠ msg.id) ∧
      (∀ row ∈ s.rows, row ∈ (process decode now failing msg s).2.rows) ∧
      ((∃ data, msg.data decode = some data) →
        (process decode now failing msg s).2.rowsOf msg.id ≠ []) := by
  cases hdata : msg.data decode with
  | none =>
      rw [process_of_invalid hdata]
      exact ⟨rfl, fun _ hr => hr, fun ⟨_, hsome⟩ => by cases hsome⟩
  | some data =>
      have hok : failing msg.id = false := by
        by_contra hne
        exact h ⟨⟨data, hdata⟩, by simpa using hne⟩
      obtain ⟨t, ht, hpending, hrows, hrow⟩ := process_of_storable now (s := s) hdata hok
      rw [ht]
      refine ⟨?_, hrows, fun _ => hrow⟩
      simp only [Inbox.remove, hpending]

theorem rowsOf_ne_nil_mono {s t : Inbox} (hrows : ∀ row ∈ s.rows, row ∈ t.rows) {id : ℕ}
    (h : s.rowsOf id ≠ []) : t.rowsOf id ≠ [] := by
  obtain ⟨row, hrow⟩ := List.exists_mem_of_ne_nil _ h
  obtain ⟨hmem, hid⟩ := List.mem_filter.1 hrow
  exact List.ne_nil_of_mem (List.mem_filter.2 ⟨hrows row hmem, hid⟩)

/-! ### Rounds -/

variable (now) in
/-- Processing a page without a stuck message acknowledges all of it. -/
theorem processAll_of_not_stuck (page : List Message)
    (h : ∀ msg ∈ page, ¬ Stuck decode failing msg) (s : Inbox) :
    (processAll decode now failing page s).pending =
        s.pending.filter (fun m => m.id ∉ page.map Message.id) ∧
      (∀ row ∈ s.rows, row ∈ (processAll decode now failing page s).rows) ∧
      ∀ msg ∈ page, (∃ data, msg.data decode = some data) →
        (processAll decode now failing page s).rowsOf msg.id ≠ [] := by
  induction page generalizing s with
  | nil => exact ⟨by simp [processAll], fun _ hr => hr, fun _ hm => by cases hm⟩
  | cons msg page ih =>
      obtain ⟨hpend, hrows, hrow⟩ :=
        process_of_not_stuck now (s := s) (h msg List.mem_cons_self)
      obtain ⟨hpend', hrows', hrow'⟩ :=
        ih (fun m hm => h m (List.mem_cons_of_mem _ hm)) (process decode now failing msg s).2
      refine ⟨?_, fun row hr => hrows' row (hrows row hr), ?_⟩
      · rw [processAll, List.foldl_cons, ← processAll, hpend', hpend, List.filter_filter]
        refine List.filter_congr fun m _ => ?_
        simp only [List.map_cons, List.mem_cons, not_or, ne_eq, Bool.decide_and, Bool.and_comm]
      · intro m hm hdata
        rcases List.mem_cons.1 hm with rfl | hm
        · exact rowsOf_ne_nil_mono hrows' (hrow hdata)
        · exact hrow' m hm hdata

/-- A stuck message stays pending. -/
theorem mem_processAll_of_stuck {stuck : Message} (hstuck : Stuck decode failing stuck)
    {page : List Message} (hpage : ∀ msg ∈ page, msg = stuck ∨ msg.id ≠ stuck.id) {s : Inbox}
    (hmem : stuck ∈ s.pending) : stuck ∈ (processAll decode now failing page s).pending := by
  induction page generalizing s with
  | nil => exact hmem
  | cons msg page ih =>
      refine ih (fun m hm => hpage m (List.mem_cons_of_mem _ hm)) ?_
      change stuck ∈ (process decode now failing msg s).2.pending
      by_cases hmsg : Stuck decode failing msg
      · rw [process_of_stuck hmsg]
        exact hmem
      · rw [(process_of_not_stuck now hmsg).1]
        refine List.mem_filter.2 ⟨hmem, ?_⟩
        rcases hpage msg List.mem_cons_self with rfl | hne
        · exact absurd hstuck hmsg
        · simpa using fun heq => hne (Eq.symm heq)

/-- **While a message is stuck, the loop does not return.** -/
theorem recoverPending_of_stuck {stuck : Message} (hstuck : Stuck decode failing stuck)
    (rounds : ℕ) {s : Inbox} (hmem : stuck ∈ s.pending) :
    recoverPending decode now failing rounds s = none := by
  induction rounds generalizing s with
  | zero => rfl
  | succ rounds ih =>
      have hpage : s.pending.take 10 ≠ [] := by
        intro hnil
        rw [List.take_eq_nil_iff.1 hnil |>.resolve_left (by decide)] at hmem
        cases hmem
      simp only [recoverPending, if_neg hpage]
      refine ih (mem_processAll_of_stuck hstuck (fun msg hmsg => ?_) hmem)
      -- the messages of the page are pending, so another one has another number
      by_cases hid : msg.id = stuck.id
      · exact .inl (List.inj_on_of_nodup_map s.distinct (List.mem_of_mem_take hmsg) hmem hid)
      · exact .inr hid

variable (now) in
/-- **Without a stuck message the loop goes through all that is pending.** -/
theorem exists_recoverPending (h : ∀ msg ∈ s.pending, ¬ Stuck decode failing msg) :
    ∃ rounds s', recoverPending decode now failing rounds s = some s' ∧ s'.pending = [] ∧
      (∀ row ∈ s.rows, row ∈ s'.rows) ∧
      ∀ msg ∈ s.pending, (∃ data, msg.data decode = some data) → s'.rowsOf msg.id ≠ [] := by
  -- by induction on the number of pending messages: a round takes at least the first away
  induction hn : s.pending.length using Nat.strong_induction_on generalizing s with
  | _ n ih =>
      by_cases hpage : s.pending.take 10 = []
      · have hnil : s.pending = [] := (List.take_eq_nil_iff.1 hpage).resolve_left (by decide)
        refine ⟨1, s, by simp only [recoverPending, if_pos hpage], hnil, fun _ hr => hr, ?_⟩
        intro msg hmsg
        rw [hnil] at hmsg
        cases hmsg
      · obtain ⟨hpend, hrows, hstored⟩ := processAll_of_not_stuck now
          (s.pending.take 10) (fun msg hmsg => h msg (List.mem_of_mem_take hmsg)) s
        have hsub : ∀ msg ∈ (processAll decode now failing (s.pending.take 10) s).pending,
            msg ∈ s.pending := by
          intro msg hmsg
          rw [hpend] at hmsg
          exact (List.mem_filter.1 hmsg).1
        have hlt : (processAll decode now failing (s.pending.take 10) s).pending.length < n := by
          obtain ⟨first, hfirst⟩ := List.exists_mem_of_ne_nil _ hpage
          rw [hpend, ← hn]
          refine List.length_filter_lt_length_iff_exists.2
            ⟨first, List.mem_of_mem_take hfirst, ?_⟩
          have hid : first.id ∈ (s.pending.take 10).map Message.id :=
            List.mem_map_of_mem hfirst
          simp only [hid, not_true_eq_false, decide_false, Bool.false_eq_true, not_false_eq_true]
        obtain ⟨rounds, s', hrun, hempty, hrows', hstored'⟩ :=
          ih _ hlt (fun msg hmsg => h msg (hsub msg hmsg)) rfl
        refine ⟨rounds + 1, s', by simpa only [recoverPending, if_neg hpage] using hrun, hempty,
          fun row hr => hrows' row (hrows row hr), ?_⟩
        intro msg hmsg hdata
        by_cases hin : msg.id ∈ (s.pending.take 10).map Message.id
        · obtain ⟨same, hsame, hid⟩ := List.mem_map.1 hin
          obtain rfl := List.inj_on_of_nodup_map s.distinct (List.mem_of_mem_take hsame) hmsg hid
          exact rowsOf_ne_nil_mono hrows' (hstored same hsame hdata)
        · refine hstored' msg ?_ hdata
          rw [hpend]
          exact List.mem_filter.2 ⟨hmsg, by simpa using hin⟩

/-- **The loop returns, with everything stored, exactly when nothing that is pending is stuck.** -/
theorem recovers_iff (decode : Decoder) (now : ℤ) (failing : Failing) (s : Inbox) :
    Recovers decode now failing s ↔ ∀ msg ∈ s.pending, ¬ Stuck decode failing msg := by
  constructor
  · rintro ⟨rounds, s', hrun, -⟩ msg hmsg hstuck
    rw [recoverPending_of_stuck hstuck rounds hmsg] at hrun
    cases hrun
  · intro h
    obtain ⟨rounds, s', hrun, hempty, -, hstored⟩ := exists_recoverPending now h
    refine ⟨rounds, s', hrun, fun msg hmsg hdata _ => ⟨hstored msg hmsg hdata, ?_⟩⟩
    rw [hempty]
    exact List.not_mem_nil

/-- One message that cannot be stored keeps the worker from all others. -/
theorem recovery_isStuck : ¬ ∀ (decode : Decoder) (now : ℤ) (failing : Failing) (s : Inbox),
    Recovers decode now failing s := by
  intro h
  -- the database takes no NUL character in a report
  obtain ⟨rounds, s', hrun, -⟩ := h reasonOnly 0 (fun id => id = 1)
    ⟨[⟨1, some "\u0000"⟩, ⟨2, some "spam"⟩], [], by decide⟩
  have hstuck : Stuck reasonOnly (fun id => id = 1) ⟨1, some "\u0000"⟩ := ⟨⟨_, rfl⟩, rfl⟩
  rw [recoverPending_of_stuck hstuck rounds List.mem_cons_self] at hrun
  cases hrun

end Reporting
