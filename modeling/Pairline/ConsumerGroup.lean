/-
**Streams read by a group of consumers.**

The entries of a stream are numbered in the order in which they are added.  A group remembers how far
it has read, and what it has handed to a consumer without being told that it is done; such an entry is
pending, and may be handed to another consumer later.

Main definitions:

* `ConsumerGroup.Pending`, `ConsumerGroup.Group` — what a group remembers;
* `ConsumerGroup.Group.deliver`, `ConsumerGroup.Group.claim`, `ConsumerGroup.Group.ack`,
  `ConsumerGroup.Group.deleteConsumer` — what is done to it;
* `ConsumerGroup.Group.Acknowledged` — an entry has been delivered, and is not pending;
* `ConsumerGroup.scan`, `ConsumerGroup.Group.autoclaim` — **claiming by pages**: a page ends at a
  number of entries that were looked at or of entries that were claimed.

Main results:

* `ConsumerGroup.Group.acknowledged_ack`, `ConsumerGroup.Group.acknowledged_deliver` — how entries
  become acknowledged;
* `ConsumerGroup.Group.foldl_deliver`, `ConsumerGroup.Group.acknowledged_of_foldl_deleteConsumer` —
  the same of several entries, and of what is lost with its consumer;
* `ConsumerGroup.scan_append` — a page and the rest make up the list.
-/

import Mathlib.Data.List.Basic
import Mathlib.Order.Basic
import Mathlib.Order.Nat

set_option relaxedAutoImplicit false
set_option autoImplicit false

namespace ConsumerGroup

/-! ### Groups -/

/-- An entry that a consumer has been handed, and when that was. -/
structure Pending (κ : Type) where
  id : ℕ
  consumer : κ
  deliveredAt : ℕ
  deriving DecidableEq

structure Group (κ : Type) where
  lastDelivered : ℕ
  /-- In the order of the entries. -/
  pending : List (Pending κ)

variable {κ : Type}

namespace Group

def start : Group κ := ⟨0, []⟩

/-- A new entry is handed to a consumer. -/
def deliver (g : Group κ) (consumer : κ) (now id : ℕ) : Group κ where
  lastDelivered := id
  pending := g.pending ++ [⟨id, consumer, now⟩]

/-- Pending entries are handed to another consumer. -/
def claim (g : Group κ) (consumer : κ) (now : ℕ) (ids : List ℕ) : Group κ :=
  { g with
    pending := g.pending.map fun p => if p.id ∈ ids then ⟨p.id, consumer, now⟩ else p }

def ack (g : Group κ) (id : ℕ) : Group κ :=
  { g with pending := g.pending.filter fun p => p.id ≠ id }

/-- A consumer is deleted, and what is pending for it with it. -/
def deleteConsumer [DecidableEq κ] (g : Group κ) (consumer : κ) : Group κ :=
  { g with pending := g.pending.filter fun p => p.consumer ≠ consumer }

/-- The entry is pending. -/
def Awaits (g : Group κ) (id : ℕ) : Prop := ∃ p ∈ g.pending, p.id = id

instance (g : Group κ) (id : ℕ) : Decidable (g.Awaits id) :=
  inferInstanceAs (Decidable (∃ p ∈ g.pending, p.id = id))

/-- **The entry has been delivered, and is not pending.** -/
def Acknowledged (g : Group κ) (id : ℕ) : Prop := id ≤ g.lastDelivered ∧ ¬ g.Awaits id

instance (g : Group κ) (id : ℕ) : Decidable (g.Acknowledged id) :=
  inferInstanceAs (Decidable (_ ∧ _))

variable {g : Group κ} {consumer : κ} {now id n : ℕ} {ids : List ℕ}

theorem awaits_deliver : (g.deliver consumer now id).Awaits n ↔ g.Awaits n ∨ n = id := by
  simp [Awaits, deliver, or_and_right, exists_or, eq_comm]

@[simp] theorem awaits_claim : (g.claim consumer now ids).Awaits n ↔ g.Awaits n := by
  have hid : ∀ p : Pending κ, (if p.id ∈ ids then (⟨p.id, consumer, now⟩ : Pending κ) else p).id =
      p.id := by
    intro p
    split <;> rfl
  simp [Awaits, claim, hid]

theorem awaits_ack : (g.ack id).Awaits n ↔ g.Awaits n ∧ n ≠ id := by
  constructor
  · rintro ⟨p, hp, rfl⟩
    obtain ⟨hmem, hne⟩ := List.mem_filter.1 hp
    exact ⟨⟨p, hmem, rfl⟩, by simpa using hne⟩
  · rintro ⟨⟨p, hp, rfl⟩, hne⟩
    exact ⟨p, List.mem_filter.2 ⟨hp, by simpa using hne⟩, rfl⟩

@[simp] theorem lastDelivered_claim : (g.claim consumer now ids).lastDelivered = g.lastDelivered :=
  rfl

@[simp] theorem lastDelivered_ack : (g.ack id).lastDelivered = g.lastDelivered := rfl

@[simp] theorem lastDelivered_deliver : (g.deliver consumer now id).lastDelivered = id := rfl

@[simp] theorem acknowledged_claim :
    (g.claim consumer now ids).Acknowledged n ↔ g.Acknowledged n := by
  simp [Acknowledged]

/-- An acknowledgement concerns its entry, and no other. -/
theorem acknowledged_ack : (g.ack id).Acknowledged n ↔
    g.Acknowledged n ∨ (n = id ∧ n ≤ g.lastDelivered) := by
  simp only [Acknowledged, awaits_ack, lastDelivered_ack]
  by_cases hn : n = id
  · simp only [hn, ne_eq, not_true_eq_false, and_false, not_false_eq_true, and_true, true_and]
    exact ⟨.inr, fun h => h.elim And.left (fun hle => hle)⟩
  · simp [hn]

/-- What has just been delivered is not acknowledged. -/
theorem not_acknowledged_deliver : ¬ (g.deliver consumer now id).Acknowledged id :=
  fun h => h.2 (awaits_deliver.2 (.inr rfl))

/-- Once the entries up to one are delivered, those among them that are acknowledged had been
delivered before or are passed over. -/
theorem acknowledged_deliver (h : (g.deliver consumer now id).Acknowledged n) :
    g.Acknowledged n ∨ (g.lastDelivered < n ∧ n < id) := by
  obtain ⟨hle, hnot⟩ := h
  have hne : n ≠ id := fun heq => hnot (awaits_deliver.2 (.inr heq))
  have hnot' : ¬ g.Awaits n := fun ha => hnot (awaits_deliver.2 (.inl ha))
  by_cases hlast : n ≤ g.lastDelivered
  · exact .inl ⟨hlast, hnot'⟩
  · exact .inr ⟨by omega, lt_of_le_of_ne hle hne⟩

theorem acknowledged_deliver_of (h : g.Acknowledged n) (hlt : g.lastDelivered < id) :
    (g.deliver consumer now id).Acknowledged n := by
  refine ⟨h.1.trans hlt.le, fun ha => ?_⟩
  rcases awaits_deliver.1 ha with hawaits | rfl
  · exact h.2 hawaits
  · exact absurd h.1 (by omega)

/-- Several entries are acknowledged one after another. -/
theorem acknowledged_of_foldl_ack (h : (ids.foldl ack g).Acknowledged n) :
    g.Acknowledged n ∨ n ∈ ids := by
  induction ids generalizing g with
  | nil => exact .inl h
  | cons id ids ih =>
      rcases ih h with h | h
      · rcases acknowledged_ack.1 h with h | ⟨rfl, -⟩
        · exact .inl h
        · exact .inr List.mem_cons_self
      · exact .inr (List.mem_cons_of_mem _ h)

@[simp] theorem lastDelivered_foldl_ack : (ids.foldl ack g).lastDelivered = g.lastDelivered := by
  induction ids generalizing g with
  | nil => rfl
  | cons id ids ih => exact ih

/-- **The next entries are delivered one after another**: none of them is passed over. -/
theorem foldl_deliver (k : ℕ) : ∀ g : Group κ,
    ((List.range' (g.lastDelivered + 1) k).foldl (fun g id => g.deliver consumer now id)
        g).lastDelivered = g.lastDelivered + k ∧
      (((List.range' (g.lastDelivered + 1) k).foldl (fun g id => g.deliver consumer now id)
        g).Acknowledged n → g.Acknowledged n) := by
  induction k with
  | zero => exact fun g => ⟨rfl, id⟩
  | succ k ih =>
      intro g
      obtain ⟨hlast, hack⟩ := ih (g.deliver consumer now (g.lastDelivered + 1))
      rw [lastDelivered_deliver] at hlast hack
      rw [List.range'_succ, List.foldl_cons]
      refine ⟨by omega, fun h => ?_⟩
      rcases acknowledged_deliver (hack h) with h | ⟨hlt, hle⟩
      · exact h
      · omega

/-- Several consumers are deleted: what becomes acknowledged had been pending for one of them. -/
theorem acknowledged_of_foldl_deleteConsumer [DecidableEq κ] {β : Type} {consumers : List β}
    {name : β → κ}
    (h : (consumers.foldl (fun g consumer => g.deleteConsumer (name consumer)) g).Acknowledged n) :
    g.Acknowledged n ∨ ∃ p ∈ g.pending, p.id = n ∧ ∃ consumer ∈ consumers,
      p.consumer = name consumer := by
  induction consumers generalizing g with
  | nil => exact .inl h
  | cons consumer consumers ih =>
      rcases ih h with ⟨hle, hnot⟩ | ⟨p, hp, hid, consumer', hconsumer', hname⟩
      · by_cases hawaits : g.Awaits n
        · obtain ⟨p, hp, hid⟩ := hawaits
          refine .inr ⟨p, hp, hid, consumer, List.mem_cons_self, ?_⟩
          by_contra hne
          exact hnot ⟨p, List.mem_filter.2 ⟨hp, by simpa using hne⟩, hid⟩
        · exact .inl ⟨hle, hawaits⟩
      · exact .inr ⟨p, List.mem_of_mem_filter hp, hid, consumer', List.mem_cons_of_mem _ hconsumer',
          hname⟩

@[simp] theorem lastDelivered_foldl_deleteConsumer [DecidableEq κ] {β : Type} {consumers : List β}
    {name : β → κ} : (consumers.foldl (fun g consumer => g.deleteConsumer (name consumer))
      g).lastDelivered = g.lastDelivered := by
  induction consumers generalizing g with
  | nil => rfl
  | cons consumer consumers ih => exact ih

end Group

/-! ### Claiming by pages -/

section Pages

variable {α : Type} (stale : α → Bool)

/-- **A page of a list**: the stale ones of the entries that are looked at, and the rest of the list.
The page ends when `looks` entries have been looked at, or `count` have been found stale. -/
def scan : (looks count : ℕ) → List α → List α × List α
  | 0, _, l => ([], l)
  | _ + 1, 0, l => ([], l)
  | _ + 1, _ + 1, [] => ([], [])
  | looks + 1, count + 1, a :: l =>
      if stale a then (a :: (scan looks count l).1, (scan looks count l).2)
      else scan looks (count + 1) l

variable {stale}

/-- A page and the rest make up the list: what is stale in the page has been found. -/
theorem scan_append (looks count : ℕ) (l : List α) :
    ∃ page, l = page ++ (scan stale looks count l).2 ∧
      (scan stale looks count l).1 = page.filter stale := by
  induction looks generalizing count l with
  | zero => exact ⟨[], rfl, rfl⟩
  | succ looks ih =>
      cases count with
      | zero => exact ⟨[], rfl, rfl⟩
      | succ count =>
          cases l with
          | nil => exact ⟨[], rfl, rfl⟩
          | cons a l =>
              by_cases ha : stale a
              · obtain ⟨page, hl, hpage⟩ := ih count l
                refine ⟨a :: page, ?_, ?_⟩
                · simp only [scan, if_pos ha, List.cons_append]
                  exact congrArg _ hl
                · simp only [scan, if_pos ha, List.filter_cons_of_pos ha, hpage]
              · obtain ⟨page, hl, hpage⟩ := ih (count + 1) l
                refine ⟨a :: page, ?_, ?_⟩
                · simp only [scan, if_neg ha, List.cons_append]
                  exact congrArg _ hl
                · simp only [scan, if_neg ha, List.filter_cons_of_neg ha, hpage]

/-- A page looks at an entry, if there is one. -/
theorem length_scan_lt {looks count : ℕ} (hlooks : 0 < looks) (hcount : 0 < count) {l : List α}
    (hl : l ≠ []) : (scan stale looks count l).2.length < l.length := by
  obtain ⟨looks, rfl⟩ := Nat.exists_eq_succ_of_ne_zero hlooks.ne'
  obtain ⟨count, rfl⟩ := Nat.exists_eq_succ_of_ne_zero hcount.ne'
  cases l with
  | nil => exact absurd rfl hl
  | cons a l =>
      have hrest : ∀ c, (scan stale looks c l).2.length ≤ l.length := by
        intro c
        obtain ⟨page, hpage, -⟩ := @scan_append _ stale looks c l
        have hlen := congrArg List.length hpage
        rw [List.length_append] at hlen
        omega
      by_cases ha : stale a
      · simp only [scan, if_pos ha, List.length_cons]
        exact Nat.lt_succ_of_le (hrest count)
      · simp only [scan, if_neg ha, List.length_cons]
        exact Nat.lt_succ_of_le (hrest (count + 1))

end Pages

/-- The entry has been with its consumer for at least some time. -/
def Pending.idleFor (minIdle now : ℕ) (p : Pending κ) : Bool := minIdle ≤ now - p.deliveredAt

/-- **`XAUTOCLAIM`**: the entries of a page, from some number on, that have been idle are handed to a
consumer.  The reply gives the number from which the next page starts, or 0 at the end. -/
def Group.autoclaim (g : Group κ) (consumer : κ) (now minIdle looks count start : ℕ) :
    Group κ × ℕ × List ℕ :=
  let page := scan (Pending.idleFor minIdle now) looks count
    (g.pending.filter fun p => start ≤ p.id)
  let claimed := page.1.map Pending.id
  (g.claim consumer now claimed, (page.2.head?.map Pending.id).getD 0, claimed)

end ConsumerGroup
