/-
**Monitors of a process.**

A process has a mailbox, and may monitor other processes.  A monitor has a reference of its own; when
the process that it watches ends, or cannot be reached any more, a message with the reference comes
into the mailbox, once.  Taking a monitor back with its message flushed leaves neither.

A monitor is pending until its message has been received.  The references of pending monitors are
different, whatever happens.

Main definitions:

* `Monitors.Inbox` — the monitors of a process, and its mailbox;
* `Monitors.Inbox.send`, `fire`, `monitor`, `demonitor`, `receive` — what happens to them;
* `Monitors.Inbox.pending`, `Monitors.Inbox.Fresh` — **the pending monitors**, and that their references
  are different.

Main results:

* `Monitors.Inbox.pending_send`, `pending_fire`, `pending_monitor`, `pending_demonitor`,
  `pending_receive` — **what is pending after each of them**;
* `Monitors.Inbox.Fresh.monitor` and its kin — the references stay different.
-/

import Mathlib.Data.List.Nodup
import Mathlib.Data.List.Perm.Basic

set_option relaxedAutoImplicit false
set_option autoImplicit false

namespace Monitors

/-- What a mailbox may hold. -/
inductive Message (π μ : Type*)
  /-- The process that is watched has ended. -/
  | down (ref : ℕ) (pid : π)
  | info (m : μ)
  deriving DecidableEq

variable {π μ : Type*}

def Message.watched : Message π μ → Option (ℕ × π)
  | .down ref pid => some (ref, pid)
  | .info _ => none

/-- **The monitors of a process, and its mailbox.** -/
structure Inbox (π μ : Type*) where
  monitors : List (ℕ × π)
  mailbox : List (Message π μ)
  nextRef : ℕ

namespace Inbox

/-- The inbox of a new process. -/
def empty : Inbox π μ := ⟨[], [], 0⟩

def send (b : Inbox π μ) (m : μ) : Inbox π μ := { b with mailbox := b.mailbox ++ [.info m] }

/-- The message of a monitor comes. -/
def fire (b : Inbox π μ) (ref : ℕ) : Option (Inbox π μ) :=
  (b.monitors.find? fun m => m.1 = ref).map fun m =>
    { b with
      monitors := b.monitors.filter fun m => m.1 ≠ ref
      mailbox := b.mailbox ++ [.down m.1 m.2] }

/-- A monitor is set; its reference is new. -/
def monitor (b : Inbox π μ) (pid : π) : ℕ × Inbox π μ :=
  (b.nextRef, { b with monitors := b.monitors ++ [(b.nextRef, pid)], nextRef := b.nextRef + 1 })

/-- A message is not that of a monitor. -/
def unlike (ref : ℕ) : Message π μ → Bool
  | .down ref' _ => ref' ≠ ref
  | .info _ => true

/-- A monitor is taken back, and its message is flushed. -/
def demonitor (b : Inbox π μ) (ref : ℕ) : Inbox π μ :=
  { b with
    monitors := b.monitors.filter fun m => m.1 ≠ ref
    mailbox := b.mailbox.filter (unlike ref) }

/-- The next message, and what is left. -/
def receive (b : Inbox π μ) : Option (Message π μ × Inbox π μ) :=
  match b.mailbox with
  | [] => none
  | m :: rest => some (m, { b with mailbox := rest })

/-- **The monitors whose message has not been received.** -/
def pending (b : Inbox π μ) : List (ℕ × π) := b.monitors ++ b.mailbox.filterMap Message.watched

/-- **The references of pending monitors are different**, and none of them will be given again. -/
structure Fresh (b : Inbox π μ) : Prop where
  nodup : (b.pending.map Prod.fst).Nodup
  lt_nextRef : ∀ m ∈ b.pending, m.1 < b.nextRef

variable {b b' : Inbox π μ}

/-! ### What is pending -/

@[simp] theorem pending_empty : (empty : Inbox π μ).pending = [] := rfl

@[simp] theorem pending_send (b : Inbox π μ) (m : μ) : (b.send m).pending = b.pending := by
  have hnone : [Message.info m].filterMap (Message.watched (π := π)) = [] := rfl
  rw [pending, pending, send, List.filterMap_append, hnone, List.append_nil]

theorem pending_monitor (b : Inbox π μ) (pid : π) :
    (b.monitor pid).2.pending.Perm ((b.nextRef, pid) :: b.pending) := by
  rw [pending, pending, monitor, List.append_assoc]
  exact List.perm_middle

theorem pending_demonitor (b : Inbox π μ) (ref : ℕ) :
    (b.demonitor ref).pending = b.pending.filter fun m => m.1 ≠ ref := by
  have hmailbox (l : List (Message π μ)) : (l.filter (unlike ref)).filterMap Message.watched =
      (l.filterMap Message.watched).filter fun m => m.1 ≠ ref := by
    induction l with
    | nil => rfl
    | cons m l ih =>
        cases m with
        | info m => exact ih
        | down ref' pid =>
            have hcons (l : List (Message π μ)) :
                (Message.down ref' pid :: l).filterMap Message.watched =
                  (ref', pid) :: l.filterMap Message.watched := rfl
            by_cases h : ref' = ref
            · rw [List.filter_cons_of_neg (by simp [unlike, h]), ih, hcons,
                List.filter_cons_of_neg (by simp [h])]
            · rw [List.filter_cons_of_pos (by simp [unlike, h]), hcons, ih, hcons,
                List.filter_cons_of_pos (by simp [h])]
  rw [pending, pending, demonitor, List.filter_append, hmailbox]

/-- A message that is received is pending no more. -/
theorem pending_receive {m : Message π μ} (h : b.receive = some (m, b')) :
    b.pending.Perm (m.watched.toList ++ b'.pending) := by
  unfold receive at h
  split at h
  · cases h
  · next m' rest hmailbox =>
      obtain ⟨rfl, rfl⟩ := Prod.mk.inj (Option.some.inj h)
      rw [pending, hmailbox]
      cases m' with
      | info m => exact List.Perm.refl _
      | down ref pid => exact List.perm_middle

theorem nextRef_receive {m : Message π μ} (h : b.receive = some (m, b')) :
    b'.nextRef = b.nextRef := by
  unfold receive at h
  split at h
  · cases h
  · cases h
    rfl

/-- The message of a monitor takes its place. -/
theorem pending_fire (hfresh : b.Fresh) {ref : ℕ} (h : b.fire ref = some b') :
    b'.pending.Perm b.pending := by
  obtain ⟨m, hm, rfl⟩ := Option.map_eq_some_iff.1 h
  have hmem := List.mem_of_find?_eq_some hm
  have href : m.1 = ref := by simpa using List.find?_some hm
  have hnodup : (b.monitors.map Prod.fst).Nodup := by
    have hall := hfresh.nodup
    rw [pending, List.map_append] at hall
    exact hall.of_append_left
  -- the monitor is the only one with its reference
  have hfilter : (m :: b.monitors.filter fun m => m.1 ≠ ref).Perm b.monitors := by
    refine (List.perm_ext_iff_of_nodup ?_ hnodup.of_map).2 fun m' => ?_
    · refine List.nodup_cons.2 ⟨by simp [href], hnodup.of_map.filter _⟩
    · rw [List.mem_cons, List.mem_filter]
      constructor
      · rintro (rfl | ⟨hm', -⟩)
        · exact hmem
        · exact hm'
      · intro hm'
        by_cases heq : m'.1 = ref
        · exact .inl (List.inj_on_of_nodup_map hnodup hm' hmem (heq.trans href.symm))
        · exact .inr ⟨hm', by simpa using heq⟩
  have hdown : [Message.down m.1 m.2].filterMap (Message.watched (μ := μ)) = [m] := rfl
  rw [pending, pending, List.filterMap_append, hdown, ← List.append_assoc]
  refine (List.perm_append_singleton _ _).trans ?_
  rw [← List.cons_append]
  exact hfilter.append_right _

theorem nextRef_fire {ref : ℕ} (h : b.fire ref = some b') : b'.nextRef = b.nextRef := by
  obtain ⟨m, -, rfl⟩ := Option.map_eq_some_iff.1 h
  rfl

/-! ### References stay different -/

theorem fresh_empty : (empty : Inbox π μ).Fresh := ⟨List.nodup_nil, nofun⟩

theorem Fresh.of_perm (h : b.Fresh) (hperm : b'.pending.Perm b.pending)
    (hnext : b.nextRef ≤ b'.nextRef) : b'.Fresh where
  nodup := (hperm.map Prod.fst).nodup_iff.2 h.nodup
  lt_nextRef m hm := Nat.lt_of_lt_of_le (h.lt_nextRef m (hperm.mem_iff.1 hm)) hnext

theorem Fresh.send (h : b.Fresh) (m : μ) : (b.send m).Fresh :=
  h.of_perm (by rw [pending_send]) (Nat.le_refl _)

theorem Fresh.fire (h : b.Fresh) {ref : ℕ} (hfire : b.fire ref = some b') : b'.Fresh :=
  h.of_perm (pending_fire h hfire) (Nat.le_of_eq (nextRef_fire hfire).symm)

theorem Fresh.demonitor (h : b.Fresh) (ref : ℕ) : (b.demonitor ref).Fresh where
  nodup := by
    rw [pending_demonitor]
    exact h.nodup.sublist (List.filter_sublist.map _)
  lt_nextRef m hm := by
    rw [pending_demonitor] at hm
    exact h.lt_nextRef m (List.mem_of_mem_filter hm)

theorem Fresh.monitor (h : b.Fresh) (pid : π) : (b.monitor pid).2.Fresh where
  nodup := by
    rw [((pending_monitor b pid).map Prod.fst).nodup_iff, List.map_cons, List.nodup_cons]
    refine ⟨fun hmem => ?_, h.nodup⟩
    obtain ⟨m, hm, href⟩ := List.mem_map.1 hmem
    have hlt := h.lt_nextRef m hm
    omega
  lt_nextRef m hm := by
    have hnext : (b.monitor pid).2.nextRef = b.nextRef + 1 := rfl
    rcases List.mem_cons.1 ((pending_monitor b pid).mem_iff.1 hm) with rfl | hm
    · omega
    · have hlt := h.lt_nextRef m hm
      omega

theorem Fresh.receive (h : b.Fresh) {m : Message π μ} (hreceive : b.receive = some (m, b')) :
    b'.Fresh where
  nodup := by
    have hnodup := ((pending_receive hreceive).map Prod.fst).nodup_iff.1 h.nodup
    rw [List.map_append] at hnodup
    exact hnodup.of_append_right
  lt_nextRef m' hm' := by
    rw [nextRef_receive hreceive]
    exact h.lt_nextRef m' ((pending_receive hreceive).mem_iff.2 (List.mem_append_right _ hm'))

/-- Of a monitor whose message is received nothing else is pending. -/
theorem Fresh.not_mem_of_receive (h : b.Fresh) {ref : ℕ} {pid : π}
    (hreceive : b.receive = some (.down ref pid, b')) : ref ∉ b'.pending.map Prod.fst := by
  have hnodup := ((pending_receive hreceive).map Prod.fst).nodup_iff.1 h.nodup
  exact (List.nodup_cons.1 hnodup).1

end Inbox

end Monitors
