/-
**Commands, their replies, and the order in which they are sent.**

A command has a reply and an effect on a store.  Commands that are sent one after another are answered
one after another; each may carry a mark, which its reply carries too.  Where the store is divided into
places and each command is for one of them, the replies from a place are those that the commands for it
would have had alone.  Commands that commute may be sent in another order, and replies with marks may be
put back into the order of the marks.

Main definitions:

* `Replies.send`, `Replies.sendAll` — commands sent one after another, without marks and with them;
* `Replies.actAt` — a command for one place;
* `Replies.Commute` — two commands that may be exchanged.

Main results:

* `Replies.send_actAt` — **what comes back from one place**;
* `Replies.eq_of_places` — replies are known when those of every place are;
* `Replies.sendAll_filter` — **some commands may be sent ahead of those that they commute with**;
* `Replies.getElem?_sorted` — replies put into the order of their marks.
-/

import Mathlib.Data.List.Range
import Mathlib.Data.List.Sort
import Mathlib.Logic.Function.Basic

set_option relaxedAutoImplicit false
set_option autoImplicit false

namespace Replies

variable {A R S ι : Type*}

/-! ### Sending -/

section Send

variable (act : A → S → R × S)

/-- **Commands sent one after another.** -/
def send : List A → S → List R × S
  | [], s => ([], s)
  | a :: l, s => ((act a s).1 :: (send l (act a s).2).1, (send l (act a s).2).2)

/-- **Marked commands sent one after another.** -/
def sendAll : List (A × ι) → S → List (ι × R) × S
  | [], s => ([], s)
  | (a, i) :: l, s => ((i, (act a s).1) :: (sendAll l (act a s).2).1, (sendAll l (act a s).2).2)

/-- The two commands may be exchanged. -/
def Commute (a b : A) : Prop :=
  ∀ s, (act b (act a s).2).1 = (act b s).1 ∧ (act a (act b s).2).1 = (act a s).1 ∧
    (act b (act a s).2).2 = (act a (act b s).2).2

variable {act}

@[simp] theorem send_nil (s : S) : send act [] s = ([], s) := rfl

@[simp] theorem sendAll_nil (s : S) : sendAll act ([] : List (A × ι)) s = ([], s) := rfl

@[simp] theorem length_send (l : List A) (s : S) : (send act l s).1.length = l.length := by
  induction l generalizing s with
  | nil => rfl
  | cons a l ih => simp [send, ih]

theorem sendAll_eq_zip (l : List (A × ι)) (s : S) :
    sendAll act l s = ((l.map Prod.snd).zip (send act (l.map Prod.fst) s).1,
      (send act (l.map Prod.fst) s).2) := by
  induction l generalizing s with
  | nil => rfl
  | cons entry l ih => simp [sendAll, send, ih]

theorem sendAll_append (l l' : List (A × ι)) (s : S) : sendAll act (l ++ l') s =
    ((sendAll act l s).1 ++ (sendAll act l' (sendAll act l s).2).1,
      (sendAll act l' (sendAll act l s).2).2) := by
  induction l generalizing s with
  | nil => rfl
  | cons entry l ih => simp [sendAll, ih]

theorem map_fst_sendAll (l : List (A × ι)) (s : S) :
    (sendAll act l s).1.map Prod.fst = l.map Prod.snd := by
  induction l generalizing s with
  | nil => rfl
  | cons entry l ih => simp [sendAll, ih]

end Send

/-! ### Places -/

section Places

variable {N σ : Type*} [DecidableEq N] (place : A → N) (serve : A → σ → R × σ)

/-- **A command for one place.** -/
def actAt (a : A) (s : N → σ) : R × (N → σ) :=
  ((serve a (s (place a))).1, Function.update s (place a) (serve a (s (place a))).2)

variable {place serve}

/-- **What comes back from one place** is what the commands for it bring back alone. -/
theorem send_actAt (n : N) (l : List A) (s : N → σ) :
    ((l.zip (send (actAt place serve) l s).1).filter fun entry => place entry.1 = n).map Prod.snd =
        (send serve (l.filter fun a => place a = n) (s n)).1 ∧
      (send (actAt place serve) l s).2 n = (send serve (l.filter fun a => place a = n) (s n)).2 := by
  induction l generalizing s with
  | nil => exact ⟨rfl, rfl⟩
  | cons a l ih =>
      obtain ⟨hreplies, hstate⟩ := ih (actAt place serve a s).2
      by_cases h : place a = n
      · subst h
        have hhere : (actAt place serve a s).2 (place a) = (serve a (s (place a))).2 :=
          Function.update_self ..
        rw [hhere] at hreplies hstate
        have hreply : (actAt place serve a s).1 = (serve a (s (place a))).1 := rfl
        simp [send, hreplies, hstate, hreply]
      · have helse : (actAt place serve a s).2 n = s n := Function.update_of_ne (Ne.symm h) _ _
        rw [helse] at hreplies hstate
        simp [send, h, hreplies, hstate]

/-- **Replies are known when those of every place are.** -/
theorem eq_of_places {l : List A} {rs rs' : List R} (hlen : rs.length = l.length)
    (hlen' : rs'.length = l.length)
    (h : ∀ n, ((l.zip rs).filter fun entry => place entry.1 = n).map Prod.snd =
      ((l.zip rs').filter fun entry => place entry.1 = n).map Prod.snd) : rs = rs' := by
  induction l generalizing rs rs' with
  | nil => rw [List.length_eq_zero_iff.1 hlen, List.length_eq_zero_iff.1 hlen']
  | cons a l ih =>
      obtain ⟨r, rs, rfl⟩ := List.exists_cons_of_length_eq_add_one hlen
      obtain ⟨r', rs', rfl⟩ := List.exists_cons_of_length_eq_add_one hlen'
      have hhere := h (place a)
      simp only [List.zip_cons_cons, List.filter_cons, decide_true, if_true, List.map_cons,
        List.cons.injEq] at hhere
      rw [hhere.1]
      refine congrArg _ (ih (Nat.succ.inj hlen) (Nat.succ.inj hlen') fun n => ?_)
      by_cases hn : place a = n
      · subst hn
        exact hhere.2
      · simpa [List.filter_cons, hn] using h n

end Places

/-! ### Another order -/

section Order

variable {act : A → S → R × S}

/-- A command may be sent after those that it commutes with. -/
theorem sendAll_move {a : A} {i : ι} {l : List (A × ι)} (h : ∀ entry ∈ l, Commute act a entry.1)
    (s : S) : (sendAll act (l ++ [(a, i)]) s).1.Perm (sendAll act ((a, i) :: l) s).1 ∧
      (sendAll act (l ++ [(a, i)]) s).2 = (sendAll act ((a, i) :: l) s).2 := by
  induction l generalizing s with
  | nil => exact ⟨.refl _, rfl⟩
  | cons entry l ih =>
      obtain ⟨b, j⟩ := entry
      obtain ⟨hb, ha, hstate⟩ := h (b, j) List.mem_cons_self s
      obtain ⟨hperm, hend⟩ := ih (fun entry hentry => h entry (List.mem_cons_of_mem _ hentry))
        (act b s).2
      simp only [sendAll] at hperm hend
      simp only [List.cons_append, sendAll, hb, hstate, hend]
      rw [ha] at hperm
      exact ⟨(hperm.cons _).trans (List.Perm.swap _ _ _), trivial⟩

/-- **Some commands may be sent ahead of those that they commute with.** -/
theorem sendAll_filter {p : A → Bool} {l : List (A × ι)}
    (h : l.Pairwise fun entry entry' => p entry.1 = false → p entry'.1 = true →
      Commute act entry.1 entry'.1) (s : S) :
    (sendAll act (l.filter (fun entry => p entry.1) ++ l.filter fun entry => !p entry.1) s).1.Perm
        (sendAll act l s).1 ∧
      (sendAll act (l.filter (fun entry => p entry.1) ++ l.filter fun entry => !p entry.1) s).2 =
        (sendAll act l s).2 := by
  induction l generalizing s with
  | nil => exact ⟨.refl _, rfl⟩
  | cons entry l ih =>
      obtain ⟨hentry, hrest⟩ := List.pairwise_cons.1 h
      obtain ⟨a, i⟩ := entry
      obtain ⟨hperm, hend⟩ := ih hrest (act a s).2
      cases hp : p a with
      | true =>
          simp only [List.filter_cons, hp, if_true, Bool.not_true, Bool.false_eq_true, if_false,
            List.cons_append, sendAll]
          exact ⟨hperm.cons _, hend⟩
      | false =>
          -- the command itself waits until those ahead of it have been sent
          have hahead : ∀ entry ∈ l.filter fun entry => p entry.1, Commute act a entry.1 :=
            fun entry hmem => hentry entry (List.mem_of_mem_filter hmem) hp (List.mem_filter.1 hmem).2
          obtain ⟨hmove, hmoved⟩ := @sendAll_move _ _ _ _ act a i _ hahead s
          simp only [List.filter_cons, hp, Bool.not_false, if_true, Bool.false_eq_true, if_false]
          rw [List.append_cons, sendAll_append, hmoved]
          rw [sendAll_append] at hperm hend
          simp only [sendAll]
          refine ⟨(hmove.append_right _).trans ?_, hend⟩
          exact hperm.cons _

end Order

/-! ### The order of the marks -/

/-- Replies whose marks are the positions of their commands. -/
theorem mem_sendAll_zipIdx {act : A → S → R × S} {l : List A} {s : S} {i : ℕ} {r : R} :
    (i, r) ∈ (sendAll act l.zipIdx s).1 ↔ (send act l s).1[i]? = some r := by
  have hmarks : l.zipIdx.map Prod.snd = List.range (send act l s).1.length := by
    rw [length_send, List.zipIdx_map_snd, List.range_eq_range']
  rw [sendAll_eq_zip, List.zipIdx_map_fst, hmarks, List.mem_iff_getElem?]
  simp only [List.getElem?_zip_eq_some]
  constructor
  · rintro ⟨j, hj, hr⟩
    have hji : j = i := by
      obtain ⟨hlt, hji⟩ := List.getElem?_eq_some_iff.1 hj
      rwa [List.getElem_range] at hji
    rwa [hji] at hr
  · intro hr
    exact ⟨i, List.getElem?_range (List.getElem?_eq_some_iff.1 hr).1, hr⟩

/-- The marks after some commands were sent ahead. -/
theorem perm_filter_zipIdx (p : A → Bool) (l : List A) :
    ((l.zipIdx.filter (fun entry => p entry.1) ++ l.zipIdx.filter fun entry => !p entry.1).map
      Prod.snd).Perm (List.range l.length) := by
  refine ((List.filter_append_perm _ _).map _).trans ?_
  rw [List.zipIdx_map_snd, List.range_eq_range']

/-- **Replies put into the order of their marks**, when these are the positions of a list. -/
theorem getElem?_sorted {n : ℕ} {l : List (ℕ × R)} (h : (l.map Prod.fst).Perm (List.range n)) :
    ((l.mergeSort fun entry entry' => entry.1 ≤ entry'.1).map Prod.snd).length = n ∧
      ∀ i r, ((l.mergeSort fun entry entry' => entry.1 ≤ entry'.1).map Prod.snd)[i]? = some r ↔
        (i, r) ∈ l := by
  generalize hm : (l.mergeSort fun entry entry' => decide (entry.1 ≤ entry'.1)) = m
  have hperm : m.Perm l := hm ▸ List.mergeSort_perm l _
  have hsorted : m.Pairwise fun entry entry' => entry.1 ≤ entry'.1 := by
    have hle := @List.pairwise_mergeSort _ (fun entry entry' : ℕ × R => decide (entry.1 ≤ entry'.1))
      (fun a b c => by simpa using le_trans) (fun a b => by simpa using le_total a.1 b.1) l
    rw [hm] at hle
    exact hle.imp fun hle => of_decide_eq_true hle
  have hmarks : m.map Prod.fst = List.range n := by
    have hmarked : (m.map Prod.fst).Pairwise (· ≤ ·) := List.pairwise_map.2 hsorted
    exact ((hperm.map _).trans h).eq_of_pairwise' hmarked List.pairwise_le_range
  have hlen : m.length = n := by simpa using congrArg List.length hmarks
  refine ⟨by simpa using hlen, fun i r => ?_⟩
  rw [← hperm.mem_iff, List.mem_iff_getElem?]
  have hmark : ∀ j (entry : ℕ × R), m[j]? = some entry → entry.1 = j := by
    intro j entry hj
    have hfst : (m.map Prod.fst)[j]? = some entry.1 := by rw [List.getElem?_map, hj]; rfl
    rw [hmarks] at hfst
    obtain ⟨hlt, heq⟩ := List.getElem?_eq_some_iff.1 hfst
    simpa using heq.symm
  constructor
  · intro hi
    rw [List.getElem?_map, Option.map_eq_some_iff] at hi
    obtain ⟨⟨j, r'⟩, hj, rfl⟩ := hi
    have hji : j = i := hmark i _ hj
    exact ⟨i, hji ▸ hj⟩
  · rintro ⟨j, hj⟩
    obtain rfl : i = j := hmark j _ hj
    rw [List.getElem?_map, hj]
    rfl

end Replies
