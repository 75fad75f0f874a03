/-
**The attempts of a sweep.**

A sweep goes on after every attempt to pair two sessions, whatever has become of it: it drops both of
them, or only the one that has gone and keeps the other at the head of its pool.  An attempt is looked
at here with what the sweep knew when it made it, so that what holds of all attempts can be said
without their outcomes.

Main definitions:

* `Matchmaker.Attempt`, `Matchmaker.SweepRun` — an attempt, and the attempts of a sweep;
* `Matchmaker.tryPair` — pairing with given outcomes, which records the attempts.

Main results:

* `Matchmaker.matchFromPool_fuel` — a sweep ends: the length of its pool is enough fuel;
* `Matchmaker.exists_sweepRun` — with it the sweep makes the attempts of one `SweepRun`;
* `Matchmaker.SweepRun.nodup` — no session is in two pairs;
* `Matchmaker.sweep_safety` — **the attempts of a sweep are between different, compatible sessions of
  its pool, the successful ones have no session in common, and a recent partner is tried only for want
  of another**.
-/

import Pairline.Matchmaker.Sweep

set_option relaxedAutoImplicit false
set_option autoImplicit false

namespace Matchmaker

/-! ### Attempts -/

/-- **An attempt to pair two sessions**: the two, the candidates among which the second one was chosen,
the sessions that were out of the sweep by then, and what came of it. -/
structure Attempt where
  first : Candidate
  second : Candidate
  frontier : List Candidate
  matched : List SessionId
  result : PairResult

/-- The pool that the sweep goes on with. -/
def Attempt.nextPool (a : Attempt) (remaining : List Candidate) : List Candidate :=
  match a.result with
  | .session1Removed => a.second :: remaining
  | .session2Removed => a.first :: remaining
  | .ok | .bothRemoved | .failed => remaining

/-- The sessions that are out of the sweep afterwards. -/
def Attempt.nextMatched (a : Attempt) : List SessionId :=
  match a.result with
  | .session1Removed => a.first.sid :: a.matched
  | .session2Removed => a.second.sid :: a.matched
  | .ok | .bothRemoved | .failed => a.second.sid :: a.first.sid :: a.matched

/-- **The attempts that a sweep makes of a pool.** -/
inductive SweepRun (config : Config) (queueKey : String) :
    List Candidate → List SessionId → List Attempt → Prop
  | done {matched : List SessionId} : SweepRun config queueKey [] matched []
  | skipped {c : Candidate} {rest : List Candidate} {matched : List SessionId}
      {made : List Attempt} (hc : c.sid ∈ matched)
      (next : SweepRun config queueKey rest matched made) :
      SweepRun config queueKey (c :: rest) matched made
  | alone {c : Candidate} {rest : List Candidate} {matched : List SessionId}
      {made : List Attempt} (hc : c.sid ∉ matched)
      (hpick : findCompatiblePartner config queueKey c (takeFrontier config rest matched).1 matched =
        none)
      (next : SweepRun config queueKey rest matched made) :
      SweepRun config queueKey (c :: rest) matched made
  | attempt {a : Attempt} {rest remainingFrontier : List Candidate} {made : List Attempt}
      (hc : a.first.sid ∉ a.matched) (hfrontier : a.frontier = (takeFrontier config rest a.matched).1)
      (hpick : findCompatiblePartner config queueKey a.first a.frontier a.matched =
        some (a.second, remainingFrontier))
      (next : SweepRun config queueKey
        (a.nextPool (remainingFrontier ++ (takeFrontier config rest a.matched).2)) a.nextMatched
        made) :
      SweepRun config queueKey (a.first :: rest) a.matched (a :: made)

/-! ### The frontier -/

/-- The candidates that are not matched, the first ones in the frontier and the others deferred. -/
theorem takeFrontier_eq_filter (config : Config) (candidates : List Candidate)
    (matched : List SessionId) :
    takeFrontier config candidates matched =
      ((candidates.filter (·.sid ∉ matched)).take config.matchFrontierSize,
        (candidates.filter (·.sid ∉ matched)).drop config.matchFrontierSize) := by
  -- both lists grow at their heads; the frontier is full once anything is deferred
  have hfold : ∀ (candidates frontier deferred : List Candidate),
      (deferred ≠ [] → config.matchFrontierSize ≤ frontier.length) →
      frontier.length ≤ config.matchFrontierSize →
      ∃ count, candidates.foldl (takeFrontierStep config.matchFrontierSize matched)
          (frontier, deferred, frontier.length) =
        ((frontier.reverse ++ deferred.reverse ++ candidates.filter (·.sid ∉ matched)).take
            config.matchFrontierSize |>.reverse,
          (frontier.reverse ++ deferred.reverse ++ candidates.filter (·.sid ∉ matched)).drop
            config.matchFrontierSize |>.reverse, count) := by
    intro candidates
    induction candidates with
    | nil =>
        intro frontier deferred hfull hle
        refine ⟨frontier.length, ?_⟩
        rw [List.foldl_nil, List.filter_nil, List.append_nil]
        by_cases hdeferred : deferred = []
        · subst hdeferred
          rw [List.reverse_nil, List.append_nil, List.take_of_length_le (by simpa using hle),
            List.drop_of_length_le (by simpa using hle), List.reverse_reverse, List.reverse_nil]
        · have hlength : config.matchFrontierSize = frontier.reverse.length := by
            rw [List.length_reverse]
            exact le_antisymm (hfull hdeferred) hle
          rw [hlength, List.take_left, List.drop_left, List.reverse_reverse, List.reverse_reverse]
    | cons c rest ih =>
        intro frontier deferred hfull hle
        rw [List.foldl_cons, takeFrontierStep]
        by_cases hc : c.sid ∈ matched
        · rw [if_pos hc, List.filter_cons_of_neg (by simpa using hc)]
          exact ih frontier deferred hfull hle
        · rw [if_neg hc, List.filter_cons_of_pos (by simpa using hc)]
          by_cases hlt : frontier.length < config.matchFrontierSize
          · obtain rfl : deferred = [] := by
              by_contra hne
              exact absurd (hfull hne) (by omega)
            rw [if_pos hlt]
            have hnext := ih (c :: frontier) [] (fun hne => absurd rfl hne)
              (by rw [List.length_cons]; omega)
            simpa using hnext
          · rw [if_neg hlt]
            have hnext := ih frontier (c :: deferred) (fun _ => by omega) hle
            simpa using hnext
  obtain ⟨count, hcount⟩ := hfold candidates [] [] (fun hne => absurd rfl hne) (Nat.zero_le _)
  rw [takeFrontier]
  simp only [List.length_nil] at hcount
  simp only [hcount, List.reverse_nil, List.nil_append, List.reverse_reverse]

theorem mem_frontier {config : Config} {candidates : List Candidate} {matched : List SessionId}
    {c : Candidate} (h : c ∈ (takeFrontier config candidates matched).1) :
    c ∈ candidates ∧ c.sid ∉ matched := by
  rw [takeFrontier_eq_filter] at h
  simpa using List.mem_filter.1 (List.mem_of_mem_take h)

/-! ### The choice -/

/-- A pass returns a compatible candidate, and what comes after it. -/
theorem findCompatiblePartnerPass_eq_some {config : Config} {queueKey : String} {c c' : Candidate}
    {matched : List SessionId} {fresh : Bool} {remaining : List Candidate} :
    ∀ {candidates : List Candidate},
      findCompatiblePartnerPass config queueKey c matched fresh candidates = some (c', remaining) →
      c'.sid ∉ matched ∧ (fresh = true → recentPartner c c' = false) ∧
        compatible config queueKey c c' = true := by
  intro candidates
  induction candidates with
  | nil => intro h; simp [findCompatiblePartnerPass] at h
  | cons first others ih =>
      intro h
      rw [findCompatiblePartnerPass] at h
      split_ifs at h with hmatched hrecent hcompatible
      · exact ih h
      · exact ih h
      · rw [Option.some_inj, Prod.mk.injEq] at h
        obtain ⟨rfl, rfl⟩ := h
        refine ⟨hmatched, fun hfresh => ?_, hcompatible⟩
        rw [hfresh, Bool.true_and] at hrecent
        exact Bool.eq_false_iff.2 hrecent
      · exact ih h

/-- A pass for a partner that is not recent finds one whenever there is one. -/
theorem findCompatiblePartnerPass_eq_none {config : Config} {queueKey : String} {c : Candidate}
    {matched : List SessionId} :
    ∀ {candidates : List Candidate},
      findCompatiblePartnerPass config queueKey c matched true candidates = none →
      ∀ c' ∈ candidates, c'.sid ∉ matched → compatible config queueKey c c' = true →
        recentPartner c c' = true := by
  intro candidates
  induction candidates with
  | nil => intro _ c' hc'; cases hc'
  | cons first others ih =>
      intro h c' hc' hmatched hcompatible
      rw [findCompatiblePartnerPass] at h
      rcases List.mem_cons.1 hc' with rfl | hc'
      · rw [if_neg hmatched, Bool.true_and] at h
        by_contra hrecent
        rw [if_neg hrecent, if_pos hcompatible] at h
        cases h
      · split_ifs at h with hfirst hrecent hothers
        · exact ih h c' hc' hmatched hcompatible
        · exact ih h c' hc' hmatched hcompatible
        · exact ih h c' hc' hmatched hcompatible

/-- **The partner that is chosen**: compatible, not matched, and recent only if every compatible
candidate is. -/
theorem findCompatiblePartner_eq_some {config : Config} {queueKey : String} {c c' : Candidate}
    {matched : List SessionId} {candidates remaining : List Candidate}
    (h : findCompatiblePartner config queueKey c candidates matched = some (c', remaining)) :
    (∃ passed, candidates = passed ++ c' :: remaining) ∧ c'.sid ∉ matched ∧
      compatible config queueKey c c' = true ∧
      (recentPartner c c' = true → ∀ d ∈ candidates, d.sid ∉ matched →
        compatible config queueKey c d = true → recentPartner c d = true) := by
  rcases Option.or_eq_some_iff.1 h with hfresh | ⟨hnone, hany⟩
  · obtain ⟨hmatched, hrecent, hcompatible⟩ := findCompatiblePartnerPass_eq_some hfresh
    refine ⟨findCompatiblePartnerPass_leaves hfresh, hmatched, hcompatible, fun h => ?_⟩
    rw [hrecent rfl] at h
    cases h
  · obtain ⟨hmatched, -, hcompatible⟩ := findCompatiblePartnerPass_eq_some hany
    exact ⟨findCompatiblePartnerPass_leaves hany, hmatched, hcompatible,
      fun _ => findCompatiblePartnerPass_eq_none hnone⟩

/-- The partner and what remains of the pool are a part of the pool, in its order. -/
theorem sublist_of_findCompatiblePartner {config : Config} {queueKey : String} {c c' : Candidate}
    {matched : List SessionId} {rest remainingFrontier : List Candidate}
    (h : findCompatiblePartner config queueKey c (takeFrontier config rest matched).1 matched =
      some (c', remainingFrontier)) :
    (c' :: (remainingFrontier ++ (takeFrontier config rest matched).2)).Sublist rest := by
  obtain ⟨⟨passed, hpassed⟩, -⟩ := findCompatiblePartner_eq_some h
  have hsplit : (takeFrontier config rest matched).1 ++ (takeFrontier config rest matched).2 =
      rest.filter (·.sid ∉ matched) := by
    rw [takeFrontier_eq_filter]
    exact List.take_append_drop _ _
  rw [hpassed, List.append_assoc, List.cons_append] at hsplit
  have hsub : (passed ++ c' :: (remainingFrontier ++ (takeFrontier config rest matched).2)).Sublist
      rest := hsplit ▸ List.filter_sublist
  exact (List.sublist_append_right passed _).trans hsub

/-! ### A sweep ends -/

/-- **More fuel than the length of the pool changes nothing**, however sessions are paired. -/
theorem matchFromPool_fuel {m : Type → Type} [Monad m] (config : Config)
    (pairUsers : SessionId → SessionId → m PairResult) (queueKey : String) :
    ∀ (fuel fuel' : ℕ) (pool : List Candidate) (matched : List SessionId), pool.length ≤ fuel →
      pool.length ≤ fuel' → matchFromPool config pairUsers queueKey fuel pool matched =
        matchFromPool config pairUsers queueKey fuel' pool matched := by
  have hnil : ∀ (fuel : ℕ) (matched : List SessionId),
      matchFromPool config pairUsers queueKey fuel [] matched = pure () := by
    intro fuel matched
    cases fuel <;> rfl
  intro fuel
  induction fuel with
  | zero =>
      intro fuel' pool matched hfuel _
      obtain rfl : pool = [] := List.eq_nil_of_length_eq_zero (by omega)
      rw [hnil, hnil]
  | succ fuel ih =>
      intro fuel' pool matched hfuel hfuel'
      cases pool with
      | nil => rw [hnil, hnil]
      | cons c rest =>
          rw [List.length_cons] at hfuel hfuel'
          obtain ⟨fuel', rfl⟩ : ∃ n, fuel' = n + 1 := ⟨fuel' - 1, by omega⟩
          by_cases hc : c.sid ∈ matched
          · rw [matchFromPool, matchFromPool, if_pos hc, if_pos hc]
            exact ih fuel' rest matched (by omega) (by omega)
          · cases hpick : findCompatiblePartner config queueKey c
                (takeFrontier config rest matched).1 matched with
            | none =>
                simp only [matchFromPool, if_neg hc, hpick]
                exact ih fuel' rest matched (by omega) (by omega)
            | some choice =>
                obtain ⟨c', remainingFrontier⟩ := choice
                have hlength := (sublist_of_findCompatiblePartner hpick).length_le
                rw [List.length_cons] at hlength
                simp only [matchFromPool, if_neg hc, hpick]
                refine congrArg _ (funext fun result => ?_)
                cases result with
                | session1Removed =>
                    exact ih fuel' _ _ (by rw [List.length_cons]; omega)
                      (by rw [List.length_cons]; omega)
                | session2Removed =>
                    exact ih fuel' _ _ (by rw [List.length_cons]; omega)
                      (by rw [List.length_cons]; omega)
                | ok => exact ih fuel' _ _ (by omega) (by omega)
                | bothRemoved => exact ih fuel' _ _ (by omega) (by omega)
                | failed => exact ih fuel' _ _ (by omega) (by omega)

/-- Pairing that has the given outcomes, one after another, and records the attempts. -/
def tryPair (outcome : ℕ → PairResult) (sid sid' : SessionId) :
    StateM (List (SessionId × SessionId × PairResult)) PairResult := do
  let tried ← get
  set (tried ++ [(sid, sid', outcome tried.length)])
  pure (outcome tried.length)

/-- What is recorded of an attempt. -/
def Attempt.record (a : Attempt) : SessionId × SessionId × PairResult :=
  (a.first.sid, a.second.sid, a.result)

variable {config : Config} {queueKey : String} {outcome : ℕ → PairResult}

/-- The sweep at a session that finds a partner. -/
theorem run_matchFromPool_attempt (fuel : ℕ) {a : Attempt} {rest remainingFrontier : List Candidate}
    (hc : a.first.sid ∉ a.matched) (hfrontier : a.frontier = (takeFrontier config rest a.matched).1)
    (hpick : findCompatiblePartner config queueKey a.first a.frontier a.matched =
      some (a.second, remainingFrontier))
    (tried : List (SessionId × SessionId × PairResult)) (hresult : a.result = outcome tried.length) :
    (matchFromPool config (tryPair outcome) queueKey (fuel + 1) (a.first :: rest) a.matched).run
        tried =
      (matchFromPool config (tryPair outcome) queueKey fuel
        (a.nextPool (remainingFrontier ++ (takeFrontier config rest a.matched).2))
        a.nextMatched).run (tried ++ [a.record]) := by
  rw [hfrontier] at hpick
  simp only [matchFromPool, if_neg hc, hpick, Attempt.record, Attempt.nextPool, Attempt.nextMatched,
    hresult, tryPair]
  cases hout : outcome tried.length with
  | ok => simp [hout]
  | session1Removed => simp [hout]
  | session2Removed => simp [hout]
  | bothRemoved => simp [hout]
  | failed => simp [hout]

/-- Whatever comes of an attempt, what is left of the pool is a part of it, in its order. -/
theorem Attempt.nextPool_sublist (a : Attempt) {rest remainingFrontier : List Candidate}
    (h : findCompatiblePartner config queueKey a.first (takeFrontier config rest a.matched).1
      a.matched = some (a.second, remainingFrontier)) :
    (a.nextPool (remainingFrontier ++ (takeFrontier config rest a.matched).2)).Sublist
      (a.first :: rest) := by
  have hsub := sublist_of_findCompatiblePartner h
  have hremaining := (List.sublist_cons_self a.second _).trans hsub
  unfold Attempt.nextPool
  cases a.result with
  | session1Removed => exact hsub.cons _
  | session2Removed => exact hremaining.cons_cons _
  | ok => exact hremaining.cons _
  | bothRemoved => exact hremaining.cons _
  | failed => exact hremaining.cons _

/-- It gets shorter. -/
theorem Attempt.length_nextPool {a : Attempt} {rest remainingFrontier : List Candidate}
    (h : findCompatiblePartner config queueKey a.first (takeFrontier config rest a.matched).1
      a.matched = some (a.second, remainingFrontier)) :
    (a.nextPool (remainingFrontier ++ (takeFrontier config rest a.matched).2)).length ≤
      rest.length := by
  have hle := (sublist_of_findCompatiblePartner h).length_le
  rw [List.length_cons] at hle
  unfold Attempt.nextPool
  cases a.result <;> simp only [List.length_cons] <;> omega

/-- **A sweep with enough fuel makes the attempts of one `SweepRun`**, which have the outcomes that the
attempts are given. -/
theorem exists_sweepRun (config : Config) (queueKey : String) (outcome : ℕ → PairResult) :
    ∀ (fuel : ℕ) (pool : List Candidate) (matched : List SessionId)
      (tried : List (SessionId × SessionId × PairResult)), pool.length ≤ fuel →
      ∃ made, SweepRun config queueKey pool matched made ∧
        (∀ i a, made[i]? = some a → a.result = outcome (tried.length + i)) ∧
        (matchFromPool config (tryPair outcome) queueKey fuel pool matched).run tried =
          ((), tried ++ made.map Attempt.record) := by
  intro fuel
  induction fuel with
  | zero =>
      intro pool matched tried hfuel
      obtain rfl : pool = [] := List.eq_nil_of_length_eq_zero (by omega)
      refine ⟨[], .done, fun i a h => ?_, by rw [List.map_nil, List.append_nil]; rfl⟩
      rw [List.getElem?_nil] at h
      cases h
  | succ fuel ih =>
      intro pool matched tried hfuel
      cases pool with
      | nil =>
          refine ⟨[], .done, fun i a h => ?_, by rw [List.map_nil, List.append_nil]; rfl⟩
          rw [List.getElem?_nil] at h
          cases h
      | cons c rest =>
          rw [List.length_cons] at hfuel
          by_cases hc : c.sid ∈ matched
          · obtain ⟨made, hmade, hresults, hrun⟩ := ih rest matched tried (by omega)
            refine ⟨made, .skipped hc hmade, hresults, ?_⟩
            rw [matchFromPool, if_pos hc, hrun]
          · cases hpick : findCompatiblePartner config queueKey c
                (takeFrontier config rest matched).1 matched with
            | none =>
                obtain ⟨made, hmade, hresults, hrun⟩ := ih rest matched tried (by omega)
                refine ⟨made, .alone hc hpick hmade, hresults, ?_⟩
                simp only [matchFromPool, if_neg hc, hpick, hrun]
            | some choice =>
                obtain ⟨c', remainingFrontier⟩ := choice
                let a : Attempt := ⟨c, c', (takeFrontier config rest matched).1, matched,
                  outcome tried.length⟩
                have hlength : (a.nextPool (remainingFrontier ++
                    (takeFrontier config rest matched).2)).length ≤ rest.length :=
                  Attempt.length_nextPool (a := a) hpick
                obtain ⟨made, hmade, hresults, hrun⟩ := ih
                  (a.nextPool (remainingFrontier ++ (takeFrontier config rest matched).2))
                  a.nextMatched (tried ++ [a.record]) (by omega)
                refine ⟨a :: made, .attempt (a := a) hc rfl hpick hmade, fun i b hb => ?_, ?_⟩
                · cases i with
                  | zero => rw [← Option.some_inj.1 hb]; rfl
                  | succ i =>
                      rw [hresults i b hb, List.length_append, List.length_singleton]
                      congr 1
                      omega
                · have hstep := run_matchFromPool_attempt fuel (a := a) hc rfl hpick tried rfl
                  rw [hstep, hrun, List.map_cons, List.append_assoc, List.singleton_append]

/-! ### What holds of every attempt -/

/-- **A sensible attempt**: neither session was out of the sweep, the second one comes from the
frontier and is compatible with the first, and it is a recent partner only if every compatible
candidate of the frontier is one. -/
structure Attempt.Sensible (config : Config) (queueKey : String) (a : Attempt) : Prop where
  first : a.first.sid ∉ a.matched
  second : a.second.sid ∉ a.matched
  mem : a.second ∈ a.frontier
  suits : compatible config queueKey a.first a.second = true
  recent : recentPartner a.first a.second = true → ∀ c ∈ a.frontier,
    compatible config queueKey a.first c = true → recentPartner a.first c = true

namespace SweepRun

variable {pool : List Candidate} {matched : List SessionId} {made : List Attempt}

/-- Every attempt of a sweep is sensible. -/
theorem sensible (h : SweepRun config queueKey pool matched made) :
    ∀ a ∈ made, a.Sensible config queueKey := by
  induction h with
  | done => exact fun a ha => absurd ha List.not_mem_nil
  | skipped hc next ih => exact ih
  | alone hc hpick next ih => exact ih
  | @attempt a rest remainingFrontier made hc hfrontier hpick next ih =>
      intro b hb
      rcases List.mem_cons.1 hb with rfl | hb
      · obtain ⟨⟨passed, hpassed⟩, hsecond, hcompatible, hrecent⟩ :=
          findCompatiblePartner_eq_some hpick
        refine ⟨hc, hsecond, ?_, hcompatible, fun h d hd => hrecent h d hd ?_⟩
        · rw [hpassed]
          exact List.mem_append_right _ List.mem_cons_self
        · rw [hfrontier] at hd
          exact (mem_frontier hd).2
      · exact ih b hb

/-- What is out of the sweep stays out of it. -/
theorem matched_subset (h : SweepRun config queueKey pool matched made) :
    ∀ a ∈ made, matched ⊆ a.matched := by
  induction h with
  | done => exact fun a ha => absurd ha List.not_mem_nil
  | skipped hc next ih => exact ih
  | alone hc hpick next ih => exact ih
  | @attempt a rest remainingFrontier made hc hfrontier hpick next ih =>
      intro b hb
      rcases List.mem_cons.1 hb with rfl | hb
      · exact fun sid hsid => hsid
      · refine fun sid hsid => ih b hb ?_
        unfold Attempt.nextMatched
        cases a.result <;> simp [hsid]

/-- The sessions of the attempts are those of the pool, and the candidates too. -/
theorem mem_pool (h : SweepRun config queueKey pool matched made) :
    ∀ a ∈ made, a.first ∈ pool ∧ a.second ∈ pool ∧ ∀ c ∈ a.frontier, c ∈ pool := by
  induction h with
  | done => exact fun a ha => absurd ha List.not_mem_nil
  | skipped hc next ih =>
      intro a ha
      obtain ⟨hfirst, hsecond, hfrontier⟩ := ih a ha
      exact ⟨List.mem_cons_of_mem _ hfirst, List.mem_cons_of_mem _ hsecond,
        fun c hc => List.mem_cons_of_mem _ (hfrontier c hc)⟩
  | alone hc hpick next ih =>
      intro a ha
      obtain ⟨hfirst, hsecond, hfrontier⟩ := ih a ha
      exact ⟨List.mem_cons_of_mem _ hfirst, List.mem_cons_of_mem _ hsecond,
        fun c hc => List.mem_cons_of_mem _ (hfrontier c hc)⟩
  | @attempt a rest remainingFrontier made hc hfrontier hpick next ih =>
      rw [hfrontier] at hpick
      have hsub := sublist_of_findCompatiblePartner hpick
      have hpool := (a.nextPool_sublist hpick).subset
      intro b hb
      rcases List.mem_cons.1 hb with rfl | hb
      · refine ⟨List.mem_cons_self, List.mem_cons_of_mem _ (hsub.subset List.mem_cons_self),
          fun c hc => ?_⟩
        rw [hfrontier] at hc
        exact List.mem_cons_of_mem _ (mem_frontier hc).1
      · obtain ⟨hfirst, hsecond, hrest⟩ := ih b hb
        exact ⟨hpool hfirst, hpool hsecond, fun c hc => hpool (hrest c hc)⟩

/-- Among distinct sessions an attempt is between two of them. -/
theorem ne (h : SweepRun config queueKey pool matched made) (hpool : (pool.map Candidate.sid).Nodup) :
    ∀ a ∈ made, a.first.sid ≠ a.second.sid := by
  induction h with
  | done => exact fun a ha => absurd ha List.not_mem_nil
  | skipped hc next ih => exact ih (List.nodup_cons.1 hpool).2
  | alone hc hpick next ih => exact ih (List.nodup_cons.1 hpool).2
  | @attempt a rest remainingFrontier made hc hfrontier hpick next ih =>
      rw [hfrontier] at hpick
      intro b hb
      rcases List.mem_cons.1 hb with rfl | hb
      · have hsecond := (sublist_of_findCompatiblePartner hpick).subset List.mem_cons_self
        exact fun heq => (List.nodup_cons.1 hpool).1 (heq ▸ List.mem_map_of_mem hsecond)
      · exact ih (hpool.sublist ((a.nextPool_sublist hpick).map _)) b hb

/-- The sessions of the successful attempts. -/
def paired (made : List Attempt) : List SessionId :=
  (made.filter (·.result = .ok)).flatMap fun a => [a.first.sid, a.second.sid]

theorem mem_paired {sid : SessionId} (h : sid ∈ paired made) :
    ∃ a ∈ made, sid = a.first.sid ∨ sid = a.second.sid := by
  obtain ⟨a, ha, hsid⟩ := List.mem_flatMap.1 h
  refine ⟨a, (List.mem_filter.1 ha).1, ?_⟩
  simpa using hsid

/-- **No session is in two pairs.** -/
theorem nodup (h : SweepRun config queueKey pool matched made)
    (hpool : (pool.map Candidate.sid).Nodup) : (paired made).Nodup := by
  have hne := h.ne hpool
  induction h with
  | done => exact List.nodup_nil
  | skipped hc next ih => exact ih (List.nodup_cons.1 hpool).2 hne
  | alone hc hpick next ih => exact ih (List.nodup_cons.1 hpool).2 hne
  | @attempt a rest remainingFrontier made hc hfrontier hpick next ih =>
      have hrest := ih (hpool.sublist ((a.nextPool_sublist (hfrontier ▸ hpick)).map _))
        fun b hb => hne b (List.mem_cons_of_mem _ hb)
      by_cases hresult : a.result = .ok
      · -- both sessions are out of the sweep from here on
        have hout : a.nextMatched = a.second.sid :: a.first.sid :: a.matched := by
          rw [Attempt.nextMatched, hresult]
        have hlater : ∀ sid ∈ paired made, sid ≠ a.first.sid ∧ sid ≠ a.second.sid := by
          intro sid hsid
          obtain ⟨b, hb, heq⟩ := mem_paired hsid
          have hmatched := next.matched_subset b hb
          rw [hout] at hmatched
          have hsensible := next.sensible b hb
          have hnot : sid ∉ b.matched := by
            rcases heq with rfl | rfl
            · exact hsensible.first
            · exact hsensible.second
          refine ⟨fun h => hnot (hmatched ?_), fun h => hnot (hmatched ?_)⟩ <;> simp [h]
        have hcons : paired (a :: made) = a.first.sid :: a.second.sid :: paired made := by
          rw [paired, List.filter_cons_of_pos (by simpa using hresult)]
          rfl
        rw [hcons, List.nodup_cons, List.nodup_cons, List.mem_cons, not_or]
        exact ⟨⟨hne a List.mem_cons_self, fun hmem => (hlater _ hmem).1 rfl⟩,
          fun hmem => (hlater _ hmem).2 rfl, hrest⟩
      · rw [paired, List.filter_cons_of_neg (by simpa using hresult)]
        exact hrest

end SweepRun

/-! ### Safety -/

/-- **The safety of a sweep.**  For any pool of distinct sessions, whatever the outcomes of its
attempts, a sweep ends after the attempts of one run; each is between two different sessions of the
pool that are compatible; no session is in two successful ones; and a recent partner is tried only when
no compatible candidate of the frontier is anything else. -/
theorem sweep_safety (config : Config) (queueKey : String) (outcome : ℕ → PairResult)
    (pool : List Candidate) (hpool : (pool.map Candidate.sid).Nodup) :
    ∃ made, SweepRun config queueKey pool [] made ∧
      (∀ fuel, pool.length ≤ fuel →
        (matchFromPool config (tryPair outcome) queueKey fuel pool []).run [] =
          ((), made.map Attempt.record)) ∧
      (∀ i a, made[i]? = some a → a.result = outcome i) ∧
      (∀ a ∈ made, a.first ∈ pool ∧ a.second ∈ pool ∧ a.first.sid ≠ a.second.sid ∧
        compatible config queueKey a.first a.second = true) ∧
      (SweepRun.paired made).Nodup ∧
      ∀ a ∈ made, recentPartner a.first a.second = true →
        ∀ c ∈ a.frontier, compatible config queueKey a.first c = true →
          recentPartner a.first c = true := by
  obtain ⟨made, hmade, hresults, hrun⟩ :=
    exists_sweepRun config queueKey outcome pool.length pool [] [] le_rfl
  refine ⟨made, hmade, fun fuel hfuel => ?_, fun i a h => ?_, fun a ha => ?_, hmade.nodup hpool,
    fun a ha => (hmade.sensible a ha).recent⟩
  · rw [matchFromPool_fuel config (tryPair outcome) queueKey fuel pool.length pool [] hfuel le_rfl,
      hrun, List.nil_append]
  · rw [hresults i a h, List.length_nil, Nat.zero_add]
  · obtain ⟨hfirst, hsecond, -⟩ := hmade.mem_pool a ha
    exact ⟨hfirst, hsecond, hmade.ne hpool a ha, (hmade.sensible a ha).suits⟩

/-- The sweep of the four sessions, of which the second attempt fails. -/
theorem sweep_safety_fourInMusic :
    ∃ made, SweepRun defaultConfig (strictBucketQueueKey defaultConfig "text" 0 "music") fourInMusic
        [] made ∧ (SweepRun.paired made).Nodup := by
  obtain ⟨made, hmade, -, -, -, hnodup, -⟩ := sweep_safety defaultConfig
    (strictBucketQueueKey defaultConfig "text" 0 "music")
    (fun n => if n = 1 then .session1Removed else .ok) fourInMusic (by decide)
  exact ⟨made, hmade, hnodup⟩

end Matchmaker
