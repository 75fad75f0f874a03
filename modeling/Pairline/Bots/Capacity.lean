/-
**The capacity of the bots.**

The counters are meant to bound the workers that run at the same time.  They expire, and the expiry
is set when a counter is made, not when a later run takes a slot of it; a counter can therefore
disappear under a run that is still counted in it.

Main definitions:

* `Bots.Pool`, `Bots.Event`, `Bots.Pool.step` — the counters, the clock and the runs, with their
  reservations, starts, ends and losses;
* `Bots.BotCapacity` — the two bounds, in all schedules whose steps meet a condition;
* `Bots.CountersOutliveRuns` — no counter expires while a run that is counted in it lives.

Main results:

* `Bots.Pool.Counted.step` — the counters keep counting at least the runs while they outlive them;
* `Bots.expired_counter_overbooks` — a counter that expires under a run lets one too many start;
* `Bots.botCapacity_of_countersOutliveRuns` — **otherwise both bounds hold**.
-/

import Mathlib.Data.List.Perm.Basic
import Pairline.Transition
import Pairline.Bots.Slots

set_option relaxedAutoImplicit false
set_option autoImplicit false

namespace Bots

open ExpiringCounter Transition

/-! ### Runs of the bots -/

/-- A run that holds a slot; its worker runs from `startedAt` on. -/
structure BotRun where
  definition : Definition
  startedAt : Option ℕ

/-- The clock in milliseconds, the counters, and the runs that hold a slot. -/
structure Pool where
  now : ℕ
  counters : Counters String
  runs : List BotRun

/-- No run and no counter. -/
def emptyPool : Pool := { now := 0, counters := fun _ => none, runs := [] }

inductive Event
  /-- Time passes, in milliseconds. -/
  | tick (d : ℕ)
  /-- A reservation; its run is lost when the answer of the script does not arrive. -/
  | reserve (definition : Definition) (answered : Bool)
  /-- The worker of a run is started. -/
  | start (i : ℕ)
  /-- A worker terminates, or cannot be started, and the slot of its run is given back. -/
  | release (i : ℕ)
  /-- A worker is killed, or the release of its slot fails. -/
  | lose (i : ℕ)

namespace Pool

/-- Every worker is within the session TTL of its definition at the given time. -/
def WithinSessionTTL (w : Pool) (now : ℕ) : Prop :=
  ∀ run ∈ w.runs, ∀ t ∈ run.startedAt, now ≤ t + sessionTTLMs run.definition

instance (w : Pool) (now : ℕ) : Decidable (w.WithinSessionTTL now) :=
  inferInstanceAs (Decidable (∀ run ∈ w.runs, _))

/-- **One event**, for fixed settings and definitions; no worker outlives its session TTL. -/
def step (settings : Settings) (definitions : List Definition) (w : Pool) :
    Event → Option Pool
  | .tick d =>
      if w.WithinSessionTTL (w.now + d) then
        some { w with now := w.now + d, counters := purge (w.now + d) w.counters }
      else none
  | .reserve definition answered =>
      if definition ∈ definitions then
        match reserveDefinitionSlot w.now definition settings w.counters with
        | (.ok, counters) =>
            some { w with
              counters := counters
              runs := if answered then ⟨definition, none⟩ :: w.runs else w.runs }
        | (_, counters) => some { w with counters := counters }
      else none
  | .start i =>
      match w.runs[i]? with
      | some ⟨definition, none⟩ => some { w with runs := w.runs.set i ⟨definition, some w.now⟩ }
      | _ => none
  | .release i =>
      match w.runs[i]? with
      | some run =>
          some { w with
            counters := releaseDefinitionSlot run.definition w.counters
            runs := w.runs.eraseIdx i }
      | none => none
  | .lose i => if i < w.runs.length then some { w with runs := w.runs.eraseIdx i } else none

/-- The number of running workers. -/
def running (w : Pool) : ℕ := w.runs.countP fun run => run.startedAt.isSome

/-- The number of running workers of a definition. -/
def runningOf (w : Pool) (definition : Definition) : ℕ :=
  w.runs.countP fun run => run.startedAt.isSome && run.definition = definition

end Pool

/-! ### The law -/

/-- **Bot capacity**, in the schedules whose steps meet `ok`. -/
def BotCapacity (settings : Settings) (definitions : List Definition)
    (ok : Pool → Event → Prop) : Prop :=
  ∀ events w, Run (Pool.step settings definitions) ok emptyPool events w →
    w.running ≤ maxConcurrentRuns settings ∧
    ∀ definition ∈ definitions, w.runningOf definition ≤ definitionBotCount definition

/-- The counters a run of the definition is counted in. -/
def slotKeys (definition : Definition) : List String :=
  globalActiveRunKey :: (definitionID definition).toList.map activeRunKey

/-- No counter expires while a run that is counted in it lives. -/
def CountersOutliveRuns (w : Pool) : Event → Prop
  | .tick d => ∀ run ∈ w.runs, ∀ key ∈ slotKeys run.definition,
      ∀ t ∈ expireAt w.counters key, w.now + d < t
  | _ => True

instance (w : Pool) (e : Event) : Decidable (CountersOutliveRuns w e) := by
  cases e <;> unfold CountersOutliveRuns <;> infer_instance

/-! ### The invariant -/

namespace Pool

/-- The number of runs whose definition has the id. -/
def runsOfID (w : Pool) (id : String) : ℕ :=
  w.runs.countP fun run => definitionID run.definition = some id

/-- **The counters count at least the runs, and the runs are within the limits.** -/
structure Counted (settings : Settings) (w : Pool) : Prop where
  global : (w.runs.length : ℤ) ≤ value w.counters globalActiveRunKey
  definition : ∀ id, (w.runsOfID id : ℤ) ≤ value w.counters (activeRunKey id)
  total : (w.runs.length : ℤ) ≤ maxConcurrentRuns settings
  each : ∀ definition, (w.runs.countP (·.definition = definition) : ℤ) ≤
    definitionBotCount definition

theorem counted_emptyPool (settings : Settings) : emptyPool.Counted settings where
  global := le_refl 0
  definition _ := le_refl 0
  total := (maxConcurrentRuns_pos settings).le
  each definition := (definitionBotCount_pos definition).le

/-- Runs that end leave the invariant as it is. -/
theorem Counted.of_sublist {settings : Settings} {w w' : Pool} (h : w.Counted settings)
    (hcounters : w'.counters = w.counters) (hruns : w'.runs.Sublist w.runs) :
    w'.Counted settings where
  global := by
    rw [hcounters]
    exact le_trans (Int.ofNat_le.2 hruns.length_le) h.global
  definition id := by
    rw [hcounters]
    exact le_trans (Int.ofNat_le.2 hruns.countP_le) (h.definition id)
  total := le_trans (Int.ofNat_le.2 hruns.length_le) h.total
  each definition := le_trans (Int.ofNat_le.2 hruns.countP_le) (h.each definition)

theorem Counted.tick {settings : Settings} {w : Pool} (h : w.Counted settings) {d : ℕ}
    (hok : CountersOutliveRuns w (.tick d)) :
    Counted settings { w with now := w.now + d, counters := purge (w.now + d) w.counters } where
  global := by
    cases hruns : w.runs with
    | nil =>
        have hnonneg := le_trans (Int.natCast_nonneg _) h.global
        rcases value_purge_or w.counters (w.now + d) globalActiveRunKey with hp | hp
        · simpa [hp] using hnonneg
        · simp [hp]
    | cons run runs =>
        have hmem : run ∈ w.runs := by simp [hruns]
        rw [value_purge fun t ht => hok run hmem _ List.mem_cons_self t ht, ← hruns]
        exact h.global
  definition id := by
    by_cases hrun : ∃ run ∈ w.runs, definitionID run.definition = some id
    · obtain ⟨run, hmem, hid⟩ := hrun
      have hkey : activeRunKey id ∈ slotKeys run.definition := by simp [slotKeys, hid]
      rw [value_purge fun t ht => hok run hmem _ hkey t ht]
      exact h.definition id
    · have hzero : w.runsOfID id = 0 := by
        refine List.countP_eq_zero.2 fun run hmem hid => hrun ⟨run, hmem, ?_⟩
        simpa using hid
      have hnonneg := le_trans (Int.natCast_nonneg _) (h.definition id)
      change (w.runsOfID id : ℤ) ≤ _
      rcases value_purge_or w.counters (w.now + d) (activeRunKey id) with hp | hp
      · rw [hzero, hp]
        exact hnonneg
      · rw [hzero, hp]
        rfl
  total := h.total
  each := h.each

/-- More in the counters keeps the invariant. -/
theorem Counted.of_le {settings : Settings} {w w' : Pool} (h : w.Counted settings)
    (hcounters : ∀ k, value w.counters k ≤ value w'.counters k) (hruns : w'.runs = w.runs) :
    w'.Counted settings where
  global := by
    rw [hruns]
    exact le_trans h.global (hcounters _)
  definition id := by
    unfold runsOfID
    rw [hruns]
    exact le_trans (h.definition id) (hcounters _)
  total := by
    rw [hruns]
    exact h.total
  each definition := by
    rw [hruns]
    exact h.each definition

/-- **A reserved run is counted**: both counters were below their limits. -/
theorem Counted.cons {settings : Settings} {w w' : Pool} (h : w.Counted settings)
    {definition : Definition} {id : String} (hid : definitionID definition = some id)
    (hglobal : value w.counters globalActiveRunKey < maxConcurrentRuns settings)
    (hdefinition : value w.counters (activeRunKey id) < definitionBotCount definition)
    (hcounters : ∀ k, value w'.counters k =
      if k = activeRunKey id then value w.counters (activeRunKey id) + 1
      else if k = globalActiveRunKey then value w.counters globalActiveRunKey + 1
      else value w.counters k)
    (hruns : w'.runs = ⟨definition, none⟩ :: w.runs) : w'.Counted settings where
  global := by
    have hg := h.global
    rw [hcounters, if_neg (activeRunKey_ne_global id).symm, if_pos rfl, hruns, List.length_cons]
    omega
  definition id' := by
    have hd := h.definition id'
    unfold runsOfID at hd ⊢
    rw [hcounters, hruns]
    by_cases hsame : id' = id
    · subst hsame
      rw [if_pos rfl, List.countP_cons_of_pos (by simpa using hid)]
      omega
    · rw [if_neg fun hk => hsame (activeRunKey_injective hk), if_neg (activeRunKey_ne_global id'),
        List.countP_cons_of_neg (by simpa [hid] using fun hk => hsame hk.symm)]
      exact hd
  total := by
    have hg := h.global
    rw [hruns, List.length_cons]
    omega
  each definition' := by
    rw [hruns]
    by_cases hsame : definition = definition'
    · subst hsame
      -- the runs of the definition are among the runs of its id
      have hle : w.runs.countP (·.definition = definition) ≤ w.runsOfID id := by
        refine List.countP_mono_left fun run _ hrun => ?_
        simp only [decide_eq_true_eq] at hrun ⊢
        rw [hrun, hid]
      have hd := h.definition id
      rw [List.countP_cons_of_pos (by simp)]
      omega
    · rw [List.countP_cons_of_neg (by simpa using hsame)]
      exact h.each definition'

theorem Counted.reserve {settings : Settings} {definitions : List Definition} {w w' : Pool}
    (h : w.Counted settings) {definition : Definition} {answered : Bool}
    (hs : w.step settings definitions (.reserve definition answered) = some w') :
    w'.Counted settings := by
  obtain ⟨-, hs⟩ := Option.ite_none_right_eq_some.1 hs
  cases hid : definitionID definition with
  | none =>
      simp only [reserveDefinitionSlot, hid, Option.some_inj] at hs
      exact h.of_sublist (by rw [← hs]) (by rw [← hs])
  | some id =>
      rcases reserveSlotScript_cases w.now (activeRunKey_ne_global id)
          (maxConcurrentRuns settings) (definitionBotCount definition)
          (slotTTLSeconds definition) w.counters with
        ⟨code, hcode, hscript⟩ | ⟨hglobal, hdefinition, m, hscript, hvalue⟩
      · -- no slot was free: the counters are as before
        have hres : reserveResultOfCount code ≠ .ok := by
          unfold reserveResultOfCount
          rw [if_neg (by omega)]
          split
          · exact fun hk => by cases hk
          · split
            · exact fun hk => by cases hk
            · exact fun hk => by cases hk
        simp only [reserveDefinitionSlot, hid, hscript] at hs
        exact h.of_sublist (by rw [← Option.some_inj.1 hs]) (by rw [← Option.some_inj.1 hs])
      · have hle : ∀ k, value w.counters k ≤ value m k := by
          intro k
          rw [hvalue]
          split
          · subst k; omega
          · split
            · subst k; omega
            · exact le_refl _
        simp only [reserveDefinitionSlot, hid, hscript] at hs
        split at hs
        next heq =>
            obtain rfl : m = _ := congrArg Prod.snd heq
            obtain rfl := Option.some_inj.1 hs
            cases answered with
            | true => exact h.cons hid hglobal hdefinition hvalue rfl
            | false => exact h.of_le hle rfl
        next heq =>
            obtain rfl : m = _ := congrArg Prod.snd heq
            obtain rfl := Option.some_inj.1 hs
            exact h.of_le hle rfl

/-- **A release gives back what its run took.** -/
theorem Counted.release {settings : Settings} {w : Pool} (h : w.Counted settings) {i : ℕ}
    {run : BotRun} (hrun : w.runs[i]? = some run) :
    Counted settings { w with
      counters := releaseDefinitionSlot run.definition w.counters
      runs := w.runs.eraseIdx i } := by
  cases hid : definitionID run.definition with
  | none =>
      refine h.of_sublist ?_ (List.eraseIdx_sublist _ _)
      simp only [releaseDefinitionSlot, hid]
  | some id =>
      obtain ⟨hi, hget⟩ := List.getElem?_eq_some_iff.1 hrun
      have hperm : (run :: w.runs.eraseIdx i).Perm w.runs := by
        rw [← hget]
        exact List.getElem_cons_eraseIdx_perm hi
      have hvalue := value_releaseSlotScript (activeRunKey_ne_global id) w.counters
      refine ⟨?_, fun id' => ?_, ?_, fun definition => ?_⟩
      · have hg := h.global
        have hlen := hperm.length_eq
        simp only [releaseDefinitionSlot, hid]
        rw [hvalue, if_neg (activeRunKey_ne_global id).symm, if_pos rfl]
        rw [List.length_cons] at hlen
        omega
      · have hd := h.definition id'
        have hcount := hperm.countP_eq fun run => definitionID run.definition = some id'
        simp only [releaseDefinitionSlot, hid, runsOfID] at hd ⊢
        rw [hvalue]
        by_cases hsame : id' = id
        · subst hsame
          rw [if_pos rfl]
          rw [List.countP_cons_of_pos (by simpa using hid)] at hcount
          omega
        · rw [if_neg fun hk => hsame (activeRunKey_injective hk),
            if_neg (activeRunKey_ne_global id')]
          rw [List.countP_cons_of_neg (by simpa [hid] using fun hk => hsame hk.symm)] at hcount
          omega
      · exact le_trans (Int.ofNat_le.2 (List.eraseIdx_sublist _ _).length_le) h.total
      · exact le_trans (Int.ofNat_le.2 (List.eraseIdx_sublist _ _).countP_le) (h.each definition)

/-- The invariant reads the definitions of the runs only. -/
theorem Counted.start {settings : Settings} {w : Pool} (h : w.Counted settings) {i : ℕ}
    {definition : Definition} (hrun : w.runs[i]? = some ⟨definition, none⟩) (now : ℕ) :
    Counted settings { w with runs := w.runs.set i ⟨definition, some now⟩ } := by
  obtain ⟨hi, hget⟩ := List.getElem?_eq_some_iff.1 hrun
  have hmap : (w.runs.set i ⟨definition, some now⟩).map BotRun.definition =
      w.runs.map BotRun.definition := by
    rw [List.map_set]
    refine List.ext_getElem? fun j => ?_
    rw [List.getElem?_set]
    split
    next heq =>
        subst heq
        simp [hi, hget]
    next => rfl
  have hcount : ∀ p : Definition → Bool,
      (w.runs.set i ⟨definition, some now⟩).countP (fun run => p run.definition) =
        w.runs.countP fun run => p run.definition := by
    intro p
    have hp := congrArg (List.countP p) hmap
    rwa [List.countP_map, List.countP_map] at hp
  refine ⟨?_, fun id => ?_, ?_, fun definition' => ?_⟩
  · simpa using h.global
  · have hd := h.definition id
    unfold runsOfID at hd ⊢
    rwa [← hcount fun d => definitionID d = some id] at hd
  · simpa using h.total
  · have he := h.each definition'
    rwa [← hcount fun d => d = definition'] at he

/-- **Every step that lets the counters outlive the runs keeps the invariant.** -/
theorem Counted.step {settings : Settings} {definitions : List Definition} {w w' : Pool}
    {e : Event} (h : w.Counted settings) (hok : CountersOutliveRuns w e)
    (hs : w.step settings definitions e = some w') : w'.Counted settings := by
  cases e with
  | tick d =>
      obtain ⟨-, hs⟩ := Option.ite_none_right_eq_some.1 hs
      obtain rfl := Option.some_inj.1 hs
      exact h.tick hok
  | reserve definition answered => exact h.reserve hs
  | start i =>
      simp only [Pool.step] at hs
      split at hs
      next hrun =>
          obtain rfl := Option.some_inj.1 hs
          exact h.start hrun w.now
      next => cases hs
  | release i =>
      simp only [Pool.step] at hs
      split at hs
      next hrun =>
          obtain rfl := Option.some_inj.1 hs
          exact h.release hrun
      next => cases hs
  | lose i =>
      obtain ⟨-, hs⟩ := Option.ite_none_right_eq_some.1 hs
      obtain rfl := Option.some_inj.1 hs
      exact h.of_sublist rfl (List.eraseIdx_sublist _ _)

end Pool

/-! ### The exception and the law -/

/-- Two runs of a definition with two slots: the second outlives the counter that counts it. -/
def overbooking (definition : Definition) : List Event :=
  [.reserve definition true, .start 0, .tick 200000, .reserve definition true, .start 0,
    .tick 100000, .release 1, .tick 60000, .reserve definition true, .start 0,
    .reserve definition true, .start 0]

/-- A definition with two slots and the session TTL of five minutes. -/
def twoSlots : Definition where
  id := some (.string "bot-1")
  botCount := some (.integer 2)
  sessionTTLSeconds := some (.integer 300)

/-- The counter expires six minutes after the first reservation, and three workers run. -/
theorem expired_counter_overbooks :
    ¬ BotCapacity { maxConcurrentRuns := none } [twoSlots] Always := by
  intro h
  have hover : (exec (Pool.step { maxConcurrentRuns := none } [twoSlots]) emptyPool
      (overbooking twoSlots)).any
        (fun w => definitionBotCount twoSlots < w.runningOf twoSlots) = true := by decide +kernel
  obtain ⟨w, hexec, hw⟩ := Option.any_eq_true _ _ |>.1 hover
  have hle := (h (overbooking twoSlots) w (run_of_exec hexec)).2 twoSlots List.mem_cons_self
  simp only [decide_eq_true_eq] at hw
  omega

/-- **When no counter expires under a run that it counts, both bounds hold.** -/
theorem botCapacity_of_countersOutliveRuns (settings : Settings) (definitions : List Definition) :
    BotCapacity settings definitions CountersOutliveRuns := by
  intro events w hrun
  have hcounted : w.Counted settings :=
    hrun.invariant (fun _ _ _ h hok hs => h.step hok hs) (Pool.counted_emptyPool settings)
  constructor
  · have hle : w.running ≤ w.runs.length := List.countP_le_length
    exact le_trans (Int.ofNat_le.2 hle) hcounted.total
  · intro definition _
    have hle : w.runningOf definition ≤ w.runs.countP (·.definition = definition) := by
      refine List.countP_mono_left fun run _ h => ?_
      simp only [Bool.and_eq_true] at h
      exact h.2
    exact le_trans (Int.ofNat_le.2 hle) (hcounted.each definition)

/-- Two runs of a definition, one after the other. -/
def consecutiveRuns (definition : Definition) : List Event :=
  [.reserve definition true, .start 0, .tick 300000, .release 0, .tick 60000,
    .reserve definition true, .start 0]

theorem consecutiveRuns_within_capacity :
    ∃ w, execWhere (Pool.step { maxConcurrentRuns := none } [twoSlots]) CountersOutliveRuns
        emptyPool (consecutiveRuns twoSlots) = some w ∧
      w.running ≤ maxConcurrentRuns { maxConcurrentRuns := none } := by
  have hrun : (execWhere (Pool.step { maxConcurrentRuns := none } [twoSlots]) CountersOutliveRuns
      emptyPool (consecutiveRuns twoSlots)).isSome = true := by decide +kernel
  obtain ⟨w, hw⟩ := Option.isSome_iff_exists.1 hrun
  exact ⟨w, hw, (botCapacity_of_countersOutliveRuns _ _ _ w (run_of_execWhere hw)).1⟩

end Bots
