/-
**The run slots of the bots.**

A bot worker runs while it holds a slot: one in a counter shared by all bots and one in the counter
of its definition.  Two scripts take and give back both at once; the counters expire.

Main definitions:

* `Bots.Definition`, `Bots.Settings` — what the slots read of a bot definition and of the settings;
* `Bots.reserveSlotScript`, `Bots.releaseSlotScript` — the two scripts;
* `Bots.reserveDefinitionSlot`, `Bots.releaseDefinitionSlot` — the functions that run them.

Main results:

* `Bots.reserveSlotScript_cases` — **a reservation takes one slot of each counter, below both
  limits, or none**;
* `Bots.value_releaseSlotScript` — a release gives back one slot of each, but never below zero.
-/

import Mathlib.Data.String.Basic
import Pairline.ExpiringCounter

set_option relaxedAutoImplicit false
set_option autoImplicit false

namespace Bots

open ExpiringCounter

/-! ### Numbers in a definition -/

/-- A value of the decoded snapshot, as far as the number fields look at it. -/
inductive Json
  | integer (n : ℤ)
  | string (s : String)
  | other
  deriving DecidableEq

/-- The digits of a number, most significant first. -/
def digitsToInt (digits : List Char) : ℤ :=
  digits.foldl (fun n c => 10 * n + (c.toNat - '0'.toNat : ℕ)) 0

/-- `Integer.parse`: the number at the start of a string, and the rest. -/
def integerParse (s : String) : Option (ℤ × List Char) :=
  let (sign, cs) : ℤ × List Char :=
    match s.toList with
    | '-' :: cs => (-1, cs)
    | '+' :: cs => (1, cs)
    | cs => (1, cs)
  let digits := cs.takeWhile Char.isDigit
  if digits = [] then none else some (sign * digitsToInt digits, cs.dropWhile Char.isDigit)

/-- A field that must hold a positive integer, or a string that is one. -/
def normalizePositiveInteger (value : Json) (default : ℤ) : ℤ :=
  match value with
  | .integer n => if n > 0 then n else default
  | .string s =>
      match integerParse s with
      | some (parsed, []) => if parsed > 0 then parsed else default
      | _ => default
  | .other => default

theorem normalizePositiveInteger_pos (value : Json) {default : ℤ} (h : 0 < default) :
    0 < normalizePositiveInteger value default := by
  unfold normalizePositiveInteger
  split
  · split <;> omega
  · split
    · split <;> omega
    · exact h
  · exact h

/-- What the slots read of a bot definition; an absent field is `none`. -/
structure Definition where
  id : Option Json
  botCount : Option Json
  sessionTTLSeconds : Option Json
  deriving DecidableEq

/-- What the slots read of the settings. -/
structure Settings where
  maxConcurrentRuns : Option Json

def definitionID (definition : Definition) : Option String :=
  match definition.id with
  | some (.string s) => if s ≠ "" then some s else none
  | _ => none

def definitionBotCount (definition : Definition) : ℤ :=
  normalizePositiveInteger (definition.botCount.getD (.integer 1)) 1

def maxConcurrentRuns (settings : Settings) : ℤ :=
  normalizePositiveInteger (settings.maxConcurrentRuns.getD (.integer 100)) 100

/-- The time to live of a counter, in seconds. -/
def slotTTLSeconds (definition : Definition) : ℤ :=
  let ttl := normalizePositiveInteger (definition.sessionTTLSeconds.getD (.integer 300)) 300
  max (ttl + 60) 120

/-- The time a worker of the definition lives, in milliseconds: `session_ttl_ms` of the workers. -/
def sessionTTLMs (definition : Definition) : ℕ :=
  match definition.sessionTTLSeconds.getD (.integer 300) with
  | .integer n => if n > 0 then n.toNat * 1000 else 300000
  | _ => 300000

theorem definitionBotCount_pos (definition : Definition) : 0 < definitionBotCount definition :=
  normalizePositiveInteger_pos _ Int.one_pos

theorem maxConcurrentRuns_pos (settings : Settings) : 0 < maxConcurrentRuns settings :=
  normalizePositiveInteger_pos _ (by omega)

/-! ### The counters -/

def globalActiveRunKey : String := "bots:active_runs:{bot-active-runs}:global"

def activeRunKeyPrefix : String := "bots:active_runs:{bot-active-runs}:definition:"

def activeRunKey (definitionID : String) : String := activeRunKeyPrefix ++ definitionID

theorem activeRunKey_injective {id id' : String} (h : activeRunKey id = activeRunKey id') :
    id = id' := by
  have hlist := congrArg String.toList h
  simp only [activeRunKey, String.toList_append, List.append_cancel_left_eq] at hlist
  exact String.toList_inj.1 hlist

theorem activeRunKey_ne_global (id : String) : activeRunKey id ≠ globalActiveRunKey := by
  intro h
  have hchar := congrArg (fun s => s.toList[35]?) h
  simp only [activeRunKey, String.toList_append] at hchar
  rw [List.getElem?_append_left (by decide)] at hchar
  exact absurd hchar (by decide)

/-- `INCR`, and `EXPIRE` when the counter was just made. -/
def incrWithExpiry (now : ℕ) (key : String) (ttl : ℤ) (m : Counters String) :
    ℤ × Counters String :=
  let (current, m) := incr m key
  (current, if current = 1 ∧ ttl > 0 then expire m key now (ttl.toNat * 1000) else m)

/-- The script that takes a slot; `-1` when the definition is full, `-2` when all bots are. -/
def reserveSlotScript (now : ℕ) (globalKey definitionKey : String)
    (globalLimit definitionLimit ttl : ℤ) (m : Counters String) : ℤ × Counters String :=
  let globalCurrent := value m globalKey
  let definitionCurrent := value m definitionKey
  if definitionLimit ≤ 0 then (-1, m)
  else if globalLimit ≤ 0 then (-2, m)
  else if definitionCurrent ≥ definitionLimit then (-1, m)
  else if globalCurrent ≥ globalLimit then (-2, m)
  else
    let (globalCurrent, m) := incrWithExpiry now globalKey ttl m
    if globalCurrent > globalLimit then (-2, (decr m globalKey).2)
    else
      let (definitionCurrent, m) := incrWithExpiry now definitionKey ttl m
      if definitionCurrent > definitionLimit then
        (-1, (decr (decr m definitionKey).2 globalKey).2)
      else (definitionCurrent, m)

/-- The script that gives a slot back. -/
def releaseSlotScript (globalKey definitionKey : String) (m : Counters String) :
    ℤ × Counters String :=
  let globalCurrent := value m globalKey
  let definitionCurrent := value m definitionKey
  let m := if globalCurrent ≤ 1 then del m globalKey else (decr m globalKey).2
  if definitionCurrent ≤ 1 then (0, del m definitionKey) else decr m definitionKey

/-- What `reserve_definition_slot` answers. -/
inductive ReserveResult
  | ok
  | definitionFull
  | globalFull
  | missingDefinitionID

/-- The answer for the number the script returned. -/
def reserveResultOfCount (count : ℤ) : ReserveResult :=
  if count > 0 then .ok
  else if count = -1 then .definitionFull
  else if count = -2 then .globalFull
  else .definitionFull

def reserveDefinitionSlot (now : ℕ) (definition : Definition) (settings : Settings)
    (m : Counters String) : ReserveResult × Counters String :=
  match definitionID definition with
  | none => (.missingDefinitionID, m)
  | some id =>
      let (count, m) := reserveSlotScript now globalActiveRunKey (activeRunKey id)
        (maxConcurrentRuns settings) (definitionBotCount definition) (slotTTLSeconds definition) m
      (reserveResultOfCount count, m)

def releaseDefinitionSlot (definition : Definition) (m : Counters String) : Counters String :=
  match definitionID definition with
  | none => m
  | some id => (releaseSlotScript globalActiveRunKey (activeRunKey id) m).2

/-! ### What the scripts do -/

@[simp] theorem incrWithExpiry_fst (now : ℕ) (key : String) (ttl : ℤ) (m : Counters String) :
    (incrWithExpiry now key ttl m).1 = value m key + 1 := rfl

theorem value_incrWithExpiry (now : ℕ) (key k : String) (ttl : ℤ) (m : Counters String) :
    value (incrWithExpiry now key ttl m).2 k = if k = key then value m key + 1 else value m k := by
  simp only [incrWithExpiry]
  split
  · rw [value_expire, value_incr]
  · rw [value_incr]

/-- **A reservation takes one slot of each counter, below both limits, or none.** -/
theorem reserveSlotScript_cases (now : ℕ) {globalKey definitionKey : String}
    (hne : definitionKey ≠ globalKey) (globalLimit definitionLimit ttl : ℤ)
    (m : Counters String) :
    (∃ code, code < 0 ∧
      reserveSlotScript now globalKey definitionKey globalLimit definitionLimit ttl m =
        (code, m)) ∨
    (value m globalKey < globalLimit ∧ value m definitionKey < definitionLimit ∧
      ∃ m', reserveSlotScript now globalKey definitionKey globalLimit definitionLimit ttl m =
          (value m definitionKey + 1, m') ∧
        ∀ k, value m' k =
          if k = definitionKey then value m definitionKey + 1
          else if k = globalKey then value m globalKey + 1 else value m k) := by
  by_cases hd : definitionLimit ≤ 0
  · exact .inl ⟨-1, by omega, by simp only [reserveSlotScript, if_pos hd]⟩
  by_cases hg : globalLimit ≤ 0
  · exact .inl ⟨-2, by omega, by simp only [reserveSlotScript, if_neg hd, if_pos hg]⟩
  by_cases hdc : value m definitionKey ≥ definitionLimit
  · exact .inl ⟨-1, by omega, by
      simp only [reserveSlotScript, if_neg hd, if_neg hg, if_pos hdc]⟩
  by_cases hgc : value m globalKey ≥ globalLimit
  · exact .inl ⟨-2, by omega, by
      simp only [reserveSlotScript, if_neg hd, if_neg hg, if_neg hdc, if_pos hgc]⟩
  -- both counters are below their limits, so the checks after `INCR` pass
  have hglobal : ¬ value m globalKey + 1 > globalLimit := by omega
  have hdefinition :
      value (incrWithExpiry now globalKey ttl m).2 definitionKey = value m definitionKey := by
    rw [value_incrWithExpiry, if_neg hne]
  have hdefinition' : ¬ value m definitionKey + 1 > definitionLimit := by omega
  refine .inr ⟨by omega, by omega,
    (incrWithExpiry now definitionKey ttl (incrWithExpiry now globalKey ttl m).2).2, ?_, ?_⟩
  · simp only [reserveSlotScript, if_neg hd, if_neg hg, if_neg hdc, if_neg hgc,
      incrWithExpiry_fst, if_neg hglobal, hdefinition, if_neg hdefinition']
  · intro k
    rw [value_incrWithExpiry, value_incrWithExpiry, value_incrWithExpiry, if_neg hne]

/-- **A release gives back one slot of each counter, but never below zero.** -/
theorem value_releaseSlotScript {globalKey definitionKey : String}
    (hne : definitionKey ≠ globalKey) (m : Counters String) (k : String) :
    value (releaseSlotScript globalKey definitionKey m).2 k =
      if k = definitionKey then max (value m definitionKey - 1) 0
      else if k = globalKey then max (value m globalKey - 1) 0 else value m k := by
  have hglobal : ∀ k, value (if value m globalKey ≤ 1 then del m globalKey
      else (decr m globalKey).2) k =
        if k = globalKey then max (value m globalKey - 1) 0 else value m k := by
    intro k
    by_cases hone : value m globalKey ≤ 1
    · rw [if_pos hone, value_del, max_eq_right (by omega)]
    · rw [if_neg hone, value_decr, max_eq_left (by omega)]
  simp only [releaseSlotScript]
  by_cases hone : value m definitionKey ≤ 1
  · rw [if_pos hone, value_del, hglobal, max_eq_right (a := value m definitionKey - 1) (by omega)]
  · rw [if_neg hone, value_decr, hglobal, hglobal, if_neg hne,
      max_eq_left (a := value m definitionKey - 1) (by omega)]

end Bots
