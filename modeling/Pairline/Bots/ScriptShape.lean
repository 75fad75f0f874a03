/-
**The shapes of a script that its worker can bear.**

The server takes any JSON for a script.  The worker looks members up in it, and takes some of them for
texts and some for lists.  Most of what it finds in another shape it passes over, but a script that is
no object, and a last message that is no text, make a handler raise.

Main definitions:

* `Bots.ScriptWorker.defaultJSONObject`, `Bots.ScriptWorker.readScript` — the script that is stored,
  and what the worker finds in it;
* `Bots.ScriptWorker.raises` — an event at which a handler raises;
* `Bots.ScriptWorker.Fits` — **the script has the shape that the event needs**;
* `Bots.ScriptWorker.NeverRaises`, `Bots.ScriptWorker.AlwaysFits` — all along a sequence of events.

Main results:

* `Bots.ScriptWorker.enqueueUserReply_isNone_iff` — when a user message cannot be answered;
* `Bots.ScriptWorker.raises_iff` — **a handler raises exactly when the script does not fit**;
* `Bots.ScriptWorker.neverRaises_iff` — the same of sequences of events;
* `Bots.ScriptWorker.numberedClosing_raises` — a last message that is a number.
-/

import Pairline.Bots.AITransport
import Pairline.Bots.ScriptWorker

set_option relaxedAutoImplicit false
set_option autoImplicit false

namespace Bots.ScriptWorker

open Documents
open Members (get)
open Transition
open Whitespace (trim trim_trim)

/-! ### The script that is stored -/

/-- What is stored of a script. -/
def defaultJSONObject : Option Document → Document
  | none => .object []
  | some .null => .object []
  | some raw => raw

/-- The text of a document, if it is one. -/
def textOf : Document → Option String
  | .string s => some s
  | _ => none

def readField : Document → Field
  | .null => .null
  | .bool false => .no
  | .string s => .text s
  | _ => .other

def readList : Document → MessageList
  | .array values => some (values.map textOf)
  | _ => none

def readTrigger : Document → Trigger
  | .object members =>
      match get members "regex", get members "reply" with
      | some (.string regex), some (.string reply) => some (regex, reply)
      | _, _ => none
  | _ => none

/-- **What the worker finds in a script**; nothing in one that is no map. -/
def readScript : Document → Option Script
  | .object members =>
      some
        { openingMessages := readList ((get members "opening_messages").getD (.array []))
          replyMessages := readList ((get members "reply_messages").getD (.array []))
          closingMessage := readField ((get members "closing_message").getD .null)
          fallbackMessage := readField ((get members "fallback_message").getD .null)
          triggers :=
            match get members "triggers" with
            | some (.array triggers) => some (triggers.map readTrigger)
            | _ => none }
  | _ => none

/-- The definition of a script bot. -/
def scriptDefinition (messageLimit : Option Json) (raw : Option Document) : Definition where
  messageLimit := messageLimit
  script := readScript (defaultJSONObject raw)

/-! ### Raising -/

section Raising

variable (regexMatch : String → String → Bool)

/-- **A handler raises at the event.** -/
def raises (state : State) : Event → Bool
  | .sendOpeningMessage => ((openingMessage state.definition).bind (enqueueReply state)).isNone
  | .routerMessage sender generation data =>
      if sender ≠ state.humanSessionID ∨ generation ≠ state.matchGeneration then false
      else (enqueueUserReply regexMatch state data.content).isNone
  | _ => false

/-- A worker whose handler raises makes no further step. -/
theorem step_of_raises {state : State} {e : Event} (h : raises regexMatch state e = true) :
    step regexMatch state e = none := by
  cases e with
  | sendOpeningMessage => exact Option.isNone_iff_eq_none.1 h
  | routerMessage sender generation data =>
      simp only [raises] at h
      split at h
      · cases h
      · next hpartner =>
          rw [step, if_neg hpartner]
          exact Option.isNone_iff_eq_none.1 h
  | _ => cases h

/-- **No handler raises**, whatever events come one after the other. -/
def NeverRaises (definition : Definition) (humanSessionID botSessionID : String)
    (events : List Event) : Prop :=
  ∀ handled e state, handled ++ [e] <+: events →
    Run (step regexMatch) Always (init humanSessionID botSessionID definition) handled state →
      raises regexMatch state e = false

/-- The last message of a bot. -/
def lastMessage (members : Object) : Document :=
  orElse ((get members "closing_message").getD .null) ((get members "fallback_message").getD .null)

/-- A text, or nothing. -/
def IsReply : Document → Prop
  | .null => True
  | .string _ => True
  | _ => False

/-- A user message is to be answered. -/
def Answers (state : State) (sender : String) (generation : Option String) (data : MessageData) :
    Prop :=
  sender = state.humanSessionID ∧ generation = state.matchGeneration ∧ trim data.content ≠ "" ∧
    replySlotsReserved state < state.maxMessages

/-- **The script has the shape that the event needs**: it is an object, and its last message is a text
or nothing when the answer to a user message is the last. -/
def Fits (script : Document) (state : State) : Event → Prop
  | .sendOpeningMessage => ∃ members, script = .object members
  | .routerMessage sender generation data => Answers state sender generation data →
      ∃ members, script = .object members ∧
        (replySlotsReserved state + 1 = state.maxMessages → IsReply (lastMessage members))
  | _ => True

/-- The script fits all along a sequence of events. -/
def AlwaysFits (definition : Definition) (script : Document) (humanSessionID botSessionID : String)
    (events : List Event) : Prop :=
  ∀ handled e state, handled ++ [e] <+: events →
    Run (step regexMatch) Always (init humanSessionID botSessionID definition) handled state →
      Fits script state e

end Raising

/-! ### The worker keeps its definition -/

section Kept

variable {regexMatch : String → String → Bool} {state state' : State}

@[simp] theorem definition_maybeStartNextDelivery :
    (maybeStartNextDelivery state).definition = state.definition := by
  unfold maybeStartNextDelivery
  split
  · rfl
  · split <;> rfl

theorem definition_enqueueReply {field : Field} (h : enqueueReply state field = some state') :
    state'.definition = state.definition := by
  cases field with
  | null =>
      cases h
      rfl
  | text content =>
      simp only [enqueueReply] at h
      split at h
      · cases h
        rfl
      · split at h
        · cases h
          rfl
        · cases h
          simp
  | no => cases h
  | other => cases h

theorem definition_step {e : Event} (h : step regexMatch state e = some state') :
    state'.definition = state.definition := by
  cases e with
  | routerMatch partner generation partnerIsBot =>
      cases partnerIsBot with
      | true => cases h
      | false =>
          cases h
          rfl
  | sendOpeningMessage =>
      obtain ⟨field, -, hfield⟩ := Option.bind_eq_some_iff.1 h
      exact definition_enqueueReply hfield
  | routerMessage sender generation data =>
      simp only [step] at h
      split at h
      · cases h
        rfl
      · simp only [enqueueUserReply] at h
        split at h
        · cases h
          rfl
        · split at h
          · cases h
            rfl
          · obtain ⟨field, -, hfield⟩ := Option.bind_eq_some_iff.1 h
            exact definition_enqueueReply hfield
  | deliverMessage timer =>
      obtain ⟨pending, -, rfl⟩ := Option.map_eq_some_iff.1 h
      rw [handleDeliverMessage, definition_maybeStartNextDelivery]
      rfl
  | other =>
      cases h
      rfl
  | _ => cases h

/-- What is known of every state of a worker. -/
theorem known_of_run {definition : Definition} {humanSessionID botSessionID : String}
    {handled : List Event}
    (h : Run (step regexMatch) Always (init humanSessionID botSessionID definition) handled state) :
    state.definition = definition ∧ state.maxMessages = maxMessages definition := by
  constructor
  · refine h.invariant (I := fun s => s.definition = definition) ?_ rfl
    intro s a t hs _ hstep
    exact (definition_step hstep).trans hs
  · exact (h.invariant (I := Inv definition) (fun _ _ _ hs _ => inv_step hs) (inv_init _ _ _)).limit

end Kept

/-! ### When a handler raises -/

section Shapes

variable {regexMatch : String → String → Bool} {state : State}

/-- A reply that is neither a text nor nothing cannot be queued. -/
theorem enqueueReply_isNone_iff {field : Field} :
    (enqueueReply state field).isNone = true ↔ field = .no ∨ field = .other := by
  cases field with
  | null => simp [enqueueReply]
  | text content =>
      simp only [enqueueReply]
      split
      · simp
      · split <;> simp
  | no => simp [enqueueReply]
  | other => simp [enqueueReply]

theorem nextFromList_ne (messages : MessageList) (index : ℕ) :
    nextFromList messages index ≠ .no ∧ nextFromList messages index ≠ .other := by
  unfold nextFromList
  cases messages with
  | none => simp
  | some items =>
      simp only
      cases (items.filterMap id)[index % (items.filterMap id).length]? <;> simp [Field.ofText]

theorem firstOrNil_ne (messages : MessageList) :
    firstOrNil messages ≠ .no ∧ firstOrNil messages ≠ .other := by
  unfold firstOrNil
  split <;> simp

/-- The last message, as the worker reads it, can be queued when it is a text or nothing. -/
theorem orElse_readField_iff (closing fallback : Document) :
    ((readField closing).orElse (readField fallback) = .no ∨
        (readField closing).orElse (readField fallback) = .other) ↔
      ¬IsReply (orElse closing fallback) := by
  have hread (value : Document) :
      (readField value = .no ∨ readField value = .other) ↔ ¬IsReply value := by
    match value with
    | .null => simp [readField, IsReply]
    | .bool true => simp [readField, IsReply]
    | .bool false => simp [readField, IsReply]
    | .integer _ => simp [readField, IsReply]
    | .decimal _ => simp [readField, IsReply]
    | .string _ => simp [readField, IsReply]
    | .array _ => simp [readField, IsReply]
    | .object _ => simp [readField, IsReply]
  match closing with
  | .null => exact hread fallback
  | .bool false => exact hread fallback
  | .bool true => exact hread (.bool true)
  | .integer n => exact hread (.integer n)
  | .decimal d => exact hread (.decimal d)
  | .string s => exact hread (.string s)
  | .array values => exact hread (.array values)
  | .object members => exact hread (.object members)

/-- **When a user message cannot be answered.** -/
theorem enqueueUserReply_isNone_iff {messageLimit : Option Json} {raw : Option Document}
    (hdefinition : state.definition = scriptDefinition messageLimit raw)
    (hmax : state.maxMessages = maxMessages state.definition) {content : String} :
    (enqueueUserReply regexMatch state content).isNone = true ↔
      trim content ≠ "" ∧ replySlotsReserved state < state.maxMessages ∧
        ∀ members, defaultJSONObject raw = .object members →
          replySlotsReserved state + 1 = state.maxMessages ∧ ¬IsReply (lastMessage members) := by
  simp only [enqueueUserReply]
  by_cases hblank : trim content = ""
  · simp [hblank]
  by_cases hfull : replySlotsReserved state ≥ state.maxMessages
  · simp [hblank, hfull]
  rw [if_neg hblank, if_neg hfull]
  have hslots : replySlotsReserved state < state.maxMessages := Nat.lt_of_not_le hfull
  cases hscript : defaultJSONObject raw with
  | object members =>
      have hread : state.definition.script = readScript (.object members) := by
        rw [hdefinition, scriptDefinition, hscript]
      rw [nextReply, hread, readScript, Option.map_some, Option.bind_some, ← hmax,
        enqueueReply_isNone_iff]
      by_cases hlast : replySlotsReserved state + 1 ≥ state.maxMessages
      · -- the last slot is taken by the closing message
        have heq : replySlotsReserved state + 1 = state.maxMessages := by omega
        rw [if_pos hlast]
        dsimp only
        rw [orElse_readField_iff]
        simp [hblank, hslots, heq, lastMessage]
      · have hne : replySlotsReserved state + 1 ≠ state.maxMessages := by omega
        have hnotBlank : ¬trim (trim content) = "" := by rwa [trim_trim]
        rw [if_neg hlast, if_neg hnotBlank]
        simp only [Document.object.injEq, forall_eq', hne, false_and, and_false, iff_false]
        split
        · rw [not_or]
          exact nextFromList_ne _ _
        · simp
  | _ =>
      have hread : state.definition.script = none := by
        rw [hdefinition, scriptDefinition, hscript]
        rfl
      rw [nextReply, hread]
      simp [hblank, hslots]

/-- **A handler raises exactly when the script does not fit.** -/
theorem raises_iff {messageLimit : Option Json} {raw : Option Document}
    (hdefinition : state.definition = scriptDefinition messageLimit raw)
    (hmax : state.maxMessages = maxMessages state.definition) (e : Event) :
    raises regexMatch state e = false ↔ Fits (defaultJSONObject raw) state e := by
  cases e with
  | sendOpeningMessage =>
      simp only [raises, Fits, openingMessage]
      cases hscript : defaultJSONObject raw with
      | object members =>
          have hread : state.definition.script = readScript (.object members) := by
            rw [hdefinition, scriptDefinition, hscript]
          rw [hread, readScript, Option.map_some, Option.bind_some, Bool.eq_false_iff, ne_eq,
            enqueueReply_isNone_iff, not_or]
          exact iff_of_true (firstOrNil_ne _) ⟨members, rfl⟩
      | _ =>
          have hread : state.definition.script = none := by
            rw [hdefinition, scriptDefinition, hscript]
            rfl
          rw [hread]
          simp
  | routerMessage sender generation data =>
      simp only [raises, Fits, Answers]
      split
      · next hpartner =>
          refine iff_of_true rfl ?_
          rintro ⟨hsender, hgeneration, -⟩
          rcases hpartner with hne | hne
          · exact absurd hsender hne
          · exact absurd hgeneration hne
      · next hpartner =>
          rw [not_or, not_ne_iff, not_ne_iff] at hpartner
          rw [Bool.eq_false_iff, ne_eq, enqueueUserReply_isNone_iff hdefinition hmax]
          constructor
          · rintro hraises ⟨-, -, hblank, hslots⟩
            by_contra hnone
            refine hraises ⟨hblank, hslots, fun members hmembers => ?_⟩
            by_contra hfit
            refine hnone ⟨members, hmembers, fun hlast => ?_⟩
            by_contra hreply
            exact hfit ⟨hlast, hreply⟩
          · rintro hfits ⟨hblank, hslots, hraises⟩
            obtain ⟨members, hmembers, hreply⟩ :=
              hfits ⟨hpartner.1, hpartner.2, hblank, hslots⟩
            obtain ⟨hlast, hnot⟩ := hraises members hmembers
            exact hnot (hreply hlast)
  | _ => exact iff_of_true rfl trivial

/-- **No handler raises exactly when the script fits all along.** -/
theorem neverRaises_iff (messageLimit : Option Json) (raw : Option Document)
    (humanSessionID botSessionID : String) (events : List Event) :
    NeverRaises regexMatch (scriptDefinition messageLimit raw) humanSessionID botSessionID events ↔
      AlwaysFits regexMatch (scriptDefinition messageLimit raw) (defaultJSONObject raw) humanSessionID
        botSessionID events := by
  refine forall₃_congr fun handled e state => forall₂_congr fun _ hrun => ?_
  obtain ⟨hdefinition, hmax⟩ := known_of_run hrun
  exact raises_iff hdefinition (by rw [hmax, hdefinition]) e

end Shapes

/-- A script whose last message is a number. -/
def numberedClosing : Document := .object [("closing_message", .integer 5)]

/-- The partner arrives, and writes. -/
def oneMessage : List Event :=
  [.routerMatch "human" (some "g") false, .routerMessage "human" (some "g") ⟨some "hi", none⟩]

/-- **A last message that is a number makes a handler raise**, when the bot is to answer once. -/
theorem numberedClosing_raises :
    ¬∀ regexMatch messageLimit raw humanSessionID botSessionID events,
      NeverRaises regexMatch (scriptDefinition messageLimit raw) humanSessionID botSessionID
        events := by
  intro h
  have hnever := h (fun _ _ => false) (some (.integer 1)) (some numberedClosing) "human" "bot"
    oneMessage [.routerMatch "human" (some "g") false]
    (.routerMessage "human" (some "g") ⟨some "hi", none⟩)
  obtain ⟨state, hrun, hstate⟩ : ∃ state, Run (step fun _ _ => false) Always
      (init "human" "bot" (scriptDefinition (some (.integer 1)) (some numberedClosing)))
        [.routerMatch "human" (some "g") false] state ∧
      decide (raises (fun _ _ => false) state
        (.routerMessage "human" (some "g") ⟨some "hi", none⟩) = true) = true :=
    exists_run_of_execWhere (by decide +kernel)
  have hfalse := hnever state ⟨[], rfl⟩ hrun
  rw [of_decide_eq_true hstate] at hfalse
  cases hfalse

end Bots.ScriptWorker
